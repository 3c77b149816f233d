import Ggid.Policy.Decision

/-!
# Policy engine — dropping request attributes

A conditional deny policy is meant to fail closed: a request must not slip past
it by leaving out the attributes its conditions look at. The evaluator does this
for a request that sends *no* attributes (`abacStep`, the branch marked
fail-closed). Here every other way of leaving attributes out is accounted for.

Removing attributes is `restrict keep`. As long as one attribute is left, a
policy matches the reduced request exactly when it matched the full one and all
the attributes it names were kept (`denies_reduced_iff`, `allows_reduced_iff`).

* `conditional_deny_survives_iff` — when a request refused by a conditional deny
  stays refused after some of its attributes are dropped;
* `conditional_deny_dropped`      — a request that gets through by dropping one.
-/

namespace Ggid.Policy

open Ggid.Go Ggid.Lib

/-- The request with only the attributes in `keep`. -/
def CheckRequest.reduce (req : CheckRequest) (keep : String → Bool) : CheckRequest :=
  { req with conditions := restrict keep req.conditions }

/-- Every attribute the policy's conditions name is kept. -/
def Keeps (keep : String → Bool) (p : Policy) : Prop :=
  ∀ attr ∈ conditionAttrs p.conditions, keep attr = true

/-- The evaluation reaches the policies and a conditional deny matches. -/
def DeniedByConditional (std : Stdlib) (db : Database) (now : Time) (req : CheckRequest) : Prop :=
  Admitted db now req ∧ ∃ p ∈ Applicable db now req, p.conditions ≠ [] ∧ Denies std req p

section

variable {std : Stdlib} {db : Database} {now : Time} {req : CheckRequest} {keep : String → Bool}

theorem targets_reduce (p : Policy) : targets (req.reduce keep) p = targets req p := rfl

theorem admitted_reduce : Admitted db now (req.reduce keep) ↔ Admitted db now req := Iff.rfl

theorem rbacGrants_reduce : RbacGrants db now (req.reduce keep) ↔ RbacGrants db now req := Iff.rfl

theorem applicable_reduce : Applicable db now (req.reduce keep) = Applicable db now req := rfl

/-- With some attribute left, a deny policy matches what is left exactly when it
matched everything and lost no attribute. -/
theorem denies_reduced_iff (hleft : restrict keep req.conditions ≠ []) {p : Policy} :
    Denies std (req.reduce keep) p ↔ Denies std req p ∧ Keeps keep p := by
  have hfull : req.conditions ≠ [] := by
    intro h
    apply hleft
    rw [h, restrict, List.filter_nil]
  have hmatch := matchConditions_restrict std p.conditions hleft
  unfold Denies
  rw [targets_reduce]
  show _ ∧ _ ∧ (restrict keep req.conditions = [] ∨ _) ↔ _
  simp only [CheckRequest.reduce, hleft, hfull, false_or, hmatch, Keeps, and_assoc]

theorem allows_reduced_iff (hleft : restrict keep req.conditions ≠ []) {p : Policy} :
    Allows std (req.reduce keep) p ↔ Allows std req p ∧ Keeps keep p := by
  have hmatch := matchConditions_restrict std p.conditions hleft
  unfold Allows
  rw [targets_reduce]
  simp only [CheckRequest.reduce, hmatch, Keeps, and_assoc]

/-- Without any attribute every targeted deny policy matches. -/
theorem Denies.of_none_left (hnone : restrict keep req.conditions = []) {p : Policy}
    (h : Denies std req p) : Denies std (req.reduce keep) p :=
  ⟨h.1, h.2.1, Or.inl hnone⟩

theorem DeniedByConditional.refused (h : DeniedByConditional std db now req) :
    ¬ ReferenceAllows std db now req := by
  obtain ⟨_, p, happ, _, hdeny⟩ := h
  intro ⟨_, hgranted⟩
  exact hgranted.1 p happ hdeny

/-- When the reference decision still refuses the reduced request. -/
theorem not_referenceAllows_reduce_iff (hdenied : DeniedByConditional std db now req) :
    ¬ ReferenceAllows std db now (req.reduce keep) ↔
      restrict keep req.conditions = [] ∨
      (∃ p ∈ Applicable db now req, Denies std req p ∧ Keeps keep p) ∨
      ¬ (RbacGrants db now req ∨ ∃ p ∈ Applicable db now req, Allows std req p ∧ Keeps keep p) := by
  obtain ⟨hadm, q, hqapp, -, hqdeny⟩ := hdenied
  by_cases hleft : restrict keep req.conditions = []
  · refine ⟨fun _ => Or.inl hleft, fun _ ⟨_, hgranted⟩ => ?_⟩
    exact hgranted.1 q hqapp (hqdeny.of_none_left hleft)
  · -- deny-overrides over the policies that lost no attribute
    have href : ReferenceAllows std db now (req.reduce keep) ↔
        (∀ p ∈ Applicable db now req, ¬ (Denies std req p ∧ Keeps keep p)) ∧
        (RbacGrants db now req ∨ ∃ p ∈ Applicable db now req, Allows std req p ∧ Keeps keep p) := by
      unfold ReferenceAllows Granted
      rw [admitted_reduce, rbacGrants_reduce, applicable_reduce]
      simp only [denies_reduced_iff hleft, allows_reduced_iff hleft, hadm, true_and]
    rw [href, not_and_or]
    simp only [hleft, false_or, not_forall, not_not, exists_prop]

end

/-- **Dropping attributes from a refused request.** A request refused by a
conditional deny stays refused exactly when nothing is left of its attributes,
or a matching deny policy keeps every attribute it names, or nothing grants the
reduced request in the first place. -/
theorem conditional_deny_survives_iff (std : Stdlib) (db : Database) (now : Time)
    (req : CheckRequest) (keep : String → Bool) {e : Evaluator} (he : e.ReadsFrom db)
    (hdenied : DeniedByConditional std db now req) :
    (∃ res, e.check std now req = .ok res ∧ res.allowed = false) ∧
    ((∃ res, e.check std now (req.reduce keep) = .ok res ∧ res.allowed = false) ↔
      restrict keep req.conditions = [] ∨
      (∃ p ∈ Applicable db now req, Denies std req p ∧ Keeps keep p) ∨
      ¬ (RbacGrants db now req ∨
        ∃ p ∈ Applicable db now req, Allows std req p ∧ Keeps keep p)) := by
  -- `Check` answers, and refuses exactly when the reference decision does
  have hrefuse : ∀ r : CheckRequest, (∃ res, e.check std now r = .ok res ∧ res.allowed = false) ↔
      ¬ ReferenceAllows std db now r := by
    intro r
    obtain ⟨res, hres, hspec⟩ := check_spec std he now r
    rw [← hspec, Bool.not_eq_true]
    refine ⟨fun ⟨res', hres', hfalse⟩ => ?_, fun hfalse => ⟨res, hres, hfalse⟩⟩
    rw [hres, Except.ok.injEq] at hres'
    rw [hres']
    exact hfalse
  rw [hrefuse, hrefuse, not_referenceAllows_reduce_iff hdenied]
  exact ⟨hdenied.refused, Iff.rfl⟩

-- ---------------------------------------------------------------------------
-- A bypass
-- ---------------------------------------------------------------------------

namespace Sample

/-- Contractors may not read documents. -/
def noContractors : Policy where
  id          := 30#128
  tenantID    := tenant
  name        := "no-contractors"
  description := ""
  effect      := .deny
  actions     := ["read"]
  resources   := []
  conditions  := [("StringEquals", .map [("employment", .string "contractor")])]
  priority    := 100
  createdAt   := 0

def guardedStore : Database := { store with policies := ⟨[noContractors], by decide⟩ }

def contractorRequest : CheckRequest :=
  { request with
    conditions := [("employment", .string "contractor"), ("device", .string "laptop")] }

/-- Everything but the attribute the deny policy looks at. -/
def withoutEmployment (attr : String) : Bool := attr ≠ "employment"

theorem denied_contractor : DeniedByConditional stdlib guardedStore 0 contractorRequest := by
  have hassigned : Assigned guardedStore 0 user tenant reader.id := by
    refine ⟨assignment, by simp [Table.mem_def, guardedStore, store], rfl, rfl, rfl, reader, ?_,
      rfl, Or.inl rfl⟩
    simp [Table.mem_def, guardedStore, store]
  have hglobal : TenantGlobal guardedStore tenant noContractors :=
    ⟨rfl, by simp [Table.mem_def, guardedStore, store, Database.empty, Table.empty]⟩
  refine ⟨⟨by decide, by decide, reader.id, hassigned⟩, noContractors, ?_, ?_, ?_⟩
  · exact ⟨by simp [Table.mem_def, guardedStore], Or.inr hglobal⟩
  · simp [noContractors]
  · exact ⟨rfl, by decide, Or.inr (by decide)⟩

end Sample

theorem conditional_deny_survives_all_kept :
    (∃ res, (Evaluator.pg Sample.guardedStore).check Sample.stdlib 0
        (Sample.contractorRequest.reduce fun attr => attr = "employment") = .ok res ∧
      res.allowed = false) := by
  have hiff := (conditional_deny_survives_iff Sample.stdlib Sample.guardedStore 0
    Sample.contractorRequest (fun attr => attr = "employment")
    (Evaluator.pg_readsFrom Sample.guardedStore) Sample.denied_contractor).2
  obtain ⟨_, p, happ, -, hdeny⟩ := Sample.denied_contractor
  have hp : p = Sample.noContractors := by
    simpa [Table.mem_def, Sample.guardedStore] using (mem_applicable.mp happ).1
  refine hiff.mpr (Or.inr (Or.inl ⟨p, happ, hdeny, ?_⟩))
  rw [hp]
  unfold Keeps
  decide

/-- The contractor is refused; without the `employment` attribute, and with the
other attribute still sent, the same request is allowed. -/
theorem conditional_deny_dropped :
    DeniedByConditional Sample.stdlib Sample.guardedStore 0 Sample.contractorRequest ∧
      (Evaluator.pg Sample.guardedStore).check Sample.stdlib 0 Sample.contractorRequest =
        .ok ⟨false, "explicitly denied by policy:no-contractors", "policy:no-contractors"⟩ ∧
      (Evaluator.pg Sample.guardedStore).check Sample.stdlib 0
          (Sample.contractorRequest.reduce Sample.withoutEmployment) =
        .ok ⟨true, "allowed by RBAC role permission", "rbac"⟩ := by
  exact ⟨Sample.denied_contractor, by rfl, by rfl⟩

end Ggid.Policy
