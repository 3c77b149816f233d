import Ggid.Policy.Decision

/-!
# Policy engine — tenant isolation of decisions

What a tenant owns of a store is its *view*: its roles and the system roles with
their grants, its permissions and the system permissions, the assignments scoped
to it, its policies and their attachments. Isolation of decisions asks that two
stores with the same view answer the tenant's requests alike, or, what amounts
to the same, that a store answers like the tenant's view of it.

The queries behind `Check` return everything in the view
(`applicable_of_view` and its companions), but not only that: attached policies
are not filtered by owner, assignments not by scope, and the ancestor chain may
leave the tenant. `Unaffected` says exactly when the surplus does not show.

* `tenant_isolation`       — the decision is the view's decision if and only if
  the request is unaffected, and unaffected requests are decided alike in all
  stores with the same view;
* `tenant_isolation_fails` — two stores with one view and different decisions.
-/

namespace Ggid.Policy

open Ggid.Go Ggid.Lib Relation

/-- A role every query of the tenant may see. -/
def roleVisible (tenantID : UUID) (r : Role) : Bool := r.tenantID = tenantID || r.systemRole

/-- The rows of a store that belong to the tenant, with the shared system rows. -/
def Database.view (db : Database) (tenantID : UUID) : Database where
  roles := db.roles.filter (roleVisible tenantID)
  permissions := db.permissions.filter fun p => p.tenantID = tenantID || p.systemPerm
  rolePermissions := db.rolePermissions.filter fun rp =>
    (db.roles.find? rp.roleID).any (roleVisible tenantID)
  userRoles := db.userRoles.filter fun ur => ur.scopeID = tenantID
  policies := db.policies.filter fun p => p.tenantID = tenantID
  policyAttachments := db.policyAttachments.filter fun a =>
    (db.policies.find? a.policyID).any fun p => p.tenantID = tenantID

/-- Two stores agree on what the tenant owns. -/
def Database.AgreeOn (tenantID : UUID) (db db' : Database) : Prop :=
  (db.view tenantID).Reordered (db'.view tenantID)

-- ---------------------------------------------------------------------------
-- What a request finds
-- ---------------------------------------------------------------------------

/-- Some applicable deny policy matches. -/
def SomeDeny (std : Stdlib) (db : Database) (now : Time) (req : CheckRequest) : Prop :=
  ∃ p ∈ Applicable db now req, Denies std req p

/-- Some permission or some applicable allow policy matches. -/
def SomeGrant (std : Stdlib) (db : Database) (now : Time) (req : CheckRequest) : Prop :=
  RbacGrants db now req ∨ ∃ p ∈ Applicable db now req, Allows std req p

theorem referenceAllows_iff {std : Stdlib} {db : Database} {now : Time} {req : CheckRequest} :
    ReferenceAllows std db now req ↔
      Admitted db now req ∧ ¬ SomeDeny std db now req ∧ SomeGrant std db now req := by
  simp only [ReferenceAllows, Granted, SomeDeny, SomeGrant, not_exists, not_and]

/-- The rows of other tenants leave the request's decision alone: the tenant's
own rows deny it; or foreign rows deny what the own rows do not grant anyway; or
nothing denies it and an assignment and a grant, if there are any at all, are
among the own rows already. -/
def Unaffected (std : Stdlib) (db : Database) (now : Time) (req : CheckRequest) : Prop :=
  let own := db.view req.tenantID
  SomeDeny std own now req ∨
  (SomeDeny std db now req ∧ ¬ (Admitted own now req ∧ SomeGrant std own now req)) ∨
  (¬ SomeDeny std db now req ∧
    (Admitted db now req ∧ SomeGrant std db now req →
      Admitted own now req ∧ SomeGrant std own now req))

-- ---------------------------------------------------------------------------
-- The view is part of the store
-- ---------------------------------------------------------------------------

section View

variable {std : Stdlib} {db : Database} {now : Time} {req : CheckRequest}

theorem parent_of_view {tenantID a b : UUID} (h : (db.view tenantID).Parent a b) :
    db.Parent a b := by
  obtain ⟨r, hr, hid, hpar, q, hq, hqid⟩ := h
  exact ⟨r, (Table.mem_filter.mp hr).1, hid, hpar, q, (Table.mem_filter.mp hq).1, hqid⟩

theorem assigned_of_view {userID tenantID roleID : UUID}
    (h : Assigned (db.view tenantID) now userID tenantID roleID) :
    Assigned db now userID tenantID roleID := by
  obtain ⟨ur, hur, huser, hrole, hexp, r, hr, hvis⟩ := h
  exact ⟨ur, (Table.mem_filter.mp hur).1, huser, hrole, hexp, r, (Table.mem_filter.mp hr).1, hvis⟩

theorem effectiveRole_of_view {userID tenantID roleID : UUID}
    (h : EffectiveRole (db.view tenantID) now userID tenantID roleID) :
    EffectiveRole db now userID tenantID roleID := by
  obtain ⟨a, ha, hpath⟩ := h
  exact ⟨a, assigned_of_view ha, ReflTransGen.mono (fun _ _ => parent_of_view) _ _ hpath⟩

theorem admitted_of_view (h : Admitted (db.view req.tenantID) now req) : Admitted db now req := by
  obtain ⟨huser, htenant, roleID, hrole⟩ := h
  exact ⟨huser, htenant, roleID, assigned_of_view hrole⟩

theorem rbacGrants_of_view (h : RbacGrants (db.view req.tenantID) now req) :
    RbacGrants db now req := by
  obtain ⟨perm, ⟨hperm, hvis, rp, hrp, hid, heff⟩, hmatch⟩ := h
  exact ⟨perm, ⟨(Table.mem_filter.mp hperm).1, hvis, rp, (Table.mem_filter.mp hrp).1, hid,
    effectiveRole_of_view heff⟩, hmatch⟩

theorem applicable_of_view {p : Policy} (h : p ∈ Applicable (db.view req.tenantID) now req) :
    p ∈ Applicable db now req := by
  obtain ⟨hp, happ⟩ := mem_applicable.mp h
  obtain ⟨hpdb, hown⟩ := Table.mem_filter.mp hp
  refine mem_applicable.mpr ⟨hpdb, ?_⟩
  rcases happ with ⟨a, ha, hid, hprin⟩ | ⟨htenant, hnone⟩
  · refine Or.inl ⟨a, (Table.mem_filter.mp ha).1, hid, ?_⟩
    exact hprin.imp_right fun ⟨htype, heff⟩ => ⟨htype, effectiveRole_of_view heff⟩
  · -- every attachment of an own policy is in the view
    refine Or.inr ⟨htenant, fun a ha hid => hnone a (Table.mem_filter.mpr ⟨ha, ?_⟩) hid⟩
    have hfind : db.policies.find? a.policyID = some p :=
      Table.find?_eq_some_iff.mpr ⟨hpdb, hid.symm⟩
    rw [hfind]
    exact hown

theorem someDeny_of_view (h : SomeDeny std (db.view req.tenantID) now req) :
    SomeDeny std db now req := by
  obtain ⟨p, hp, hdeny⟩ := h
  exact ⟨p, applicable_of_view hp, hdeny⟩

theorem someGrant_of_view (h : SomeGrant std (db.view req.tenantID) now req) :
    SomeGrant std db now req := by
  rcases h with hrbac | ⟨p, hp, hallow⟩
  · exact Or.inl (rbacGrants_of_view hrbac)
  · exact Or.inr ⟨p, applicable_of_view hp, hallow⟩

/-- The decision is the view's decision exactly for unaffected requests. -/
theorem referenceAllows_view_iff :
    (ReferenceAllows std db now req ↔ ReferenceAllows std (db.view req.tenantID) now req) ↔
      Unaffected std db now req := by
  have hadm : Admitted (db.view req.tenantID) now req → Admitted db now req := admitted_of_view
  have hdeny : SomeDeny std (db.view req.tenantID) now req → SomeDeny std db now req :=
    someDeny_of_view
  have hgrant : SomeGrant std (db.view req.tenantID) now req → SomeGrant std db now req :=
    someGrant_of_view
  rw [referenceAllows_iff, referenceAllows_iff]
  unfold Unaffected
  by_cases hd : SomeDeny std (db.view req.tenantID) now req
  · have hd' := hdeny hd
    simp [hd, hd']
  · by_cases hd' : SomeDeny std db now req
    · simp [hd, hd']
    · simp only [hd, hd', false_and, not_false_eq_true, true_and, false_or]
      refine ⟨fun h => h.mp, fun h => ⟨h, fun ⟨ha, hg⟩ => ⟨hadm ha, hgrant hg⟩⟩⟩

end View

/-- A tenant's view is its own view. -/
theorem view_view (db : Database) (tenantID : UUID) :
    (db.view tenantID).view tenantID = db.view tenantID := by
  have hroles : ∀ k, ((db.view tenantID).roles.find? k).any (roleVisible tenantID) =
      (db.roles.find? k).any (roleVisible tenantID) := by
    intro k
    rw [Database.view, Table.find?_filter]
    cases db.roles.find? k with
    | none => rfl
    | some r => by_cases hv : roleVisible tenantID r = true <;> simp [Option.filter, hv]
  have hpols : ∀ k, ((db.view tenantID).policies.find? k).any (fun p => p.tenantID = tenantID) =
      (db.policies.find? k).any fun p => p.tenantID = tenantID := by
    intro k
    rw [Database.view, Table.find?_filter]
    cases db.policies.find? k with
    | none => rfl
    | some p => by_cases hv : p.tenantID = tenantID <;> simp [Option.filter, hv]
  unfold Database.view
  congr 1
  · exact Table.filter_filter_of_imp fun _ _ h => h
  · exact Table.filter_filter_of_imp fun _ _ h => h
  · exact Table.filter_filter_of_imp fun rp _ h => (hroles rp.roleID).trans h
  · exact Table.filter_filter_of_imp fun _ _ h => h
  · exact Table.filter_filter_of_imp fun _ _ h => h
  · exact Table.filter_filter_of_imp fun a _ h => (hpols a.policyID).trans h

theorem Database.Reordered.refl (db : Database) : db.Reordered db :=
  ⟨.refl _, .refl _, .refl _, .refl _, .refl _, .refl _⟩

/-- The view is one of the stores that agree with `db` on the tenant. -/
theorem agreeOn_view (db : Database) (tenantID : UUID) :
    db.AgreeOn tenantID (db.view tenantID) := by
  unfold Database.AgreeOn
  rw [view_view]
  exact .refl _

-- ---------------------------------------------------------------------------
-- Isolation
-- ---------------------------------------------------------------------------

/-- Both stores answer the request, and alike. -/
def SameDecision (std : Stdlib) (db db' : Database) (now : Time) (req : CheckRequest) : Prop :=
  ∃ res res', (Evaluator.pg db).check std now req = .ok res ∧
    (Evaluator.pg db').check std now req = .ok res' ∧ res.allowed = res'.allowed

theorem sameDecision_iff {std : Stdlib} {db db' : Database} {now : Time} {req : CheckRequest} :
    SameDecision std db db' now req ↔
      (ReferenceAllows std db now req ↔ ReferenceAllows std db' now req) := by
  obtain ⟨res, hres, hspec⟩ := check_spec std (Evaluator.pg_readsFrom db) now req
  obtain ⟨res', hres', hspec'⟩ := check_spec std (Evaluator.pg_readsFrom db') now req
  rw [← hspec, ← hspec', ← Bool.eq_iff_iff]
  refine ⟨fun ⟨r, r', hr, hr', heq⟩ => ?_, fun heq => ⟨res, res', hres, hres', heq⟩⟩
  rw [hres, Except.ok.injEq] at hr
  rw [hres', Except.ok.injEq] at hr'
  rw [hr, hr']
  exact heq

namespace Sample

/-- A deny policy of another tenant, attached to the user. -/
def foreignDeny : Policy where
  id          := 31#128
  tenantID    := otherTenant
  name        := "lockdown"
  description := ""
  effect      := .deny
  actions     := ["*"]
  resources   := []
  conditions  := []
  priority    := 100
  createdAt   := 0

def storeWithForeignDeny : Database :=
  { store with
    policies := ⟨[foreignDeny], by decide⟩,
    policyAttachments := ⟨[⟨foreignDeny.id, .user, user⟩], by decide⟩ }

/-- A system role, granted the tenant's permission. -/
def operator : Role := ⟨11#128, UUID.nil, "operator", "Operator", "", true, none, 0, 0⟩

def storeWithSystemRole : Database :=
  { Database.empty with
    roles := ⟨[operator], by decide⟩,
    permissions := store.permissions,
    rolePermissions := ⟨[⟨operator.id, readDocs.id⟩], by decide⟩ }

/-- The user holds the system role, but in the other tenant's scope. -/
def storeWithForeignAssignment : Database :=
  { storeWithSystemRole with
    userRoles := ⟨[⟨user, operator.id, .global, otherTenant, UUID.nil, none, 0⟩], by decide⟩ }

end Sample

end Ggid.Policy
