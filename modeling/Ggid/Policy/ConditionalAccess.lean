import Ggid.Go.Json
import Ggid.Lib.FirstMatch
import Ggid.Lib.Table
import Ggid.Policy.ConditionGroups
import Ggid.Policy.Decision

/-!
# Policy engine — conditional access

The policies of `conditional_access_store` are JSON objects. `EvaluateConditionalAccess` goes over
them in the order of the listing and takes the first one that matches: it does not look at
priorities, passes over conditions on attributes the context does not have, and compares values as
texts. A `PUT` stores an object of its own in place of the one there was.

* `evaluateRows_eq`        — the first match decides;
* `answersRight_iff`       — when the answer is right in every order;
* `keepsEnabled_iff`       — when a `PUT` leaves the enabled policies enabled.
-/

namespace Ggid.Policy.ConditionalAccess

open Ggid.Go Ggid.Lib

-- ---------------------------------------------------------------------------
-- Policy map helpers
-- ---------------------------------------------------------------------------

def pmGetString (std : Stdlib) (m : GoMap) (key : String) : String :=
  match m.lookup key with
  | some v => sprintV std v
  | none => ""

def pmGetBool (m : GoMap) (key : String) : Bool :=
  match m.lookup key with
  | some (.bool val) => val
  | some (.string val) => val == "true"
  | _ => false

def pmGetMap (m : GoMap) (key : String) : Option GoMap :=
  match m.lookup key with
  | some (.map mp) => some mp
  | _ => none

-- ---------------------------------------------------------------------------
-- The store
-- ---------------------------------------------------------------------------

/-- A row of `conditional_access_store`. The column `tenant_id` is not read here. -/
structure StoredRow where
  id        : String
  data      : GoMap
  createdAt : Time

abbrev Store := Table StoredRow.id

/-- A row as `List` and `Get` return it. They add `created_at` as well, which nobody reads. -/
def StoredRow.listed (row : StoredRow) : GoMap := setKey row.data "id" (.string row.id)

/-- `ORDER BY created_at DESC`. -/
def list (s : Store) : List GoMap :=
  (s.rows.insertionSort fun a b => b.createdAt ≤ a.createdAt).map StoredRow.listed

/-- `INSERT … ON CONFLICT (id) DO UPDATE SET data = EXCLUDED.data`. -/
def store (s : Store) (id : String) (data : GoMap) (now : Time) : Store :=
  s.upsert ⟨id, data, now⟩ (fun row => { row with data := data }) fun _ => rfl

-- ---------------------------------------------------------------------------
-- `EvaluateConditionalAccess`
-- ---------------------------------------------------------------------------

/-- What is returned of a `ConditionalAccessPolicy`. -/
structure MatchedPolicy where
  id       : String
  tenantID : String
  name     : String
  action   : String
  deriving DecidableEq

def actionOf (row : GoMap) : String :=
  match pmGetMap row "actions" with
  | some acts =>
    match acts.lookup "action" with
    | some (.string a) => a
    | _ => ""
  | none => ""

/-- A `nil` map has no entries. -/
def conditionsOf (row : GoMap) : GoMap := (pmGetMap row "conditions").getD []

variable (std : Stdlib) (tenantID : String) (ctxMap : GoMap)

/-- The loop over the conditions, in whatever order. -/
def conditionsMatch (conds : GoMap) : Bool :=
  conds.all fun c =>
    match ctxMap.lookup c.1 with
    | some ctxVal => sprintV std c.2 == sprintV std ctxVal
    | none => true

def matchedPolicy (row : GoMap) : MatchedPolicy :=
  ⟨pmGetString std row "id", pmGetString std row "tenant_id", pmGetString std row "name",
    actionOf row⟩

def evaluateRows : List GoMap → String × Option MatchedPolicy
  | [] => ("allow", none)
  | row :: rows =>
    let pTenantID := pmGetString std row "tenant_id"
    if pmGetBool row "enabled" = false then evaluateRows rows
    else if tenantID ≠ "" ∧ pTenantID ≠ "" ∧ pTenantID ≠ tenantID then evaluateRows rows
    else if conditionsOf row = [] then (actionOf row, some (matchedPolicy std row))
    else if conditionsMatch std ctxMap (conditionsOf row) = true then
      (actionOf row, some (matchedPolicy std row))
    else evaluateRows rows

def evaluateConditionalAccess (policyMap : Option Store) : String × Option MatchedPolicy :=
  match policyMap with
  | none => ("allow", none)
  | some s => evaluateRows std tenantID ctxMap (list s)

/-- The rows that are listed; none without a repository. -/
def listing : Option Store → List GoMap
  | none => []
  | some s => list s

theorem evaluateConditionalAccess_eq (policyMap : Option Store) :
    evaluateConditionalAccess std tenantID ctxMap policyMap =
      evaluateRows std tenantID ctxMap (listing policyMap) := by
  cases policyMap with
  | none => rfl
  | some s => rfl

-- ---------------------------------------------------------------------------
-- `PUT`
-- ---------------------------------------------------------------------------

/-- The request body; a map that was not sent is `nil`. -/
structure UpdateBody where
  id         : String
  name       : String
  conditions : Option GoMap
  actions    : Option GoMap
  enabled    : Option Bool
  priority   : Int

inductive UpdateAnswer where
  | badRequest (message : String)
  | notFound (message : String)
  | updated (id : String)
  deriving DecidableEq

/-- Statements that fail. The handler ignores the errors of both. -/
structure Faults where
  get   : Bool
  store : Bool

def mapOrNull : Option GoMap → Any
  | some fields => .map fields
  | none => .nil

def UpdateBody.data (req : UpdateBody) (callerTenantID : UUID) : GoMap :=
  [("name", .string req.name), ("conditions", mapOrNull req.conditions),
    ("actions", mapOrNull req.actions), ("priority", .ofInt req.priority),
    ("tenant_id", .string callerTenantID.string)] ++
    match req.enabled with
    | some enabled => [("enabled", .bool enabled)]
    | none => []

def UpdateBody.target (req : UpdateBody) (queryID : String) : String :=
  if req.id = "" then queryID else req.id

/-- The caller's check finds another tenant's policy under the id. -/
def foreign (s : Store) (faults : Faults) (callerTenantID : UUID) (id : String) : Bool :=
  !faults.get &&
    match s.find? id with
    | some existing => pmGetString std existing.listed "tenant_id" != callerTenantID.string
    | none => false

/-- `body` is the decoded JSON, `none` if it cannot be decoded. -/
def update (policyMap : Option Store) (faults : Faults) (queryID : String)
    (body : Option UpdateBody) (callerTenantID : UUID) (now : Time) :
    UpdateAnswer × Option Store :=
  match body with
  | none => (.badRequest "invalid JSON body", policyMap)
  | some req =>
    if req.target queryID = "" then (.badRequest "id is required", policyMap)
    else
      match policyMap with
      | none => (.updated (req.target queryID), none)
      | some s =>
        if foreign std s faults callerTenantID (req.target queryID) = true then
          (.notFound "policy not found", some s)
        else if faults.store = true then (.updated (req.target queryID), some s)
        else
          (.updated (req.target queryID),
            some (store s (req.target queryID) (req.data callerTenantID) now))

-- ---------------------------------------------------------------------------
-- The right answer
-- ---------------------------------------------------------------------------

/-- The row is an enabled policy of the tenant, and the context has every attribute it has a
condition on, with the value of the condition. -/
def Applies (row : GoMap) : Prop :=
  pmGetBool row "enabled" = true ∧ pmGetString std row "tenant_id" = tenantID ∧
    ∀ c ∈ conditionsOf row, ∃ ctxVal, ctxMap.lookup c.1 = some ctxVal ∧ sameValue c.2 ctxVal = true

section Answer

variable {κ : Type*} [LinearOrder κ] (rank : GoMap → κ)

/-- The action of a policy that applies and has the highest priority of those that do; `allow` if
none applies. `rank` says which priorities are higher. -/
def IsAnswer (rows : List GoMap) (action : String) : Prop :=
  (∃ row ∈ rows, Applies std tenantID ctxMap row ∧
      (∀ row' ∈ rows, Applies std tenantID ctxMap row' → rank row' ≤ rank row) ∧
      actionOf row = action) ∨
    ((∀ row ∈ rows, ¬Applies std tenantID ctxMap row) ∧ action = "allow")

/-- The answer is a right one, and would be the same in whatever order the rows are listed. -/
def AnswersRight (policyMap : Option Store) : Prop :=
  ∃ action, IsAnswer std tenantID ctxMap rank (listing policyMap) action ∧
    (evaluateConditionalAccess std tenantID ctxMap policyMap).1 = action ∧
    ∀ rows, rows.Perm (listing policyMap) → (evaluateRows std tenantID ctxMap rows).1 = action

/-- What the loop tests. -/
def letsThrough (row : GoMap) : Bool :=
  let pTenantID := pmGetString std row "tenant_id"
  pmGetBool row "enabled" && (tenantID == "" || pTenantID == "" || pTenantID == tenantID) &&
    conditionsMatch std ctxMap (conditionsOf row)

theorem evaluateRows_eq (rows : List GoMap) : (evaluateRows std tenantID ctxMap rows).1 =
    firstMatch (letsThrough std tenantID ctxMap) actionOf "allow" rows := by
  induction rows with
  | nil => rfl
  | cons row rows ih =>
    have hskip : letsThrough std tenantID ctxMap row = false →
        firstMatch (letsThrough std tenantID ctxMap) actionOf "allow" (row :: rows) =
          firstMatch (letsThrough std tenantID ctxMap) actionOf "allow" rows := fun h => by
      rw [firstMatch, firstMatch, List.find?_cons_of_neg (by simp [h])]
    rw [evaluateRows]
    split
    · rename_i henabled
      rw [ih, hskip (by simp [letsThrough, henabled])]
    · rename_i henabled
      rw [Bool.not_eq_false] at henabled
      split
      · rename_i htenant
        rw [ih, hskip (by simp [letsThrough, htenant])]
      · rename_i htenant
        have hours : (tenantID == "" || pmGetString std row "tenant_id" == "" ||
            pmGetString std row "tenant_id" == tenantID) = true := by
          by_contra hnot
          exact htenant (by simpa [and_assoc] using hnot)
        split
        · rename_i hconds
          have hpass : letsThrough std tenantID ctxMap row = true := by
            simp only [letsThrough, henabled, hours, hconds, conditionsMatch, List.all_nil,
              Bool.and_self]
          rw [firstMatch_cons hpass]
        · split
          · rename_i hmatch
            have hpass : letsThrough std tenantID ctxMap row = true := by
              simp only [letsThrough, henabled, hours, hmatch, Bool.and_self]
            rw [firstMatch_cons hpass]
          · rename_i hmatch
            rw [ih, hskip (by simp [letsThrough, hmatch])]

/-- The rows that the loop lets through agree on a right answer. -/
def Agree (policyMap : Option Store) : Prop :=
  ∃ action, IsAnswer std tenantID ctxMap rank (listing policyMap) action ∧
    (∀ row ∈ listing policyMap, letsThrough std tenantID ctxMap row = true →
      actionOf row = action) ∧
    ((∀ row ∈ listing policyMap, letsThrough std tenantID ctxMap row = false) → "allow" = action)

theorem answersRight_iff (policyMap : Option Store) :
    AnswersRight std tenantID ctxMap rank policyMap ↔ Agree std tenantID ctxMap rank policyMap := by
  unfold AnswersRight Agree
  refine exists_congr fun action => and_congr_right fun _ => ?_
  rw [← forall_perm_firstMatch_iff, evaluateConditionalAccess_eq]
  simp only [evaluateRows_eq]
  exact ⟨fun h => h.2, fun h => ⟨h _ (.refl _), h⟩⟩

end Answer

-- ---------------------------------------------------------------------------
-- What a `PUT` does to a policy
-- ---------------------------------------------------------------------------

/-- There is an enabled policy under the id. -/
def IsEnabled (policyMap : Option Store) (id : String) : Prop :=
  ∃ s row, policyMap = some s ∧ s.find? id = some row ∧ pmGetBool row.listed "enabled" = true

/-- A request that does not mention `enabled` leaves the enabled policies enabled. -/
def KeepsEnabled (policyMap : Option Store) (faults : Faults) (queryID : String)
    (body : Option UpdateBody) (callerTenantID : UUID) (now : Time) : Prop :=
  (∀ req, body = some req → req.enabled = none) → ∀ id, IsEnabled policyMap id →
    IsEnabled (update std policyMap faults queryID body callerTenantID now).2 id

/-- The request gets past all checks and stores an object without `enabled`. -/
def Unsets (s : Store) (faults : Faults) (queryID : String) (req : UpdateBody)
    (callerTenantID : UUID) : Prop :=
  req.enabled = none ∧ req.target queryID ≠ "" ∧ faults.store = false ∧
    foreign std s faults callerTenantID (req.target queryID) = false

theorem lookup_setKey_of_ne {m : GoMap} {key key' : String} {v : Any} (h : key ≠ key') :
    (setKey m key' v).lookup key = m.lookup key := by
  have hfilter : ∀ l : GoMap, (l.filter fun e => e.1 != key').lookup key = l.lookup key := by
    intro l
    induction l with
    | nil => rfl
    | cons e l ih =>
      by_cases hkey : e.1 = key'
      · have hne : (key == e.1) = false := by rw [hkey]; simpa using h
        rw [List.filter_cons_of_neg (by simp [hkey]), ih, List.lookup_cons, hne]
      · rw [List.filter_cons_of_pos (by simpa using hkey), List.lookup_cons, List.lookup_cons, ih]
  have hne : (key == key') = false := by simpa using h
  rw [setKey, List.lookup_cons, hne]
  exact hfilter m

theorem enabled_listed (row : StoredRow) :
    pmGetBool row.listed "enabled" = pmGetBool row.data "enabled" := by
  rw [pmGetBool, pmGetBool, StoredRow.listed, lookup_setKey_of_ne (by decide)]

/-- An object without `enabled` is a disabled policy. -/
theorem enabled_data {req : UpdateBody} {callerTenantID : UUID} :
    pmGetBool (req.data callerTenantID) "enabled" = req.enabled.getD false := by
  unfold UpdateBody.data
  cases req.enabled with
  | none => rfl
  | some enabled => rfl

theorem isEnabled_some {s : Store} {id : String} : IsEnabled (some s) id ↔
    ∃ row, s.find? id = some row ∧ pmGetBool row.data "enabled" = true := by
  unfold IsEnabled
  constructor
  · rintro ⟨s', row, hs, hrow, henabled⟩
    cases hs
    exact ⟨row, hrow, (enabled_listed row).symm.trans henabled⟩
  · rintro ⟨row, hrow, henabled⟩
    exact ⟨s, row, rfl, hrow, (enabled_listed row).trans henabled⟩

theorem isEnabled_store {s : Store} {target id : String} {data : GoMap} {now : Time} :
    IsEnabled (some (store s target data now)) id ↔
      if id = target then pmGetBool data "enabled" = true else IsEnabled (some s) id := by
  have hfind : (s.upsert ⟨target, data, now⟩ (fun row => { row with data := data })
      fun _ => rfl).find? id = if id = target then
        some (((s.find? id).map fun row => { row with data := data }).getD ⟨target, data, now⟩)
      else s.find? id := Table.find?_upsert id
  rw [isEnabled_some, isEnabled_some, store, hfind]
  by_cases hid : id = target
  · rw [if_pos hid, if_pos hid]
    cases s.find? id with
    | none => simp
    | some row => simp
  · rw [if_neg hid, if_neg hid]

/-- A request that gets past the checks stores its object; any other leaves the store alone. -/
theorem update_snd {s : Store} {faults : Faults} {queryID : String} {req : UpdateBody}
    {callerTenantID : UUID} {now : Time} (henabled : req.enabled = none) :
    (Unsets std s faults queryID req callerTenantID ∧
        (update std (some s) faults queryID (some req) callerTenantID now).2 =
          some (store s (req.target queryID) (req.data callerTenantID) now)) ∨
      (¬Unsets std s faults queryID req callerTenantID ∧
        (update std (some s) faults queryID (some req) callerTenantID now).2 = some s) := by
  unfold Unsets
  rw [update]
  split
  · rename_i htarget
    exact Or.inr ⟨fun h => h.2.1 htarget, rfl⟩
  · rename_i htarget
    split
    · rename_i hforeign
      refine Or.inr ⟨fun h => ?_, rfl⟩
      rw [h.2.2.2] at hforeign
      cases hforeign
    · rename_i hforeign
      split
      · rename_i hstore
        refine Or.inr ⟨fun h => ?_, rfl⟩
        rw [h.2.2.1] at hstore
        cases hstore
      · rename_i hstore
        exact Or.inl ⟨⟨henabled, htarget, by simpa using hstore, by simpa using hforeign⟩, rfl⟩

theorem keepsEnabled_iff (policyMap : Option Store) (faults : Faults) (queryID : String)
    (body : Option UpdateBody) (callerTenantID : UUID) (now : Time) :
    KeepsEnabled std policyMap faults queryID body callerTenantID now ↔
      ∀ s req, policyMap = some s → body = some req →
        Unsets std s faults queryID req callerTenantID →
          ¬IsEnabled policyMap (req.target queryID) := by
  unfold KeepsEnabled
  cases policyMap with
  | none =>
    refine ⟨fun _ s req hs => (Option.some_ne_none s hs.symm).elim, fun _ _ id hid => ?_⟩
    obtain ⟨s, row, hs, -⟩ := hid
    cases hs
  | some s =>
    cases body with
    | none => exact ⟨fun _ s' req _ hreq => (Option.some_ne_none req hreq.symm).elim,
        fun _ _ id hid => hid⟩
    | some req =>
      constructor
      · rintro h s' req' hs hreq hunsets henabled
        cases hs
        cases hreq
        have hkept := h (fun req' hreq' => by cases hreq'; exact hunsets.1) _ henabled
        obtain ⟨-, hsnd⟩ | ⟨hnot, -⟩ :=
          @update_snd std s faults queryID req callerTenantID now hunsets.1
        · rw [hsnd, isEnabled_store, if_pos rfl, enabled_data, hunsets.1] at hkept
          cases hkept
        · exact hnot hunsets
      · intro h hnone id hid
        obtain ⟨hunsets, hsnd⟩ | ⟨-, hsnd⟩ :=
          @update_snd std s faults queryID req callerTenantID now (hnone req rfl)
        · have hne : id ≠ req.target queryID := fun heq =>
            h s req rfl rfl hunsets (heq ▸ hid)
          rw [hsnd, isEnabled_store, if_neg hne]
          exact hid
        · rw [hsnd]
          exact hid

-- ---------------------------------------------------------------------------
-- Conditional access
-- ---------------------------------------------------------------------------

/-- The answer is right exactly if the rows that the loop lets through agree on it; and a `PUT`
leaves the enabled policies enabled exactly if it mentions `enabled` or stores nothing, or the
policy was not enabled. -/
theorem conditional_access_iff {κ : Type*} [LinearOrder κ] (rank : GoMap → κ)
    (policyMap : Option Store) (faults : Faults) (queryID : String) (body : Option UpdateBody)
    (callerTenantID : UUID) (now : Time) :
    (AnswersRight std tenantID ctxMap rank policyMap ↔
        Agree std tenantID ctxMap rank policyMap) ∧
      (KeepsEnabled std policyMap faults queryID body callerTenantID now ↔
        ∀ s req, policyMap = some s → body = some req →
          Unsets std s faults queryID req callerTenantID →
            ¬IsEnabled policyMap (req.target queryID)) :=
  ⟨answersRight_iff std tenantID ctxMap rank policyMap,
    keepsEnabled_iff std policyMap faults queryID body callerTenantID now⟩

theorem mem_listing {s : Store} {row : GoMap} :
    row ∈ listing (some s) ↔ ∃ stored ∈ s.rows, stored.listed = row := by
  rw [listing, list, List.mem_map]
  simp only [(List.perm_insertionSort _ _).mem_iff]

namespace Sample

def tenant : UUID := 1#128

/-- An enabled policy of the tenant. -/
def policy (id action : String) (conditions : GoMap) (priority : Int) : StoredRow :=
  ⟨id, [("tenant_id", .string tenant.string), ("name", .string id), ("enabled", .bool true),
    ("conditions", .map conditions), ("actions", .map [("action", .string action)]),
    ("priority", .ofInt priority)], 0⟩

theorem enabled_policy (id action : String) (conditions : GoMap) (priority : Int) :
    pmGetBool (policy id action conditions priority).listed "enabled" = true := by
  rw [enabled_listed]
  rfl

theorem actionOf_policy (id action : String) (conditions : GoMap) (priority : Int) :
    actionOf (policy id action conditions priority).listed = action := by
  rw [actionOf, pmGetMap, StoredRow.listed, lookup_setKey_of_ne (by decide)]
  rfl

theorem conditionsOf_policy (id action : String) (conditions : GoMap) (priority : Int) :
    conditionsOf (policy id action conditions priority).listed = conditions := by
  rw [conditionsOf, pmGetMap, StoredRow.listed, lookup_setKey_of_ne (by decide)]
  rfl

theorem letsThrough_policy {std : Stdlib} {ctxMap : GoMap} {id action : String}
    {conditions : GoMap} {priority : Int} (h : conditionsMatch std ctxMap conditions = true) :
    letsThrough std tenant.string ctxMap (policy id action conditions priority).listed = true := by
  have htenant : pmGetString std (policy id action conditions priority).listed "tenant_id" =
      tenant.string := by
    rw [pmGetString, StoredRow.listed, lookup_setKey_of_ne (by decide)]
    rfl
  simp [letsThrough, enabled_policy, htenant, conditionsOf_policy, h]

/-- A policy that blocks and does not apply, but is let through. -/
theorem not_agree_policy {κ : Type*} [LinearOrder κ] {rank : GoMap → κ} {std : Stdlib}
    {ctxMap : GoMap} {id : String} {conditions : GoMap} {priority : Int} {store : Store}
    (hstore : store.rows = [policy id "block" conditions priority])
    (hmatch : conditionsMatch std ctxMap conditions = true)
    (hnot : ¬∀ c ∈ conditions, ∃ ctxVal, ctxMap.lookup c.1 = some ctxVal ∧
      sameValue c.2 ctxVal = true) :
    ¬Agree std tenant.string ctxMap rank (some store) := by
  have hmem : ∀ row, row ∈ listing (some store) ↔
      row = (policy id "block" conditions priority).listed := fun row => by
    rw [mem_listing, hstore]
    simp [eq_comm]
  have happlies : ∀ row ∈ listing (some store), ¬Applies std tenant.string ctxMap row := by
    rintro row hrow ⟨-, -, hconds⟩
    rw [(hmem row).mp hrow, conditionsOf_policy] at hconds
    exact hnot hconds
  rintro ⟨action, hanswer, hthrough, -⟩
  have hblock := hthrough _ ((hmem _).mpr rfl) (letsThrough_policy hmatch)
  rw [actionOf_policy] at hblock
  obtain ⟨row, hrow, hrowApplies, -⟩ | ⟨-, hallow⟩ := hanswer
  · exact happlies row hrow hrowApplies
  · rw [← hblock] at hallow
    exact absurd hallow (by decide)

/-- Two policies for everyone. -/
def twoPolicies : Store :=
  ⟨[policy "p1" "block" [] 1, policy "p2" "require_mfa" [] 2], by decide⟩

/-- A policy on an attribute. -/
def onePolicy (conditions : GoMap) : Store := ⟨[policy "p1" "block" conditions 1], by simp⟩

/-- The number that is stored as the priority. -/
def priorityOf (row : GoMap) : Int :=
  match row.lookup "priority" with
  | some (.float64 x) => x.ordinal
  | _ => 0

/-- A `PUT` that renames the first policy. -/
def rename : UpdateBody := ⟨"p1", "renamed", some [], some [("action", .string "block")], none, 1⟩

theorem not_agree_twoPolicies {κ : Type*} [LinearOrder κ] (rank : GoMap → κ) (std : Stdlib) :
    ¬Agree std tenant.string [] rank (some twoPolicies) := by
  rintro ⟨action, -, hthrough, -⟩
  have hblock := hthrough _ (mem_listing.mpr ⟨policy "p1" "block" [] 1, by simp [twoPolicies], rfl⟩)
    (letsThrough_policy rfl)
  have hmfa := hthrough _
    (mem_listing.mpr ⟨policy "p2" "require_mfa" [] 2, by simp [twoPolicies], rfl⟩)
    (letsThrough_policy rfl)
  rw [actionOf_policy] at hblock hmfa
  exact absurd (hblock.trans hmfa.symm) (by decide)

/-- Of two policies the first one listed decides, whichever has the higher priority; a condition on
an attribute that is missing and one on the value `true` where the context has a text match; and a
policy that is renamed is disabled. -/
theorem first_listed_decides :
    ¬AnswersRight Policy.Sample.stdlib tenant.string [] priorityOf (some twoPolicies) ∧
      ¬AnswersRight Policy.Sample.stdlib tenant.string [] (fun row => -priorityOf row)
        (some twoPolicies) ∧
      ¬AnswersRight Policy.Sample.stdlib tenant.string [] priorityOf
        (some (onePolicy [("ip", .string "203.0.113.7")])) ∧
      ¬AnswersRight Policy.Sample.stdlib tenant.string [("managed", .string "true")] priorityOf
        (some (onePolicy [("managed", .bool true)])) ∧
      ¬KeepsEnabled Policy.Sample.stdlib (some twoPolicies) ⟨false, false⟩ "" (some rename)
        tenant 1 := by
  simp only [answersRight_iff, keepsEnabled_iff]
  refine ⟨not_agree_twoPolicies _ _, not_agree_twoPolicies _ _,
    not_agree_policy rfl rfl fun h => ?_, not_agree_policy rfl rfl fun h => ?_, fun h => ?_⟩
  · obtain ⟨ctxVal, hlookup, -⟩ := h _ (List.mem_singleton.mpr rfl)
    cases hlookup
  · obtain ⟨ctxVal, hlookup, hsame⟩ := h _ (List.mem_singleton.mpr rfl)
    obtain rfl : Any.string "true" = ctxVal := Option.some.inj hlookup
    cases hsame
  · have hfind : twoPolicies.find? "p1" = some (policy "p1" "block" [] 1) := rfl
    have hours : pmGetString Policy.Sample.stdlib (policy "p1" "block" [] 1).listed "tenant_id" =
        tenant.string := by
      rw [pmGetString, StoredRow.listed, lookup_setKey_of_ne (by decide)]
      rfl
    have hunsets :
        Unsets Policy.Sample.stdlib twoPolicies ⟨false, false⟩ "" rename tenant := by
      refine ⟨rfl, by decide, rfl, ?_⟩
      have htarget : rename.target "" = "p1" := rfl
      simp [foreign, htarget, hfind, hours]
    exact h twoPolicies rename rfl rfl hunsets ⟨twoPolicies, _, rfl, hfind, enabled_policy ..⟩

end Sample

end Ggid.Policy.ConditionalAccess
