import Ggid.Policy.Evaluator

/-!
# Policy engine — condition groups

`EvalConditionGroup` evaluates trees of AND, OR and NOT over comparisons of attributes. `eq` and
`ne` compare with `==`, which panics on two lists and on two objects; `in` and `not_in` are
documented operators the evaluator does not know, and a NOT looks at its first member only.
`CheckWithConditions` asks `Check` first and then the groups, and writes what the groups may ask
for into the caller's own map.

* `evalConditionGroup_eq` — what the evaluator computes;
* `evaluates_iff`         — for which trees that is the value of the tree;
* `checks_iff`            — for which requests the check with conditions is right.
-/

namespace Ggid.Policy

open Ggid.Go

-- ---------------------------------------------------------------------------
-- The evaluator
-- ---------------------------------------------------------------------------

inductive ConditionOp where
  | and | or | not
  | other (raw : String)
  deriving DecidableEq

/-- `Operator` is one of `eq`, `ne`, `in` and `not_in`. -/
structure LeafCondition where
  attr     : String
  operator : String
  value    : Any

/-- `*ConditionGroup`. -/
inductive ConditionGroup where
  | nil
  | group (op : ConditionOp) (conditions : List LeafCondition) (children : List ConditionGroup)

/-- `a == b` on two interface values; none stands for a panic. -/
def interfaceEq : Any → Any → Option Bool
  | .nil, .nil => some true
  | .bool a, .bool b => some (a == b)
  | .float64 a, .float64 b => some (Float64.eq a b)
  | .string a, .string b => some (a == b)
  | .slice _, .slice _ => none
  | .map _, .map _ => none
  | _, _ => some false

def evalLeaf (attrs : GoMap) (lc : LeafCondition) : Option Bool :=
  match attrs.lookup lc.attr with
  | none => some false
  | some val =>
    if lc.operator = "eq" then interfaceEq val lc.value
    else if lc.operator = "ne" then (interfaceEq val lc.value).map fun same => !same
    else some false

/-- The switch on `group.Op`. -/
def combine (op : ConditionOp) (all : List Bool) : Bool :=
  match op with
  | .and => all.all fun r => r
  | .or => all.any fun r => r
  | .not =>
    match all with
    | [] => true
    | r :: _ => !r
  | .other _ => true

mutual

/-- All leaves and all children are evaluated before they are combined. -/
def evalConditionGroup (attrs : GoMap) : ConditionGroup → Option Bool
  | .nil => some true
  | .group op conditions children => do
    let leafResults ← conditions.mapM (evalLeaf attrs)
    let childResults ← evalChildren attrs children
    return combine op (leafResults ++ childResults)

def evalChildren (attrs : GoMap) : List ConditionGroup → Option (List Bool)
  | [] => some []
  | child :: rest => do
    let r ← evalConditionGroup attrs child
    let rs ← evalChildren attrs rest
    return r :: rs

end

-- ---------------------------------------------------------------------------
-- The value of a tree
-- ---------------------------------------------------------------------------

mutual

/-- Equality of JSON values. -/
def sameValue : Any → Any → Bool
  | .nil, .nil => true
  | .bool a, .bool b => a == b
  | .float64 a, .float64 b => Float64.eq a b
  | .string a, .string b => a == b
  | .slice xs, .slice ys => sameItems xs ys
  | .map fs, .map gs => sameFields fs gs && gs.all fun g => (fs.lookup g.1).isSome
  | _, _ => false

def sameItems : List Any → List Any → Bool
  | [], [] => true
  | x :: xs, y :: ys => sameValue x y && sameItems xs ys
  | _, _ => false

/-- Every field of the first object is one of the second. -/
def sameFields : List (String × Any) → List (String × Any) → Bool
  | [], _ => true
  | (k, v) :: fs, gs =>
    (match gs.lookup k with
      | some w => sameValue v w
      | none => false) && sameFields fs gs

end

/-- The value is an item of a list. -/
def isMember (val : Any) : Any → Bool
  | .slice items => items.any (sameValue val)
  | _ => false

/-- A comparison with an attribute that is missing does not hold, whatever the operator. -/
def LeafCondition.holds (attrs : GoMap) (lc : LeafCondition) : Bool :=
  match attrs.lookup lc.attr with
  | none => false
  | some val =>
    if lc.operator = "eq" then sameValue val lc.value
    else if lc.operator = "ne" then !sameValue val lc.value
    else if lc.operator = "in" then isMember val lc.value
    else if lc.operator = "not_in" then !isMember val lc.value
    else false

mutual

/-- AND: all members hold; OR: some member holds; NOT: none does. -/
def ConditionGroup.holds (attrs : GoMap) : ConditionGroup → Bool
  | .nil => true
  | .group op conditions children =>
    let members := conditions.map (LeafCondition.holds attrs) ++ holdsEach attrs children
    match op with
    | .and => members.all fun r => r
    | .or => members.any fun r => r
    | .not => !members.any fun r => r
    | .other _ => true

def holdsEach (attrs : GoMap) : List ConditionGroup → List Bool
  | [] => []
  | child :: rest => child.holds attrs :: holdsEach attrs rest

end

-- ---------------------------------------------------------------------------
-- What the evaluator computes
-- ---------------------------------------------------------------------------

/-- Two lists or two objects, which `==` does not compare. -/
def uncomparable : Any → Any → Bool
  | .slice _, .slice _ => true
  | .map _, .map _ => true
  | _, _ => false

theorem interfaceEq_eq (a b : Any) :
    interfaceEq a b = if uncomparable a b then none else some (sameValue a b) := by
  cases a <;> cases b <;> rfl

/-- The comparison with this attribute does not panic. -/
def LeafCondition.safe (attrs : GoMap) (lc : LeafCondition) : Bool :=
  match attrs.lookup lc.attr with
  | none => true
  | some val => !((lc.operator == "eq" || lc.operator == "ne") && uncomparable val lc.value)

/-- A leaf with one of the operators that are not known becomes one that never holds. -/
def LeafCondition.cut (lc : LeafCondition) : LeafCondition :=
  if lc.operator = "eq" ∨ lc.operator = "ne" then lc else { lc with operator := "" }

theorem LeafCondition.cut_known {lc : LeafCondition} (h : lc.operator = "eq" ∨ lc.operator = "ne") :
    lc.cut = lc := if_pos h

theorem LeafCondition.cut_unknown {lc : LeafCondition}
    (h : ¬ (lc.operator = "eq" ∨ lc.operator = "ne")) : lc.cut = { lc with operator := "" } :=
  if_neg h

theorem evalLeaf_eq (attrs : GoMap) (lc : LeafCondition) :
    evalLeaf attrs lc = if lc.safe attrs then some (lc.cut.holds attrs) else none := by
  rw [evalLeaf, LeafCondition.safe]
  by_cases hknown : lc.operator = "eq" ∨ lc.operator = "ne"
  · rw [LeafCondition.cut_known hknown, LeafCondition.holds]
    cases attrs.lookup lc.attr with
    | none => rfl
    | some val =>
      have hop : (lc.operator == "eq" || lc.operator == "ne") = true := by simpa using hknown
      dsimp only
      rw [interfaceEq_eq, hop]
      rcases hknown with heq | hne
      · by_cases hpanic : uncomparable val lc.value = true <;> simp [heq, hpanic]
      · by_cases hpanic : uncomparable val lc.value = true <;> simp [hne, hpanic]
  · rw [LeafCondition.cut_unknown hknown, LeafCondition.holds]
    obtain ⟨heq, hne⟩ := not_or.mp hknown
    cases attrs.lookup lc.attr <;> simp [heq, hne]

mutual

/-- No comparison of the tree panics. -/
def ConditionGroup.safe (attrs : GoMap) : ConditionGroup → Bool
  | .nil => true
  | .group _ conditions children =>
    conditions.all (LeafCondition.safe attrs) && safeEach attrs children

def safeEach (attrs : GoMap) : List ConditionGroup → Bool
  | [] => true
  | child :: rest => child.safe attrs && safeEach attrs rest

end

mutual

/-- The tree as far as the evaluator reads it: leaves with `in` and `not_in` never hold, and a NOT
has its first member only. -/
def ConditionGroup.cut : ConditionGroup → ConditionGroup
  | .nil => .nil
  | .group op conditions children =>
    if op = .not then
      .group .not ((conditions.take 1).map LeafCondition.cut)
        (if conditions.isEmpty then (cutEach children).take 1 else [])
    else .group op (conditions.map LeafCondition.cut) (cutEach children)

def cutEach : List ConditionGroup → List ConditionGroup
  | [] => []
  | child :: rest => child.cut :: cutEach rest

end

theorem holdsEach_eq_map (attrs : GoMap) (children : List ConditionGroup) :
    holdsEach attrs children = children.map (ConditionGroup.holds attrs) := by
  induction children with
  | nil => rfl
  | cons child rest ih => rw [holdsEach, ih, List.map_cons]

theorem cutEach_eq_map (children : List ConditionGroup) :
    cutEach children = children.map ConditionGroup.cut := by
  induction children with
  | nil => rfl
  | cons child rest ih => rw [cutEach, ih, List.map_cons]

theorem mapM_evalLeaf (attrs : GoMap) (conditions : List LeafCondition) :
    conditions.mapM (evalLeaf attrs) =
      if conditions.all (LeafCondition.safe attrs) then
        some (conditions.map fun lc => lc.cut.holds attrs)
      else none := by
  induction conditions with
  | nil => rfl
  | cons lc rest ih =>
    rw [List.mapM_cons, evalLeaf_eq, ih, List.all_cons]
    cases lc.safe attrs with
    | false => rfl
    | true => cases rest.all (LeafCondition.safe attrs) <;> rfl

/-- Of a tree without panics the members are combined as those of the cut tree. -/
theorem combine_cut (attrs : GoMap) (op : ConditionOp) (conditions : List LeafCondition)
    (children : List ConditionGroup) :
    combine op ((conditions.map fun lc => lc.cut.holds attrs) ++
        children.map fun child => child.cut.holds attrs) =
      (ConditionGroup.group op conditions children).cut.holds attrs := by
  cases op with
  | not =>
    rw [ConditionGroup.cut, if_pos rfl, cutEach_eq_map, ConditionGroup.holds, holdsEach_eq_map]
    cases conditions with
    | nil => cases children <;> simp [combine]
    | cons lc rest => simp [combine]
  | and | or =>
    rw [ConditionGroup.cut, if_neg (by simp), ConditionGroup.holds, holdsEach_eq_map,
      cutEach_eq_map, List.map_map, List.map_map]
    rfl
  | other raw =>
    rw [ConditionGroup.cut, if_neg (by simp), ConditionGroup.holds]
    rfl

mutual

/-- **The evaluator** computes the value of the cut tree, and panics if one comparison does. -/
theorem evalConditionGroup_eq (attrs : GoMap) : ∀ g : ConditionGroup,
    evalConditionGroup attrs g = if g.safe attrs then some (g.cut.holds attrs) else none
  | .nil => rfl
  | .group op conditions children => by
    rw [evalConditionGroup, mapM_evalLeaf, evalChildren_eq attrs children, ConditionGroup.safe]
    cases conditions.all (LeafCondition.safe attrs) with
    | false => rfl
    | true =>
      cases safeEach attrs children with
      | false => rfl
      | true => exact congrArg some (combine_cut attrs op conditions children)

theorem evalChildren_eq (attrs : GoMap) : ∀ children : List ConditionGroup,
    evalChildren attrs children =
      if safeEach attrs children then some (children.map fun child => child.cut.holds attrs)
      else none
  | [] => rfl
  | child :: rest => by
    rw [evalChildren, evalConditionGroup_eq attrs child, evalChildren_eq attrs rest, safeEach]
    cases child.safe attrs with
    | false => rfl
    | true => cases safeEach attrs rest <;> rfl

end

/-- The evaluator returns the value of the tree. -/
def Evaluates (attrs : GoMap) (g : ConditionGroup) : Prop :=
  evalConditionGroup attrs g = some (g.holds attrs)

theorem evaluates_iff (attrs : GoMap) (g : ConditionGroup) :
    Evaluates attrs g ↔ g.safe attrs = true ∧ g.cut.holds attrs = g.holds attrs := by
  rw [Evaluates, evalConditionGroup_eq]
  cases g.safe attrs <;> simp

-- ---------------------------------------------------------------------------
-- Trees the evaluator knows
-- ---------------------------------------------------------------------------

mutual

/-- `eq` and `ne` only, and no NOT over several members. -/
def ConditionGroup.plain : ConditionGroup → Bool
  | .nil => true
  | .group op conditions children =>
    conditions.all (fun lc => lc.operator == "eq" || lc.operator == "ne") &&
      (op != .not || decide (conditions.length + children.length ≤ 1)) && plainEach children

def plainEach : List ConditionGroup → Bool
  | [] => true
  | child :: rest => child.plain && plainEach rest

end

mutual

theorem ConditionGroup.cut_of_plain : ∀ g : ConditionGroup, g.plain = true → g.cut = g
  | .nil, _ => rfl
  | .group op conditions children, h => by
    rw [ConditionGroup.plain, Bool.and_eq_true, Bool.and_eq_true] at h
    obtain ⟨⟨hknown, hfew⟩, hchildren⟩ := h
    have hconditions : conditions.map LeafCondition.cut = conditions := by
      refine (List.map_congr_left fun lc hlc => ?_).trans (List.map_id _)
      exact LeafCondition.cut_known (by simpa using List.all_eq_true.mp hknown lc hlc)
    rw [ConditionGroup.cut, cutEach_of_plain children hchildren]
    by_cases hnot : op = .not
    · have hlen : conditions.length + children.length ≤ 1 := by simpa [hnot] using hfew
      rw [if_pos hnot, hnot, List.map_take, hconditions]
      cases conditions with
      | nil => simp [List.take_of_length_le (Nat.le_trans (Nat.le_add_left _ _) hlen)]
      | cons lc rest =>
        obtain ⟨rfl, rfl⟩ : rest = [] ∧ children = [] := by
          simp only [List.length_cons] at hlen
          exact ⟨List.length_eq_zero_iff.mp (by omega), List.length_eq_zero_iff.mp (by omega)⟩
        rfl
    · rw [if_neg hnot, hconditions]

theorem cutEach_of_plain : ∀ children : List ConditionGroup, plainEach children = true →
    cutEach children = children
  | [], _ => rfl
  | child :: rest, h => by
    rw [plainEach, Bool.and_eq_true] at h
    rw [cutEach, child.cut_of_plain h.1, cutEach_of_plain rest h.2]

end

/-- A tree the evaluator knows is evaluated right, or panics. -/
theorem evaluates_plain_iff {attrs : GoMap} {g : ConditionGroup} (h : g.plain = true) :
    Evaluates attrs g ↔ g.safe attrs = true := by
  rw [evaluates_iff, g.cut_of_plain h]
  simp

-- ---------------------------------------------------------------------------
-- The check with conditions
-- ---------------------------------------------------------------------------

/-- `*domain.CheckRequest` with the map of its caller, none being the nil map. -/
structure CallRequest where
  userID       : UUID
  tenantID     : UUID
  resourceType : String
  action       : String
  resource     : String
  conditions   : Option GoMap

/-- To `Check` the nil map is an empty one. -/
def CallRequest.checkRequest (req : CallRequest) : CheckRequest :=
  ⟨req.userID, req.tenantID, req.resourceType, req.action, req.resource, req.conditions.getD []⟩

/-- `m[key] = v`. -/
def setKey (m : GoMap) (key : String) (v : Any) : GoMap :=
  (key, v) :: m.filter fun e => e.1 != key

/-- The attributes the groups are evaluated on. -/
def CallRequest.attrs (req : CallRequest) : GoMap :=
  setKey (setKey (req.conditions.getD []) "resource_type" (.string req.resourceType)) "action"
    (.string req.action)

inductive GroupCheck where
  | returned (result : Except GGIDError CheckResult)
  | panicked

/-- The loop over the groups. -/
def checkGroups (attrs : GoMap) (result : CheckResult) : List ConditionGroup → GroupCheck
  | [] => .returned (.ok result)
  | group :: rest =>
    match evalConditionGroup attrs group with
    | none => .panicked
    | some false => .returned (.ok ⟨false, "ABAC condition group denied access", ""⟩)
    | some true => checkGroups attrs result rest

/-- What it returns, and the caller's conditions afterwards: a map that is not nil is written to. -/
def Evaluator.checkWithConditions (std : Stdlib) (e : Evaluator) (now : Time) (req : CallRequest)
    (groups : List ConditionGroup) : GroupCheck × Option GoMap :=
  match e.check std now req.checkRequest with
  | .error err => (.returned (.error err), req.conditions)
  | .ok result =>
    if !result.allowed then (.returned (.ok result), req.conditions)
    else (checkGroups req.attrs result groups, req.conditions.map fun _ => req.attrs)

-- ---------------------------------------------------------------------------
-- When the check with conditions is right
-- ---------------------------------------------------------------------------

/-- The groups up to the first one that does not hold as it is read. -/
def reached (attrs : GoMap) : List ConditionGroup → List ConditionGroup
  | [] => []
  | group :: rest => if group.cut.holds attrs then group :: reached attrs rest else [group]

def GroupCheck.Allows : GroupCheck → Prop
  | .returned (.ok result) => result.allowed = true
  | _ => False

theorem checkGroups_cons (attrs : GoMap) (result : CheckResult) (group : ConditionGroup)
    (rest : List ConditionGroup) : checkGroups attrs result (group :: rest) =
      if group.safe attrs then
        if group.cut.holds attrs then checkGroups attrs result rest
        else .returned (.ok ⟨false, "ABAC condition group denied access", ""⟩)
      else .panicked := by
  rw [checkGroups, evalConditionGroup_eq]
  cases group.safe attrs with
  | false => rfl
  | true => cases group.cut.holds attrs <;> rfl

section Groups

variable {attrs : GoMap} {result : CheckResult} {groups : List ConditionGroup}

theorem checkGroups_returns : checkGroups attrs result groups ≠ .panicked ↔
    ∀ g ∈ reached attrs groups, g.safe attrs = true := by
  induction groups with
  | nil => simp [checkGroups, reached]
  | cons group rest ih =>
    rw [checkGroups_cons, reached]
    by_cases hsafe : group.safe attrs = true
    · by_cases hholds : group.cut.holds attrs = true
      · rw [if_pos hsafe, if_pos hholds, if_pos hholds, ih, List.forall_mem_cons,
          and_iff_right hsafe]
      · rw [if_pos hsafe, if_neg hholds, if_neg hholds]
        simp [hsafe]
    · rw [if_neg hsafe]
      have hmem : group ∈ if group.cut.holds attrs = true then group :: reached attrs rest
          else [group] := by
        split <;> simp
      exact iff_of_false (fun h => h rfl) fun h => hsafe (h group hmem)

/-- Without a panic the groups that are read as true are the ones it takes. -/
theorem checkGroups_allows (hresult : result.allowed = true)
    (hsafe : ∀ g ∈ reached attrs groups, g.safe attrs = true) :
    (checkGroups attrs result groups).Allows ↔ ∀ g ∈ groups, g.cut.holds attrs = true := by
  induction groups with
  | nil => simpa [checkGroups, GroupCheck.Allows] using hresult
  | cons group rest ih =>
    rw [reached] at hsafe
    rw [checkGroups_cons, List.forall_mem_cons]
    by_cases hholds : group.cut.holds attrs = true
    · rw [if_pos hholds, List.forall_mem_cons] at hsafe
      rw [if_pos hsafe.1, if_pos hholds, ih hsafe.2, and_iff_right hholds]
    · rw [if_neg hholds] at hsafe
      rw [if_pos (hsafe group List.mem_cons_self), if_neg hholds]
      simp [GroupCheck.Allows, hholds]

end Groups

theorem lookup_setKey (m : GoMap) (key k : String) (v : Any) :
    (setKey m key v).lookup k = if k = key then some v else m.lookup k := by
  rw [setKey, List.lookup_cons]
  by_cases hk : k = key
  · simp [hk]
  · have hbeq : (k == key) = false := by simpa using hk
    have hrest := @lookup_restrict (fun a => a != key) m k
    rw [restrict] at hrest
    rw [hbeq, if_neg hk, hrest, if_pos (by simpa using hk)]

/-- `Check` allows the request. -/
def CheckAllows (std : Stdlib) (e : Evaluator) (now : Time) (req : CallRequest) : Prop :=
  ∃ result, e.check std now req.checkRequest = .ok result ∧ result.allowed = true

/-- It allows what `Check` allows if every group holds, and does not touch the caller's request. -/
structure ChecksGroups (std : Stdlib) (e : Evaluator) (now : Time) (req : CallRequest)
    (groups : List ConditionGroup) : Prop where
  returns   : (e.checkWithConditions std now req groups).1 ≠ .panicked
  allows    : (e.checkWithConditions std now req groups).1.Allows ↔
    CheckAllows std e now req ∧ ∀ g ∈ groups, g.holds req.attrs = true
  unchanged : (e.checkWithConditions std now req groups).2.map (fun m key => m.lookup key) =
    req.conditions.map fun m key => m.lookup key

/-- The caller's conditions are nil, or have the two entries already. -/
def CallRequest.Spared (req : CallRequest) : Prop :=
  ∀ conditions, req.conditions = some conditions →
    conditions.lookup "resource_type" = some (.string req.resourceType) ∧
      conditions.lookup "action" = some (.string req.action)

theorem spared_iff (req : CallRequest) :
    (req.conditions.map fun _ => req.attrs).map (fun m key => m.lookup key) =
      req.conditions.map (fun m key => m.lookup key) ↔ req.Spared := by
  rw [CallRequest.Spared]
  cases hconditions : req.conditions with
  | none => simp
  | some conditions =>
    have hattrs : req.attrs = setKey (setKey conditions "resource_type" (.string req.resourceType))
        "action" (.string req.action) := by
      rw [CallRequest.attrs, hconditions]
      rfl
    simp only [Option.map_some, Option.some.injEq, forall_eq', hattrs]
    constructor
    · intro h
      have htype := congrFun h "resource_type"
      have haction := congrFun h "action"
      simp only [lookup_setKey] at htype haction
      exact ⟨by simpa using htype.symm, by simpa using haction.symm⟩
    · rintro ⟨htype, haction⟩
      funext key
      rw [lookup_setKey, lookup_setKey]
      by_cases hkey : key = "action"
      · rw [if_pos hkey, hkey, haction]
      · rw [if_neg hkey]
        by_cases hkey' : key = "resource_type"
        · rw [if_pos hkey', hkey', htype]
        · rw [if_neg hkey']

/-- Only a request that `Check` allows comes to the groups. -/
theorem checks_iff (std : Stdlib) (e : Evaluator) (now : Time) (req : CallRequest)
    (groups : List ConditionGroup) : ChecksGroups std e now req groups ↔
      (CheckAllows std e now req →
        req.Spared ∧ (∀ g ∈ reached req.attrs groups, g.safe req.attrs = true) ∧
          ((∀ g ∈ groups, g.cut.holds req.attrs = true) ↔
            ∀ g ∈ groups, g.holds req.attrs = true)) := by
  by_cases hallows : CheckAllows std e now req
  · obtain ⟨result, hcheck, hresult⟩ := hallows
    have hout : e.checkWithConditions std now req groups =
        (checkGroups req.attrs result groups, req.conditions.map fun _ => req.attrs) := by
      rw [Evaluator.checkWithConditions, hcheck]
      simp [hresult]
    have hallows : CheckAllows std e now req := ⟨result, hcheck, hresult⟩
    rw [forall_prop_of_true hallows]
    constructor
    · rintro ⟨hreturns, hright, hunchanged⟩
      rw [hout] at hreturns hright hunchanged
      have hsafe := checkGroups_returns.mp hreturns
      rw [checkGroups_allows hresult hsafe, and_iff_right hallows] at hright
      exact ⟨(spared_iff req).mp hunchanged, hsafe, hright⟩
    · rintro ⟨hspared, hsafe, hsame⟩
      refine ⟨?_, ?_, ?_⟩ <;> rw [hout]
      · exact checkGroups_returns.mpr hsafe
      · rw [checkGroups_allows hresult hsafe, and_iff_right hallows]
        exact hsame
      · exact (spared_iff req).mpr hspared
  · refine iff_of_true ?_ fun h => absurd h hallows
    have hout : ∃ result, ¬ (GroupCheck.returned result).Allows ∧
        e.checkWithConditions std now req groups = (.returned result, req.conditions) := by
      rw [Evaluator.checkWithConditions]
      cases hcheck : e.check std now req.checkRequest with
      | error err => exact ⟨.error err, id, rfl⟩
      | ok result =>
        have hdenied : result.allowed = false := by
          rw [← Bool.not_eq_true]
          exact fun h => hallows ⟨result, hcheck, h⟩
        refine ⟨.ok result, ?_, by simp [hdenied]⟩
        simp [GroupCheck.Allows, hdenied]
    obtain ⟨result, hdenied, hout⟩ := hout
    refine ⟨?_, ?_, ?_⟩ <;> rw [hout]
    · simp
    · exact iff_of_false hdenied fun h => hallows h.1

/-- **Condition groups** are evaluated right where no comparison panics and nothing depends on
the operators that are not known and on the later members of a NOT; the check with conditions is
right where that is so of the groups it comes to, and the caller's map is spared. -/
theorem condition_groups_iff (std : Stdlib) :
    (∀ attrs g, Evaluates attrs g ↔
      g.safe attrs = true ∧ g.cut.holds attrs = g.holds attrs) ∧
    (∀ e now req groups, ChecksGroups std e now req groups ↔
      (CheckAllows std e now req →
        req.Spared ∧ (∀ g ∈ reached req.attrs groups, g.safe req.attrs = true) ∧
          ((∀ g ∈ groups, g.cut.holds req.attrs = true) ↔
            ∀ g ∈ groups, g.holds req.attrs = true))) :=
  ⟨evaluates_iff, checks_iff std⟩

/-- A member of the list that is asked for is not let in, one who is blocked is, and two equal
lists are not compared. -/
theorem groups_misread :
    ¬ Evaluates [("role", .string "admin")]
      (.group .and [⟨"role", "in", .slice [.string "admin"]⟩] []) ∧
    ¬ Evaluates [("guest", .bool false), ("blocked", .bool true)]
      (.group .not [⟨"guest", "eq", .bool true⟩, ⟨"blocked", "eq", .bool true⟩] []) ∧
    ¬ Evaluates [("groups", .slice [])] (.group .and [⟨"groups", "eq", .slice []⟩] []) := by
  unfold Evaluates
  decide

end Ggid.Policy
