import Ggid.Go.Strings
import Ggid.Policy.Domain

/-!
# Policy engine — matching

The matching functions of `service/evaluator.go`: action patterns, resource
globs and the AWS-style condition blocks. All of them are pure; a policy is
decided by these three on the request alone.

`matchConditions_restrict` is the fact about them that matters later: when a
request sends fewer of its attributes, a condition map still holds exactly if it
held before and none of the attributes it names was dropped.
-/

namespace Ggid.Policy

open Ggid.Go

/-! ## Actions and resources -/

/-- One iteration of the loop in `matchActions`. -/
def matchAction (pattern action : String) : Bool :=
  pattern = "*" || pattern = action ||
    (Strings.hasSuffix pattern.toList ['*'] &&
      Strings.hasPrefix action.toList (Strings.trimSuffixChar pattern.toList '*'))

def matchActions (patterns : List String) (action : String) : Bool :=
  patterns.any fun pattern => matchAction pattern action

/-- The loop of `matchGlob`: `i` counts the parts, `rest` is `s[idx:]`. -/
def globLoop (s : List Char) : Nat → List (List Char) → List Char → Bool
  | _, [], _ => true
  | i, part :: parts, rest =>
    if part = [] then globLoop s (i + 1) parts rest
    else if i = 0 && !Strings.hasPrefix s part then false
    else match Strings.index part rest with
      | none => false
      | some pos => globLoop s (i + 1) parts (rest.drop (pos + part.length))

/-- `matchGlob` on characters. -/
def matchGlobChars (pattern s : List Char) : Bool :=
  let parts := Strings.split pattern '*'
  if parts.length = 1 then pattern = s
  else if !globLoop s 0 parts s then false
  -- a pattern that does not end with `*` pins the end of the string
  else if !Strings.hasSuffix pattern ['*'] then Strings.hasSuffix s (parts.getLastD [])
  else true

def matchGlob (pattern s : String) : Bool := matchGlobChars pattern.toList s.toList

def matchResources (patterns : List String) (resource : String) : Bool :=
  patterns.any fun pattern => pattern = "*" || pattern = resource || matchGlob pattern resource

/-! ## Conditions -/

section Conditions

variable (std : Stdlib)

def toStr : Any → String
  | .string val => val
  | .float64 val => std.sprintG val
  | .bool val => if val then "true" else "false"
  | val => sprintV std val

def toFloat64 : Any → Float64
  | .float64 val => val
  | .string val => std.sscanG val
  | _ => .zero

def toBool : Any → Bool
  | .bool val => val
  | .string val => val = "true" || val = "1"
  | _ => false

def toDate (v : Any) : Time :=
  match std.parseRFC3339 (toStr std v) with
  | some t => t
  | none => match std.parseDateOnly (toStr std v) with
    | some t => t
    | none => Time.zero

def matchIP (cidrOrIP actualIP : String) : Bool :=
  if !cidrOrIP.toList.contains '/' then cidrOrIP = actualIP
  else std.cidrContains cidrOrIP actualIP

def evaluateOperator (operator : String) (expected actual : Any) : Bool :=
  match operator with
  | "StringEquals" => toStr std expected = toStr std actual
  | "StringNotEquals" => toStr std expected ≠ toStr std actual
  | "StringEqualsIgnoreCase" => std.equalFold (toStr std expected) (toStr std actual)
  | "StringLike" => matchGlob (toStr std expected) (toStr std actual)
  | "StringNotLike" => !matchGlob (toStr std expected) (toStr std actual)
  | "NumericEquals" => Float64.eq (toFloat64 std expected) (toFloat64 std actual)
  | "NumericNotEquals" => !Float64.eq (toFloat64 std expected) (toFloat64 std actual)
  | "NumericLessThan" => Float64.lt (toFloat64 std actual) (toFloat64 std expected)
  | "NumericLessThanEquals" => Float64.le (toFloat64 std actual) (toFloat64 std expected)
  | "NumericGreaterThan" => Float64.lt (toFloat64 std expected) (toFloat64 std actual)
  | "NumericGreaterThanEquals" => Float64.le (toFloat64 std expected) (toFloat64 std actual)
  | "Bool" => toBool expected = toBool actual
  | "DateLessThan" => toDate std actual < toDate std expected
  | "DateGreaterThan" => toDate std expected < toDate std actual
  | "IpAddress" => matchIP std (toStr std expected) (toStr std actual)
  | "NotIpAddress" => !matchIP std (toStr std expected) (toStr std actual)
  | _ => false

/-- One attribute of one operator block. -/
def matchClause (requestConds : GoMap) (operator attr : String) (expectedVal : Any) : Bool :=
  match requestConds.lookup attr with
  | none => false
  | some actualVal => evaluateOperator std operator expectedVal actualVal

/-- One operator block; a block that is not an object is skipped. -/
def matchBlock (requestConds : GoMap) (operator : String) : Any → Bool
  | .map condMap => condMap.all fun kv => matchClause std requestConds operator kv.1 kv.2
  | _ => true

def matchConditions (policyConds requestConds : GoMap) : Bool :=
  if policyConds.isEmpty then true
  else if requestConds.isEmpty then false
  else policyConds.all fun kv => matchBlock std requestConds kv.1 kv.2

/-! ## Attributes a condition block depends on -/

/-- The attributes the conditions of a policy name. -/
def conditionAttrs (policyConds : GoMap) : List String :=
  policyConds.flatMap fun kv =>
    match kv.2 with
    | .map condMap => condMap.map Prod.fst
    | _ => []

/-- The request attributes that survive when only the keys in `keep` are sent. -/
def restrict (keep : String → Bool) (conds : GoMap) : GoMap :=
  conds.filter fun kv => keep kv.1

variable {std}

theorem lookup_restrict {keep : String → Bool} {conds : GoMap} (attr : String) :
    (restrict keep conds).lookup attr = if keep attr then conds.lookup attr else none := by
  induction conds with
  | nil => simp [restrict]
  | cons kv rest ih =>
    obtain ⟨k, v⟩ := kv
    rw [restrict] at ih ⊢
    by_cases hattr : attr = k
    · subst hattr
      by_cases hk : keep attr = true
      · simp [hk]
      · simp only [Bool.not_eq_true] at hk
        rw [List.filter_cons, if_neg (by simp [hk]), ih]
        simp [hk]
    · have hbeq : (attr == k) = false := by simpa using hattr
      by_cases hk : keep k = true
      · rw [List.filter_cons, if_pos hk, List.lookup_cons, List.lookup_cons, hbeq]
        exact ih
      · rw [List.filter_cons, if_neg hk, List.lookup_cons, hbeq]
        exact ih

theorem matchClause_restrict {keep : String → Bool} {conds : GoMap} {operator attr : String}
    {v : Any} :
    matchClause std (restrict keep conds) operator attr v =
      (keep attr && matchClause std conds operator attr v) := by
  rw [matchClause, lookup_restrict]
  by_cases hk : keep attr = true
  · rw [if_pos hk, hk, Bool.true_and, matchClause]
  · rw [if_neg hk]
    simp only [Bool.not_eq_true] at hk
    rw [hk, Bool.false_and]

/-- A block holds of the remaining attributes exactly when it held of all of
them and none of the attributes it names was dropped. -/
theorem matchBlock_restrict {keep : String → Bool} {conds : GoMap} {operator : String} {v : Any} :
    matchBlock std (restrict keep conds) operator v = true ↔
      matchBlock std conds operator v = true ∧
        ∀ attr ∈ conditionAttrs [(operator, v)], keep attr = true := by
  cases v with
  | map condMap =>
    have hattrs : conditionAttrs [(operator, .map condMap)] = condMap.map Prod.fst := by
      simp [conditionAttrs]
    rw [hattrs, matchBlock, matchBlock, List.all_eq_true, List.all_eq_true]
    refine ⟨fun h => ⟨fun kv hkv => ?_, fun attr hattr => ?_⟩, fun h kv hkv => ?_⟩
    · have := h kv hkv
      rw [matchClause_restrict, Bool.and_eq_true] at this
      exact this.2
    · obtain ⟨kv, hkv, hfst⟩ := List.mem_map.mp hattr
      have := h kv hkv
      rw [matchClause_restrict, Bool.and_eq_true] at this
      exact hfst ▸ this.1
    · rw [matchClause_restrict, Bool.and_eq_true]
      exact ⟨h.2 kv.1 (List.mem_map_of_mem hkv), h.1 kv hkv⟩
  | nil => simp [matchBlock, conditionAttrs]
  | bool b => simp [matchBlock, conditionAttrs]
  | float64 x => simp [matchBlock, conditionAttrs]
  | string s => simp [matchBlock, conditionAttrs]
  | slice xs => simp [matchBlock, conditionAttrs]

theorem mem_conditionAttrs {policyConds : GoMap} {attr : String} :
    attr ∈ conditionAttrs policyConds ↔
      ∃ kv ∈ policyConds, attr ∈ conditionAttrs [kv] := by
  simp [conditionAttrs]

variable (std) in
/-- **Dropping attributes.** As long as some attribute is left, a condition map
holds of what is left exactly when it held before and names no dropped
attribute. -/
theorem matchConditions_restrict (policyConds : GoMap) {keep : String → Bool} {conds : GoMap}
    (hleft : restrict keep conds ≠ []) :
    matchConditions std policyConds (restrict keep conds) = true ↔
      matchConditions std policyConds conds = true ∧
        ∀ attr ∈ conditionAttrs policyConds, keep attr = true := by
  have hconds : conds ≠ [] := by
    intro h
    apply hleft
    rw [h, restrict, List.filter_nil]
  by_cases hp : policyConds = []
  · subst hp
    simp [matchConditions, conditionAttrs]
  · rw [matchConditions, matchConditions]
    simp only [List.isEmpty_iff, hp, hconds, hleft, if_false, List.all_eq_true]
    refine ⟨fun h => ⟨fun kv hkv => ?_, fun attr hattr => ?_⟩, fun h kv hkv => ?_⟩
    · exact (matchBlock_restrict.mp (h kv hkv)).1
    · obtain ⟨kv, hkv, hmem⟩ := mem_conditionAttrs.mp hattr
      exact (matchBlock_restrict.mp (h kv hkv)).2 attr hmem
    · refine matchBlock_restrict.mpr ⟨h.1 kv hkv, fun attr hattr => ?_⟩
      exact h.2 attr (mem_conditionAttrs.mpr ⟨kv, hkv, hattr⟩)

end Conditions

end Ggid.Policy
