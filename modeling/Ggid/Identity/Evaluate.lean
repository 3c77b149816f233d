import Ggid.Identity.Filter

/-!
# Identity service — evaluating SCIM filters

What a filter says of the attributes of a resource.

`resolveAttrPath` calls itself for what is in front of a dot or a bracket, for what is behind
a bracket, and through the filter between brackets. That filter ends at the first `]`, so
there is no bracket in its own paths, and twice more than the path is long is enough.
-/

namespace Ggid.Identity

open Ggid.Go

variable (std : Stdlib)

-- ---------------------------------------------------------------------------
-- Comparisons
-- ---------------------------------------------------------------------------

def toStr : Any → String
  | .nil => ""
  | .string s => s
  | .bool b => if b then "true" else "false"
  | .float64 x => std.sprintG x
  | v => sprintV std v

def isNil : Any → Bool
  | .nil => true
  | _ => false

def valuesEqual (a b : Any) : Bool :=
  if isNil a || isNil b then isNil a && isNil b
  else std.equalFold (toStr std a) (toStr std b)

def compareValues (a b : Any) : Ordering :=
  match std.parseRFC3339 (toStr std a), std.parseRFC3339 (toStr std b) with
  | some ta, some tb => compare ta tb
  | _, _ => compare (toStr std a) (toStr std b)

def evaluateComparison (actual : Any) (op : ComparisonOp) (expected : Any) : Bool :=
  match op with
  | .pr => !isNil actual
  | .eq => valuesEqual std actual expected
  | .ne => !valuesEqual std actual expected
  | .co => (Strings.index (toStr std expected).toList (toStr std actual).toList).isSome
  | .sw => Strings.hasPrefix (toStr std actual).toList (toStr std expected).toList
  | .ew => Strings.hasSuffix (toStr std actual).toList (toStr std expected).toList
  | .gt => compareValues std actual expected = .gt
  | .ge => compareValues std actual expected ≠ .lt
  | .lt => compareValues std actual expected = .lt
  | .le => compareValues std actual expected ≠ .gt

-- ---------------------------------------------------------------------------
-- Attribute paths
-- ---------------------------------------------------------------------------

/-- `s[:i]` and `s[i+1:]`, `i` being the first index of the character. -/
def cut (ch : Char) (s : List Char) : Option (List Char × List Char) :=
  if ch ∈ s then some (s.takeWhile (· ≠ ch), (s.dropWhile (· ≠ ch)).tail) else none

/-- The value of the first key that is the same but for the case. -/
def lookupFold (attrs : GoMap) (key : String) : Any :=
  ((attrs.find? fun e => std.equalFold e.1 key).map Prod.snd).getD .nil

/-- `Evaluate`, with the values of attribute paths. -/
def FilterExpr.evaluateBy (resolve : List Char → Any) : FilterExpr → Bool
  | .attr attrPath op value => evaluateComparison std (resolve attrPath.toList) op value
  | .and left right => left.evaluateBy resolve && right.evaluateBy resolve
  | .or left right => left.evaluateBy resolve || right.evaluateBy resolve
  | .not inner => !inner.evaluateBy resolve

def resolveAttrPath : Nat → GoMap → List Char → Any
  | 0, _, _ => .nil
  | turns + 1, attrs, path =>
    match cut '[' path with
    | none =>
      match cut '.' path with
      | none => lookupFold std attrs (String.ofList path)
      | some (parent, child) =>
        match resolveAttrPath turns attrs parent with
        | .map m => lookupFold std m (String.ofList child)
        | _ => .nil
    | some (attrName, behind) =>
      match cut ']' behind with
      | none => .nil
      | some (filterStr, rest) =>
        let subPath := if rest.head? = some '.' then rest.tail else rest
        match resolveAttrPath turns attrs attrName, parseFilter (String.ofList filterStr) with
        | .slice items, .ok innerFilter =>
          let results := items.filterMap fun item =>
            match item with
            | .map m =>
              if innerFilter.all (·.evaluateBy std (resolveAttrPath turns m)) then
                some (if subPath ≠ [] then resolveAttrPath turns m subPath else item)
              else none
            | _ => none
          match results with
          | [] => .nil
          | [result] => result
          | results => .slice results
        | _, _ => .nil

/-- `Evaluate`. -/
def FilterExpr.evaluate (e : FilterExpr) (attrs : GoMap) : Bool :=
  e.evaluateBy std fun path => resolveAttrPath std (2 * path.length + 2) attrs path

end Ggid.Identity
