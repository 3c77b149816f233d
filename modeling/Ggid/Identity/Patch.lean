import Ggid.Go.Heap
import Ggid.Identity.Evaluate
import Ggid.Lib.Run

/-!
# Identity service — SCIM patches

`ApplyPatch` copies the attribute map it is given and applies the operations to the copy, one
after the other, until one fails. The copy is one level deep: maps inside are the same maps.

Attributes are found by names that are the same but for the case; of several, the first a
`range` comes to. The assignments `items[i] = m` and those of a map to where it is already
write what is there.
-/

namespace Ggid.Identity

open Ggid.Go Ggid.Lib

/-- `json.RawMessage`, by what `json.Unmarshal` makes of it. -/
inductive RawMessage where
  | empty
  | malformed (err : String)
  | json (value : Any)

structure PatchOperation where
  op    : String
  path  : String
  value : RawMessage

inductive PatchOpError where
  /-- `invalid value: %w` -/
  | invalidValue (err : String)
  /-- `add without path requires object value` -/
  | addRequiresObject
  /-- `replace without path requires object value` -/
  | replaceRequiresObject
  /-- `remove requires a path` -/
  | removeRequiresPath
  /-- `invalid filter %q: %w` -/
  | invalidFilter (filter : String) (err : FilterError)
  /-- `invalid filter in path: %w` -/
  | invalidFilterInPath (err : FilterError)
  /-- `unsupported operation %q` -/
  | unsupported (op : String)

/-- `op[%d] %s: %w`. -/
structure PatchError where
  index : Nat
  err   : PatchOpError

-- ---------------------------------------------------------------------------
-- Paths
-- ---------------------------------------------------------------------------

/-- `isAlphaStr`. -/
def isAlphaStr (s : List Char) : Bool := s ≠ [] && s.all isAlpha

def joinColon (segments : List (List Char)) : List Char := [':'].intercalate segments

/-- The loop for the version and the type suffix, over the segments not looked at yet. -/
def splitUrn (before : List (List Char)) : List (List Char) → Option (List Char × List Char)
  | version :: suffix :: rest =>
    if '.' ∈ version ∧ isAlphaStr suffix = true then
      if rest ≠ [] then some (joinColon (before ++ [version, suffix]), joinColon rest)
      else some (joinColon (before ++ [version, suffix]), [])
    else splitUrn (before ++ [version]) (suffix :: rest)
  | _ => none

/-- `attrName`, `subPath` and `filter`. -/
def parsePatchPath (path : String) : String × String × String :=
  let path := (Strings.trimSpace path).toList
  match cut '[' path with
  | none =>
    if Strings.hasPrefix path ['u', 'r', 'n', ':'] then
      let segments := Strings.split path ':'
      match splitUrn [] segments with
      | some (schemaUrn, subPath) => (String.ofList schemaUrn, String.ofList subPath, "")
      | none =>
        match cut '.' (segments.getLastD []) with
        | some (afterColon, subPath) =>
          (String.ofList (joinColon (segments.dropLast ++ [afterColon])), String.ofList subPath, "")
        | none => (String.ofList path, "", "")
    else
      match cut '.' path with
      | some (attrName, subPath) => (String.ofList attrName, String.ofList subPath, "")
      | none => (String.ofList path, "", "")
  | some (attrName, behind) =>
    match cut ']' behind with
    | none => (String.ofList attrName, "", "")
    | some (filter, rest) =>
      let subPath := if rest.head? = some '.' then rest.tail else rest
      (String.ofList attrName, String.ofList subPath, Strings.trimSpace (String.ofList filter))

-- ---------------------------------------------------------------------------
-- Attributes
-- ---------------------------------------------------------------------------

variable (std : Stdlib)

def getAttrCaseInsensitive (attrs : Entries) (key : String) : Val :=
  ((attrs.find? fun e => std.equalFold e.1 key).map Prod.snd).getD .nil

/-- `attrs[key] = value`. -/
def assign (attrs : Entries) (key : String) (value : Val) : Entries :=
  if attrs.any fun e => e.1 = key then attrs.map fun e => if e.1 = key then (key, value) else e
  else attrs ++ [(key, value)]

def setAttrCaseInsensitive (attrs : Entries) (key : String) (value : Val) : Entries :=
  match attrs.find? fun e => std.equalFold e.1 key with
  | some (k, _) => assign attrs k value
  | none => assign attrs key value

def deleteCaseInsensitive (attrs : Entries) (key : String) : Entries :=
  match attrs.find? fun e => std.equalFold e.1 key with
  | some (k, _) => attrs.filter fun e => e.1 ≠ k
  | none => attrs

def setAttr (h : Heap) (attrs : Ref) (key : String) (value : Val) : Heap :=
  h.set attrs (setAttrCaseInsensitive std (h.get attrs) key value)

def deleteAttr (h : Heap) (attrs : Ref) (key : String) : Heap :=
  h.set attrs (deleteCaseInsensitive std (h.get attrs) key)

/-- `for k, v := range valMap { setAttrCaseInsensitive(attrs, k, v) }`. -/
def mergeAttrs (h : Heap) (attrs : Ref) (valMap : Entries) : Heap :=
  valMap.foldl (fun h e => setAttr std h attrs e.1 e.2) h

/-- The map that is there, or a new one. -/
def orMake (h : Heap) (existing : Val) : Ref × Heap :=
  match existing with
  | .map m => (m, h)
  | _ => h.alloc []

/-- The loop of `setNestedAttr`. -/
def setParts (value : Val) : Heap → Ref → List String → Heap
  | h, _, [] => h
  | h, current, [part] => setAttr std h current part value
  | h, current, part :: part' :: parts =>
    let (nm, h) := orMake h (getAttrCaseInsensitive std (h.get current) part)
    setParts value (setAttr std h current part (.map nm)) nm (part' :: parts)

def setNestedAttr (h : Heap) (attrs : Ref) (parent child : String) (value : Val) : Heap :=
  let (m, h) := orMake h (getAttrCaseInsensitive std (h.get attrs) parent)
  let parts := (Strings.split child.toList '.').map String.ofList
  setAttr std (setParts std value h m parts) attrs parent (.map m)

-- ---------------------------------------------------------------------------
-- Multi-valued attributes
-- ---------------------------------------------------------------------------

/-- The change of an element that matches. -/
def editItem (h : Heap) (m : Ref) (subPath : String) (value : Val) : Heap :=
  if subPath ≠ "" then setAttr std h m subPath value
  else
    match value with
    | .map valMap => mergeAttrs std h m (h.get valMap)
    | _ => h

/-- The loop of `addOrReplaceInArray`: whether an element matched. -/
def editItems (innerFilter : Option FilterExpr) (subPath : String) (value : Val) :
    Heap → List Val → Bool × Heap
  | h, [] => (false, h)
  | h, .map m :: items =>
    if innerFilter.all (·.evaluate std (h.fields m)) then
      (true, (editItems innerFilter subPath value (editItem std h m subPath value) items).2)
    else editItems innerFilter subPath value h items
  | h, _ :: items => editItems innerFilter subPath value h items

def sliceItems : Val → List Val
  | .slice xs => xs
  | _ => []

def addOrReplaceInArray (h : Heap) (attrs : Ref) (attrName filter subPath : String) (value : Val)
    (isReplace : Bool) : Except PatchOpError Heap :=
  let items := sliceItems (getAttrCaseInsensitive std (h.get attrs) attrName)
  match parseFilter filter with
  | .error err => .error (.invalidFilter filter err)
  | .ok innerFilter =>
    let (matched, h) := editItems std innerFilter subPath value h items
    let items := if !matched && !isReplace then items ++ [value] else items
    .ok (setAttr std h attrs attrName (.slice items))

/-- The loop of `applyRemove`: the elements that are kept. -/
def keepItems (innerFilter : Option FilterExpr) (subPath : String) :
    Heap → List Val → List Val × Heap
  | h, [] => ([], h)
  | h, .map m :: items =>
    if innerFilter.any (·.evaluate std (h.fields m)) then
      keepItems innerFilter subPath (if subPath ≠ "" then deleteAttr std h m subPath else h) items
    else
      let (kept, h) := keepItems innerFilter subPath h items
      (.map m :: kept, h)
  | h, item :: items =>
    let (kept, h) := keepItems innerFilter subPath h items
    (item :: kept, h)

-- ---------------------------------------------------------------------------
-- Operations
-- ---------------------------------------------------------------------------

def decodeValue (h : Heap) : RawMessage → Except PatchOpError (Val × Heap)
  | .empty => .ok (.nil, h)
  | .malformed err => .error (.invalidValue err)
  | .json value => .ok (h.load value)

/-- `add` with a path that names an attribute: a list is appended to. -/
def addAttr (h : Heap) (attrs : Ref) (attrName : String) (val : Val) : Heap :=
  match getAttrCaseInsensitive std (h.get attrs) attrName with
  | .slice existingArr =>
    match val with
    | .slice newValArr => setAttr std h attrs attrName (.slice (existingArr ++ newValArr))
    | _ => setAttr std h attrs attrName (.slice (existingArr ++ [val]))
  | _ => setAttr std h attrs attrName val

/-- `replace` with a path that names an attribute: an object is merged into one. -/
def replaceAttr (h : Heap) (attrs : Ref) (attrName : String) (val : Val) : Heap :=
  match getAttrCaseInsensitive std (h.get attrs) attrName with
  | .map existMap =>
    match val with
    | .map newMap => mergeAttrs std h existMap (h.get newMap)
    | _ => setAttr std h attrs attrName val
  | _ => setAttr std h attrs attrName val

/-- What `applyAdd` and `applyReplace` do alike. An operation that fails has written
nothing. -/
def applyPut (requiresObject : PatchOpError) (isReplace : Bool)
    (putAttr : Heap → Ref → String → Val → Heap) (h : Heap) (attrs : Ref) (path : String)
    (value : RawMessage) : Except PatchOpError Heap :=
  match decodeValue h value with
  | .error err => .error err
  | .ok (val, h) =>
    if path = "" then
      match val with
      | .map valMap => .ok (mergeAttrs std h attrs (h.get valMap))
      | _ => .error requiresObject
    else
      let (attrName, subPath, filter) := parsePatchPath path
      if filter = "" then
        if subPath ≠ "" then .ok (setNestedAttr std h attrs attrName subPath val)
        else .ok (putAttr h attrs attrName val)
      else addOrReplaceInArray std h attrs attrName filter subPath val isReplace

def applyAdd : Heap → Ref → String → RawMessage → Except PatchOpError Heap :=
  applyPut std .addRequiresObject false (addAttr std)

def applyReplace : Heap → Ref → String → RawMessage → Except PatchOpError Heap :=
  applyPut std .replaceRequiresObject true (replaceAttr std)

def applyRemove (h : Heap) (attrs : Ref) (path : String) : Except PatchOpError Heap :=
  if path = "" then .error .removeRequiresPath
  else
    let (attrName, subPath, filter) := parsePatchPath path
    if filter = "" then
      if subPath ≠ "" then
        match getAttrCaseInsensitive std (h.get attrs) attrName with
        | .map m => .ok (deleteAttr std h m subPath)
        | _ => .ok h
      else .ok (deleteAttr std h attrs attrName)
    else
      match getAttrCaseInsensitive std (h.get attrs) attrName with
      | .slice items =>
        match parseFilter filter with
        | .error err => .error (.invalidFilterInPath err)
        | .ok innerFilter =>
          let (kept, h) := keepItems std innerFilter subPath h items
          .ok (setAttr std h attrs attrName (.slice kept))
      | _ => .ok h

def applyOp (h : Heap) (attrs : Ref) (op : PatchOperation) : Except PatchOpError Heap :=
  let opLower := std.toLower (Strings.trimSpace op.op)
  if opLower = "add" then applyAdd std h attrs op.path op.value
  else if opLower = "replace" then applyReplace std h attrs op.path op.value
  else if opLower = "remove" then applyRemove std h attrs op.path
  else .error (.unsupported op.op)

/-- One turn of the loop, unless an operation failed before. -/
def patchStep (result : Ref) (s : Heap × Option PatchError) (e : PatchOperation × Nat) :
    Heap × Option PatchError :=
  match s.2 with
  | some _ => s
  | none =>
    match applyOp std s.1 result e.1 with
    | .ok h => (h, none)
    | .error err => (s.1, some ⟨e.2, err⟩)

/-- The result has its own map; `for k, v := range attrs { result[k] = v }` fills it. -/
def applyPatch (h : Heap) (attrs : Ref) (ops : List PatchOperation) :
    Heap × Except PatchError Ref :=
  let (result, h) := h.alloc (h.get attrs)
  let s := run (patchStep std result) (h, none) ops.zipIdx
  match s.2 with
  | some err => (s.1, .error err)
  | none => (s.1, .ok result)

end Ggid.Identity
