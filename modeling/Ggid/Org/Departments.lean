import Mathlib.Data.Char
import Mathlib.Data.List.Lex
import Mathlib.Logic.Relation
import Ggid.Go.Strings
import Ggid.Go.Value
import Ggid.Lib.Run
import Ggid.Lib.Table

/-!
# Org service — departments

`DeptRepository`: departments in a table, each with the id of its parent and with an `ltree` path.
`Create` stores a department under a path of no meaning and then updates the path. A move updates
the department, and `UpdateChildPaths` is to give all departments below it their new paths.

* `updateChildPaths_fails` — it asks for a prefix with an empty label, and so it does nothing;
* `pathsOk_create_iff`     — a department that is created;
* `pathsOk_move_iff`       — a department that is moved;
* `deptPaths_kept_iff`     — when the paths stay right.
-/

namespace Ggid.Org

open Ggid.Go Ggid.Lib

-- ---------------------------------------------------------------------------
-- Departments
-- ---------------------------------------------------------------------------

structure Department where
  id        : UUID
  orgID     : UUID
  parentID  : Option UUID
  name      : String
  path      : String
  managerID : Option UUID
  metadata  : String
  createdAt : Time
  deriving DecidableEq

/-- A row of the table; the repository compares its tenant, and never writes it. -/
structure DeptRow where
  dept     : Department
  tenantID : Option UUID
  deriving DecidableEq

abbrev DeptTable := Table fun r : DeptRow => r.dept.id

/-- What PostgreSQL does with paths: the texts that are paths, and the row that a `LIMIT 1` without
an order takes. -/
structure Database where
  accepts  : String → Bool
  limitOne : List DeptRow → Option DeptRow

/-- The statements of a call that the database fails to carry out, in order. -/
abbrev Faults := Nat → Bool

inductive DeptError where
  | notFound (resource id : String)
  | internal (message : String)
  deriving DecidableEq

-- ---------------------------------------------------------------------------
-- Paths
-- ---------------------------------------------------------------------------

/-- `strings.ReplaceAll(id.String(), "-", "_")`. -/
def label (id : UUID) : String :=
  String.ofList (id.string.toList.map fun c => if c = '-' then '_' else c)

/-- The path of a new department. -/
def newPath (parentPath : String) (id : UUID) : String :=
  if parentPath ≠ "" then parentPath ++ "." ++ label id else label id

/-- The empty path has no label. -/
def labels (path : String) : List (List Char) :=
  if path = "" then [] else Strings.split path.toList '.'

/-- `path <@ ancestor`. -/
def isDescendant (path ancestor : String) : Bool := (labels ancestor).isPrefixOf (labels path)

/-- A path with an empty label is refused. -/
def RejectsEmptyLabels (db : Database) : Prop :=
  ∀ path, [] ∈ labels path → db.accepts path = false

-- ---------------------------------------------------------------------------
-- The repository
-- ---------------------------------------------------------------------------

/-- What the database gives a new row. -/
structure Generated where
  id        : UUID
  createdAt : Time
  tenantID  : Option UUID

variable (db : Database) (fails : Faults)

/-- The path of the parent, if there is to be one. -/
def parentPath (t : DeptTable) : Option UUID → Except DeptError String
  | none => .ok ""
  | some p =>
    if fails 0 then .error (.internal "database error")
    else
      match t.find? p with
      | none => .error (.notFound "department (parent)" p.string)
      | some r => .ok r.dept.path

/-- `UPDATE departments SET … WHERE id = $1 AND tenant_id = (SELECT tenant_id FROM departments
WHERE id = $1)`: the row of that id, if it has a tenant. -/
def matching (id : UUID) (r : DeptRow) : Bool := r.dept.id = id && r.tenantID.isSome

def setPath (t : DeptTable) (id : UUID) (path : String) : DeptTable :=
  t.update (matching id) (fun r => { r with dept := { r.dept with path } }) fun _ => rfl

def create (t : DeptTable) (dept : Department) (gen : Generated) :
    DeptTable × Except DeptError Department :=
  match parentPath fails t dept.parentID with
  | .error e => (t, .error e)
  | .ok parentPath =>
    let dept := { dept with id := gen.id, createdAt := gen.createdAt }
    match
      if fails 1 || !db.accepts "temp" then none
      else t.insert? ⟨{ dept with path := "temp" }, gen.tenantID⟩ with
    | none => (t, .error (.internal "create department"))
    | some t =>
      let path := newPath parentPath gen.id
      if fails 2 || !db.accepts path then (t, .error (.internal "update dept path"))
      else (setPath t gen.id path, .ok { dept with path })

def getByID (t : DeptTable) (id : UUID) : Except DeptError Department :=
  if fails 0 then .error (.internal "database error")
  else
    match (t.find? id).filter (matching id) with
    | none => .error (.notFound "department" id.string)
    | some r => .ok r.dept

/-- The columns that `Update` writes. -/
def overwrite (dept : Department) (r : DeptRow) : DeptRow :=
  { r with
    dept := { r.dept with
      name := dept.name, parentID := dept.parentID, path := dept.path, managerID := dept.managerID
      metadata := dept.metadata } }

/-- The parent is a department, as the foreign key demands. -/
def parentExists (t : DeptTable) (dept : Department) : Bool :=
  dept.parentID.all fun p => (t.find? p).isSome

/-- `Update`, as the n-th statement. -/
def update (n : Nat) (t : DeptTable) (dept : Department) : Except DeptError DeptTable :=
  if fails n || !db.accepts dept.path || !parentExists t dept then
    .error (.internal "database error")
  else .ok (t.update (matching dept.id) (overwrite dept) fun _ => rfl)

/-- `ListByPathPrefix`, as the third statement of a move. -/
def listByPathPrefix (t : DeptTable) (pre : String) : Except DeptError (List Department) :=
  if fails 2 || !db.accepts pre then .error (.internal "list child departments")
  else
    let below := t.rows.filter fun r => isDescendant r.dept.path pre
    let tenantID := (db.limitOne below).bind DeptRow.tenantID
    .ok (((below.filter fun r => r.tenantID.isSome && r.tenantID = tenantID).map
      DeptRow.dept).mergeSort fun a b => labels a.path ≤ labels b.path)

/-- The loop of `UpdateChildPaths`, which ends with the first error. -/
def cascade (oldPrefix newPrefix : String) (n : Nat) (t : DeptTable) :
    List Department → DeptTable × Except DeptError Unit
  | [] => (t, .ok ())
  | child :: children =>
    let path := String.ofList
      (Strings.replaceFirst child.path.toList oldPrefix.toList newPrefix.toList)
    match update db fails n t { child with path } with
    | .error e => (t, .error e)
    | .ok t => cascade oldPrefix newPrefix (n + 1) t children

def updateChildPaths (t : DeptTable) (oldPrefix newPrefix : String) :
    DeptTable × Except DeptError Unit :=
  match listByPathPrefix db fails t (oldPrefix ++ ".") with
  | .error e => (t, .error e)
  | .ok children => cascade db fails oldPrefix newPrefix 3 t children

/-- `Update` with a new parent and path, then `UpdateChildPaths`. -/
def move (t : DeptTable) (id : UUID) (parentID : Option UUID) (path : String) :
    DeptTable × Except DeptError Unit :=
  match getByID fails t id with
  | .error e => (t, .error e)
  | .ok dept =>
    match update db fails 1 t { dept with parentID, path } with
    | .error e => (t, .error e)
    | .ok t => updateChildPaths db fails t dept.path path

inductive DeptCall where
  | create (fails : Faults) (dept : Department) (gen : Generated)
  | move (fails : Faults) (id : UUID) (parentID : Option UUID) (path : String)

def DeptCall.step (t : DeptTable) : DeptCall → DeptTable
  | .create fails dept gen => (Org.create db fails t dept gen).1
  | .move fails id parentID path => (Org.move db fails t id parentID path).1

-- ---------------------------------------------------------------------------
-- Right paths
-- ---------------------------------------------------------------------------

/-- The path is the parent's path and the own label. -/
def Placed (t : DeptTable) (d : Department) : Prop :=
  (d.parentID = none → d.path = label d.id) ∧
    ∀ p, d.parentID = some p → ∃ q, t.find? p = some q ∧ d.path = q.dept.path ++ "." ++ label d.id

def DeptPathsOk (t : DeptTable) : Prop := ∀ r ∈ t, Placed t r.dept

/-- `Create` comes to store the department, whose parent has this path. -/
def Inserts (t : DeptTable) (dept : Department) (gen : Generated) (path : String) : Prop :=
  parentPath fails t dept.parentID = .ok path ∧ fails 1 = false ∧ db.accepts "temp" = true ∧
    t.find? gen.id = none

/-- Its path is then written. -/
def Writes (gen : Generated) (path : String) : Prop :=
  fails 2 = false ∧ db.accepts (newPath path gen.id) = true ∧ gen.tenantID ≠ none

instance (gen : Generated) (path : String) : Decidable (Writes db fails gen path) :=
  inferInstanceAs (Decidable (_ ∧ _ ∧ _))

/-- A move comes to update the department. -/
def Moves (t : DeptTable) (id : UUID) (parentID : Option UUID) (path : String) (r : DeptRow) :
    Prop :=
  t.find? id = some r ∧ r.tenantID ≠ none ∧ fails 0 = false ∧ fails 1 = false ∧
    db.accepts path = true ∧ ∀ p, parentID = some p → (t.find? p).isSome

/-- The new path is that of the new parent and the own label, and it is the old one if there are
departments right below. -/
def Fits (t : DeptTable) (id : UUID) (parentID : Option UUID) (path : String) (r : DeptRow) :
    Prop :=
  (parentID = none → path = label id) ∧
    (∀ p, parentID = some p → p ≠ id ∧
      ∃ q, t.find? p = some q ∧ path = q.dept.path ++ "." ++ label id) ∧
    ((∃ child ∈ t, child.dept.id ≠ id ∧ child.dept.parentID = some id) → path = r.dept.path)

/-- What a call needs for the paths to stay right. -/
def DeptCall.KeepsPaths (t : DeptTable) : DeptCall → Prop
  | .create fails dept gen => ∀ path, Inserts db fails t dept gen path → Writes db fails gen path
  | .move fails id parentID path => ∀ r, Moves db fails t id parentID path r →
    Fits t id parentID path r

/-- A department right below another. -/
def RightBelow (t : DeptTable) (a b : UUID) : Prop :=
  ∃ r ∈ t, r.dept.id = a ∧ r.dept.parentID = some b

/-- What a call leaves alone. -/
def DeptCall.Frames (t : DeptTable) (c : DeptCall) : Prop :=
  match c with
  | .create _ _ gen => ∀ k, k ≠ gen.id → (DeptCall.step db t c).find? k = t.find? k
  | .move _ id _ _ => ∀ k, ¬ Relation.ReflTransGen (RightBelow t) k id →
    (DeptCall.step db t c).find? k = t.find? k


-- ---------------------------------------------------------------------------
-- Labels
-- ---------------------------------------------------------------------------

variable {db fails} {t : DeptTable}

theorem length_string (u : UUID) : u.string.toList.length = 36 := by
  simp [UUID.string, UUID.hexDigits]

theorem length_label (id : UUID) : (label id).toList.length = 36 := by
  simp only [label, String.toList_ofList, List.length_map, length_string]

/-- A path that is right has a label in it. -/
theorem Placed.length_le {d : Department} (h : Placed t d) : 36 ≤ d.path.toList.length := by
  cases hparent : d.parentID with
  | none =>
    rw [h.1 hparent, length_label]
  | some p =>
    obtain ⟨q, -, hpath⟩ := h.2 p hparent
    rw [hpath, String.toList_append, List.length_append, length_label]
    omega

/-- The new path is that of the parent, if the parent's path is right. -/
theorem placed_newPath {d : Department} {path : String} (hok : DeptPathsOk t)
    (hparent : parentPath fails t d.parentID = .ok path) :
    Placed t { d with path := newPath path d.id } := by
  unfold parentPath at hparent
  cases hid : d.parentID with
  | none =>
    rw [hid] at hparent
    refine ⟨fun _ => ?_, fun p hp => ?_⟩
    · cases hparent
      rfl
    · cases hp
  | some p =>
    rw [hid] at hparent
    dsimp only at hparent
    split_ifs at hparent
    cases hfind : t.find? p with
    | none =>
      rw [hfind] at hparent
      cases hparent
    | some q =>
      rw [hfind] at hparent
      cases hparent
      have hlength := (hok q (Table.find?_eq_some_iff.mp hfind).1).length_le
      have hne : q.dept.path ≠ "" := by
        intro hempty
        rw [hempty] at hlength
        exact absurd hlength (by decide)
      refine ⟨fun hnone => ?_, fun p' hp' => ?_⟩
      · cases hnone
      · cases hp'
        exact ⟨q, hfind, if_pos hne⟩

-- ---------------------------------------------------------------------------
-- Creating
-- ---------------------------------------------------------------------------

variable {dept : Department} {gen : Generated} {path : String}

/-- The row that `Create` leaves: its path was written, or it is the text it was stored with. -/
def created (dept : Department) (gen : Generated) (path : String) : DeptRow :=
  ⟨{ dept with id := gen.id, createdAt := gen.createdAt, path }, gen.tenantID⟩

theorem create_of_not_inserts (h : ∀ path, ¬ Inserts db fails t dept gen path) :
    (create db fails t dept gen).1 = t := by
  unfold create
  cases hparent : parentPath fails t dept.parentID with
  | error e => rfl
  | ok path =>
    dsimp only
    split
    · rfl
    · rename_i t' hinsert
      split_ifs at hinsert with hfails
      rw [Bool.or_eq_true, Bool.not_eq_true'] at hfails
      refine absurd ⟨hparent, ?_, ?_, ?_⟩ (h path)
      · rw [← Bool.not_eq_true]
        exact fun h1 => hfails (.inl h1)
      · rw [← Bool.not_eq_false]
        exact fun htemp => hfails (.inr htemp)
      · exact Table.find?_eq_none_iff.mpr (Table.insert?_eq_some hinsert).1

theorem mem_setPath {id : UUID} {r : DeptRow} : r ∈ setPath t id path ↔
    (∃ a ∈ t, a.dept.id = id ∧ a.tenantID ≠ none ∧
      r = { a with dept := { a.dept with path } }) ∨
    r ∈ t ∧ (r.dept.id = id → r.tenantID = none) := by
  unfold setPath matching
  rw [Table.mem_update]
  simp only [Bool.and_eq_true, decide_eq_true_eq, Option.isSome_iff_ne_none, Bool.and_eq_false_imp,
    Option.isSome_eq_false_iff, Option.isNone_iff_eq_none, and_assoc]

theorem mem_create {r : DeptRow} (h : Inserts db fails t dept gen path) :
    r ∈ (create db fails t dept gen).1 ↔ r ∈ t ∨
      r = created dept gen (if Writes db fails gen path then newPath path gen.id else "temp") := by
  obtain ⟨hparent, h1, htemp, hfresh⟩ := h
  have hnew := Table.find?_eq_none_iff.mp hfresh
  obtain ⟨t', hinsert⟩ := Table.insert?_of_fresh (a := created dept gen "temp") hnew
  have hmem := (Table.insert?_eq_some hinsert).2
  have hinsert' : (if fails 1 || !db.accepts "temp" then none
      else t.insert? ⟨{ dept with id := gen.id, createdAt := gen.createdAt, path := "temp" },
        gen.tenantID⟩) = some t' := by
    rw [if_neg (by simp [h1, htemp])]
    exact hinsert
  unfold create
  rw [hparent]
  dsimp only
  rw [hinsert']
  dsimp only
  split_ifs with hfails hwrites hwrites
  · rw [Bool.or_eq_true, Bool.not_eq_true'] at hfails
    rcases hfails with h2 | hpath
    · rw [hwrites.1] at h2
      cases h2
    · rw [hwrites.2.1] at hpath
      cases hpath
  · exact hmem r
  · rw [mem_setPath]
    constructor
    · rintro (⟨a, ha, hid, -, rfl⟩ | ⟨hr, hother⟩)
      · rcases (hmem a).mp ha with hold | rfl
        · exact absurd hid (hnew a hold)
        · exact .inr rfl
      · rcases (hmem r).mp hr with hold | rfl
        · exact .inl hold
        · exact absurd (hother rfl) hwrites.2.2
    · rintro (hold | rfl)
      · exact .inr ⟨(hmem r).mpr (.inl hold), fun hid => absurd hid (hnew r hold)⟩
      · exact .inl ⟨_, (hmem _).mpr (.inr rfl), rfl, hwrites.2.2, rfl⟩
  · have hnone : gen.tenantID = none := by
      by_contra htenant
      rw [Bool.or_eq_true, Bool.not_eq_true', not_or, Bool.not_eq_true, Bool.not_eq_false]
        at hfails
      exact hwrites ⟨hfails.1, hfails.2, htenant⟩
    rw [mem_setPath]
    constructor
    · rintro (⟨a, ha, hid, htenant, rfl⟩ | ⟨hr, -⟩)
      · rcases (hmem a).mp ha with hold | rfl
        · exact absurd hid (hnew a hold)
        · exact absurd hnone htenant
      · exact (hmem r).mp hr
    · rintro (hold | rfl)
      · exact .inr ⟨(hmem r).mpr (.inl hold), fun hid => absurd hid (hnew r hold)⟩
      · exact .inr ⟨(hmem _).mpr (.inr rfl), fun _ => hnone⟩

/-- What is found after a call that only adds a row. -/
theorem find_of_mem_or {t' : DeptTable} {new : DeptRow}
    (hmem : ∀ r, r ∈ t' ↔ r ∈ t ∨ r = new) {k : UUID} (hk : k ≠ new.dept.id) :
    t'.find? k = t.find? k := by
  apply Option.ext
  intro r
  rw [Table.find?_eq_some_iff, Table.find?_eq_some_iff, hmem]
  constructor
  · rintro ⟨hr | rfl, hid⟩
    · exact ⟨hr, hid⟩
    · exact absurd hid.symm hk
  · rintro ⟨hr, hid⟩
    exact ⟨.inl hr, hid⟩

/-- **A department that is created.** -/
theorem pathsOk_create_iff (hok : DeptPathsOk t) : DeptPathsOk (create db fails t dept gen).1 ↔
    ∀ path, Inserts db fails t dept gen path → Writes db fails gen path := by
  by_cases hinserts : ∃ path, Inserts db fails t dept gen path
  · obtain ⟨path, h⟩ := hinserts
    have hmem := fun r => mem_create (r := r) h
    constructor
    · intro hafter path' h'
      have hpath : path' = path := Except.ok.inj (h'.1.symm.trans h.1)
      rw [hpath]
      by_contra hwrites
      have hplaced := (hafter _ ((hmem _).mpr (.inr rfl))).length_le
      rw [created, if_neg hwrites] at hplaced
      have htemp : 36 ≤ "temp".toList.length := hplaced
      exact absurd htemp (by decide)
    · intro hwrites
      rw [if_pos (hwrites path h)] at hmem
      have hfind : ∀ p q, t.find? p = some q → (create db fails t dept gen).1.find? p = some q := by
        intro p q hq
        rw [← hq]
        refine find_of_mem_or hmem fun hid => ?_
        rw [hid] at hq
        exact absurd (h.2.2.2.symm.trans hq) (Option.some_ne_none q).symm
      have hkept : ∀ d, Placed t d → Placed (create db fails t dept gen).1 d := by
        intro d hd
        refine ⟨hd.1, fun p hp => ?_⟩
        obtain ⟨q, hq, hpath⟩ := hd.2 p hp
        exact ⟨q, hfind p q hq, hpath⟩
      intro r hr
      rcases (hmem r).mp hr with hold | rfl
      · exact hkept _ (hok r hold)
      · exact hkept _ (placed_newPath (d := { dept with id := gen.id, createdAt := gen.createdAt })
          hok h.1)
  · rw [create_of_not_inserts fun path h => hinserts ⟨path, h⟩]
    exact iff_of_true hok fun path h => absurd ⟨path, h⟩ hinserts

-- ---------------------------------------------------------------------------
-- Moving
-- ---------------------------------------------------------------------------

/-- Behind a dot at the end there is an empty label. -/
theorem nil_mem_labels_dot (old : String) : [] ∈ labels (old ++ ".") := by
  have hne : old ++ "." ≠ "" := by
    intro hempty
    have hlength := congrArg (fun s : String => s.toList.length) hempty
    simp at hlength
  have hdot : (old ++ ".").toList = old.toList ++ '.' :: [] := by
    rw [String.toList_append]
    rfl
  rw [labels, if_neg hne, Strings.split, hdot, List.splitOn_eq_splitOnP,
    List.splitOnP_append_cons _ _ (by decide), List.splitOnP_nil]
  exact List.mem_append_right _ (List.mem_singleton_self [])

/-- **`UpdateChildPaths` fails**, and does nothing. -/
theorem updateChildPaths_fails (hrejects : RejectsEmptyLabels db) (t : DeptTable)
    (old new : String) : updateChildPaths db fails t old new =
      (t, .error (.internal "list child departments")) := by
  unfold updateChildPaths listByPathPrefix
  rw [if_pos (by rw [hrejects _ (nil_mem_labels_dot old)]; simp)]

variable {id : UUID} {parentID : Option UUID} {r : DeptRow}

/-- The table after the department was updated. -/
def moved (t : DeptTable) (id : UUID) (parentID : Option UUID) (path : String) : DeptTable :=
  t.update (fun r => r.dept.id = id) (fun r => { r with dept := { r.dept with parentID, path } })
    fun _ => rfl

theorem getByID_eq_ok {d : Department} : getByID fails t id = .ok d ↔
    fails 0 = false ∧ ∃ r, t.find? id = some r ∧ r.tenantID ≠ none ∧ r.dept = d := by
  unfold getByID
  split_ifs with h0
  · simp [h0]
  · cases hfind : t.find? id with
    | none => simp
    | some r =>
      have hid := (Table.find?_eq_some_iff.mp hfind).2
      by_cases htenant : r.tenantID = none
      · simp [matching, htenant, Option.filter_some]
      · simp [matching, htenant, Option.filter_some, hid, h0, Option.isSome_iff_ne_none]

theorem update_eq_ok {n : Nat} {t' : DeptTable} : update db fails n t dept = .ok t' ↔
    fails n = false ∧ db.accepts dept.path = true ∧
      (∀ p, dept.parentID = some p → (t.find? p).isSome) ∧
      t' = t.update (matching dept.id) (overwrite dept) fun _ => rfl := by
  have hparent : parentExists t dept = true ↔ ∀ p, dept.parentID = some p → (t.find? p).isSome :=
    Option.all_eq_true _ _
  rw [← hparent]
  unfold update
  split_ifs with hfails
  · refine iff_of_false (fun h => by cases h) ?_
    rintro ⟨hn, haccepts, hexists, -⟩
    simp [hn, haccepts, hexists] at hfails
  · simp only [Bool.or_eq_true, Bool.not_eq_true', not_or, Bool.not_eq_true, Bool.not_eq_false]
      at hfails
    rw [Except.ok.injEq, eq_comm]
    exact ⟨fun h => ⟨hfails.1.1, hfails.1.2, hfails.2, h⟩, fun h => h.2.2.2⟩

/-- A move that comes to update the department does no more. -/
theorem move_of_moves (hrejects : RejectsEmptyLabels db)
    (h : Moves db fails t id parentID path r) :
    (move db fails t id parentID path).1 = moved t id parentID path := by
  obtain ⟨hfind, htenant, h0, h1, haccepts, hparent⟩ := h
  obtain ⟨hr, hid⟩ := Table.find?_eq_some_iff.mp hfind
  have hget : getByID fails t id = .ok r.dept := getByID_eq_ok.mpr ⟨h0, r, hfind, htenant, rfl⟩
  have hupdate : update db fails 1 t { r.dept with parentID, path } =
      .ok (moved t id parentID path) := by
    refine update_eq_ok.mpr ⟨h1, haccepts, hparent, ?_⟩
    apply Table.ext
    apply List.map_congr_left
    intro a ha
    by_cases haid : a.dept.id = id
    · have hsame : a = r := Table.eq_of_key ha hr (haid.trans hid.symm)
      subst hsame
      simp [matching, overwrite, haid, Option.isSome_iff_ne_none, htenant]
    · simp [matching, hid, haid]
  unfold move
  rw [hget]
  dsimp only
  rw [hupdate]
  dsimp only
  rw [updateChildPaths_fails hrejects]

theorem move_of_not_moves (h : ∀ r, ¬ Moves db fails t id parentID path r) :
    (move db fails t id parentID path).1 = t := by
  unfold move
  cases hget : getByID fails t id with
  | error e => rfl
  | ok d =>
    obtain ⟨h0, r, hfind, htenant, rfl⟩ := getByID_eq_ok.mp hget
    dsimp only
    cases hupdate : update db fails 1 t { r.dept with parentID, path } with
    | error e => rfl
    | ok t' =>
      obtain ⟨h1, haccepts, hparent, -⟩ := update_eq_ok.mp hupdate
      exact absurd ⟨hfind, htenant, h0, h1, haccepts, hparent⟩ (h r)

theorem find_moved (k : UUID) : (moved t id parentID path).find? k =
    (t.find? k).map fun r => if r.dept.id = id then
      { r with dept := { r.dept with parentID, path } } else r := by
  unfold moved
  rw [Table.find?_update]
  simp only [decide_eq_true_eq]

theorem find_moved_of_ne {k : UUID} (hk : k ≠ id) :
    (moved t id parentID path).find? k = t.find? k := by
  rw [find_moved]
  cases hfind : t.find? k with
  | none => rfl
  | some a =>
    have hid := (Table.find?_eq_some_iff.mp hfind).2
    rw [Option.map_some, if_neg (by rwa [hid])]

theorem find_moved_self (hfind : t.find? id = some r) : (moved t id parentID path).find? id =
    some { r with dept := { r.dept with parentID, path } } := by
  rw [find_moved, hfind, Option.map_some, if_pos (Table.find?_eq_some_iff.mp hfind).2]

theorem append_label_cancel {a b l : String} (h : a ++ "." ++ l = b ++ "." ++ l) : a = b := by
  rw [← String.toList_inj] at h ⊢
  simp only [String.toList_append, List.append_assoc] at h
  exact List.append_cancel_right h

theorem ne_append_label (a l : String) : a ≠ a ++ "." ++ l := by
  intro h
  have hlength := congrArg (fun s : String => s.toList.length) h
  simp only [String.toList_append, List.length_append] at hlength
  have hdot : ".".toList.length = 1 := by decide
  omega

theorem pathsOk_moved_iff (hok : DeptPathsOk t) (hfind : t.find? id = some r) :
    DeptPathsOk (moved t id parentID path) ↔ Fits t id parentID path r := by
  obtain ⟨hr, hid⟩ := Table.find?_eq_some_iff.mp hfind
  have hself : (moved t id parentID path).find? id =
      some { r with dept := { r.dept with parentID, path } } := find_moved_self hfind
  constructor
  · intro hafter
    have hplaced := hafter _ (Table.find?_eq_some_iff.mp hself).1
    refine ⟨fun hnone => ?_, fun p hp => ?_, ?_⟩
    · have hpath := hplaced.1 hnone
      rwa [hid] at hpath
    · obtain ⟨q, hq, hpath⟩ := hplaced.2 p hp
      rw [hid] at hpath
      have hne : p ≠ id := by
        rintro rfl
        rw [hself] at hq
        cases hq
        exact ne_append_label _ _ hpath
      rw [find_moved_of_ne hne] at hq
      exact ⟨hne, q, hq, hpath⟩
    · rintro ⟨child, hchild, hne, hparent⟩
      have hkept : (moved t id parentID path).find? child.dept.id = some child := by
        rw [find_moved_of_ne hne]
        exact Table.find?_eq_some_iff.mpr ⟨hchild, rfl⟩
      obtain ⟨q, hq, hnew⟩ := (hafter child (Table.find?_eq_some_iff.mp hkept).1).2 id hparent
      obtain ⟨q', hq', hold⟩ := (hok child hchild).2 id hparent
      rw [hself] at hq
      rw [hfind] at hq'
      cases hq
      cases hq'
      exact append_label_cancel (hnew.symm.trans hold)
  · rintro ⟨htop, hbelow, hchildren⟩ a ha
    rcases Table.mem_update.mp ha with ⟨b, hb, hbid, rfl⟩ | ⟨hb, hbid⟩
    · rw [decide_eq_true_eq] at hbid
      have hsame : b = r := Table.eq_of_key hb hr (hbid.trans hid.symm)
      subst hsame
      refine ⟨fun hnone => ?_, fun p hp => ?_⟩
      · rw [hid]
        exact htop hnone
      · obtain ⟨hne, q, hq, hpath⟩ := hbelow p hp
        refine ⟨q, ?_, ?_⟩
        · rwa [find_moved_of_ne hne]
        · rwa [hid]
    · rw [decide_eq_false_iff_not] at hbid
      refine ⟨(hok a hb).1, fun p hp => ?_⟩
      obtain ⟨q, hq, hpath⟩ := (hok a hb).2 p hp
      by_cases hp' : p = id
      · subst hp'
        rw [hfind] at hq
        cases hq
        refine ⟨_, hself, ?_⟩
        rw [hpath, ← hchildren ⟨a, hb, hbid, hp⟩]
      · exact ⟨q, by rwa [find_moved_of_ne hp'], hpath⟩

/-- **A department that is moved.** -/
theorem pathsOk_move_iff (hrejects : RejectsEmptyLabels db) (hok : DeptPathsOk t) :
    DeptPathsOk (move db fails t id parentID path).1 ↔
      ∀ r, Moves db fails t id parentID path r → Fits t id parentID path r := by
  by_cases hmoves : ∃ r, Moves db fails t id parentID path r
  · obtain ⟨r, h⟩ := hmoves
    rw [move_of_moves hrejects h, pathsOk_moved_iff hok h.1]
    constructor
    · intro hfits r' h'
      rwa [← Option.some.inj (h.1.symm.trans h'.1)]
    · exact fun hall => hall r h
  · rw [move_of_not_moves fun r h => hmoves ⟨r, h⟩]
    exact iff_of_true hok fun r h => absurd ⟨r, h⟩ hmoves

/-- The path that the handler of a restructuring gives a department: with its id as it is. -/
def restructurePath (newParentPath : String) (deptID : UUID) : String :=
  newParentPath ++ "." ++ deptID.string

theorem string_ne_label (u : UUID) : u.string ≠ label u := by
  intro h
  have hdash : '-' ∈ u.string.toList := by simp [UUID.string]
  rw [h, label, String.toList_ofList, List.mem_map] at hdash
  obtain ⟨c, -, hc⟩ := hdash
  split_ifs at hc with hdash'
  · exact absurd hc (by decide)
  · exact hdash' hc

/-- Where it is stored, it is not the right one. -/
theorem not_fits_restructurePath {p : UUID} {q : DeptRow} (hq : t.find? p = some q) :
    ¬ Fits t id (some p) (restructurePath q.dept.path id) r := by
  rintro ⟨-, hbelow, -⟩
  obtain ⟨-, q', hq', hpath⟩ := hbelow p rfl
  rw [hq, Option.some.injEq] at hq'
  rw [restructurePath, hq', ← String.toList_inj] at hpath
  simp only [String.toList_append] at hpath
  exact string_ne_label id (String.toList_inj.mp (List.append_cancel_left hpath))

-- ---------------------------------------------------------------------------
-- Runs
-- ---------------------------------------------------------------------------

theorem find_create_of_ne {k : UUID} (hk : k ≠ gen.id) :
    (create db fails t dept gen).1.find? k = t.find? k := by
  by_cases hinserts : ∃ path, Inserts db fails t dept gen path
  · obtain ⟨path, h⟩ := hinserts
    exact find_of_mem_or (fun r => mem_create h) hk
  · rw [create_of_not_inserts fun path h => hinserts ⟨path, h⟩]

theorem find_move_of_ne (hrejects : RejectsEmptyLabels db) {k : UUID} (hk : k ≠ id) :
    (move db fails t id parentID path).1.find? k = t.find? k := by
  by_cases hmoves : ∃ r, Moves db fails t id parentID path r
  · obtain ⟨r, h⟩ := hmoves
    rw [move_of_moves hrejects h, find_moved_of_ne hk]
  · rw [move_of_not_moves fun r h => hmoves ⟨r, h⟩]

theorem frames (hrejects : RejectsEmptyLabels db) (t : DeptTable) (c : DeptCall) :
    DeptCall.Frames db t c := by
  cases c with
  | create fails dept gen => exact fun k hk => find_create_of_ne hk
  | move fails id parentID path =>
    intro k hk
    refine find_move_of_ne hrejects fun heq => hk ?_
    rw [heq]

/-- **The paths stay right** exactly if every department that is stored gets its path, and every
department that is updated has no departments below it or keeps its path. No call touches other
departments, and `UpdateChildPaths` touches none. -/
theorem deptPaths_kept_iff (db : Database) (hrejects : RejectsEmptyLabels db) (calls : List DeptCall) :
    ((∀ t ∈ states (DeptCall.step db) Table.empty calls, DeptPathsOk t) ↔
      StepsOk (DeptCall.step db) (DeptCall.KeepsPaths db) Table.empty calls) ∧
    StepsOk (DeptCall.step db) (DeptCall.Frames db) Table.empty calls ∧
    ∀ fails t old new, (updateChildPaths db fails t old new).1 = t := by
  refine ⟨forall_states_iff_of_step (fun t c hok => ?_) ?_, ?_, fun fails t old new => ?_⟩
  · cases c with
    | create fails dept gen => exact pathsOk_create_iff hok
    | move fails id parentID path => exact pathsOk_move_iff hrejects hok
  · exact fun r hr => absurd hr (Table.not_mem_empty r)
  · exact stepsOk_of_split fun before c after _ => frames hrejects _ c
  · rw [updateChildPaths_fails hrejects]

end Ggid.Org

-- ---------------------------------------------------------------------------
-- An engineering department
-- ---------------------------------------------------------------------------

namespace Ggid.Org.DepartmentSample

open Ggid.Go Ggid.Lib

/-- Only empty labels are refused. -/
def database : Database where
  accepts path := !(labels path).contains []
  limitOne := List.head?

theorem rejects : RejectsEmptyLabels database := by
  intro path h
  simp [database, h]

def noFaults : Faults := fun _ => false

/-- A new department. -/
def added (id : UUID) (parentID : Option UUID) : DeptCall :=
  .create noFaults ⟨0, 7, parentID, "dept", "", none, "\x7b\x7d", 0⟩ ⟨id, 0, some 5⟩

/-- Engineering and, below it, the platform team. -/
def engineering : List DeptCall := [added 1 none, added 2 (some 1)]

/-- What the first call leaves. -/
def engineeringTable : DeptTable := run (DeptCall.step database) Table.empty [added 1 none]

theorem parentPath_platform : parentPath noFaults engineeringTable (some 1) = .ok (label 1) := by
  decide

theorem accepts_platform : database.accepts (newPath (label 1) 2) = true := by decide

/-- Created departments have their paths. -/
theorem paths_of_engineering :
    DeptPathsOk (run (DeptCall.step database) Table.empty engineering) := by
  refine (deptPaths_kept_iff database rejects engineering).1.mpr ⟨?_, ?_, trivial⟩ _
    (run_mem_states _ _)
  · intro path h
    obtain rfl : "" = path := Except.ok.inj h.1
    exact ⟨rfl, by decide, Option.some_ne_none 5⟩
  · intro path h
    have hpath : label 1 = path := Except.ok.inj (parentPath_platform.symm.trans h.1)
    rw [← hpath]
    exact ⟨rfl, accepts_platform, Option.some_ne_none 5⟩

/-- Engineering goes below a third department, with the right path; the platform team stays where
it was. -/
def restructured : List DeptCall :=
  engineering ++ [added 3 none, .move noFaults 1 (some 3) (label 3 ++ "." ++ label 1)]

theorem platform_left_behind : RejectsEmptyLabels database ∧
    ¬ ∀ t ∈ states (DeptCall.step database) Table.empty restructured, DeptPathsOk t := by
  refine ⟨rejects, fun hall => ?_⟩
  have hok := hall _ (run_mem_states _ _)
  obtain ⟨r, hr, hparent, hpath⟩ : ∃ r, (run (DeptCall.step database) Table.empty
      restructured).find? 2 = some r ∧ r.dept.parentID = some 1 ∧
        r.dept.path = label 1 ++ "." ++ label r.dept.id :=
    ⟨⟨⟨2, 7, some 1, "dept", label 1 ++ "." ++ label 2, none, "\x7b\x7d", 0⟩, some 5⟩,
      by decide, rfl, rfl⟩
  obtain ⟨q, hq, hq'⟩ := (hok r (Table.find?_eq_some_iff.mp hr).1).2 1 hparent
  have hq1 : ((run (DeptCall.step database) Table.empty restructured).find? 1).map
      (fun q => q.dept.path) = some (label 3 ++ "." ++ label 1) := by
    decide
  rw [hq, Option.map_some, Option.some.injEq] at hq1
  have hsame := append_label_cancel (hpath.symm.trans hq')
  rw [hq1] at hsame
  exact absurd hsame (by decide)

end Ggid.Org.DepartmentSample
