import Ggid.Lib.Hierarchy
import Ggid.Lib.Run
import Ggid.Policy.Decision
import Ggid.Policy.RoleService

/-!
# Policy engine — the role hierarchy

Runs of the four operations that write roles: `CreateRole`, `UpdateRole`,
`SetParent` and `DeleteRole`, called by any tenants in any order, from an empty
role store. Each operation adds a row, edits one, or removes one (`Added`,
`Edited`, `Removed`); the two laws of the hierarchy are proved per change and
then for whole runs.

* `role_hierarchy_acyclic`   — no role is its own proper ancestor, in every run in
  which no role is put below a chain whose hundredth ancestor it is;
* `role_hierarchy_cycle`     — a run that closes a cycle of 101 roles;
* `role_parents_in_tenant`   — parents and ancestor chains stay in the tenant, in
  every run in which new roles name parents of their own tenant;
* `role_parent_foreign`      — a run that leaves the tenant.
-/

namespace Ggid.Policy

open Ggid.Go Ggid.Lib Relation

-- ---------------------------------------------------------------------------
-- Changes of the role table
-- ---------------------------------------------------------------------------

/-- One row joined the table, under a fresh id and an existing parent. -/
structure Added (db db' : Database) (row : Role) : Prop where
  fresh  : ∀ r ∈ db.roles, r.id ≠ row.id
  parent : ∀ p, row.parentRoleID = some p → ∃ q ∈ db.roles, q.id = p
  mem    : ∀ r, r ∈ db'.roles ↔ r ∈ db.roles ∨ r = row

/-- One row was replaced; its id and tenant are as before and its parent exists. -/
structure Edited (db db' : Database) (old new : Role) : Prop where
  old_mem : old ∈ db.roles
  id      : new.id = old.id
  tenant  : new.tenantID = old.tenantID
  parent  : ∀ p, new.parentRoleID = some p → ∃ q ∈ db.roles, q.id = p
  mem     : ∀ r, r ∈ db'.roles ↔ (r ∈ db.roles ∧ r.id ≠ old.id) ∨ r = new

/-- What is left of a row when the role `id` goes. -/
def orphan (id : UUID) (q : Role) : Role :=
  if q.parentRoleID = some id then { q with parentRoleID := none } else q

/-- One row was removed; its children became roots. -/
structure Removed (db db' : Database) (id : UUID) : Prop where
  mem : ∀ r, r ∈ db'.roles ↔ ∃ q ∈ db.roles, q.id ≠ id ∧ r = orphan id q

-- ---------------------------------------------------------------------------
-- What the repository statements do
-- ---------------------------------------------------------------------------

section Statements

variable {db db' : Database} {tenantID id : UUID} {now : Time}

theorem RoleRepo.parentExists_iff {parent : Option UUID} :
    RoleRepo.parentExists db parent = true ↔ ∀ p, parent = some p → ∃ q ∈ db.roles, q.id = p := by
  cases parent with
  | none => simp [RoleRepo.parentExists]
  | some p =>
    simp only [RoleRepo.parentExists, Option.isSome_iff_exists, Table.find?_eq_some_iff,
      Option.some.injEq, forall_eq']

theorem RoleRepo.create_added {newID : UUID} {role row : Role}
    (h : RoleRepo.create db newID now role = .ok (row, db')) :
    Added db db' row ∧ row.tenantID = role.tenantID ∧ row.parentRoleID = role.parentRoleID := by
  unfold RoleRepo.create at h
  simp only at h
  split at h
  · exact absurd h (by simp)
  split at h
  · exact absurd h (by simp)
  split at h
  · exact absurd h (by simp)
  rename_i hparent
  split at h
  · exact absurd h (by simp)
  rename_i roles hinsert
  rw [Except.ok.injEq, Prod.mk.injEq] at h
  obtain ⟨rfl, rfl⟩ := h
  obtain ⟨hfresh, hmem⟩ := Table.insert?_eq_some hinsert
  have hexists : RoleRepo.parentExists db role.parentRoleID = true := by simpa using hparent
  exact ⟨⟨hfresh, RoleRepo.parentExists_iff.mp hexists, hmem⟩, rfl, rfl⟩

/-- An insert no constraint objects to. -/
theorem RoleRepo.create_eq (db : Database) (newID : UUID) (now : Time) (role : Role)
    (hkey : role.key.length ≤ 64) (hname : role.name.length ≤ 100)
    (htaken : ∀ r ∈ db.roles, r.tenantID = role.tenantID → r.key ≠ role.key)
    (hparent : ∀ p, role.parentRoleID = some p → ∃ q ∈ db.roles, q.id = p)
    (hfresh : ∀ r ∈ db.roles, r.id ≠ newID) :
    ∃ db', RoleRepo.create db newID now role =
        .ok ({ role with id := newID, createdAt := now, updatedAt := now }, db') ∧
      ∀ r, r ∈ db'.roles ↔
        r ∈ db.roles ∨ r = { role with id := newID, createdAt := now, updatedAt := now } := by
  have hlength : ¬ (64 < role.key.length ∨ 100 < role.name.length) := by omega
  have hfree : RoleRepo.keyTaken db role.tenantID role.key = false := by
    rw [RoleRepo.keyTaken, List.any_eq_false]
    intro r hr
    simp only [Bool.and_eq_true, decide_eq_true_eq, not_and]
    exact htaken r hr
  have hexists : RoleRepo.parentExists db role.parentRoleID = true :=
    RoleRepo.parentExists_iff.mpr hparent
  obtain ⟨roles, hinsert⟩ := Table.insert?_of_fresh (t := db.roles)
    (a := { role with id := newID, createdAt := now, updatedAt := now }) hfresh
  refine ⟨{ db with roles := roles }, ?_, (Table.insert?_eq_some hinsert).2⟩
  unfold RoleRepo.create
  simp [hlength, hfree, hexists, hinsert]

/-- An editable row is the only row under its id. -/
theorem RoleRepo.editable_iff {old r : Role} (hold : old ∈ db.roles) (hr : r ∈ db.roles)
    (hedit : RoleRepo.editable id tenantID old = true) :
    RoleRepo.editable id tenantID r = true ↔ r.id = id := by
  have hoid : old.id = id := by
    simp only [RoleRepo.editable, Bool.and_eq_true, decide_eq_true_eq] at hedit
    exact hedit.1.1
  refine ⟨fun h => ?_, fun h => ?_⟩
  · simp only [RoleRepo.editable, Bool.and_eq_true, decide_eq_true_eq] at h
    exact h.1.1
  · rw [Table.eq_of_key hr hold (h.trans hoid.symm)]
    exact hedit

/-- An update no constraint objects to. -/
theorem RoleRepo.update_eq {role old : Role} (now : Time) (hold : old ∈ db.roles)
    (hedit : RoleRepo.editable role.id tenantID old = true) (hname : role.name.length ≤ 100)
    (hparent : ∀ p, role.parentRoleID = some p → ∃ q ∈ db.roles, q.id = p) :
    ∃ updated db', RoleRepo.update db now role tenantID = .ok (updated, db') := by
  have hany : db.roles.rows.any (RoleRepo.editable role.id tenantID) = true :=
    List.any_eq_true.mpr ⟨old, hold, hedit⟩
  have hlength : ¬ 100 < role.name.length := by omega
  have hexists : RoleRepo.parentExists db role.parentRoleID = true :=
    RoleRepo.parentExists_iff.mpr hparent
  unfold RoleRepo.update
  rw [hany, hexists, if_neg (by simp), if_neg hlength, if_neg (by simp)]
  exact ⟨_, _, rfl⟩

theorem RoleRepo.update_edited {role updated : Role}
    (h : RoleRepo.update db now role tenantID = .ok (updated, db')) :
    ∃ old new, Edited db db' old new ∧ old.id = role.id ∧ old.tenantID = tenantID ∧
      new.parentRoleID = role.parentRoleID := by
  unfold RoleRepo.update at h
  split at h
  · exact absurd h (by simp)
  rename_i hany
  split at h
  · exact absurd h (by simp)
  split at h
  · exact absurd h (by simp)
  rename_i hparent
  have hexists : RoleRepo.parentExists db role.parentRoleID = true := by simpa using hparent
  have hany' : db.roles.rows.any (RoleRepo.editable role.id tenantID) = true := by simpa using hany
  rw [Except.ok.injEq, Prod.mk.injEq] at h
  obtain ⟨-, rfl⟩ := h
  obtain ⟨old, hold, hedit⟩ := List.any_eq_true.mp hany'
  have hid : old.id = role.id := (RoleRepo.editable_iff hold hold hedit).mp hedit
  have htenant : old.tenantID = tenantID := by
    simp only [RoleRepo.editable, Bool.and_eq_true, decide_eq_true_eq] at hedit
    exact hedit.1.2
  refine ⟨old, { old with
    name := role.name, description := role.description,
    parentRoleID := role.parentRoleID, updatedAt := now },
    ⟨hold, rfl, rfl, RoleRepo.parentExists_iff.mp hexists, fun r => ?_⟩, hid, htenant, rfl⟩
  simp only [Table.mem_update]
  refine ⟨fun hr => ?_, fun hr => ?_⟩
  · rcases hr with ⟨a, ha, hea, rfl⟩ | ⟨hr, hne⟩
    · have hao : a = old :=
        Table.eq_of_key ha hold (((RoleRepo.editable_iff hold ha hedit).mp hea).trans hid.symm)
      right
      rw [hao]
    · refine Or.inl ⟨hr, fun h => ?_⟩
      rw [(RoleRepo.editable_iff hold hr hedit).mpr (h.trans hid)] at hne
      exact absurd hne (by simp)
  · rcases hr with ⟨hr, hne⟩ | rfl
    · refine Or.inr ⟨hr, ?_⟩
      rw [← Bool.not_eq_true, RoleRepo.editable_iff hold hr hedit]
      exact fun h => hne (h.trans hid.symm)
    · exact Or.inl ⟨old, hold, hedit, rfl⟩

theorem RoleRepo.delete_removed (h : RoleRepo.delete db id tenantID = .ok db') :
    Removed db db' id := by
  unfold RoleRepo.delete at h
  split at h
  · exact absurd h (by simp)
  rename_i hany
  have hany' : db.roles.rows.any (RoleRepo.editable id tenantID) = true := by simpa using hany
  rw [Except.ok.injEq] at h
  subst h
  obtain ⟨old, hold, hedit⟩ := List.any_eq_true.mp hany'
  refine ⟨fun r => ?_⟩
  have hkept : ∀ q ∈ db.roles, (RoleRepo.editable id tenantID q = false ↔ q.id ≠ id) := by
    intro q hq
    rw [← Bool.not_eq_true, RoleRepo.editable_iff hold hq hedit]
  simp only [Table.mem_update, Table.mem_delete, decide_eq_true_eq, decide_eq_false_iff_not]
  refine ⟨fun hr => ?_, fun ⟨q, hq, hne, hr⟩ => ?_⟩
  · rcases hr with ⟨q, ⟨hq, hne⟩, hpar, rfl⟩ | ⟨⟨hr, hne⟩, hpar⟩
    · exact ⟨q, hq, (hkept q hq).mp hne, by rw [orphan, if_pos hpar]⟩
    · exact ⟨r, hr, (hkept r hr).mp hne, by rw [orphan, if_neg hpar]⟩
  · by_cases hpar : q.parentRoleID = some id
    · exact Or.inl ⟨q, ⟨hq, (hkept q hq).mpr hne⟩, hpar, by rw [hr, orphan, if_pos hpar]⟩
    · rw [orphan, if_neg hpar] at hr
      subst hr
      exact Or.inr ⟨⟨hq, (hkept r hq).mpr hne⟩, hpar⟩

end Statements

-- ---------------------------------------------------------------------------
-- The walk of `SetParent`
-- ---------------------------------------------------------------------------

/-- The parent pointer of a role. -/
def parentOf (db : Database) (id : UUID) : Option UUID :=
  (db.roles.find? id).bind Role.parentRoleID

/-- The foreign key on the parent column. -/
def ParentsExist (db : Database) : Prop :=
  ∀ r ∈ db.roles, ∀ p, r.parentRoleID = some p → ∃ q ∈ db.roles, q.id = p

theorem parentOf_eq_some_iff {db : Database} {a b : UUID} :
    parentOf db a = some b ↔ ∃ r ∈ db.roles, r.id = a ∧ r.parentRoleID = some b := by
  unfold parentOf
  rw [Option.bind_eq_some_iff]
  simp only [Table.find?_eq_some_iff, and_assoc]

theorem parent_iff_parentOf {db : Database} (hfk : ParentsExist db) :
    db.Parent = fun a b => parentOf db a = some b := by
  funext a b
  rw [parentOf_eq_some_iff]
  refine propext ⟨fun ⟨r, hr, hid, hpar, _⟩ => ⟨r, hr, hid, hpar⟩, fun ⟨r, hr, hid, hpar⟩ => ?_⟩
  exact ⟨r, hr, hid, hpar, hfk r hr b hpar⟩

section Walk

variable {db : Database} {tenantID : UUID}

theorem parentOf_of_getByID {id : UUID} {r : Role}
    (h : RoleRepo.getByID db id tenantID = .ok r) : parentOf db id = r.parentRoleID := by
  obtain ⟨hr, hid, -⟩ := RoleRepo.getByID_ok h
  unfold parentOf
  rw [Table.find?_eq_some_iff.mpr ⟨hr, hid⟩]
  rfl

/-- A walk that comes back stopped at some ancestor; the ancestors before it were
not visited, and neither was that one unless the steps ran out. -/
theorem walk_ok {n : Nat} : ∀ {visited : List UUID} {current last : UUID},
    RoleService.walk db tenantID n visited current = .ok last →
    ∃ k ≤ n, ancestor (parentOf db) k current = some last ∧
      (∀ j < k, ∀ x, ancestor (parentOf db) j current = some x → x ∉ visited) ∧
      (k < n → last ∉ visited) := by
  induction n with
  | zero =>
    intro visited current last h
    rw [RoleService.walk, Except.ok.injEq] at h
    subst h
    exact ⟨0, le_refl 0, rfl, fun j hj => absurd hj (by omega), fun hk => absurd hk (by omega)⟩
  | succ n ih =>
    intro visited current last h
    rw [RoleService.walk] at h
    split at h
    · exact absurd h (by simp)
    rename_i hvisited
    have hcurrent : current ∉ visited := by simpa using hvisited
    split at h
    · exact absurd h (by simp)
    rename_i p hget
    have hparent := parentOf_of_getByID hget
    split at h
    · -- `current` is a root
      rw [Except.ok.injEq] at h
      subst h
      exact ⟨0, by omega, rfl, fun j hj => absurd hj (by omega), fun _ => hcurrent⟩
    · rename_i next hnext
      rw [hnext] at hparent
      obtain ⟨k, hk, hlast, hbefore, hstop⟩ := ih h
      refine ⟨k + 1, by omega, ?_, fun j hj x hx => ?_, fun hlt => ?_⟩
      · rw [ancestor, hparent, Option.bind_some]
        exact hlast
      · cases j with
        | zero =>
          rw [ancestor, Option.some.injEq] at hx
          rw [← hx]
          exact hcurrent
        | succ j =>
          rw [ancestor, hparent, Option.bind_some] at hx
          have hnot := hbefore j (by omega) x hx
          exact fun hmem => hnot (List.mem_cons_of_mem _ hmem)
      · have hnot := hstop (by omega)
        exact fun hmem => hnot (List.mem_cons_of_mem _ hmem)

/-- A walk that ends at a root has seen every ancestor but, at most, the
hundredth. -/
theorem no_path_of_walk {roleID parentID last : UUID}
    (hwalk : RoleService.walk db tenantID RoleService.maxDepth [roleID] parentID = .ok last)
    (hroot : parentOf db last = none)
    (hhundredth : ancestor (parentOf db) RoleService.maxDepth parentID ≠ some roleID) :
    ¬ ReflTransGen (fun a b => parentOf db a = some b) parentID roleID := by
  obtain ⟨k, hk, hlast, hbefore, hstop⟩ := walk_ok hwalk
  rw [reflTransGen_iff_ancestor]
  intro ⟨j, hj⟩
  rcases Nat.lt_trichotomy j k with hlt | heq | hgt
  · exact hbefore j hlt roleID hj (by simp)
  · subst heq
    rw [hlast, Option.some.injEq] at hj
    subst hj
    rcases Nat.lt_or_ge j RoleService.maxDepth with hlt | hge
    · exact hstop hlt (by simp)
    · have hmax : j = RoleService.maxDepth := by omega
      rw [hmax] at hlast
      exact hhundredth hlast
  · rw [ancestor_eq_none_of_root hlast hroot hgt] at hj
    exact absurd hj (by simp)

end Walk

-- ---------------------------------------------------------------------------
-- What the operations do
-- ---------------------------------------------------------------------------

section Operations

variable {std : Stdlib} {db db' : Database} {now : Time} {tenantID : UUID}

theorem createRole_added {newID : UUID} {key name description : String} {parent : Option UUID}
    {row : Role} (h : RoleService.createRole std db newID now tenantID key name description parent =
      .ok (row, db')) :
    Added db db' row ∧ row.tenantID = tenantID ∧ row.parentRoleID = parent := by
  unfold RoleService.createRole at h
  split at h
  · exact absurd h (by simp)
  split at h
  · exact absurd h (by simp)
  simp only at h
  split at h
  · exact absurd h (by simp)
  rename_i created hcreate
  rw [Except.ok.injEq] at h
  rw [h] at hcreate
  exact RoleRepo.create_added hcreate

/-- `SetParent` links a role below another one of its tenant, after a walk from
there to a root. -/
theorem setParent_edited {roleID parentID : UUID} {updated : Role}
    (h : RoleService.setParent db now tenantID roleID parentID = .ok (updated, db')) :
    ∃ old new, Edited db db' old new ∧ old.id = roleID ∧ new.parentRoleID = some parentID ∧
      (∃ q ∈ db.roles, q.id = parentID ∧ q.tenantID = old.tenantID) ∧
      ∃ last, RoleService.walk db tenantID RoleService.maxDepth [roleID] parentID = .ok last ∧
        parentOf db last = none := by
  unfold RoleService.setParent at h
  split at h
  · exact absurd h (by simp)
  split at h
  · exact absurd h (by simp)
  rename_i last hwalk
  split at h
  · exact absurd h (by simp)
  rename_i lastRole hlast
  split at h
  · exact absurd h (by simp)
  rename_i hroot
  split at h
  · exact absurd h (by simp)
  rename_i role hrole
  split at h
  · exact absurd h (by simp)
  rename_i parent hparent
  split at h
  · exact absurd h (by simp)
  split at h
  · exact absurd h (by simp)
  rename_i result hupdate
  rw [Except.ok.injEq] at h
  rw [h] at hupdate
  obtain ⟨old, new, hedited, hid, htenant, hpar⟩ := RoleRepo.update_edited hupdate
  obtain ⟨-, hroleID, -⟩ := RoleRepo.getByID_ok hrole
  obtain ⟨hmem, hpid, hptenant⟩ := RoleRepo.getByID_ok hparent
  refine ⟨old, new, hedited, hid.trans hroleID, hpar,
    ⟨parent, hmem, hpid, hptenant.trans htenant.symm⟩, last, hwalk, ?_⟩
  rw [parentOf_of_getByID hlast]
  simpa using hroot

/-- `UpdateRole` keeps the parent, clears it, or goes through `SetParent`. -/
theorem updateRole_edited {id : UUID} {name description : Option String} {parent : Option UUID}
    {updated : Role}
    (h : RoleService.updateRole std db now tenantID id name description parent =
      .ok (updated, db')) :
    (∃ old new, Edited db db' old new ∧
      (new.parentRoleID = old.parentRoleID ∨ new.parentRoleID = none)) ∨
    (∃ parentID, parent = some parentID ∧
      RoleService.setParent db now tenantID id parentID = .ok (updated, db')) := by
  unfold RoleService.updateRole at h
  split at h
  · exact absurd h (by simp)
  rename_i role hrole
  obtain ⟨hmem, hid, -⟩ := RoleRepo.getByID_ok hrole
  split at h
  · exact absurd h (by simp)
  simp only at h
  -- both direct writes store a row under the role's id
  have hstore : ∀ parent' : Option UUID, RoleService.storeRole db now tenantID { role with
        name := name.getD role.name, description := description.getD role.description,
        parentRoleID := parent' } = .ok (updated, db') →
      ∃ old new, Edited db db' old new ∧ old = role ∧ new.parentRoleID = parent' := by
    intro parent' hstored
    unfold RoleService.storeRole at hstored
    split at hstored
    · exact absurd hstored (by simp)
    rename_i result hupdate
    rw [Except.ok.injEq] at hstored
    rw [hstored] at hupdate
    obtain ⟨old, new, hedited, hoid, -, hpar⟩ := RoleRepo.update_edited hupdate
    exact ⟨old, new, hedited, Table.eq_of_key hedited.old_mem hmem hoid, hpar⟩
  split at h
  · obtain ⟨old, new, hedited, rfl, hpar⟩ := hstore role.parentRoleID h
    exact Or.inl ⟨old, new, hedited, Or.inl hpar⟩
  · rename_i parentID
    split at h
    · obtain ⟨old, new, hedited, -, hpar⟩ := hstore none h
      exact Or.inl ⟨old, new, hedited, Or.inr hpar⟩
    · exact Or.inr ⟨parentID, rfl, h⟩

theorem deleteRole_removed {id : UUID} (h : RoleService.deleteRole db tenantID id = .ok db') :
    Removed db db' id := by
  unfold RoleService.deleteRole at h
  split at h
  · exact absurd h (by simp)
  split at h
  · exact absurd h (by simp)
  exact RoleRepo.delete_removed h

end Operations

-- ---------------------------------------------------------------------------
-- Runs
-- ---------------------------------------------------------------------------

/-- One call, with the tenant of its context and what the database draws for it. -/
inductive RoleOp where
  | createRole (newID : UUID) (now : Time) (tenantID : UUID) (key name description : String)
      (parentRoleID : Option UUID)
  | updateRole (now : Time) (tenantID id : UUID) (name description : Option String)
      (parentRoleID : Option UUID)
  | setParent (now : Time) (tenantID roleID parentID : UUID)
  | deleteRole (tenantID id : UUID)

/-- The store after an operation; a failed one changes nothing. -/
def storeAfter {α : Type} (db : Database) : Except GGIDError (α × Database) → Database
  | .ok (_, db') => db'
  | .error _ => db

def roleStep (std : Stdlib) (db : Database) : RoleOp → Database
  | .createRole newID now tenantID key name description parentRoleID =>
    storeAfter db
      (RoleService.createRole std db newID now tenantID key name description parentRoleID)
  | .updateRole now tenantID id name description parentRoleID =>
    storeAfter db (RoleService.updateRole std db now tenantID id name description parentRoleID)
  | .setParent now tenantID roleID parentID =>
    storeAfter db (RoleService.setParent db now tenantID roleID parentID)
  | .deleteRole tenantID id =>
    storeAfter db ((RoleService.deleteRole db tenantID id).map ((), ·))

/-- The change one call makes. -/
inductive RoleChange (db : Database) : RoleOp → Database → Prop
  | nothing (op : RoleOp) : RoleChange db op db
  | create {newID : UUID} {now : Time} {tenantID : UUID} {key name description : String}
      {parentRoleID : Option UUID} {db' : Database} {row : Role} (hadded : Added db db' row)
      (htenant : row.tenantID = tenantID) (hparent : row.parentRoleID = parentRoleID) :
      RoleChange db (.createRole newID now tenantID key name description parentRoleID) db'
  | edit {op : RoleOp} {db' : Database} {old new : Role} (hedited : Edited db db' old new)
      (hparent : new.parentRoleID = old.parentRoleID ∨ new.parentRoleID = none) :
      RoleChange db op db'
  | link {op : RoleOp} {db' : Database} {old new : Role} {tenantID roleID parentID last : UUID}
      (hop : (∃ now, op = .setParent now tenantID roleID parentID) ∨
        ∃ now name description,
          op = .updateRole now tenantID roleID name description (some parentID))
      (hedited : Edited db db' old new) (hid : old.id = roleID)
      (hparent : new.parentRoleID = some parentID)
      (htenant : ∃ q ∈ db.roles, q.id = parentID ∧ q.tenantID = old.tenantID)
      (hwalk : RoleService.walk db tenantID RoleService.maxDepth [roleID] parentID = .ok last)
      (hroot : parentOf db last = none) : RoleChange db op db'
  | delete {op : RoleOp} {db' : Database} {id : UUID} (hremoved : Removed db db' id) :
      RoleChange db op db'

/-- Every call makes one of these changes. -/
theorem roleStep_change (std : Stdlib) (db : Database) (op : RoleOp) :
    RoleChange db op (roleStep std db op) := by
  cases op with
  | createRole newID now tenantID key name description parentRoleID =>
    rw [roleStep]
    cases h : RoleService.createRole std db newID now tenantID key name description
        parentRoleID with
    | error err => exact .nothing _
    | ok result =>
      obtain ⟨row, db'⟩ := result
      obtain ⟨hadded, htenant, hparent⟩ := createRole_added h
      exact .create hadded htenant hparent
  | updateRole now tenantID id name description parentRoleID =>
    rw [roleStep]
    cases h : RoleService.updateRole std db now tenantID id name description parentRoleID with
    | error err => exact .nothing _
    | ok result =>
      obtain ⟨updated, db'⟩ := result
      rcases updateRole_edited h with
        ⟨old, new, hedited, hparent⟩ | ⟨parentID, rfl, hset⟩
      · exact .edit hedited hparent
      · obtain ⟨old, new, hedited, hid, hparent, htenant, last, hwalk, hroot⟩ :=
          setParent_edited hset
        exact .link (Or.inr ⟨now, name, description, rfl⟩) hedited hid hparent htenant hwalk hroot
  | setParent now tenantID roleID parentID =>
    rw [roleStep]
    cases h : RoleService.setParent db now tenantID roleID parentID with
    | error err => exact .nothing _
    | ok result =>
      obtain ⟨updated, db'⟩ := result
      obtain ⟨old, new, hedited, hid, hparent, htenant, last, hwalk, hroot⟩ := setParent_edited h
      exact .link (Or.inl ⟨now, rfl⟩) hedited hid hparent htenant hwalk hroot
  | deleteRole tenantID id =>
    rw [roleStep]
    cases h : RoleService.deleteRole db tenantID id with
    | error err => exact .nothing _
    | ok db' => exact .delete (deleteRole_removed h)

-- ---------------------------------------------------------------------------
-- Parents exist
-- ---------------------------------------------------------------------------

section Changes

variable {db db' : Database}

theorem Added.parentsExist {row : Role} (h : Added db db' row) (hfk : ParentsExist db) :
    ParentsExist db' := by
  intro r hr p hp
  have hold : ∃ q ∈ db.roles, q.id = p := by
    rcases (h.mem r).mp hr with hr | rfl
    · exact hfk r hr p hp
    · exact h.parent p hp
  obtain ⟨q, hq, hid⟩ := hold
  exact ⟨q, (h.mem q).mpr (Or.inl hq), hid⟩

theorem Edited.parentsExist {old new : Role} (h : Edited db db' old new) (hfk : ParentsExist db) :
    ParentsExist db' := by
  intro r hr p hp
  have hold : ∃ q ∈ db.roles, q.id = p := by
    rcases (h.mem r).mp hr with ⟨hr, _⟩ | rfl
    · exact hfk r hr p hp
    · exact h.parent p hp
  obtain ⟨q, hq, hid⟩ := hold
  by_cases hqo : q.id = old.id
  · exact ⟨new, (h.mem new).mpr (Or.inr rfl), h.id.trans (hqo.symm.trans hid)⟩
  · exact ⟨q, (h.mem q).mpr (Or.inl ⟨hq, hqo⟩), hid⟩

theorem orphan_parent {id p : UUID} {q : Role} (h : (orphan id q).parentRoleID = some p) :
    q.parentRoleID = some p ∧ p ≠ id := by
  unfold orphan at h
  split at h
  · exact absurd h (by simp)
  · rename_i hne
    exact ⟨h, fun hp => hne (by rw [h, hp])⟩

theorem orphan_id (id : UUID) (q : Role) : (orphan id q).id = q.id := by
  unfold orphan
  split <;> rfl

theorem orphan_tenantID (id : UUID) (q : Role) : (orphan id q).tenantID = q.tenantID := by
  unfold orphan
  split <;> rfl

theorem Removed.parentsExist {id : UUID} (h : Removed db db' id) (hfk : ParentsExist db) :
    ParentsExist db' := by
  intro r hr p hp
  obtain ⟨q, hq, _, rfl⟩ := (h.mem r).mp hr
  obtain ⟨hqp, hne⟩ := orphan_parent hp
  obtain ⟨q', hq', hid⟩ := hfk q hq p hqp
  refine ⟨orphan id q', (h.mem _).mpr ⟨q', hq', by rw [hid]; exact hne, rfl⟩, ?_⟩
  rw [orphan_id, hid]

theorem RoleChange.parentsExist {op : RoleOp} (h : RoleChange db op db')
    (hfk : ParentsExist db) : ParentsExist db' := by
  cases h with
  | nothing => exact hfk
  | create hadded => exact hadded.parentsExist hfk
  | edit hedited => exact hedited.parentsExist hfk
  | link _ hedited => exact hedited.parentsExist hfk
  | delete hremoved => exact hremoved.parentsExist hfk

-- ---------------------------------------------------------------------------
-- Acyclicity
-- ---------------------------------------------------------------------------

/-- The parent links of an added row are new, all others are old. -/
theorem Added.parent_cases {row : Role} (h : Added db db' row) (hfk : ParentsExist db) {a b : UUID}
    (hab : db'.Parent a b) : db.Parent a b ∨ (a = row.id ∧ row.parentRoleID = some b) := by
  obtain ⟨r, hr, hid, hpar, -⟩ := hab
  rcases (h.mem r).mp hr with hr | rfl
  · exact Or.inl ⟨r, hr, hid, hpar, hfk r hr b hpar⟩
  · exact Or.inr ⟨hid.symm, hpar⟩

theorem Edited.parent_cases {old new : Role} (h : Edited db db' old new) (hfk : ParentsExist db)
    {a b : UUID} (hab : db'.Parent a b) :
    db.Parent a b ∨ (a = old.id ∧ new.parentRoleID = some b) := by
  obtain ⟨r, hr, hid, hpar, -⟩ := hab
  rcases (h.mem r).mp hr with ⟨hr, -⟩ | rfl
  · exact Or.inl ⟨r, hr, hid, hpar, hfk r hr b hpar⟩
  · exact Or.inr ⟨hid.symm.trans h.id, hpar⟩

/-- Nothing above a role is a fresh id. -/
theorem not_reaches_fresh {p x : UUID} (hfresh : ∀ r ∈ db.roles, r.id ≠ x)
    (hp : ∃ q ∈ db.roles, q.id = p) : ¬ ReflTransGen db.Parent p x := by
  intro hpath
  cases hpath with
  | refl =>
    obtain ⟨q, hq, hid⟩ := hp
    exact hfresh q hq hid
  | tail _ hstep =>
    obtain ⟨_, _, _, _, q, hq, hid⟩ := hstep
    exact hfresh q hq hid

theorem Added.acyclic {row : Role} (h : Added db db' row) (hfk : ParentsExist db)
    (hac : Acyclic db.Parent) : Acyclic db'.Parent := by
  cases hpar : row.parentRoleID with
  | none =>
    refine hac.mono fun a b hab => (h.parent_cases hfk hab).resolve_right fun ⟨_, hb⟩ => ?_
    rw [hpar] at hb
    exact absurd hb (by simp)
  | some p =>
    -- a fresh leaf below `p`
    refine hac.link (not_reaches_fresh h.fresh (h.parent p hpar)) fun a b hab => ?_
    rcases h.parent_cases hfk hab with hold | ⟨ha, hb⟩
    · exact Or.inl hold
    · rw [hpar, Option.some.injEq] at hb
      exact Or.inr ⟨ha, hb.symm⟩

theorem Edited.acyclic_of_kept {old new : Role} (h : Edited db db' old new) (hfk : ParentsExist db)
    (hac : Acyclic db.Parent)
    (hkept : new.parentRoleID = old.parentRoleID ∨ new.parentRoleID = none) :
    Acyclic db'.Parent := by
  refine hac.mono fun a b hab => ?_
  rcases h.parent_cases hfk hab with hold | ⟨ha, hb⟩
  · exact hold
  · rcases hkept with hsame | hnone
    · rw [hsame] at hb
      exact ⟨old, h.old_mem, ha.symm, hb, hfk old h.old_mem b hb⟩
    · rw [hnone] at hb
      exact absurd hb (by simp)

theorem Edited.acyclic_of_link {old new : Role} {parentID : UUID} (h : Edited db db' old new)
    (hfk : ParentsExist db) (hac : Acyclic db.Parent)
    (hparent : new.parentRoleID = some parentID)
    (hpath : ¬ ReflTransGen db.Parent parentID old.id) : Acyclic db'.Parent := by
  refine hac.link hpath fun a b hab => ?_
  rcases h.parent_cases hfk hab with hold | ⟨ha, hb⟩
  · exact Or.inl hold
  · rw [hparent, Option.some.injEq] at hb
    exact Or.inr ⟨ha, hb.symm⟩

theorem Removed.acyclic {id : UUID} (h : Removed db db' id) (hfk : ParentsExist db)
    (hac : Acyclic db.Parent) : Acyclic db'.Parent := by
  refine hac.mono fun a b ⟨r, hr, hid, hpar, _⟩ => ?_
  obtain ⟨q, hq, _, rfl⟩ := (h.mem r).mp hr
  obtain ⟨hqp, -⟩ := orphan_parent hpar
  rw [orphan_id] at hid
  exact ⟨q, hq, hid, hqp, hfk q hq b hqp⟩

/-- A role put below another is not that one's hundredth ancestor. -/
def NotHundredthAncestor (db : Database) : RoleOp → Prop
  | .setParent _ _ roleID parentID =>
    ancestor (parentOf db) RoleService.maxDepth parentID ≠ some roleID
  | .updateRole _ _ id _ _ (some parentID) =>
    ancestor (parentOf db) RoleService.maxDepth parentID ≠ some id
  | _ => True

theorem RoleChange.acyclic {op : RoleOp} (h : RoleChange db op db') (hfk : ParentsExist db)
    (hac : Acyclic db.Parent) (hok : NotHundredthAncestor db op) : Acyclic db'.Parent := by
  cases h with
  | nothing => exact hac
  | create hadded => exact hadded.acyclic hfk hac
  | edit hedited hparent => exact hedited.acyclic_of_kept hfk hac hparent
  | @link _ _ old new tenantID roleID parentID last hop hedited hid hparent _ hwalk hroot =>
    have hhundredth : ancestor (parentOf db) RoleService.maxDepth parentID ≠ some roleID := by
      rcases hop with ⟨now, rfl⟩ | ⟨now, name, description, rfl⟩
      · exact hok
      · exact hok
    refine hedited.acyclic_of_link hfk hac hparent ?_
    rw [hid, parent_iff_parentOf hfk]
    exact no_path_of_walk hwalk hroot hhundredth
  | delete hremoved => exact hremoved.acyclic hfk hac

-- ---------------------------------------------------------------------------
-- Tenants
-- ---------------------------------------------------------------------------

/-- Parents are roles of the same tenant. -/
def ParentsInTenant (db : Database) : Prop :=
  ∀ r ∈ db.roles, ∀ q ∈ db.roles, r.parentRoleID = some q.id → q.tenantID = r.tenantID

theorem Added.parentsInTenant {row : Role} (h : Added db db' row) (hfk : ParentsExist db)
    (hten : ParentsInTenant db)
    (hrow : ∀ q ∈ db.roles, row.parentRoleID = some q.id → q.tenantID = row.tenantID) :
    ParentsInTenant db' := by
  intro r hr q hq hpar
  rcases (h.mem q).mp hq with hq | rfl
  · rcases (h.mem r).mp hr with hr | rfl
    · exact hten r hr q hq hpar
    · exact hrow q hq hpar
  · -- the new row is nobody's parent yet
    have hold : ∃ q' ∈ db.roles, q'.id = q.id := by
      rcases (h.mem r).mp hr with hr | rfl
      · exact hfk r hr q.id hpar
      · exact h.parent _ hpar
    obtain ⟨q', hq', hid⟩ := hold
    exact absurd hid (h.fresh q' hq')

theorem Edited.parentsInTenant {old new : Role} (h : Edited db db' old new)
    (hten : ParentsInTenant db)
    (hnew : ∀ q ∈ db.roles, new.parentRoleID = some q.id → q.tenantID = old.tenantID) :
    ParentsInTenant db' := by
  -- id and tenant of a row are those of an old row
  have hrow : ∀ q ∈ db'.roles, ∃ q' ∈ db.roles, q'.id = q.id ∧ q'.tenantID = q.tenantID := by
    intro q hq
    rcases (h.mem q).mp hq with ⟨hq, -⟩ | rfl
    · exact ⟨q, hq, rfl, rfl⟩
    · exact ⟨old, h.old_mem, h.id.symm, h.tenant.symm⟩
  intro r hr q hq hpar
  obtain ⟨q', hq', hid, htenant⟩ := hrow q hq
  rw [← hid] at hpar
  rw [← htenant]
  rcases (h.mem r).mp hr with ⟨hr, -⟩ | rfl
  · exact hten r hr q' hq' hpar
  · rw [h.tenant]
    exact hnew q' hq' hpar

theorem Removed.parentsInTenant {id : UUID} (h : Removed db db' id) (hten : ParentsInTenant db) :
    ParentsInTenant db' := by
  intro r hr q hq hpar
  obtain ⟨r', hr', _, rfl⟩ := (h.mem r).mp hr
  obtain ⟨q', hq', _, rfl⟩ := (h.mem q).mp hq
  obtain ⟨hrp, -⟩ := orphan_parent hpar
  rw [orphan_id] at hrp
  rw [orphan_tenantID, orphan_tenantID]
  exact hten r' hr' q' hq' hrp

/-- A new role names a parent of its own tenant, if any. -/
def OwnParent (db : Database) : RoleOp → Prop
  | .createRole _ _ tenantID _ _ _ (some p) => ∀ q ∈ db.roles, q.id = p → q.tenantID = tenantID
  | _ => True

theorem RoleChange.parentsInTenant {op : RoleOp} (h : RoleChange db op db')
    (hfk : ParentsExist db) (hten : ParentsInTenant db) (hok : OwnParent db op) :
    ParentsInTenant db' := by
  cases h with
  | nothing => exact hten
  | create hadded htenant hparent =>
    refine hadded.parentsInTenant hfk hten fun q hq hpar => ?_
    rw [← hparent, hpar] at hok
    rw [htenant]
    exact hok q hq rfl
  | @edit _ _ old new hedited hparent =>
    refine hedited.parentsInTenant hten fun q hq hpar => ?_
    rcases hparent with hsame | hnone
    · exact hten old hedited.old_mem q hq (hsame.symm.trans hpar)
    · rw [hnone] at hpar
      exact absurd hpar (by simp)
  | @link _ _ old new _ _ _ _ _ hedited _ hparent htenant =>
    obtain ⟨q', hq', hid, htenant⟩ := htenant
    refine hedited.parentsInTenant hten fun q hq hpar => ?_
    rw [hparent, Option.some.injEq] at hpar
    rw [Table.eq_of_key hq hq' (hpar.symm.trans hid.symm)]
    exact htenant
  | delete hremoved => exact hremoved.parentsInTenant hten

/-- Along parents of one tenant the ancestor chain stays in the tenant. -/
theorem ancestorChain_in_tenant (hten : ParentsInTenant db) {r : Role} (hr : r ∈ db.roles)
    {x : UUID} (hx : x ∈ RoleRepo.getAncestorChain db r.id) :
    ∃ q ∈ db.roles, q.id = x ∧ q.tenantID = r.tenantID := by
  obtain ⟨-, hpath⟩ := mem_getAncestorChain.mp hx
  induction hpath with
  | refl => exact ⟨r, hr, rfl, rfl⟩
  | tail _ hstep ih =>
    obtain ⟨m, hm, hmid, hmt⟩ := ih (mem_getAncestorChain.mpr ⟨⟨r, hr, rfl⟩, ‹_›⟩)
    obtain ⟨m', hm', hmid', hpar, q, hq, hqid⟩ := hstep
    have hmm : m' = m := Table.eq_of_key hm' hm (hmid'.trans hmid.symm)
    subst hmm
    rw [← hqid] at hpar
    exact ⟨q, hq, hqid, (hten m' hm' q hq hpar).trans hmt⟩

end Changes

-- ---------------------------------------------------------------------------
-- Whole runs
-- ---------------------------------------------------------------------------

theorem empty_parentsExist : ParentsExist .empty := fun r hr => absurd hr (Table.not_mem_empty r)

theorem empty_acyclic : Acyclic Database.empty.Parent := by
  intro a ha
  obtain ⟨b, ⟨r, hr, _⟩, _⟩ := TransGen.head'_iff.mp ha
  exact Table.not_mem_empty r hr

/-- **No cycles.** In every run from an empty role store in which no role is put
below a role whose hundredth ancestor it is, the hierarchy stays acyclic. -/
theorem role_hierarchy_acyclic (std : Stdlib) (ops : List RoleOp)
    (hok : StepsOk (roleStep std) NotHundredthAncestor .empty ops) :
    ∀ db ∈ states (roleStep std) .empty ops, Acyclic db.Parent := by
  have hstep : ∀ db op, (ParentsExist db ∧ Acyclic db.Parent) → NotHundredthAncestor db op →
      ParentsExist (roleStep std db op) ∧ Acyclic (roleStep std db op).Parent := by
    intro db op ⟨hfk, hac⟩ hop
    have hchange := roleStep_change std db op
    exact ⟨hchange.parentsExist hfk, hchange.acyclic hfk hac hop⟩
  intro db hdb
  exact (invariant_states hstep ⟨empty_parentsExist, empty_acyclic⟩ hok db hdb).2

/-- **One tenant.** In every run from an empty role store in which new roles name
parents of their own tenant, every parent and every ancestor is a role of the
tenant. -/
theorem role_parents_in_tenant (std : Stdlib) (ops : List RoleOp)
    (hok : StepsOk (roleStep std) OwnParent .empty ops) :
    ∀ db ∈ states (roleStep std) .empty ops, ParentsInTenant db ∧
      ∀ r ∈ db.roles, ∀ x ∈ RoleRepo.getAncestorChain db r.id,
        ∃ q ∈ db.roles, q.id = x ∧ q.tenantID = r.tenantID := by
  have hstep : ∀ db op, (ParentsExist db ∧ ParentsInTenant db) → OwnParent db op →
      ParentsExist (roleStep std db op) ∧ ParentsInTenant (roleStep std db op) := by
    intro db op ⟨hfk, hten⟩ hop
    have hchange := roleStep_change std db op
    exact ⟨hchange.parentsExist hfk, hchange.parentsInTenant hfk hten hop⟩
  have hinit : ParentsInTenant .empty := fun r hr => absurd hr (Table.not_mem_empty r)
  intro db hdb
  have hten := (invariant_states hstep ⟨empty_parentsExist, hinit⟩ hok db hdb).2
  exact ⟨hten, fun r hr x hx => ancestorChain_in_tenant hten hr hx⟩

-- ---------------------------------------------------------------------------
-- A cycle and a foreign parent
-- ---------------------------------------------------------------------------

theorem run_parentsExist (std : Stdlib) (ops : List RoleOp) :
    ParentsExist (run (roleStep std) .empty ops) := by
  refine invariant_states_of_step (fun db op hfk => ?_) empty_parentsExist _ (run_mem_states _ ops)
  exact (roleStep_change std db op).parentsExist hfk

namespace Sample

/-- A root and a role, then the role is put below the root and gets a child. -/
def linkOps : List RoleOp :=
  [.createRole 1#128 0 tenant "root" "root" "" none,
    .createRole 2#128 0 tenant "leaf" "leaf" "" none,
    .setParent 0 tenant 2#128 1#128,
    .createRole 3#128 0 tenant "twig" "twig" "" (some 2#128)]

/-- A role of one tenant, then a role of another tenant below it. -/
def foreignOps : List RoleOp :=
  [.createRole 1#128 0 tenant "root" "root" "" none,
    .createRole 2#128 0 otherTenant "leaf" "leaf" "" (some 1#128)]

/-- The key of the `i`-th role of a chain: one letter. -/
def chainKey (i : Nat) : String := String.ofList [Char.ofNat (97 + i)]

def chainID (i : Nat) : UUID := BitVec.ofNat 128 (i + 1)

/-- The `i`-th role of a chain, below the one before it. -/
def chainRole (i : Nat) : Role :=
  ⟨chainID i, tenant, chainKey i, "link", "", false, if i = 0 then none else some (chainID (i - 1)),
    0, 0⟩

def chainOp (i : Nat) : RoleOp :=
  .createRole (chainID i) 0 tenant (chainKey i) "link" ""
    (if i = 0 then none else some (chainID (i - 1)))

def chainStore (n : Nat) : Database := run (roleStep stdlib) .empty ((List.range n).map chainOp)

/-- A chain of 101 roles, then its root is put below its end. -/
def cycleOps : List RoleOp :=
  (List.range 101).map chainOp ++ [.setParent 0 tenant (chainID 0) (chainID 100)]

theorem chainID_toNat {i : Nat} (hi : i < 101) : (chainID i).toNat = i + 1 := by
  unfold chainID
  rw [BitVec.toNat_ofNat, Nat.mod_eq_of_lt (by omega)]

theorem chainID_inj {i j : Nat} (hi : i < 101) (hj : j < 101) (h : chainID i = chainID j) :
    i = j := by
  have htoNat := congrArg BitVec.toNat h
  rw [chainID_toNat hi, chainID_toNat hj] at htoNat
  omega

theorem chainKey_chars : ∀ i < 101, (chainKey i).toList.map Char.toNat = [97 + i] := by
  decide

theorem chainKey_inj {i j : Nat} (hi : i < 101) (hj : j < 101) (h : chainKey i = chainKey j) :
    i = j := by
  have hchars := chainKey_chars i hi
  rw [h, chainKey_chars j hj, List.cons.injEq] at hchars
  omega

theorem chainKey_unreserved : ∀ i < 101,
    RoleService.isReserved stdlib RoleService.reservedSystemRoles (chainKey i) = false := by
  decide

theorem chainName_unreserved :
    RoleService.isReserved stdlib RoleService.reservedSystemNames "link" = false := by
  decide

theorem chainKey_length (i : Nat) : (chainKey i).length = 1 := by
  simp [chainKey]

theorem chainStore_succ (n : Nat) :
    chainStore (n + 1) = roleStep stdlib (chainStore n) (chainOp n) := by
  unfold chainStore
  rw [List.range_succ, List.map_append, List.map_cons, List.map_nil, run_concat]

/-- One more call adds one more role. -/
theorem chainStep_mem {db : Database} {n : Nat} (hn : n < 101)
    (hmem : ∀ r, r ∈ db.roles ↔ ∃ i < n, r = chainRole i) (r : Role) :
    r ∈ (roleStep stdlib db (chainOp n)).roles ↔ r ∈ db.roles ∨ r = chainRole n := by
  have htaken : ∀ r ∈ db.roles, r.tenantID = tenant → r.key ≠ chainKey n := by
    intro r hr _ hkey
    obtain ⟨i, hi, rfl⟩ := (hmem r).mp hr
    have hin := chainKey_inj (by omega) hn hkey
    omega
  have hparent : ∀ p, (if n = 0 then none else some (chainID (n - 1))) = some p →
      ∃ q ∈ db.roles, q.id = p := by
    intro p hp
    by_cases hzero : n = 0
    · rw [if_pos hzero] at hp
      exact absurd hp (by simp)
    · rw [if_neg hzero, Option.some.injEq] at hp
      exact ⟨chainRole (n - 1), (hmem _).mpr ⟨n - 1, by omega, rfl⟩, hp⟩
  have hfresh : ∀ r ∈ db.roles, r.id ≠ chainID n := by
    intro r hr hid
    obtain ⟨i, hi, rfl⟩ := (hmem r).mp hr
    have hin := chainID_inj (by omega) hn hid
    omega
  have hname : ("link" : String).length ≤ 100 := by decide
  have hkey : (chainKey n).length ≤ 64 := by
    rw [chainKey_length]
    omega
  obtain ⟨db', hcreate, hrows⟩ := RoleRepo.create_eq db (chainID n) 0
    ⟨UUID.nil, tenant, chainKey n, "link", "", false,
      if n = 0 then none else some (chainID (n - 1)), Time.zero, Time.zero⟩
    hkey hname htaken hparent hfresh
  have hrun : roleStep stdlib db (chainOp n) = db' := by
    unfold roleStep chainOp
    simp only
    unfold RoleService.createRole
    rw [if_neg (by rw [chainKey_unreserved n hn]; simp), if_neg (by rw [chainName_unreserved]; simp)]
    simp only [hcreate]
    rfl
  rw [hrun]
  exact hrows r

/-- The chain after `n` calls. -/
theorem mem_chainStore {n : Nat} (hn : n ≤ 101) (r : Role) :
    r ∈ (chainStore n).roles ↔ ∃ i < n, r = chainRole i := by
  induction n generalizing r with
  | zero =>
    refine ⟨fun h => absurd h (Table.not_mem_empty r), fun ⟨i, hi, _⟩ => absurd hi (by omega)⟩
  | succ n ih =>
    rw [chainStore_succ, chainStep_mem (by omega) (ih (by omega)), ih (by omega)]
    refine ⟨fun h => ?_, fun ⟨i, hi, hr⟩ => ?_⟩
    · rcases h with ⟨i, hi, hr⟩ | hr
      · exact ⟨i, by omega, hr⟩
      · exact ⟨n, by omega, hr⟩
    · rcases Nat.lt_or_ge i n with hlt | hge
      · exact Or.inl ⟨i, hlt, hr⟩
      · have hin : i = n := by omega
        exact Or.inr (hin ▸ hr)

/-- The roles of the store are the chain. -/
def IsChain (db : Database) : Prop := ∀ r, r ∈ db.roles ↔ ∃ i < 101, r = chainRole i

section Chain

variable {db : Database} (hdb : IsChain db)

include hdb

theorem IsChain.mem {i : Nat} (hi : i < 101) : chainRole i ∈ db.roles :=
  (hdb _).mpr ⟨i, hi, rfl⟩

theorem IsChain.getByID {i : Nat} (hi : i < 101) :
    RoleRepo.getByID db (chainID i) tenant = .ok (chainRole i) := by
  have hfind : db.roles.find? (chainID i) = some (chainRole i) :=
    Table.find?_eq_some_iff.mpr ⟨hdb.mem hi, rfl⟩
  unfold RoleRepo.getByID
  rw [hfind]
  rfl

/-- The walk from the end of the chain spends all its steps above the root and
never compares the root with the visited roles. -/
theorem IsChain.walk {k : Nat} (hk : k ≤ 100) : ∀ {visited : List UUID},
    (∀ v ∈ visited, v = chainID 0 ∨ k + 1 < v.toNat) →
    RoleService.walk db tenant k visited (chainID k) = .ok (chainID 0) := by
  induction k with
  | zero => exact fun _ => rfl
  | succ k ih =>
    intro visited hvisited
    have hnot : visited.contains (chainID (k + 1)) = false := by
      rw [List.contains_eq_any_beq, List.any_eq_false]
      intro v hv heq
      have hv' : v = chainID (k + 1) := by simpa using (beq_iff_eq.mp heq).symm
      rcases hvisited v hv with hzero | hlt
      · have hin := chainID_inj (by omega) (by omega) (hv'.symm.trans hzero)
        omega
      · rw [hv', chainID_toNat (by omega)] at hlt
        omega
    rw [RoleService.walk, hnot, hdb.getByID (by omega)]
    show RoleService.walk db tenant k (chainID (k + 1) :: visited) (chainID k) = _
    apply ih (by omega)
    intro v hv
    rcases List.mem_cons.mp hv with rfl | hv
    · right
      rw [chainID_toNat (by omega)]
      omega
    · rcases hvisited v hv with hzero | hlt
      · exact Or.inl hzero
      · exact Or.inr (by omega)

theorem IsChain.setParent : ∃ updated db',
    RoleService.setParent db 0 tenant (chainID 0) (chainID 100) = .ok (updated, db') := by
  have hroot : RoleRepo.getByID db (chainID 0) tenant = .ok (chainRole 0) :=
    hdb.getByID (by omega)
  have hend : RoleRepo.getByID db (chainID 100) tenant = .ok (chainRole 100) :=
    hdb.getByID (by omega)
  have hwalk : RoleService.walk db tenant RoleService.maxDepth [chainID 0] (chainID 100) =
      .ok (chainID 0) := by
    apply hdb.walk (le_refl 100)
    intro v hv
    exact Or.inl (List.mem_singleton.mp hv)
  have hparent : ∀ p, some (chainID 100) = some p → ∃ q ∈ db.roles, q.id = p :=
    fun p hp => ⟨chainRole 100, hdb.mem (by omega), Option.some.inj hp⟩
  have hname : (chainRole 0).name.length ≤ 100 := by decide
  have hedit : RoleRepo.editable (chainRole 0).id tenant (chainRole 0) = true := by decide
  obtain ⟨updated, db', hupdate⟩ : ∃ updated db', RoleRepo.update db 0
      { chainRole 0 with parentRoleID := some (chainID 100) } tenant = .ok (updated, db') :=
    RoleRepo.update_eq 0 (hdb.mem (by omega)) hedit hname hparent
  refine ⟨updated, db', ?_⟩
  unfold RoleService.setParent
  rw [if_neg (by decide), hwalk]
  simp only [hroot, hend]
  rw [if_neg (by decide), if_neg (by decide)]
  simp only [hupdate]

/-- Below the new link the chain is as it was. -/
theorem IsChain.reaches_root {db' : Database} {new : Role}
    (h : Edited db db' (chainRole 0) new) {k : Nat} (hk : k ≤ 100) :
    ReflTransGen db'.Parent (chainID k) (chainID 0) := by
  have hrow : ∀ i, 0 < i → i < 101 → chainRole i ∈ db'.roles := by
    intro i hpos hi
    refine (h.mem _).mpr (Or.inl ⟨hdb.mem hi, fun hid => ?_⟩)
    have hin := chainID_inj hi (by omega) hid
    omega
  induction k with
  | zero => exact .refl
  | succ k ih =>
    refine .head ⟨chainRole (k + 1), hrow (k + 1) (by omega) (by omega), rfl, ?_, ?_⟩ (ih (by omega))
    · simp [chainRole]
    · by_cases hzero : k = 0
      · subst hzero
        exact ⟨new, (h.mem new).mpr (Or.inr rfl), h.id⟩
      · exact ⟨chainRole k, hrow k (by omega) (by omega), rfl⟩

/-- The accepted call closes the cycle. -/
theorem IsChain.cycle (hfk : ParentsExist db) :
    ¬ Acyclic (roleStep stdlib db (.setParent 0 tenant (chainID 0) (chainID 100))).Parent := by
  obtain ⟨updated, db', hset⟩ := hdb.setParent
  have hrun : roleStep stdlib db (.setParent 0 tenant (chainID 0) (chainID 100)) = db' := by
    rw [roleStep, hset, storeAfter]
  obtain ⟨old, new, hedited, hid, hparent, -, -⟩ := setParent_edited hset
  have hold : old = chainRole 0 :=
    Table.eq_of_key hedited.old_mem (hdb.mem (by omega)) hid
  subst hold
  have hnew : new ∈ db'.roles := (hedited.mem new).mpr (Or.inr rfl)
  have hlink : db'.Parent (chainID 0) (chainID 100) :=
    ⟨new, hnew, hedited.id, hparent, hedited.parentsExist hfk new hnew _ hparent⟩
  rw [hrun]
  exact fun hac => hac (chainID 0) (.head' hlink (hdb.reaches_root hedited (le_refl 100)))

end Chain

end Sample

theorem role_hierarchy_acyclic_sample :
    StepsOk (roleStep Sample.stdlib) NotHundredthAncestor .empty Sample.linkOps ∧
      Acyclic (run (roleStep Sample.stdlib) .empty Sample.linkOps).Parent := by
  have hok : StepsOk (roleStep Sample.stdlib) NotHundredthAncestor .empty Sample.linkOps := by
    refine ⟨trivial, trivial, ?_, trivial, trivial⟩
    unfold NotHundredthAncestor
    decide
  exact ⟨hok, role_hierarchy_acyclic _ _ hok _ (run_mem_states _ _)⟩

/-- The root of a chain of 101 roles is put below its end: the walk looks at a
hundred roles, of which none is the root, and finds that the next one has no
parent. -/
theorem role_hierarchy_cycle :
    ∃ db ∈ states (roleStep Sample.stdlib) .empty Sample.cycleOps, ¬ Acyclic db.Parent := by
  refine ⟨_, run_mem_states _ _, ?_⟩
  have hchain : Sample.IsChain (Sample.chainStore 101) := Sample.mem_chainStore (le_refl _)
  unfold Sample.cycleOps
  rw [run_concat]
  exact hchain.cycle (run_parentsExist _ _)

theorem role_parents_in_tenant_sample :
    StepsOk (roleStep Sample.stdlib) OwnParent .empty Sample.linkOps ∧
      ParentsInTenant (run (roleStep Sample.stdlib) .empty Sample.linkOps) := by
  have hok : StepsOk (roleStep Sample.stdlib) OwnParent .empty Sample.linkOps := by
    refine ⟨trivial, trivial, trivial, ?_, trivial⟩
    show ∀ q ∈ (run (roleStep Sample.stdlib) .empty (Sample.linkOps.take 3)).roles.rows,
      q.id = 2#128 → q.tenantID = Sample.tenant
    decide
  exact ⟨hok, (role_parents_in_tenant _ _ hok _ (run_mem_states _ _)).1⟩

/-- `CreateRole` takes a parent of another tenant, and the ancestor chain follows. -/
theorem role_parent_foreign :
    ∃ db ∈ states (roleStep Sample.stdlib) .empty Sample.foreignOps,
      (db.roles.rows.map fun r => (r.id, r.tenantID, r.parentRoleID)) =
        [(1#128, Sample.tenant, none), (2#128, Sample.otherTenant, some 1#128)] ∧
      RoleRepo.getAncestorChain db 2#128 = [2#128, 1#128] ∧ ¬ ParentsInTenant db := by
  refine ⟨_, run_mem_states _ _, by rfl, by rfl, fun h => ?_⟩
  have hrows : ∀ i, ∀ r ∈ (run (roleStep Sample.stdlib) .empty Sample.foreignOps).roles.rows[i]?,
      r ∈ (run (roleStep Sample.stdlib) .empty Sample.foreignOps).roles :=
    fun i r hr => List.mem_of_getElem? hr
  exact absurd (h _ (hrows 1 _ rfl) _ (hrows 0 _ rfl) rfl) (by decide)

end Ggid.Policy
