import Ggid.Go.Strings
import Ggid.Go.Value
import Ggid.Identity.Filter
import Ggid.Lib.Run
import Ggid.Lib.Table

/-!
# Identity service — SCIM groups

Groups in the table `scim_groups`. A group is a document for the client: it is created with its
members, and a PATCH applies operations to its name and members. The statements take the document
apart: the one that inserts a group and those that read groups leave the members out.

* `members_of_not_addressed`, `prefix_addMembers` — what operations do to a document;
* `names_kept`                                    — the names that are read are right;
* `faithful_iff`                                  — when the members are.
-/

namespace Ggid.Identity.Groups

open Ggid.Go Ggid.Lib

-- ---------------------------------------------------------------------------
-- Groups
-- ---------------------------------------------------------------------------

structure SCIMGroupMember where
  value   : String
  display : String
  ref     : String
  type    : String
  deriving DecidableEq

structure SCIMMeta where
  resourceType : String
  location     : String
  deriving DecidableEq

/-- No members are an empty list, as `omitempty` drops either. -/
structure SCIMGroup where
  schemas     : List String
  id          : String
  displayName : String
  members     : List SCIMGroupMember
  scimMeta    : SCIMMeta
  deriving DecidableEq

def scimGroup (id displayName : String) (members : List SCIMGroupMember) : SCIMGroup where
  schemas     := ["urn:ietf:params:scim:schemas:core:2.0:Group"]
  id          := id
  displayName := displayName
  members     := members
  scimMeta    := ⟨"Group", "/scim/v2/Groups/" ++ id⟩

-- ---------------------------------------------------------------------------
-- The table
-- ---------------------------------------------------------------------------

/-- A row of `scim_groups`, less the times, which no statement reads. -/
structure GroupRow where
  id          : String
  tenantID    : UUID
  displayName : String
  members     : List SCIMGroupMember

abbrev GroupTable := Table GroupRow.id

/-- `INSERT … ON CONFLICT (id) DO UPDATE SET display_name`; the members are the default, `[]`. -/
def dbCreateGroup (t : GroupTable) (tenantID : UUID) (g : SCIMGroup) : GroupTable :=
  t.upsert ⟨g.id, tenantID, g.displayName, []⟩ (fun r => { r with displayName := g.displayName })
    fun _ => rfl

/-- `SELECT display_name … WHERE id = $1 AND tenant_id = $2`. -/
def dbGetGroup (t : GroupTable) (tenantID : UUID) (id : String) : Option SCIMGroup :=
  ((t.find? id).filter fun r => r.tenantID = tenantID).map fun r => scimGroup id r.displayName []

/-- `SELECT id, display_name … WHERE tenant_id = $1 ORDER BY display_name`, by the collation of the
database. -/
def dbListGroups (collate : String → String → Bool) (t : GroupTable) (tenantID : UUID) :
    List SCIMGroup :=
  if tenantID = UUID.nil then []
  else
    ((t.rows.filter fun r => r.tenantID = tenantID).mergeSort fun a b =>
      collate a.displayName b.displayName).map fun r => scimGroup r.id r.displayName []

def dbUpdateGroup (t : GroupTable) (tenantID : UUID) (g : SCIMGroup) : GroupTable :=
  t.update (fun r => r.id = g.id && r.tenantID = tenantID)
    (fun r => { r with displayName := g.displayName, members := g.members }) fun _ => rfl

def dbDeleteGroup (t : GroupTable) (tenantID : UUID) (id : String) : GroupTable :=
  t.delete fun r => r.id = id && r.tenantID = tenantID

-- ---------------------------------------------------------------------------
-- Operations on a group
-- ---------------------------------------------------------------------------

/-- `m[key].(string)`, and the empty text where it is none. -/
def stringField (m : GoMap) (key : String) : String :=
  match m.lookup key with
  | some (.string s) => s
  | _ => ""

def valueToMembers : Any → List SCIMGroupMember
  | .slice items => items.filterMap fun
    | .map m => some ⟨stringField m "value", stringField m "display", stringField m "$ref",
        stringField m "type"⟩
    | _ => none
  | _ => []

variable (std : Stdlib)

/-- What `value eq "…"` names. -/
def memberID (p : List Char) : Option String :=
  let p := (Strings.trimSpace (String.ofList p)).toList
  if Strings.hasPrefix (std.toLower (String.ofList p)).toList "value eq".toList then
    let val := Strings.trim (Strings.trimSpace (String.ofList (p.drop 8))).toList '"'
    if val ≠ [] then some (String.ofList val) else none
  else none

/-- The ids in a path such as `members[value eq "abc"]`. -/
def parseMemberFilter (path : String) : List String :=
  match Strings.index "[".toList path.toList with
  | none => []
  | some i =>
    let inner := (path.toList.drop (i + 1)).takeWhile fun c => c ≠ ']'
    (Strings.splitText inner " or ".toList).flatMap fun part =>
      (Strings.splitText (Strings.trimSpace (String.ofList part)).toList " and ".toList).filterMap
        (memberID std)

/-- The members that are not there yet are appended. -/
def addMembers : List SCIMGroupMember → List SCIMGroupMember → List SCIMGroupMember
  | members, [] => members
  | members, m :: newMembers =>
    if members.any fun m' => m'.value = m.value then addMembers members newMembers
    else addMembers (members ++ [m]) newMembers

def removeMembers (path : String) (members : List SCIMGroupMember) : List SCIMGroupMember :=
  let removeIDs := parseMemberFilter std path
  if 0 < removeIDs.length then members.filter fun m => m.value ∉ removeIDs else []

structure GroupOperation where
  op    : String
  path  : String
  value : Any

/-- One turn of the loop of `patchGroup`. -/
def applyOperation (group : SCIMGroup) (op : GroupOperation) : SCIMGroup :=
  let opPath := std.toLower (Strings.trimSpace op.path)
  match std.toLower op.op with
  | "replace" =>
    if opPath = "displayname" then
      match op.value with
      | .string name => { group with displayName := name }
      | _ => group
    else if opPath = "members" then { group with members := valueToMembers op.value }
    else group
  | "add" =>
    if opPath = "members" then
      { group with members := addMembers group.members (valueToMembers op.value) }
    else group
  | "remove" =>
    if opPath = "members" ∨ Strings.hasPrefix opPath.toList "members[".toList then
      { group with members := removeMembers std op.path group.members }
    else group
  | _ => group

def applyOperations (group : SCIMGroup) (ops : List GroupOperation) : SCIMGroup :=
  ops.foldl (applyOperation std) group

-- ---------------------------------------------------------------------------
-- Handlers
-- ---------------------------------------------------------------------------

inductive GroupResponse where
  | error (status : Nat) (detail : String)
  | group (status : Nat) (g : SCIMGroup)
  | list (totalResults startIndex itemsPerPage : Int) (resources : List SCIMGroup)
  | noContent
  | panicked

/-- The statements of a request that the database fails to carry out, in order. -/
abbrev Faults := Nat → Bool

/-- A body that was decoded, if it could be. -/
structure CreateBody where
  displayName : String
  members     : List SCIMGroupMember

/-- A request that changes groups, with the tenant that `tenantFromRequest` finds and with the id
that `uuid.New` draws. -/
inductive GroupCall where
  | createGroup (tenantID : Option UUID) (body : Option CreateBody) (groupID : String)
    (fails : Faults)
  | patchGroup (tenantID : Option UUID) (id : String) (body : Option (List GroupOperation))
    (fails : Faults)
  | deleteGroup (tenantID : Option UUID) (id : String) (fails : Faults)

def createGroup (t : GroupTable) (tenantID : Option UUID) (body : Option CreateBody)
    (groupID : String) (fails : Faults) : GroupTable × GroupResponse :=
  match tenantID, body with
  | none, _ => (t, .error 400 "missing tenant")
  | some _, none => (t, .error 400 "invalid request body")
  | some tenantID, some req =>
    if req.displayName = "" then (t, .error 400 "displayName is required")
    else
      let group := scimGroup groupID req.displayName req.members
      if fails 0 then (t, .error 500 "failed to persist group")
      else (dbCreateGroup t tenantID group, .group 201 group)

def getGroup (t : GroupTable) (tenantID : Option UUID) (id : String) (fails : Faults) :
    GroupResponse :=
  match tenantID with
  | none => .error 401 "tenant context required"
  | some tenantID =>
    match if fails 0 then none else dbGetGroup t tenantID id with
    | none => .error 404 "group not found"
    | some g => .group 200 g

def patchGroup (t : GroupTable) (tenantID : Option UUID) (id : String)
    (body : Option (List GroupOperation)) (fails : Faults) : GroupTable × GroupResponse :=
  match body, tenantID with
  | none, _ => (t, .error 400 "invalid PATCH body")
  | some _, none => (t, .error 401 "tenant context required")
  | some ops, some tenantID =>
    match if fails 0 then none else dbGetGroup t tenantID id with
    | none => (t, .error 404 "group not found")
    | some group =>
      let group := applyOperations std group ops
      if fails 1 then (t, .error 500 "failed to update group")
      else (dbUpdateGroup t tenantID group, .group 200 group)

def deleteGroup (t : GroupTable) (tenantID : Option UUID) (id : String) (fails : Faults) :
    GroupTable × GroupResponse :=
  match tenantID with
  | none => (t, .error 401 "tenant context required")
  | some tenantID =>
    if fails 0 then (t, .error 404 "group not found") else (dbDeleteGroup t tenantID id, .noContent)

def handle (t : GroupTable) : GroupCall → GroupTable × GroupResponse
  | .createGroup tenantID body groupID fails => createGroup t tenantID body groupID fails
  | .patchGroup tenantID id body fails => patchGroup std t tenantID id body fails
  | .deleteGroup tenantID id fails => deleteGroup t tenantID id fails

-- ---------------------------------------------------------------------------
-- The list
-- ---------------------------------------------------------------------------

/-- The query of a list request; of the numbers, what `strconv.Atoi` makes of them, if they are
there. -/
structure ListQuery where
  startIndex : Option Int
  count      : Option Int
  filter     : String

def filterName (filter : String) : String :=
  match Strings.index "displayName eq".toList filter.toList with
  | none => ""
  | some i =>
    let rest := filter.toList.drop (i + "displayName eq".toList.length)
    String.ofList (Strings.trim (Strings.trimSpace (String.ofList rest)).toList '"')

def matchesName (displayName : String) (g : SCIMGroup) : Bool :=
  displayName = "" || std.equalFold g.displayName displayName

def defaultSCIMGroups (displayName : String) : List SCIMGroup :=
  [scimGroup "role-admin-001" "Admin" [], scimGroup "role-user-001" "User" []].filter
    (matchesName std displayName)

/-- The groups that roles stand for. The rows are the roles in use, some without a name; there are
none where the query fails. -/
def getMockGroups (roles : Option (List (String × Option String))) (tenantID : UUID)
    (displayName : String) : List SCIMGroup :=
  if tenantID = UUID.nil then defaultSCIMGroups std displayName
  else
    match roles with
    | none => defaultSCIMGroups std displayName
    | some rows =>
      let groups := (rows.filterMap fun row => row.2.map fun name => scimGroup row.1 name []).filter
        (matchesName std displayName)
      if groups = [] then defaultSCIMGroups std displayName else groups

variable (collate : String → String → Bool)

/-- The groups that roles stand for, and those of the table with other ids. -/
def mergedGroups (t : GroupTable) (roles : Option (List (String × Option String)))
    (tenantID : UUID) (displayName : String) (fails : Faults) : List SCIMGroup :=
  let groups := getMockGroups std roles tenantID displayName
  if fails 0 then groups
  else
    groups ++ (dbListGroups collate t tenantID).filter fun g =>
      g.id ∉ groups.map SCIMGroup.id && matchesName std displayName g

/-- `groups[startIndex-1 : end]`, where `startIndex + count` may overflow. -/
def page (groups : List SCIMGroup) (startIndex count : Int) : Option (List SCIMGroup) :=
  let total : Int := groups.length
  let last := min ((startIndex + count).bmod (2 ^ 64)) total
  if total < startIndex then some []
  else if last < startIndex - 1 then none
  else some ((groups.take last.toNat).drop (startIndex - 1).toNat)

def listGroups (t : GroupTable) (roles : Option (List (String × Option String)))
    (tenantID : Option UUID) (q : ListQuery) (fails : Faults) : GroupResponse :=
  match tenantID with
  | none => .error 400 "missing tenant"
  | some tenantID =>
    let startIndex := (q.startIndex.filter fun v => 0 < v).getD 1
    let count := (q.count.filter fun v => 0 < v).getD 100
    let groups := mergedGroups std collate t roles tenantID (filterName q.filter) fails
    match page groups startIndex count with
    | none => .panicked
    | some resources => .list groups.length startIndex resources.length resources

-- ---------------------------------------------------------------------------
-- Documents
-- ---------------------------------------------------------------------------

/-- The groups as the answers to the requests have it. -/
abbrev Docs := UUID → String → Option SCIMGroup

def setDoc (docs : Docs) (tenantID : UUID) (id : String) (doc : Option SCIMGroup) : Docs :=
  fun tenantID' id' => if tenantID' = tenantID ∧ id' = id then doc else docs tenantID' id'

/-- A request that was answered with success is applied to the document. -/
def acknowledge (docs : Docs) : GroupCall → GroupResponse → Docs
  | .createGroup (some tenantID) (some req) groupID _, .group _ _ =>
    setDoc docs tenantID groupID (some (scimGroup groupID req.displayName req.members))
  | .patchGroup (some tenantID) id (some ops) _, .group _ _ =>
    setDoc docs tenantID id ((docs tenantID id).map fun g => applyOperations std g ops)
  | .deleteGroup (some tenantID) id _, .noContent => setDoc docs tenantID id none
  | _, _ => docs

structure Observed where
  table : GroupTable
  docs  : Docs

def start : Observed := ⟨Table.empty, fun _ _ => none⟩

def observe (o : Observed) (call : GroupCall) : Observed where
  table := (handle std o.table call).1
  docs := acknowledge std o.docs call (handle std o.table call).2

/-- What is read, one group or the list, is the documents. The list of the tenant without an id is
empty. -/
structure Faithful (o : Observed) : Prop where
  get  : ∀ tenantID id fails, fails 0 = false → getGroup o.table (some tenantID) id fails =
    match o.docs tenantID id with
    | some g => .group 200 g
    | none => .error 404 "group not found"
  list : ∀ tenantID, tenantID ≠ UUID.nil → ∀ roles displayName fails g, fails 0 = false →
    (g ∈ mergedGroups std collate o.table roles tenantID displayName fails ↔
      g ∈ getMockGroups std roles tenantID displayName ∨
        (∃ id, o.docs tenantID id = some g) ∧ matchesName std displayName g = true ∧
          g.id ∉ (getMockGroups std roles tenantID displayName).map SCIMGroup.id)

/-- A group is created without members and under an id that no other tenant has; and a PATCH, if
there were no members, leaves none. -/
def KeepsMembers (o : Observed) : GroupCall → Prop
  | .createGroup (some tenantID) (some req) groupID fails =>
    req.displayName ≠ "" → fails 0 = false →
      req.members = [] ∧ ∀ r, o.table.find? groupID = some r → r.tenantID = tenantID
  | .patchGroup (some tenantID) id (some ops) fails =>
    fails 0 = false → fails 1 = false → ∀ g, dbGetGroup o.table tenantID id = some g →
      (applyOperations std g ops).members = []
  | _ => True

-- ---------------------------------------------------------------------------
-- What operations do to a document
-- ---------------------------------------------------------------------------

variable {std collate} {group : SCIMGroup} {op : GroupOperation}

/-- The members that were there stay, in order. -/
theorem prefix_addMembers (members new : List SCIMGroupMember) :
    members <+: addMembers members new := by
  induction new generalizing members with
  | nil => exact List.prefix_rfl
  | cons m new ih =>
    rw [addMembers]
    split_ifs
    · exact ih members
    · exact (List.prefix_append members [m]).trans (ih (members ++ [m]))

/-- And one with each of the ids is there. -/
theorem mem_addMembers (members new : List SCIMGroupMember) {m : SCIMGroupMember} (hm : m ∈ new) :
    ∃ m' ∈ addMembers members new, m'.value = m.value := by
  induction new generalizing members with
  | nil => exact absurd hm List.not_mem_nil
  | cons n new ih =>
    rw [addMembers]
    rcases List.mem_cons.mp hm with rfl | hm
    · split_ifs with hany
      · obtain ⟨m', hm', hvalue⟩ := List.any_eq_true.mp hany
        exact ⟨m', (prefix_addMembers members new).subset hm', of_decide_eq_true hvalue⟩
      · refine ⟨m, (prefix_addMembers _ new).subset ?_, rfl⟩
        exact List.mem_append_right members (List.mem_singleton_self m)
    · split_ifs
      · exact ih members hm
      · exact ih (members ++ [n]) hm

/-- An operation on members has a path that begins with this word. -/
theorem members_of_not_addressed
    (h : ¬ Strings.hasPrefix (std.toLower (Strings.trimSpace op.path)).toList "members".toList) :
    (applyOperation std group op).members = group.members := by
  have hne : std.toLower (Strings.trimSpace op.path) ≠ "members" := by
    intro heq
    rw [heq] at h
    exact h (by decide)
  have hfilter : ¬ Strings.hasPrefix (std.toLower (Strings.trimSpace op.path)).toList
      "members[".toList = true := by
    intro hpre
    refine h (List.isPrefixOf_iff_prefix.mpr (List.IsPrefix.trans ?_
      (List.isPrefixOf_iff_prefix.mp hpre)))
    decide
  unfold applyOperation
  dsimp only
  split
  · split_ifs
    · split <;> rfl
    · rfl
  · rw [if_neg hne]
  · rw [if_neg (not_or.mpr ⟨hne, hfilter⟩)]
  · rfl

/-- What an operation makes of a name. -/
def renamed (std : Stdlib) (name : String) (op : GroupOperation) : String :=
  if std.toLower op.op = "replace" ∧ std.toLower (Strings.trimSpace op.path) = "displayname" then
    match op.value with
    | .string name => name
    | _ => name
  else name

theorem displayName_applyOperation :
    (applyOperation std group op).displayName = renamed std group.displayName op := by
  unfold renamed
  split_ifs with hrename
  · obtain ⟨hop, hpath⟩ := hrename
    unfold applyOperation
    simp only [hop, hpath, if_true]
    split <;> rfl
  · unfold applyOperation
    dsimp only
    split
    · rename_i hop
      rw [if_neg fun hpath => hrename ⟨hop, hpath⟩]
      split_ifs <;> rfl
    · split_ifs <;> rfl
    · split_ifs <;> rfl
    · rfl

theorem displayName_applyOperations (group : SCIMGroup) (ops : List GroupOperation) :
    (applyOperations std group ops).displayName = ops.foldl (renamed std) group.displayName := by
  induction ops generalizing group with
  | nil => rfl
  | cons op ops ih =>
    have hrest := ih (applyOperation std group op)
    rw [displayName_applyOperation] at hrest
    exact hrest

/-- All else stays. -/
theorem applyOperations_eq (id name : String) (members : List SCIMGroupMember)
    (ops : List GroupOperation) :
    applyOperations std (scimGroup id name members) ops =
      scimGroup id (applyOperations std (scimGroup id name members) ops).displayName
        (applyOperations std (scimGroup id name members) ops).members := by
  induction ops generalizing name members with
  | nil => rfl
  | cons op ops ih =>
    have hone : applyOperation std (scimGroup id name members) op =
        scimGroup id (applyOperation std (scimGroup id name members) op).displayName
          (applyOperation std (scimGroup id name members) op).members := by
      unfold applyOperation
      dsimp only
      split
      · split_ifs
        · split <;> rfl
        · rfl
        · rfl
      · split_ifs <;> rfl
      · split_ifs <;> rfl
      · rfl
    show applyOperations std (applyOperation std (scimGroup id name members) op) ops =
      scimGroup id (applyOperations std (applyOperation std (scimGroup id name members) op)
        ops).displayName
        (applyOperations std (applyOperation std (scimGroup id name members) op) ops).members
    rw [hone]
    exact ih _ _

-- ---------------------------------------------------------------------------
-- What the statements do
-- ---------------------------------------------------------------------------

section Statements

variable {t : GroupTable} {tenantID tenantID' : UUID} {id id' : String} {g : SCIMGroup}

theorem dbGetGroup_create (name : String) (members : List SCIMGroupMember) :
    dbGetGroup (dbCreateGroup t tenantID (scimGroup id name members)) tenantID' id' =
      if id' = id then
        if ((t.find? id).map GroupRow.tenantID).getD tenantID = tenantID' then
          some (scimGroup id name [])
        else none
      else dbGetGroup t tenantID' id' := by
  have hrow : (dbCreateGroup t tenantID (scimGroup id name members)).find? id' =
      if id' = id then
        some (((t.find? id').map fun r => { r with displayName := name }).getD
          ⟨id, tenantID, name, []⟩)
      else t.find? id' := Table.find?_upsert id'
  unfold dbGetGroup
  rw [hrow]
  by_cases hid : id' = id
  · subst hid
    rw [if_pos rfl, if_pos rfl]
    cases t.find? id' with
    | none =>
      by_cases howner : tenantID = tenantID' <;> simp [Option.filter_some, howner]
    | some r =>
      by_cases howner : r.tenantID = tenantID' <;> simp [Option.filter_some, howner]
  · rw [if_neg hid, if_neg hid]

theorem dbGetGroup_update (hid : g.id = id) :
    dbGetGroup (dbUpdateGroup t tenantID g) tenantID' id' =
      if tenantID' = tenantID ∧ id' = id then
        (dbGetGroup t tenantID' id').map fun _ => scimGroup id g.displayName []
      else dbGetGroup t tenantID' id' := by
  subst hid
  unfold dbGetGroup dbUpdateGroup
  rw [Table.find?_update]
  cases hfind : t.find? id' with
  | none => simp
  | some r =>
    have hid := (Table.find?_eq_some_iff.mp hfind).2
    rw [Option.map_some]
    by_cases htenant : r.tenantID = tenantID'
    · subst htenant
      by_cases hpair : r.tenantID = tenantID ∧ id' = g.id
      · have hupdates : (decide (r.id = g.id) && decide (r.tenantID = tenantID)) = true := by
          simp [hid, hpair.1, hpair.2]
        rw [if_pos hpair, if_pos hupdates]
        simp [Option.filter_some, hpair.2]
      · have hkeeps : ¬ (decide (r.id = g.id) && decide (r.tenantID = tenantID)) = true := by
          rw [hid, Bool.and_eq_true, decide_eq_true_eq, decide_eq_true_eq]
          exact fun h => hpair h.symm
        rw [if_neg hpair, if_neg hkeeps]
    · have hother : ∀ d : GroupRow, d.tenantID = r.tenantID →
          ((some d).filter fun r => r.tenantID = tenantID').map
            (fun r => scimGroup id' r.displayName []) = none := by
        intro d hd
        simp [Option.filter_some, hd, htenant]
      rw [hother r rfl, hother _ (by split_ifs <;> rfl)]
      split_ifs <;> rfl

theorem dbGetGroup_delete : dbGetGroup (dbDeleteGroup t tenantID id) tenantID' id' =
    if tenantID' = tenantID ∧ id' = id then none else dbGetGroup t tenantID' id' := by
  unfold dbGetGroup
  have hfind : (dbDeleteGroup t tenantID id).find? id' =
      (t.find? id').filter fun r => !(decide (r.id = id) && decide (r.tenantID = tenantID)) :=
    Table.find?_filter t _ id'
  rw [hfind]
  cases hrow : t.find? id' with
  | none => simp
  | some r =>
    have hid := (Table.find?_eq_some_iff.mp hrow).2
    by_cases htenant : r.tenantID = tenantID'
    · subst htenant
      by_cases hpair : r.tenantID = tenantID ∧ id' = id
      · simp [Option.filter_some, hid, hpair.1, hpair.2]
      · have hkeeps : ¬ (id' = id ∧ r.tenantID = tenantID) := fun h => hpair h.symm
        rw [if_neg hpair]
        simp [Option.filter_some, hid, not_and_or.mp hkeeps]
    · have hnone : ∀ p : GroupRow → Bool,
          ((some r).filter p).filter (fun r => r.tenantID = tenantID') = none := by
        intro p
        rw [Option.filter_some]
        split_ifs <;> simp [htenant]
      have hread : ((some r).filter fun r => r.tenantID = tenantID') = none := by
        rw [Option.filter_some, if_neg (by simpa using htenant)]
      rw [hnone, hread]
      split_ifs <;> rfl

theorem mem_dbListGroups (htenant : tenantID ≠ UUID.nil) :
    g ∈ dbListGroups collate t tenantID ↔ ∃ id, dbGetGroup t tenantID id = some g := by
  unfold dbListGroups
  rw [if_neg htenant, List.mem_map]
  constructor
  · rintro ⟨r, hr, rfl⟩
    obtain ⟨hr, howner⟩ := List.mem_filter.mp (List.mem_mergeSort.mp hr)
    refine ⟨r.id, ?_⟩
    rw [dbGetGroup, Table.find?_eq_some_iff.mpr ⟨hr, rfl⟩, Option.filter_some, if_pos howner]
    rfl
  · rintro ⟨id, hget⟩
    obtain ⟨r, hr, rfl⟩ := Option.map_eq_some_iff.mp hget
    obtain ⟨hfind, howner⟩ := Option.filter_eq_some_iff.mp hr
    obtain ⟨hmem, rfl⟩ := Table.find?_eq_some_iff.mp hfind
    exact ⟨r, List.mem_mergeSort.mpr (List.mem_filter.mpr ⟨hmem, howner⟩), rfl⟩

-- ---------------------------------------------------------------------------
-- Runs
-- ---------------------------------------------------------------------------

variable {β : Type} (f : SCIMGroup → β) {o : Observed}

/-- The table has of the documents what `f` reads of them. -/
def SameUpTo (o : Observed) : Prop :=
  ∀ tenantID id, (dbGetGroup o.table tenantID id).map f = (o.docs tenantID id).map f

variable {f}

theorem setDoc_self (docs : Docs) (tenantID : UUID) (id : String) (doc : Option SCIMGroup) :
    setDoc docs tenantID id doc tenantID id = doc := if_pos ⟨rfl, rfl⟩

theorem same_create (h : SameUpTo f o) (tenantID : UUID) (groupID name : String)
    (members : List SCIMGroupMember) :
    SameUpTo f ⟨dbCreateGroup o.table tenantID (scimGroup groupID name members),
      setDoc o.docs tenantID groupID (some (scimGroup groupID name members))⟩ ↔
      f (scimGroup groupID name []) = f (scimGroup groupID name members) ∧
        ∀ r, o.table.find? groupID = some r → r.tenantID = tenantID := by
  have howner : ((o.table.find? groupID).map GroupRow.tenantID).getD tenantID = tenantID ↔
      ∀ r, o.table.find? groupID = some r → r.tenantID = tenantID := by
    cases o.table.find? groupID <;> simp
  constructor
  · intro hafter
    have hown := hafter tenantID groupID
    dsimp only at hown
    rw [dbGetGroup_create, if_pos rfl, setDoc_self] at hown
    split_ifs at hown with hmine
    · exact ⟨Option.some.inj hown, howner.mp hmine⟩
    · cases hown
  · rintro ⟨hsame, hmine⟩ tenantID' id'
    dsimp only
    rw [dbGetGroup_create, howner.mpr hmine]
    unfold setDoc
    by_cases hid : id' = groupID
    · subst hid
      by_cases htenant : tenantID' = tenantID
      · rw [if_pos rfl, if_pos htenant.symm, if_pos ⟨htenant, rfl⟩]
        exact congrArg some hsame
      · -- another tenant has no such group, and had none
        have hnone : dbGetGroup o.table tenantID' id' = none := by
          rw [dbGetGroup, Option.map_eq_none_iff, Option.filter_eq_none_iff]
          intro r hr
          simpa [hmine r hr] using Ne.symm htenant
        rw [if_pos rfl, if_neg (Ne.symm htenant), if_neg fun hboth => htenant hboth.1,
          ← h tenantID' id', hnone]
    · rw [if_neg hid, if_neg fun hboth => hid hboth.2]
      exact h tenantID' id'

theorem same_patch (h : SameUpTo f o) {ops : List GroupOperation} {doc : SCIMGroup}
    (hget : dbGetGroup o.table tenantID id = some g) (hdoc : o.docs tenantID id = some doc) :
    SameUpTo f ⟨dbUpdateGroup o.table tenantID (applyOperations std g ops),
      setDoc o.docs tenantID id ((o.docs tenantID id).map fun g => applyOperations std g ops)⟩ ↔
      f (scimGroup id (applyOperations std g ops).displayName []) =
        f (applyOperations std doc ops) := by
  have hid : (applyOperations std g ops).id = id := by
    obtain ⟨r, -, rfl⟩ := Option.map_eq_some_iff.mp hget
    rw [applyOperations_eq]
    rfl
  rw [hdoc, Option.map_some]
  constructor
  · intro hafter
    have hown := hafter tenantID id
    dsimp only at hown
    rw [dbGetGroup_update hid, if_pos ⟨rfl, rfl⟩, hget, setDoc_self] at hown
    exact Option.some.inj hown
  · intro hsame tenantID' id'
    dsimp only
    rw [dbGetGroup_update hid]
    unfold setDoc
    split_ifs with hboth
    · rw [hboth.1, hboth.2, hget]
      exact congrArg some hsame
    · exact h tenantID' id'

theorem same_delete (h : SameUpTo f o) : SameUpTo f ⟨dbDeleteGroup o.table tenantID id,
    setDoc o.docs tenantID id none⟩ := by
  intro tenantID' id'
  dsimp only
  rw [dbGetGroup_delete]
  unfold setDoc
  split_ifs
  · rfl
  · exact h tenantID' id'

/-- What a request needs for `f` to read the same. -/
def KeepsUpTo (std : Stdlib) (f : SCIMGroup → β) (o : Observed) : GroupCall → Prop
  | .createGroup (some tenantID) (some req) groupID fails =>
    req.displayName ≠ "" → fails 0 = false →
      f (scimGroup groupID req.displayName []) =
          f (scimGroup groupID req.displayName req.members) ∧
        ∀ r, o.table.find? groupID = some r → r.tenantID = tenantID
  | .patchGroup (some tenantID) id (some ops) fails =>
    fails 0 = false → fails 1 = false → ∀ g, dbGetGroup o.table tenantID id = some g →
      ∀ doc, o.docs tenantID id = some doc →
        f (scimGroup id (applyOperations std g ops).displayName []) =
          f (applyOperations std doc ops)
  | _ => True

/-- **One request.** -/
theorem same_observe_iff (h : SameUpTo f o) (call : GroupCall) :
    SameUpTo f (observe std o call) ↔ KeepsUpTo std f o call := by
  cases call with
  | createGroup tenant body groupID fails =>
    cases tenant with
    | none => exact iff_of_true h trivial
    | some tenantID =>
      cases body with
      | none => exact iff_of_true h trivial
      | some req =>
        by_cases hname : req.displayName = ""
        · simp only [observe, handle, createGroup, if_pos hname, acknowledge]
          exact iff_of_true h fun hne => absurd hname hne
        · by_cases hfails : fails 0 = true
          · simp only [observe, handle, createGroup, if_neg hname, if_pos hfails, acknowledge]
            exact iff_of_true h fun _ hok => by simp [hfails] at hok
          · simp only [observe, handle, createGroup, if_neg hname, if_neg hfails, acknowledge]
            rw [same_create h]
            exact ⟨fun hkeeps _ _ => hkeeps, fun hkeeps => hkeeps hname (by simpa using hfails)⟩
  | patchGroup tenant id body fails =>
    cases body with
    | none => cases tenant <;> exact iff_of_true h trivial
    | some ops =>
      cases tenant with
      | none => exact iff_of_true h trivial
      | some tenantID =>
        by_cases hread : fails 0 = true
        · simp only [observe, handle, patchGroup, if_pos hread, acknowledge]
          exact iff_of_true h fun hok => by simp [hread] at hok
        · cases hget : dbGetGroup o.table tenantID id with
          | none =>
            simp only [observe, handle, patchGroup, if_neg hread, hget, acknowledge]
            refine iff_of_true h fun _ _ g hg => ?_
            rw [hget] at hg
            cases hg
          | some g =>
            by_cases hwrite : fails 1 = true
            · simp only [observe, handle, patchGroup, if_neg hread, hget, if_pos hwrite,
                acknowledge]
              exact iff_of_true h fun _ hok => by simp [hwrite] at hok
            · simp only [observe, handle, patchGroup, if_neg hread, hget, if_neg hwrite,
                acknowledge]
              obtain ⟨doc, hdoc⟩ : ∃ doc, o.docs tenantID id = some doc := by
                have hsome := h tenantID id
                rw [hget] at hsome
                obtain ⟨doc, hdoc, -⟩ := Option.map_eq_some_iff.mp hsome.symm
                exact ⟨doc, hdoc⟩
              rw [same_patch h hget hdoc]
              constructor
              · intro hsame _ _ g' hg' doc' hdoc'
                rw [← Option.some.inj (hget.symm.trans hg'),
                  ← Option.some.inj (hdoc.symm.trans hdoc')]
                exact hsame
              · exact fun hkeeps =>
                  hkeeps (by simpa using hread) (by simpa using hwrite) g hget doc hdoc
  | deleteGroup tenant id fails =>
    cases tenant with
    | none => exact iff_of_true h trivial
    | some tenantID =>
      by_cases hfails : fails 0 = true
      · simp only [observe, handle, deleteGroup, if_pos hfails, acknowledge]
        exact iff_of_true h trivial
      · simp only [observe, handle, deleteGroup, if_neg hfails, acknowledge]
        exact iff_of_true (same_delete h) trivial

end Statements

variable {o : Observed}

/-- A group is created under an id that no other tenant has. -/
def FreshID (o : Observed) : GroupCall → Prop
  | .createGroup (some tenantID) _ groupID _ =>
    ∀ r, o.table.find? groupID = some r → r.tenantID = tenantID
  | _ => True

/-- **The names are right**, and the groups that are there. -/
theorem names_kept (calls : List GroupCall) (hfresh : StepsOk (observe std) FreshID start calls) :
    ∀ o ∈ states (observe std) start calls, SameUpTo SCIMGroup.displayName o := by
  refine invariant_states (fun o call h hok => (same_observe_iff h call).mpr ?_)
    (fun _ _ => rfl) hfresh
  cases call with
  | createGroup tenant body groupID fails =>
    cases tenant with
    | none => trivial
    | some tenantID =>
      cases body with
      | none => trivial
      | some req => exact fun _ _ => ⟨rfl, hok⟩
  | patchGroup tenant id body fails =>
    cases tenant with
    | none => cases body <;> trivial
    | some tenantID =>
      cases body with
      | none => trivial
      | some ops =>
        intro _ _ g hget doc hdoc
        have hname := h tenantID id
        rw [hget, hdoc, Option.map_some, Option.map_some, Option.some.injEq] at hname
        show (applyOperations std g ops).displayName = (applyOperations std doc ops).displayName
        rw [displayName_applyOperations, displayName_applyOperations, hname]
  | deleteGroup tenant id fails => cases tenant <;> trivial

theorem keepsUpTo_id_iff (h : SameUpTo id o) (call : GroupCall) :
    KeepsUpTo std id o call ↔ KeepsMembers std o call := by
  cases call with
  | createGroup tenant body groupID fails =>
    cases tenant with
    | none => exact Iff.rfl
    | some tenantID =>
      cases body with
      | none => exact Iff.rfl
      | some req =>
        refine imp_congr_right fun _ => imp_congr_right fun _ => and_congr_left' ?_
        refine ⟨fun hsame => (congrArg SCIMGroup.members hsame).symm, fun hnone => ?_⟩
        rw [hnone]
  | patchGroup tenant groupID body fails =>
    cases tenant with
    | none => cases body <;> exact Iff.rfl
    | some tenantID =>
      cases body with
      | none => exact Iff.rfl
      | some ops =>
        refine imp_congr_right fun _ => imp_congr_right fun _ => forall₂_congr fun g hget => ?_
        obtain ⟨r, -, hg⟩ := Option.map_eq_some_iff.mp hget
        have hdoc := h tenantID groupID
        rw [hget, Option.map_id_fun, id_eq, id_eq, eq_comm] at hdoc
        constructor
        · exact fun hsame => (congrArg SCIMGroup.members (hsame g hdoc)).symm
        · intro hnone doc hdoc'
          obtain rfl : g = doc := Option.some.inj (hdoc.symm.trans hdoc')
          rw [← hg] at hnone ⊢
          show scimGroup groupID _ [] =
            applyOperations std (scimGroup groupID r.displayName []) ops
          rw [applyOperations_eq groupID r.displayName [] ops, hnone]
          rfl
  | deleteGroup tenant groupID fails => cases tenant <;> exact Iff.rfl

theorem faithful_iff_same : Faithful std collate o ↔ SameUpTo id o := by
  unfold SameUpTo
  simp only [Option.map_id_fun, id_eq]
  constructor
  · intro h tenantID id
    have hget := h.get tenantID id (fun _ => false) rfl
    unfold getGroup at hget
    dsimp only at hget
    rw [if_neg Bool.false_ne_true] at hget
    cases hrow : dbGetGroup o.table tenantID id with
    | none =>
      cases hdoc : o.docs tenantID id with
      | none => rfl
      | some g =>
        rw [hrow, hdoc] at hget
        cases hget
    | some g' =>
      cases hdoc : o.docs tenantID id with
      | none =>
        rw [hrow, hdoc] at hget
        cases hget
      | some g =>
        rw [hrow, hdoc] at hget
        cases hget
        rfl
  · intro h
    refine ⟨fun tenantID id fails hfails => ?_,
      fun tenantID htenant roles name fails g hfails => ?_⟩
    · unfold getGroup
      dsimp only
      rw [hfails, if_neg Bool.false_ne_true, h tenantID id]
      cases o.docs tenantID id <;> rfl
    · unfold mergedGroups
      dsimp only
      rw [hfails, if_neg Bool.false_ne_true, List.mem_append, List.mem_filter,
        mem_dbListGroups htenant]
      simp only [h tenantID, Bool.and_eq_true, decide_eq_true_eq]
      exact or_congr_right (and_congr_right fun _ => and_comm)

/-- **The members are right** exactly if there never are any. -/
theorem faithful_iff (std : Stdlib) (collate : String → String → Bool) (calls : List GroupCall) :
    (∀ o ∈ states (observe std) start calls, Faithful std collate o) ↔
      StepsOk (observe std) (KeepsMembers std) start calls := by
  refine forall_states_iff_of_step (fun o call hfaithful => ?_)
    (faithful_iff_same.mpr fun _ _ => rfl)
  rw [faithful_iff_same] at hfaithful ⊢
  rw [same_observe_iff hfaithful call, keepsUpTo_id_iff hfaithful call]

-- ---------------------------------------------------------------------------
-- A group of engineers
-- ---------------------------------------------------------------------------

namespace Sample

def ann : SCIMGroupMember := ⟨"u1", "Ann", "/scim/v2/Users/u1", "User"⟩

def engineers : List GroupCall :=
  [.createGroup (some 1) (some ⟨"Engineers", [ann]⟩) "g1" fun _ => false]

/-- The member given at creation is not there. -/
theorem engineers_without_ann : ¬ ∀ o ∈ states (observe Identity.Sample.stdlib) start engineers,
    Faithful Identity.Sample.stdlib (fun _ _ => true) o := by
  intro hall
  have hget := (hall _ (run_mem_states start engineers)).get 1 "g1" (fun _ => false) rfl
  have hempty : GroupResponse.group 200 (scimGroup "g1" "Engineers" []) =
      .group 200 (scimGroup "g1" "Engineers" [ann]) := hget
  rw [GroupResponse.group.injEq] at hempty
  exact absurd (congrArg SCIMGroup.members hempty.2) (by decide)

example : parseMemberFilter Identity.Sample.stdlib
    "members[value eq \"u1\" or value eq \"u2\"]" = ["u1", "u2"] := by decide

end Sample

end Ggid.Identity.Groups
