import Ggid.Go.Strings
import Ggid.Lib.Run

/-!
# Package crypto — encrypted fields

A registry says which columns of which tables are encrypted. `EncryptRecord` goes through the
registry; it puts a ciphertext in the place of a value and a marker field next to it.
`DecryptRecord` goes through the record, in the order of a range over a map, and is led by the
markers, which it deletes.

* `decryptRecord_eq` — what `DecryptRecord` makes of a record, whatever the order of the range.
-/

namespace Ggid.Crypto

open Ggid.Go Ggid.Lib

-- ---------------------------------------------------------------------------
-- Records
-- ---------------------------------------------------------------------------

/-- `any`; nothing is known of numbers, lists and maps but what `json.Marshal` makes of them. -/
inductive FieldValue (α : Type) where
  | null
  | bool (b : Bool)
  | string (s : String)
  | other (value : α)
  deriving DecidableEq

/-- `map[string]any`. -/
abbrev Record (α : Type) := String → Option (FieldValue α)

/-- An order for a range over a record. -/
structure Ranging {α : Type} (record : Record α) where
  keys  : List String
  nodup : keys.Nodup
  mem   : ∀ k, k ∈ keys ↔ record k ≠ none

def encryptedPrefix : String := "__encrypted_"

/-- The name of the field that marks a column as encrypted. -/
def marker (column : String) : String := encryptedPrefix ++ column

def startsWith (s pre : String) : Bool := Strings.hasPrefix s.toList pre.toList

/-- What a marker field marks. -/
def fieldName (key : String) : String :=
  String.ofList (key.toList.drop encryptedPrefix.toList.length)

-- ---------------------------------------------------------------------------
-- The registry
-- ---------------------------------------------------------------------------

structure FieldEncryptionConfig where
  id         : String
  tenantID   : String
  tableName  : String
  columnName : String
  deriving DecidableEq

abbrev Registry := String → List FieldEncryptionConfig

def registerField (configs : Registry) (cfg : FieldEncryptionConfig) : Registry :=
  if cfg.tenantID = "" then configs
  else Function.update configs cfg.tenantID (configs cfg.tenantID ++ [cfg])

def removeField (configs : Registry) (tenantID id : String) : Registry :=
  Function.update configs tenantID ((configs tenantID).eraseP fun c => c.id = id)

inductive RegistryCall where
  | registerField (cfg : FieldEncryptionConfig)
  | removeField (tenantID id : String)

def RegistryCall.run (configs : Registry) : RegistryCall → Registry
  | .registerField cfg => Crypto.registerField configs cfg
  | .removeField tenantID id => Crypto.removeField configs tenantID id

/-- The registry after some calls. -/
def registry (calls : List RegistryCall) : Registry := calls.foldl RegistryCall.run fun _ => []

-- ---------------------------------------------------------------------------
-- Encryption
-- ---------------------------------------------------------------------------

/-- What is used of the provider. Two calls may differ in the key and the nonce they draw, so the
first argument counts the calls; an error is none. -/
structure DataKeyProvider where
  encryptField : Nat → String → String → Option String
  decryptField : String → Option String

/-- A record that is being encrypted, and whether `EncryptRecord` has returned an error. -/
structure Encrypting (α : Type) where
  record : Record α
  calls  : Nat
  failed : Bool

variable {α : Type} (marshal : FieldValue α → Option String) (provider : DataKeyProvider)
  (tenantID table : String)

/-- The bytes that are to be encrypted. -/
def plaintext : FieldValue α → Option String
  | .string s => some s
  | .null => none
  | v => marshal v

/-- A ciphertext takes the place of the value, and a marker is set. -/
def setEncrypted (record : Record α) (column ciphertext : String) : Record α :=
  Function.update (Function.update record column (some (.string ciphertext))) (marker column)
    (some (.bool true))

/-- What is to be encrypted for an entry of the registry, if anything. -/
def pending (s : Encrypting α) (cfg : FieldEncryptionConfig) : Option String :=
  if s.failed ∨ cfg.tableName ≠ table then none
  else (s.record cfg.columnName).bind (plaintext marshal)

/-- One turn of the loop of `EncryptRecord`. -/
def encryptColumn (s : Encrypting α) (cfg : FieldEncryptionConfig) : Encrypting α :=
  match pending marshal table s cfg with
  | none => s
  | some text =>
    match provider.encryptField s.calls tenantID text with
    | none => { s with failed := true }
    | some ciphertext =>
      { s with record := setEncrypted s.record cfg.columnName ciphertext, calls := s.calls + 1 }

/-- Without a provider, nothing is done. -/
def encryptRecord (provider : Option DataKeyProvider) (configs : Registry) (record : Record α) :
    Record α :=
  match provider with
  | none => record
  | some provider =>
    (run (encryptColumn marshal provider tenantID table) ⟨record, 0, false⟩
      (configs tenantID)).record

-- ---------------------------------------------------------------------------
-- Decryption
-- ---------------------------------------------------------------------------

/-- One turn of the loop of `DecryptRecord`. -/
def decryptKey (record : Record α) (key : String) : Record α :=
  if startsWith key encryptedPrefix = false then record
  else
    match record key with
    | some (.bool true) =>
      match record (fieldName key) with
      | some (.string ciphertext) =>
        match provider.decryptField ciphertext with
        | some text =>
          Function.update (Function.update record (fieldName key) (some (.string text))) key none
        | none => record
      | _ => record
    | _ => record

def decryptRecord (provider : Option DataKeyProvider) (record : Record α) (range : Ranging record) :
    Record α :=
  match provider with
  | none => record
  | some provider => range.keys.foldl (decryptKey provider) record

-- ---------------------------------------------------------------------------
-- Markers
-- ---------------------------------------------------------------------------

variable {marshal provider tenantID table}

theorem marker_injective : Function.Injective marker := by
  intro f g h
  unfold marker at h
  rw [← String.toList_inj, String.toList_append, String.toList_append] at h
  exact String.toList_inj.mp (List.append_cancel_left h)

theorem length_marker (f : String) : f.length < (marker f).length := by
  have hprefix : encryptedPrefix.length = 12 := by decide
  rw [marker, String.length_append, hprefix]
  omega

theorem marker_ne (f : String) : marker f ≠ f := by
  intro h
  have hlength := length_marker f
  rw [h] at hlength
  exact absurd hlength (lt_irrefl _)

theorem fieldName_marker (f : String) : fieldName (marker f) = f := by
  rw [fieldName, marker, String.toList_append, List.drop_left, String.ofList_toList]

theorem startsWith_marker (f : String) : startsWith (marker f) encryptedPrefix = true := by
  unfold startsWith Strings.hasPrefix marker
  rw [List.isPrefixOf_iff_prefix, String.toList_append]
  exact List.prefix_append _ _

theorem eq_marker {key : String} (h : startsWith key encryptedPrefix = true) :
    key = marker (fieldName key) := by
  unfold startsWith Strings.hasPrefix at h
  rw [List.isPrefixOf_iff_prefix] at h
  obtain ⟨rest, hrest⟩ := h
  have hkey : key = encryptedPrefix ++ String.ofList rest := by
    rw [← String.toList_inj, String.toList_append, String.toList_ofList, hrest]
  rw [hkey]
  exact congrArg marker (fieldName_marker (String.ofList rest)).symm

theorem decryptKey_of_other {record : Record α} {key : String} (h : ∀ f, key ≠ marker f) :
    decryptKey provider record key = record := by
  unfold decryptKey
  rw [if_pos]
  rw [← Bool.not_eq_true]
  exact fun hstarts => h _ (eq_marker hstarts)

-- ---------------------------------------------------------------------------
-- What is decrypted
-- ---------------------------------------------------------------------------

/-- What a marked field is decrypted to. -/
def opened (provider : DataKeyProvider) (record : Record α) (f : String) : Option String :=
  match record (marker f), record f with
  | some (.bool true), some (.string ciphertext) => provider.decryptField ciphertext
  | _, _ => none

/-- The record after some of its keys were visited: markers that did their work are gone, and what
they mark is decrypted. -/
def visited (provider : DataKeyProvider) (record : Record α) (keys : List String) : Record α :=
  fun k =>
    if k ∈ keys ∧ startsWith k encryptedPrefix = true ∧
        (opened provider record (fieldName k)).isSome then none
    else if marker k ∈ keys then ((opened provider record k).map .string).or (record k)
    else record k

/-- The record after all keys were visited. -/
def decrypted (provider : DataKeyProvider) (record : Record α) : Record α :=
  fun k =>
    if startsWith k encryptedPrefix = true ∧ (opened provider record (fieldName k)).isSome then none
    else ((opened provider record k).map .string).or (record k)

variable {record : Record α} {f key text : String} {keys : List String}

theorem opened_eq_some : opened provider record f = some text ↔
    record (marker f) = some (.bool true) ∧
      ∃ c, record f = some (.string c) ∧ provider.decryptField c = some text := by
  unfold opened
  split
  · rename_i c hmarker hvalue
    simp [hmarker, hvalue]
  · rename_i hother
    simp only [reduceCtorEq, false_iff, not_and, not_exists]
    exact fun hmarker c hvalue => absurd hvalue (hother c hmarker)

theorem opened_isSome (h : (opened provider record f).isSome) :
    record (marker f) = some (.bool true) ∧ ∃ c, record f = some (.string c) := by
  obtain ⟨text, htext⟩ := Option.isSome_iff_exists.mp h
  obtain ⟨hmarker, c, hvalue, -⟩ := opened_eq_some.mp htext
  exact ⟨hmarker, c, hvalue⟩

/-- A marker that was not visited is as it was. -/
theorem visited_bool (h : key ∉ keys) :
    visited provider record keys key = some (.bool true) ↔ record key = some (.bool true) := by
  unfold visited
  rw [if_neg fun hvisited => h hvisited.1]
  split_ifs with hmarker
  · cases hopened : opened provider record key with
    | none => rfl
    | some text =>
      obtain ⟨-, c, hvalue, -⟩ := opened_eq_some.mp hopened
      simp [hvalue]
  · rfl

/-- And so is a ciphertext. -/
theorem visited_string (h : marker f ∉ keys) {c : String} :
    visited provider record keys f = some (.string c) ↔ record f = some (.string c) := by
  unfold visited
  rw [if_neg h]
  split_ifs with hgone
  · obtain ⟨-, hstarts, hopened⟩ := hgone
    obtain ⟨hmarker, -⟩ := opened_isSome hopened
    rw [← eq_marker hstarts] at hmarker
    simp [hmarker]
  · rfl

theorem opened_visited (h : marker f ∉ keys) :
    opened provider (visited provider record keys) f = opened provider record f := by
  apply Option.ext
  intro text
  rw [opened_eq_some, opened_eq_some, visited_bool h]
  simp only [visited_string h]

/-- A turn decrypts what the key marks, and takes the key away. -/
theorem decryptKey_marker (record : Record α) (f : String) :
    decryptKey provider record (marker f) =
      match opened provider record f with
      | some text =>
        Function.update (Function.update record f (some (.string text))) (marker f) none
      | none => record := by
  unfold decryptKey opened
  rw [if_neg (by rw [startsWith_marker]; exact Bool.noConfusion), fieldName_marker]
  split
  · rename_i hmarker
    split
    · rename_i c hvalue
      simp only [hmarker, hvalue]
    · rename_i hother
      split
      · rename_i c heq
        split at heq
        · rename_i hvalue
          exact absurd hvalue (hother _)
        · cases heq
      · rfl
  · rename_i hother
    split
    · rename_i c heq
      split at heq
      · rename_i hmarker hvalue
        exact absurd hmarker hother
      · cases heq
    · rfl

/-- **One more key** is visited. -/
theorem decryptKey_visited (h : key ∉ keys) :
    decryptKey provider (visited provider record keys) key =
      visited provider record (key :: keys) := by
  by_cases hkey : ∃ f, key = marker f
  · obtain ⟨f, rfl⟩ := hkey
    rw [decryptKey_marker, opened_visited h]
    cases hopened : opened provider record f with
    | some text =>
      obtain ⟨hmarker, c, hvalue, -⟩ := opened_eq_some.mp hopened
      funext k
      by_cases hk : k = marker f
      · subst hk
        dsimp only
        rw [Function.update_self, visited, if_pos]
        exact ⟨List.mem_cons_self, startsWith_marker f, by rw [fieldName_marker, hopened]; rfl⟩
      · dsimp only
        rw [Function.update_of_ne hk]
        by_cases hf : k = f
        · subst hf
          rw [Function.update_self, visited, if_neg, if_pos List.mem_cons_self, hopened]
          · rfl
          · rintro ⟨-, hstarts, hgone⟩
            have hbool := (opened_isSome hgone).1
            rw [← eq_marker hstarts, hvalue] at hbool
            cases hbool
        · rw [Function.update_of_ne hf]
          have hother : marker k ≠ marker f := fun heq => hf (marker_injective heq)
          simp [visited, hk, hother]
    | none =>
      funext k
      dsimp only
      unfold visited
      by_cases hk : k = marker f
      · subst hk
        have hother : marker (marker f) ≠ marker f := fun heq => marker_ne f (marker_injective heq)
        simp [fieldName_marker, hopened, hother]
      · by_cases hf : k = f
        · subst hf
          simp [hopened, hk, h]
        · have hother : marker k ≠ marker f := fun heq => hf (marker_injective heq)
          simp [hk, hother]
  · have hno : ∀ f, key ≠ marker f := fun f heq => hkey ⟨f, heq⟩
    rw [decryptKey_of_other hno]
    funext k
    unfold visited
    have hmarker : marker k ≠ key := fun heq => hno k heq.symm
    by_cases hk : k = key
    · subst hk
      have hstarts : startsWith k encryptedPrefix = false := by
        rw [← Bool.not_eq_true]
        exact fun hstarts => hno _ (eq_marker hstarts)
      simp [hstarts, hmarker]
    · simp [hk, hmarker]

/-- **What `DecryptRecord` makes of a record**, whatever the order of the range. -/
theorem decryptRecord_eq (record : Record α) (range : Ranging record) :
    decryptRecord (some provider) record range = decrypted provider record := by
  have hfold : ∀ keys done : List String, (done.reverse ++ keys).Nodup →
      keys.foldl (decryptKey provider) (visited provider record done) =
        visited provider record (keys.reverse ++ done) := by
    intro keys
    induction keys with
    | nil => exact fun _ _ => rfl
    | cons key keys ih =>
      intro done hnodup
      have hfresh : key ∉ done := by
        intro hmem
        exact (List.nodup_append.mp hnodup).2.2 key (List.mem_reverse.mpr hmem) key
          List.mem_cons_self rfl
      rw [List.foldl_cons, decryptKey_visited hfresh, ih, List.reverse_cons, List.append_assoc]
      · rfl
      · rwa [List.reverse_cons, List.append_assoc]
  have hstart : visited provider record [] = record := by
    funext k
    simp [visited]
  have hall := hfold range.keys [] range.nodup
  rw [hstart, List.append_nil] at hall
  rw [decryptRecord, hall]
  funext k
  unfold visited decrypted
  simp only [List.mem_reverse, range.mem]
  by_cases hgone : startsWith k encryptedPrefix = true ∧
      (opened provider record (fieldName k)).isSome
  · have hbool := (opened_isSome hgone.2).1
    rw [← eq_marker hgone.1] at hbool
    rw [if_pos ⟨by simp [hbool], hgone⟩, if_pos hgone]
  · rw [if_neg fun h => hgone h.2, if_neg hgone]
    split_ifs with hmarker
    · rfl
    · have hnone : opened provider record k = none := by
        rw [← Option.not_isSome_iff_eq_none]
        intro hopened
        rw [(opened_isSome hopened).1] at hmarker
        exact hmarker (Option.some_ne_none _)
      rw [hnone]
      rfl

end Ggid.Crypto
