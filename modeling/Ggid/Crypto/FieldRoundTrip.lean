import Ggid.Crypto.FieldEncryption

/-!
# Package crypto — decrypting what was encrypted

A run of `EncryptRecord` seals some columns, each at a time, and what it makes of a record depends
on these only.

* `restored_of_plain`, `plain_of_restored` — when sealed records are restored;
* `restores_iff`                           — the same of `EncryptRecord` and `DecryptRecord`.
-/

namespace Ggid.Crypto

open Ggid.Go Ggid.Lib

variable {α : Type} (marshal : FieldValue α → Option String) (provider : DataKeyProvider)
  (tenantID table : String)

-- ---------------------------------------------------------------------------
-- Conditions
-- ---------------------------------------------------------------------------

/-- `DecryptField` inverts `EncryptField`. -/
def Inverts : Prop :=
  ∀ n tenantID text c, provider.encryptField n tenantID text = some c →
    provider.decryptField c = some text

/-- A ciphertext is longer than the text, as there are a nonce, a tag and a wrapped key in it. -/
def Lengthens : Prop :=
  ∀ n tenantID text c, provider.encryptField n tenantID text = some c → text.length < c.length

/-- A column that is sealed, the text that is encrypted, and the ciphertext. -/
structure Sealing where
  column     : String
  text       : String
  ciphertext : String

/-- What an entry of the registry seals, if anything. -/
def sealing (s : Encrypting α) (cfg : FieldEncryptionConfig) : Option Sealing :=
  (pending marshal table s cfg).bind fun text =>
    (provider.encryptField s.calls tenantID text).map fun c => ⟨cfg.columnName, text, c⟩

/-- The column has a string, and there is no field with the name of its marker. -/
def Plain (record : Record α) (e : Sealing) : Prop :=
  (∃ text, record e.column = some (.string text)) ∧ record (marker e.column) = none

/-- What an entry of the registry seals is plain. -/
def PlainColumn (s : Encrypting α) (cfg : FieldEncryptionConfig) : Prop :=
  ∀ e, sealing marshal provider tenantID table s cfg = some e → Plain s.record e

/-- No field that is marked already holds what `DecryptField` takes for a ciphertext. -/
def NothingSealed (record : Record α) : Prop :=
  ∀ f c, record (marker f) = some (.bool true) → record f = some (.string c) →
    provider.decryptField c = none

-- ---------------------------------------------------------------------------
-- Sealings
-- ---------------------------------------------------------------------------

def apply (record : Record α) (e : Sealing) : Record α := setEncrypted record e.column e.ciphertext

/-- The text is that of the column, and comes back. -/
structure Valid (record : Record α) (e : Sealing) : Prop where
  text   : (record e.column).bind (plaintext marshal) = some e.text
  opens  : provider.decryptField e.ciphertext = some e.text
  longer : e.text.length < e.ciphertext.length

variable {marshal provider tenantID table} {record : Record α} {e : Sealing} {es : List Sealing}
  {f k : String}

theorem apply_column (record : Record α) (e : Sealing) :
    apply record e e.column = some (.string e.ciphertext) := by
  rw [apply, setEncrypted, Function.update_of_ne (marker_ne e.column).symm, Function.update_self]

theorem apply_marker (record : Record α) (e : Sealing) :
    apply record e (marker e.column) = some (.bool true) := by
  rw [apply, setEncrypted, Function.update_self]

theorem apply_other (hcolumn : e.column ≠ k) (hmarker : marker e.column ≠ k) :
    apply record e k = record k := by
  rw [apply, setEncrypted, Function.update_of_ne hmarker.symm, Function.update_of_ne hcolumn.symm]

/-- A string is encrypted as it is. -/
theorem Valid.text_eq (h : Valid marshal provider record e) {text : String}
    (hstring : record e.column = some (.string text)) : e.text = text := by
  have htext := h.text
  rw [hstring] at htext
  exact (Option.some.inj htext).symm

theorem Valid.present (h : Valid marshal provider record e) : record e.column ≠ none := by
  intro hnone
  have htext := h.text
  rw [hnone] at htext
  cases htext

-- ---------------------------------------------------------------------------
-- Plain sealings are undone
-- ---------------------------------------------------------------------------

/-- What plain sealings leave: sealed columns, their markers, and all else as it was. -/
structure Sealed (provider : DataKeyProvider) (record sealed : Record α) (es : List Sealing) :
    Prop where
  column : ∀ e ∈ es, record e.column = some (.string e.text) ∧
    sealed e.column = some (.string e.ciphertext) ∧ provider.decryptField e.ciphertext = some e.text
  marked : ∀ e ∈ es, record (marker e.column) = none ∧
    sealed (marker e.column) = some (.bool true)
  other  : ∀ k, (∀ e ∈ es, e.column ≠ k ∧ marker e.column ≠ k) → sealed k = record k

/-- One more plain sealing is of another column. -/
theorem Sealed.apart {sealed : Record α} (h : Sealed provider record sealed es)
    (hplain : Plain sealed e) {e' : Sealing} (he' : e' ∈ es) :
    e'.column ≠ e.column ∧ marker e'.column ≠ e.column ∧ e'.column ≠ marker e.column := by
  obtain ⟨⟨text, hstring⟩, hnone⟩ := hplain
  obtain ⟨-, hcolumn, -⟩ := h.column e' he'
  obtain ⟨-, hmarker⟩ := h.marked e' he'
  refine ⟨fun heq => ?_, fun heq => ?_, fun heq => ?_⟩
  · rw [heq, hnone] at hmarker
    cases hmarker
  · rw [heq, hstring] at hmarker
    cases hmarker
  · rw [heq, hnone] at hcolumn
    cases hcolumn

theorem Sealed.concat {sealed : Record α} (h : Sealed provider record sealed es)
    (hplain : Plain sealed e) (hvalid : Valid marshal provider sealed e) :
    Sealed provider record (apply sealed e) (es ++ [e]) := by
  obtain ⟨⟨text, hstring⟩, hnone⟩ := id hplain
  have hcolumn : sealed e.column = record e.column :=
    h.other e.column fun e' he' => ⟨(h.apart hplain he').1, (h.apart hplain he').2.1⟩
  have hmarker : sealed (marker e.column) = record (marker e.column) :=
    h.other _ fun e' he' => ⟨(h.apart hplain he').2.2,
      fun heq => (h.apart hplain he').1 (marker_injective heq)⟩
  refine ⟨fun e' he' => ?_, fun e' he' => ?_, fun k hk => ?_⟩
  · rcases List.mem_append.mp he' with hold | hnew
    · obtain ⟨hne, -, hnot⟩ := h.apart hplain hold
      rw [apply_other hne.symm hnot.symm]
      exact h.column e' hold
    · rw [List.mem_singleton.mp hnew]
      refine ⟨?_, apply_column sealed e, hvalid.opens⟩
      rw [← hcolumn, hstring, hvalid.text_eq hstring]
  · rcases List.mem_append.mp he' with hold | hnew
    · obtain ⟨hne, hnot, -⟩ := h.apart hplain hold
      rw [apply_other hnot.symm fun heq => hne (marker_injective heq).symm]
      exact h.marked e' hold
    · rw [List.mem_singleton.mp hnew]
      exact ⟨hmarker.symm.trans hnone, apply_marker sealed e⟩
  · obtain ⟨hne, hnot⟩ := hk e (by simp)
    rw [apply_other hne hnot]
    exact h.other k fun e' he' => hk e' (List.mem_append_left [e] he')

theorem sealed_run (hvalid : StepsOk apply (Valid marshal provider) record es)
    (hplain : StepsOk apply Plain record es) : Sealed provider record (run apply record es) es := by
  induction es using List.reverseRecOn with
  | nil => exact ⟨fun _ h => (List.not_mem_nil h).elim, fun _ h => (List.not_mem_nil h).elim,
      fun _ _ => rfl⟩
  | append_singleton es e ih =>
    rw [run_concat]
    exact (ih hvalid.left hplain.left).concat hplain.of_append.1 hvalid.of_append.1

/-- **Plain sealings** are undone, if nothing else looks sealed. -/
theorem restored_of_plain (hvalid : StepsOk apply (Valid marshal provider) record es)
    (hplain : StepsOk apply Plain record es) (hnothing : NothingSealed provider record) :
    decrypted provider (run apply record es) = record := by
  have h := sealed_run hvalid hplain
  set sealed := run apply record es
  -- a field that opens was sealed
  have hopens : ∀ f text, opened provider sealed f = some text →
      ∃ e ∈ es, e.column = f ∧ e.text = text := by
    intro f text hopened
    obtain ⟨hmarker, c, hvalue, hdecrypt⟩ := opened_eq_some.mp hopened
    by_contra hnot
    have hcolumn : ∀ e ∈ es, e.column ≠ f := by
      rintro e he rfl
      obtain ⟨-, hciphertext, hopen⟩ := h.column e he
      rw [hvalue, Option.some.injEq, FieldValue.string.injEq] at hciphertext
      subst hciphertext
      exact hnot ⟨e, he, rfl, Option.some.inj (hopen.symm.trans hdecrypt)⟩
    have hvalue' : record f = some (.string c) := by
      rw [← h.other f fun e he => ⟨hcolumn e he, fun heq => ?_⟩]
      · exact hvalue
      · have hbool := (h.marked e he).2
        rw [heq, hvalue] at hbool
        cases hbool
    have hmarker' : record (marker f) = some (.bool true) := by
      rw [← h.other (marker f) fun e he => ⟨fun heq => ?_, fun heq => ?_⟩]
      · exact hmarker
      · have hstring := (h.column e he).2.1
        rw [heq, hmarker] at hstring
        cases hstring
      · exact hcolumn e he (marker_injective heq)
    rw [hnothing f c hmarker' hvalue'] at hdecrypt
    cases hdecrypt
  have hsealed : ∀ e ∈ es, opened provider sealed e.column = some e.text := fun e he =>
    opened_eq_some.mpr ⟨(h.marked e he).2, e.ciphertext, (h.column e he).2⟩
  funext k
  unfold decrypted
  split_ifs with hgone
  · obtain ⟨hstarts, hopened⟩ := hgone
    obtain ⟨text, htext⟩ := Option.isSome_iff_exists.mp hopened
    obtain ⟨e, he, hcolumn, -⟩ := hopens _ text htext
    rw [eq_marker hstarts, ← hcolumn, (h.marked e he).1]
  · cases hopened : opened provider sealed k with
    | some text =>
      obtain ⟨e, he, rfl, rfl⟩ := hopens k text hopened
      exact (h.column e he).1.symm
    | none =>
      refine h.other k fun e he => ⟨fun heq => ?_, fun heq => ?_⟩
      · rw [← heq, hsealed e he] at hopened
        cases hopened
      · refine hgone ⟨heq ▸ startsWith_marker e.column, ?_⟩
        rw [← heq, fieldName_marker, hsealed e he]
        rfl

-- ---------------------------------------------------------------------------
-- Restored records were sealed plainly
-- ---------------------------------------------------------------------------

/-- How often a column is sealed. -/
def times (f : String) (es : List Sealing) : Nat := es.countP fun e => e.column = f

theorem times_concat (f : String) (es : List Sealing) (e : Sealing) :
    times f (es ++ [e]) = times f es + if e.column = f then 1 else 0 := by
  rw [times, List.countP_append, List.countP_singleton, times]
  simp only [decide_eq_true_eq]

theorem times_eq_zero : times f es = 0 ↔ ∀ e ∈ es, e.column ≠ f := by
  simp [times, List.countP_eq_zero]

/-- A field that is neither sealed nor a marker of what is sealed. -/
theorem run_untouched (h : ∀ e ∈ es, e.column ≠ k ∧ marker e.column ≠ k) :
    run apply record es k = record k := by
  induction es using List.reverseRecOn with
  | nil => rfl
  | append_singleton es e ih =>
    obtain ⟨hcolumn, hmarker⟩ := h e (by simp)
    rw [run_concat, apply_other hcolumn hmarker]
    exact ih fun e' he' => h e' (List.mem_append_left [e] he')

/-- What becomes of a field that is not the marker of what is sealed: it stays as it was, or holds
the last ciphertext; and of a string that was sealed twice, a ciphertext was encrypted. -/
theorem value_of_run (hvalid : StepsOk apply (Valid marshal provider) record es)
    (hmarker : ∀ e ∈ es, marker e.column ≠ f) :
    (times f es = 0 ∧ run apply record es f = record f) ∨
      ∃ text c, run apply record es f = some (.string c) ∧
        provider.decryptField c = some text ∧ text.length < c.length ∧
        ∀ p, record f = some (.string p) →
          text = p ∧ times f es = 1 ∨ p.length < text.length := by
  induction es using List.reverseRecOn with
  | nil => exact .inl ⟨rfl, rfl⟩
  | append_singleton es e ih =>
    have hbefore := ih hvalid.left fun e' he' => hmarker e' (List.mem_append_left [e] he')
    have hnot : marker e.column ≠ f := hmarker e (by simp)
    rw [run_concat, times_concat]
    by_cases hf : e.column = f
    · have hlast : Valid marshal provider (run apply record es) e := hvalid.of_append.1
      rw [if_pos hf]
      refine .inr ⟨e.text, e.ciphertext, ?_, hlast.opens, hlast.longer, fun p hp => ?_⟩
      · rw [← hf]
        exact apply_column _ e
      · rcases hbefore with ⟨hzero, hsame⟩ | ⟨text, c, hstring, -, hlonger, hfirst⟩
        · refine .inl ⟨hlast.text_eq ?_, by rw [hzero]⟩
          rw [hf, hsame, hp]
        · have htext : e.text = c := hlast.text_eq (by rw [hf, hstring])
          right
          rw [htext]
          rcases hfirst p hp with ⟨rfl, -⟩ | hlt
          · exact hlonger
          · exact hlt.trans hlonger
    · rw [if_neg hf, apply_other hf hnot]
      exact hbefore

/-- What becomes of the marker of a column, if there was no such field. -/
theorem marker_of_run (hvalid : StepsOk apply (Valid marshal provider) record es)
    (hnone : record (marker f) = none) :
    (times f es = 0 → times (marker f) es = 0 ∧ run apply record es (marker f) = none) ∧
      (times f es = 1 → run apply record es (marker f) = some (.bool true) →
        times (marker f) es = 0) := by
  induction es using List.reverseRecOn with
  | nil => exact ⟨fun _ => ⟨rfl, hnone⟩, fun h => absurd h (by simp [times])⟩
  | append_singleton es e ih =>
    obtain ⟨hzero, hone⟩ := ih hvalid.left
    have hlast : Valid marshal provider (run apply record es) e := hvalid.of_append.1
    rw [run_concat, times_concat, times_concat]
    by_cases hf : e.column = f
    · rw [if_pos hf, if_neg (by rw [hf]; exact (marker_ne f).symm)]
      refine ⟨fun h => by omega, fun h _ => ?_⟩
      exact (hzero (by omega)).1
    · rw [if_neg hf, Nat.add_zero]
      by_cases hmarker : e.column = marker f
      · refine ⟨fun h => ?_, fun _ htrue => ?_⟩
        · exact absurd (hmarker ▸ (hzero h).2) hlast.present
        · rw [← hmarker, apply_column] at htrue
          cases htrue
      · rw [if_neg hmarker, apply_other hmarker fun heq => hf (marker_injective heq)]
        exact ⟨hzero, hone⟩

/-- What holds of a sealed column of a record that is restored. -/
structure SealedOnce (record : Record α) (es : List Sealing) (f : String) : Prop where
  string : ∃ p, record f = some (.string p)
  once   : times f es = 1
  free   : record (marker f) = none
  apart  : times (marker f) es = 0

/-- By the length of the name, since a marker is longer than what it marks. -/
theorem sealedOnce_of_restored (hvalid : StepsOk apply (Valid marshal provider) record es)
    (h : decrypted provider (run apply record es) = record) (f : String) (hf : times f es ≠ 0) :
    SealedOnce record es f := by
  induction hlength : f.length using Nat.strong_induction_on generalizing f with
  | _ length ih =>
    have hmarker : ∀ e ∈ es, marker e.column ≠ f := by
      rintro e he rfl
      have hshort := length_marker e.column
      have he' : times e.column es ≠ 0 := fun hzero => times_eq_zero.mp hzero e he rfl
      exact hf (ih _ (by omega) e.column he' rfl).apart
    rcases value_of_run hvalid hmarker with ⟨hzero, -⟩ | ⟨text, c, hstring, hdecrypt, hlonger, hp⟩
    · exact absurd hzero hf
    · have hkept : ¬ (startsWith f encryptedPrefix = true ∧
          (opened provider (run apply record es) (fieldName f)).isSome) := by
        rintro ⟨hstarts, hopened⟩
        have hbool := (opened_isSome hopened).1
        rw [← eq_marker hstarts, hstring] at hbool
        cases hbool
      have hvalue := congrFun h f
      rw [decrypted, if_neg hkept] at hvalue
      by_cases hbool : run apply record es (marker f) = some (.bool true)
      · have hopened : opened provider (run apply record es) f = some text :=
          opened_eq_some.mpr ⟨hbool, c, hstring, hdecrypt⟩
        rw [hopened] at hvalue
        have honce : times f es = 1 := by
          rcases hp text hvalue.symm with ⟨-, honce⟩ | hlt
          · exact honce
          · exact absurd hlt (lt_irrefl _)
        have hgone := congrFun h (marker f)
        rw [decrypted,
          if_pos ⟨startsWith_marker f, by rw [fieldName_marker, hopened]; rfl⟩] at hgone
        exact ⟨⟨text, hvalue.symm⟩, honce, hgone.symm,
          (marker_of_run hvalid hgone.symm).2 honce hbool⟩
      · have hclosed : opened provider (run apply record es) f = none := by
          rw [← Option.not_isSome_iff_eq_none]
          exact fun hopened => hbool (opened_isSome hopened).1
        rw [hclosed, hstring] at hvalue
        rcases hp c hvalue.symm with ⟨heq, -⟩ | hlt
        · rw [heq] at hlonger
          exact absurd hlonger (lt_irrefl _)
        · omega

/-- **Records that are restored** were sealed plainly. -/
theorem plain_of_restored (hvalid : StepsOk apply (Valid marshal provider) record es)
    (h : decrypted provider (run apply record es) = record) :
    StepsOk apply Plain record es ∧ NothingSealed provider record := by
  have hsealed := sealedOnce_of_restored hvalid h
  have hapart : ∀ f, times f es ≠ 0 → ∀ e ∈ es, marker e.column ≠ f := by
    rintro f hf e he rfl
    exact hf (hsealed e.column fun hzero => times_eq_zero.mp hzero e he rfl).apart
  constructor
  · refine stepsOk_of_split fun before e after hsplit => ?_
    have hmem : e ∈ es := by
      rw [hsplit]
      simp
    have h1 := hsealed e.column fun hzero => times_eq_zero.mp hzero e hmem rfl
    have hbefore : times e.column before = 0 := by
      have honce := h1.once
      rw [hsplit, times, List.countP_append, List.countP_cons_of_pos (by simp)] at honce
      rw [times]
      omega
    rw [hsplit] at hvalid
    refine ⟨?_, ((marker_of_run hvalid.left h1.free).1 hbefore).2⟩
    obtain ⟨p, hp⟩ := h1.string
    refine ⟨p, ?_⟩
    rw [run_untouched fun e' he' => ⟨times_eq_zero.mp hbefore e' he', ?_⟩]
    · exact hp
    · refine hapart e.column (by rw [h1.once]; exact Nat.one_ne_zero) e' ?_
      rw [hsplit]
      exact List.mem_append_left _ he'
  · intro f c hmarker hvalue
    have hf : times f es = 0 := by
      by_contra hf
      rw [(hsealed f hf).free] at hmarker
      cases hmarker
    have hm : times (marker f) es = 0 := by
      by_contra hm
      obtain ⟨p, hp⟩ := (hsealed _ hm).string
      rw [hmarker] at hp
      cases hp
    have hvalue' : run apply record es f = some (.string c) := by
      rw [run_untouched fun e he => ⟨times_eq_zero.mp hf e he, ?_⟩]
      · exact hvalue
      · rintro rfl
        rw [(hsealed e.column fun hzero => times_eq_zero.mp hzero e he rfl).free] at hvalue
        cases hvalue
    have hmarker' : run apply record es (marker f) = some (.bool true) := by
      rw [run_untouched fun e he => ⟨times_eq_zero.mp hm e he, fun heq => ?_⟩]
      · exact hmarker
      · exact times_eq_zero.mp hf e he (marker_injective heq)
    by_contra hopens
    obtain ⟨text, htext⟩ := Option.ne_none_iff_exists'.mp hopens
    have hopened := opened_eq_some.mpr ⟨hmarker', c, hvalue', htext⟩
    have hgone := congrFun h (marker f)
    rw [decrypted, if_pos ⟨startsWith_marker f, by rw [fieldName_marker, hopened]; rfl⟩,
      hmarker] at hgone
    cases hgone

-- ---------------------------------------------------------------------------
-- Encrypting and decrypting
-- ---------------------------------------------------------------------------

/-- What a run of `EncryptRecord` seals. -/
def seals (marshal : FieldValue α → Option String) (provider : DataKeyProvider)
    (tenantID table : String) : Encrypting α → List FieldEncryptionConfig → List Sealing
  | _, [] => []
  | s, cfg :: cfgs =>
    (sealing marshal provider tenantID table s cfg).toList ++
      seals marshal provider tenantID table
        (encryptColumn marshal provider tenantID table s cfg) cfgs

variable {s : Encrypting α} {cfg : FieldEncryptionConfig}

/-- A turn seals a column, or leaves the record alone. -/
theorem seals_cons (s : Encrypting α) (cfg : FieldEncryptionConfig)
    (cfgs : List FieldEncryptionConfig) :
    let next := encryptColumn marshal provider tenantID table s cfg
    (sealing marshal provider tenantID table s cfg = none ∧ next.record = s.record ∧
      seals marshal provider tenantID table s (cfg :: cfgs) =
        seals marshal provider tenantID table next cfgs) ∨
    ∃ e, sealing marshal provider tenantID table s cfg = some e ∧
      next.record = apply s.record e ∧
      seals marshal provider tenantID table s (cfg :: cfgs) =
        e :: seals marshal provider tenantID table next cfgs := by
  dsimp only
  rw [seals]
  unfold sealing encryptColumn
  cases pending marshal table s cfg with
  | none => exact .inl ⟨rfl, rfl, rfl⟩
  | some text =>
    cases henc : provider.encryptField s.calls tenantID text with
    | none => exact .inl ⟨by simp [henc], by simp [henc], by simp [henc]⟩
    | some c =>
      exact .inr ⟨⟨cfg.columnName, text, c⟩, by simp [henc], by simp [henc, apply],
        by simp [henc]⟩

theorem valid_of_sealing (hinverts : Inverts provider) (hlengthens : Lengthens provider)
    (h : sealing marshal provider tenantID table s cfg = some e) :
    Valid marshal provider s.record e := by
  obtain ⟨text, hpending, hmap⟩ := Option.bind_eq_some_iff.mp h
  obtain ⟨c, henc, rfl⟩ := Option.map_eq_some_iff.mp hmap
  unfold pending at hpending
  split_ifs at hpending
  exact ⟨hpending, hinverts _ _ _ _ henc, hlengthens _ _ _ _ henc⟩

theorem record_run (s : Encrypting α) (cfgs : List FieldEncryptionConfig) :
    (run (encryptColumn marshal provider tenantID table) s cfgs).record =
      run apply s.record (seals marshal provider tenantID table s cfgs) := by
  induction cfgs generalizing s with
  | nil => rfl
  | cons cfg cfgs ih =>
    have hrest := ih (encryptColumn marshal provider tenantID table s cfg)
    rcases seals_cons s cfg cfgs with ⟨-, hrecord, hseals⟩ | ⟨e, -, hrecord, hseals⟩
    · rw [hseals, ← hrecord]
      exact hrest
    · rw [hrecord] at hrest
      rw [hseals]
      exact hrest

theorem valid_seals (hinverts : Inverts provider) (hlengthens : Lengthens provider)
    (s : Encrypting α) (cfgs : List FieldEncryptionConfig) :
    StepsOk apply (Valid marshal provider) s.record
      (seals marshal provider tenantID table s cfgs) := by
  induction cfgs generalizing s with
  | nil => trivial
  | cons cfg cfgs ih =>
    have hrest := ih (encryptColumn marshal provider tenantID table s cfg)
    rcases seals_cons s cfg cfgs with ⟨-, hrecord, hseals⟩ | ⟨e, hsome, hrecord, hseals⟩
    · rw [hseals, ← hrecord]
      exact hrest
    · rw [hrecord] at hrest
      rw [hseals]
      exact ⟨valid_of_sealing hinverts hlengthens hsome, hrest⟩

theorem plain_seals_iff (s : Encrypting α) (cfgs : List FieldEncryptionConfig) :
    StepsOk apply Plain s.record (seals marshal provider tenantID table s cfgs) ↔
      StepsOk (encryptColumn marshal provider tenantID table)
        (PlainColumn marshal provider tenantID table) s cfgs := by
  induction cfgs generalizing s with
  | nil => exact Iff.rfl
  | cons cfg cfgs ih =>
    have hrest := ih (encryptColumn marshal provider tenantID table s cfg)
    rw [StepsOk, PlainColumn, ← hrest]
    rcases seals_cons s cfg cfgs with ⟨hnone, hrecord, hseals⟩ | ⟨e, hsome, hrecord, hseals⟩
    · rw [hseals, hnone, ← hrecord]
      exact (and_iff_right fun e he => by cases he).symm
    · rw [hseals, hsome, StepsOk, hrecord]
      exact and_congr_left' ⟨fun hplain e' he' => Option.some.inj he' ▸ hplain, fun h => h e rfl⟩

/-- What is sealed of a record is plain, and nothing of it looks sealed before. -/
def Restorable (marshal : FieldValue α → Option String) (provider : DataKeyProvider)
    (tenantID table : String) (configs : Registry) (record : Record α) : Prop :=
  StepsOk (encryptColumn marshal provider tenantID table)
      (PlainColumn marshal provider tenantID table) ⟨record, 0, false⟩ (configs tenantID) ∧
    NothingSealed provider record

/-- The record comes back as it was, and nothing that marked a column as encrypted is left. -/
def Restores (marshal : FieldValue α → Option String) (provider : Option DataKeyProvider)
    (tenantID table : String) (configs : Registry) (record : Record α)
    (range : Ranging (encryptRecord marshal tenantID table provider configs record)) : Prop :=
  decryptRecord provider (encryptRecord marshal tenantID table provider configs record) range =
      record ∧
    ∀ p, provider = some p →
      ∀ e ∈ seals marshal p tenantID table ⟨record, 0, false⟩ (configs tenantID),
        decryptRecord provider (encryptRecord marshal tenantID table provider configs record) range
          (marker e.column) = none

/-- **A record is restored** exactly if it is restorable, or nothing is done for want of a
provider. -/
theorem restores_iff (marshal : FieldValue α → Option String) (provider : Option DataKeyProvider)
    (hinverts : ∀ p, provider = some p → Inverts p)
    (hlengthens : ∀ p, provider = some p → Lengthens p) (calls : List RegistryCall)
    (tenantID table : String) (record : Record α)
    (range : Ranging (encryptRecord marshal tenantID table provider (registry calls) record)) :
    Restores marshal provider tenantID table (registry calls) record range ↔
      ∀ p, provider = some p → Restorable marshal p tenantID table (registry calls) record := by
  cases provider with
  | none => exact iff_of_true ⟨rfl, fun p hp => by cases hp⟩ fun p hp => by cases hp
  | some p =>
    have hvalid : StepsOk apply (Valid marshal p) record
        (seals marshal p tenantID table ⟨record, 0, false⟩ (registry calls tenantID)) :=
      valid_seals (hinverts p rfl) (hlengthens p rfl) ⟨record, 0, false⟩ (registry calls tenantID)
    have hafter : decryptRecord (some p)
        (encryptRecord marshal tenantID table (some p) (registry calls) record) range =
        decrypted p (run apply record
          (seals marshal p tenantID table ⟨record, 0, false⟩ (registry calls tenantID))) := by
      rw [decryptRecord_eq]
      unfold encryptRecord
      dsimp only
      rw [record_run]
    unfold Restores
    rw [hafter]
    constructor
    · rintro ⟨h, -⟩ q ⟨⟩
      obtain ⟨hplain, hnothing⟩ := plain_of_restored hvalid h
      exact ⟨(plain_seals_iff _ _).mp hplain, hnothing⟩
    · intro h
      obtain ⟨hplain, hnothing⟩ := h p rfl
      have hsame := restored_of_plain hvalid ((plain_seals_iff _ _).mpr hplain) hnothing
      refine ⟨hsame, ?_⟩
      rintro q ⟨⟩ e he
      rw [hsame]
      exact (sealedOnce_of_restored hvalid hsame e.column
        fun hzero => times_eq_zero.mp hzero e he rfl).free

end Ggid.Crypto

-- ---------------------------------------------------------------------------
-- A table of users
-- ---------------------------------------------------------------------------

namespace Ggid.Crypto.Sample

open Ggid.Lib

/-- Numbers, as `json.Marshal` writes them. -/
def marshal : FieldValue Nat → Option String
  | .null => some "null"
  | .bool b => some (toString b)
  | .string s => some ("\"" ++ s ++ "\"")
  | .other n => some (Nat.repr n)

/-- A cipher that is easy to break. -/
def cipher : DataKeyProvider where
  encryptField _ _ text := some (marker text)
  decryptField c := if startsWith c encryptedPrefix then some (fieldName c) else none

theorem inverts_cipher : Inverts cipher := by
  rintro n tenantID text c h
  cases h
  simp [cipher, startsWith_marker, fieldName_marker]

theorem lengthens_cipher : Lengthens cipher := by
  rintro n tenantID text c h
  cases h
  exact length_marker text

def calls (column : String) : List RegistryCall :=
  [.registerField ⟨"1", "acme", "users", column⟩, .registerField ⟨"2", "acme", "orders", "card"⟩]

def user : Record Nat :=
  Function.update (Function.update (fun _ => none) "phone" (some (.string "555"))) "age"
    (some (.other 44))

def encrypted (column : String) : Record Nat :=
  encryptRecord marshal "acme" "users" (some cipher) (registry (calls column)) user

theorem encrypted_phone : encrypted "phone" = setEncrypted user "phone" (marker "555") := rfl

theorem encrypted_age : encrypted "age" = setEncrypted user "age" (marker "44") := rfl

def keys (column : String) : List String := ["phone", "age", marker column]

theorem mem_keys {column : String} (hcolumn : column = "phone" ∨ column = "age") (c k : String) :
    k ∈ keys column ↔ setEncrypted user column c k ≠ none := by
  unfold keys setEncrypted user
  by_cases hmarker : k = marker column
  · simp [hmarker]
  · by_cases hphone : k = "phone"
    · by_cases hage : column = "phone" <;> simp_all [Function.update]
    · by_cases hage : k = "age" <;> rcases hcolumn with rfl | rfl <;>
        simp_all [Function.update]

def phoneRange : Ranging (encrypted "phone") where
  keys := keys "phone"
  nodup := by decide
  mem k := by
    rw [encrypted_phone]
    exact mem_keys (.inl rfl) _ k

def ageRange : Ranging (encrypted "age") where
  keys := keys "age"
  nodup := by decide
  mem k := by
    rw [encrypted_age]
    exact mem_keys (.inr rfl) _ k

theorem nothingSealed_user : NothingSealed cipher user := by
  intro f c hmarker
  simp only [user, Function.update_apply] at hmarker
  split_ifs at hmarker <;> cases hmarker

/-- The phone number comes back. -/
theorem phone_restores : Restores marshal (some cipher) "acme" "users" (registry (calls "phone"))
    user phoneRange := by
  refine (restores_iff marshal (some cipher) ?_ ?_ (calls "phone") "acme" "users" user
    phoneRange).mpr ?_
  · rintro p ⟨⟩
    exact inverts_cipher
  · rintro p ⟨⟩
    exact lengthens_cipher
  · rintro p ⟨⟩
    refine ⟨⟨?_, ?_, trivial⟩, nothingSealed_user⟩
    · rintro e ⟨⟩
      exact ⟨⟨"555", rfl⟩, rfl⟩
    · rintro e ⟨⟩

/-- The age comes back as a string. -/
theorem age_becomes_string : Inverts cipher ∧ Lengthens cipher ∧
    decryptRecord (some cipher) (encrypted "age") ageRange "age" = some (.string "44") ∧
    ¬ Restores marshal (some cipher) "acme" "users" (registry (calls "age")) user ageRange := by
  have hage : decryptRecord (some cipher) (encrypted "age") ageRange "age" = some (.string "44") :=
    rfl
  refine ⟨inverts_cipher, lengthens_cipher, hage, ?_⟩
  rintro ⟨hsame, -⟩
  have hnumber : some (FieldValue.other 44) = some (FieldValue.string "44") :=
    (congrFun hsame "age").symm.trans hage
  cases hnumber

end Ggid.Crypto.Sample
