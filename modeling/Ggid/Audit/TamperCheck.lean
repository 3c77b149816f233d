import Ggid.Audit.HashChain
import Mathlib.Data.List.Chain

/-!
# Audit service — the tamper check

`verifyEventChain` walks over the rows of a tenant, oldest first. It compares the
`prev_hash` of an event with the hash of the row before, and recomputes the hash. Rows
without a hash are counted and passed over, redacted rows are not recomputed.

The row before is the previous row, with or without a hash. Behind a row without one no
link is compared.

* `clean_unbroken_iff`       — if nothing critical is reported, the events with a hash
  form a chain, exactly if the comparisons that are left out would have succeeded;
* `legacy_row_hides_deletion` — an event is deleted next to a row without a hash.

How an issue is described is left out but for the events and the hash it names.
-/

namespace Ggid.Audit

open Ggid.Go Ggid.Lib

-- ---------------------------------------------------------------------------
-- `verifyEventChain`
-- ---------------------------------------------------------------------------

structure AuditChainRow where
  event       : AuditEvent
  piiRedacted : Bool
  deriving DecidableEq

inductive TamperIssue where
  | chainLinkBreak (e prev : AuditEvent)
  | hashChainBreak (e : AuditEvent) (expected : Bytes)
  | timestampAnomaly (e prev : AuditEvent)
  deriving DecidableEq

namespace TamperIssue

def type : TamperIssue → String
  | chainLinkBreak _ _   => "chain_link_break"
  | hashChainBreak _ _   => "hash_chain_break"
  | timestampAnomaly _ _ => "timestamp_anomaly"

def eventID : TamperIssue → UUID
  | chainLinkBreak e _   => e.id
  | hashChainBreak e _   => e.id
  | timestampAnomaly e _ => e.id

def severity : TamperIssue → String
  | chainLinkBreak _ _   => "critical"
  | hashChainBreak _ _   => "critical"
  | timestampAnomaly _ _ => "low"

end TamperIssue

/-- The variables of the loop. -/
structure ChainCheck where
  i        : Nat
  prev     : Option AuditEvent
  verified : Nat
  unhashed : Nat
  redacted : Nat
  issues   : List TamperIssue
  deriving DecidableEq

def ChainCheck.start : ChainCheck := ⟨0, none, 0, 0, 0, []⟩

/-- `prev_hash` against the hash of the row before. -/
def linkIssues (st : ChainCheck) (e : AuditEvent) : List TamperIssue :=
  match st.prev with
  | some prev =>
    if 0 < st.i ∧ prev.hash ≠ [] ∧ e.prevHash ≠ [] ∧ e.prevHash ≠ prev.hash then
      [.chainLinkBreak e prev]
    else []
  | none => []

def timestampIssues (st : ChainCheck) (e : AuditEvent) : List TamperIssue :=
  match st.prev with
  | some prev => if e.createdAt < prev.createdAt then [.timestampAnomaly e prev] else []
  | none => []

section Check

variable (hmac : Bytes → Bytes → Bytes) (s : HashChainSecrets)

/-- The recomputed hash against the stored one. Of both hashes the first twelve bytes are
quoted, which panics if there are fewer. -/
def contentIssues (row : AuditChainRow) : Option (List TamperIssue) :=
  let e := row.event
  if row.piiRedacted || !s.isHashChainEnabled || verifyHash hmac s e e.prevHash then some []
  else
    let expected := computeHash hmac s e e.prevHash
    if e.hash.length < 12 ∨ expected.length < 12 then none
    else some [.hashChainBreak e (expected.take 12)]

/-- The body of the loop; nothing stands for a panic. -/
def checkRow (st : ChainCheck) (row : AuditChainRow) : Option ChainCheck :=
  let e := row.event
  if e.hash = [] then
    some { st with i := st.i + 1, prev := some e, unhashed := st.unhashed + 1 }
  else
    (contentIssues hmac s row).map fun content =>
      { i        := st.i + 1
        prev     := some e
        verified := st.verified +
          if !row.piiRedacted && s.isHashChainEnabled && content.isEmpty then 1 else 0
        unhashed := st.unhashed
        redacted := st.redacted + if row.piiRedacted then 1 else 0
        issues   := st.issues ++ linkIssues st e ++ content ++ timestampIssues st e }

def verifyEventChain (rows : List AuditChainRow) : Option ChainCheck :=
  rows.foldlM (checkRow hmac s) .start

/-- The check comes to an end and reports nothing critical. -/
def Clean (rows : List AuditChainRow) : Prop :=
  ∃ st, verifyEventChain hmac s rows = some st ∧ ∀ x ∈ st.issues, x.severity ≠ "critical"

end Check

-- ---------------------------------------------------------------------------
-- What a chain is
-- ---------------------------------------------------------------------------

/-- The events that carry a hash. -/
def hashedEvents (rows : List AuditChainRow) : List AuditEvent :=
  (rows.map AuditChainRow.event).filter fun e => e.hash ≠ []

/-- The events that carry a hash refer each to the one before, and those that were not
redacted have the hash they should. -/
structure Unbroken (hmac : Bytes → Bytes → Bytes) (s : HashChainSecrets)
    (rows : List AuditChainRow) : Prop where
  links    : (hashedEvents rows).IsChain fun p e => e.prevHash = p.hash
  contents : ∀ row ∈ rows, row.event.hash ≠ [] → row.piiRedacted = false →
    verifyHash hmac s row.event row.event.prevHash = true

/-- Redacted events have the hash they should, too. -/
def RedactedRecompute (hmac : Bytes → Bytes → Bytes) (s : HashChainSecrets)
    (rows : List AuditChainRow) : Prop :=
  ∀ row ∈ rows, row.event.hash ≠ [] → row.piiRedacted = true →
    verifyHash hmac s row.event row.event.prevHash = true

/-- Of every row with a hash: its event, together with the rows before. -/
def EachHashed (P : List AuditChainRow → AuditChainRow → Prop) (rows : List AuditChainRow) :
    Prop :=
  ∀ before row after, rows = before ++ row :: after → row.event.hash ≠ [] → P before row

/-- The link of the event is compared: there is a hash in the row before, and a
`prev_hash`. -/
def LinkChecked (before : List AuditChainRow) (row : AuditChainRow) : Prop :=
  row.event.prevHash ≠ [] ∧ ∃ prev, before.getLast? = some prev ∧ prev.event.hash ≠ []

/-- The event refers to the last one before it with a hash. -/
def RefersBack (before : List AuditChainRow) (row : AuditChainRow) : Prop :=
  ∀ p, (hashedEvents before).getLast? = some p → row.event.prevHash = p.hash

section Chain

variable (hmac : Bytes → Bytes → Bytes) (s : HashChainSecrets)

/-- The event was redacted, or has the hash it should. -/
def Recomputes (row : AuditChainRow) : Prop :=
  row.piiRedacted = false → verifyHash hmac s row.event row.event.prevHash = true

/-- The comparisons that are made succeed. -/
def CheckedHold (rows : List AuditChainRow) : Prop :=
  EachHashed (fun before row => (LinkChecked before row → RefersBack before row) ∧
    (s.isHashChainEnabled = true → Recomputes hmac s row)) rows

/-- The comparisons that are left out would succeed: those of a link behind a row without
a hash and of an empty `prev_hash`, and all of a content if the chain is disabled. -/
def UncheckedHold (rows : List AuditChainRow) : Prop :=
  EachHashed (fun before row => (¬ LinkChecked before row → RefersBack before row) ∧
    (s.isHashChainEnabled = false → Recomputes hmac s row)) rows

end Chain

-- ---------------------------------------------------------------------------
-- One more row
-- ---------------------------------------------------------------------------

section Concat

variable {hmac : Bytes → Bytes → Bytes} {s : HashChainSecrets} {rows : List AuditChainRow}
  {row : AuditChainRow} {st : ChainCheck}

theorem eachHashed_concat {P : List AuditChainRow → AuditChainRow → Prop} :
    EachHashed P (rows ++ [row]) ↔ EachHashed P rows ∧ (row.event.hash ≠ [] → P rows row) := by
  constructor
  · intro h
    refine ⟨fun before x after hsplit => h before x (after ++ [row]) ?_, h rows row [] rfl⟩
    rw [hsplit, List.append_assoc, List.cons_append]
  · rintro ⟨hrows, hrow⟩ before x after hsplit
    rcases List.eq_nil_or_concat after with rfl | ⟨init, last, rfl⟩
    · obtain ⟨rfl, hlast⟩ := List.append_inj' hsplit rfl
      obtain rfl := List.singleton_injective hlast
      exact hrow
    · rw [List.concat_eq_append, ← List.cons_append, ← List.append_assoc] at hsplit
      exact hrows before x init (List.append_inj' hsplit rfl).1

theorem hashedEvents_concat :
    hashedEvents (rows ++ [row]) =
      hashedEvents rows ++ if row.event.hash = [] then [] else [row.event] := by
  rw [hashedEvents, List.map_append, List.filter_append, List.map_singleton, List.filter_singleton]
  by_cases hhash : row.event.hash = []
  · simp [hashedEvents, hhash]
  · simp [hashedEvents, hhash]

/-- The links of a chain, one by one. -/
theorem isChain_hashedEvents_iff :
    ((hashedEvents rows).IsChain fun p e => e.prevHash = p.hash) ↔ EachHashed RefersBack rows := by
  induction rows using List.reverseRecOn with
  | nil =>
    refine iff_of_true List.isChain_nil fun before row after hsplit => ?_
    exact absurd hsplit.symm (by simp)
  | append_singleton rows row ih =>
    rw [hashedEvents_concat, eachHashed_concat, ← ih]
    by_cases hhash : row.event.hash = []
    · simp [hhash]
    · rw [if_neg hhash, List.isChain_append, and_iff_right (List.isChain_singleton _)]
      simp only [ne_eq, hhash, not_false_eq_true, forall_const, RefersBack, Option.mem_def,
        List.head?_cons, Option.some.injEq, forall_eq']

theorem contents_iff :
    (∀ x ∈ rows, x.event.hash ≠ [] → x.piiRedacted = false →
      verifyHash hmac s x.event x.event.prevHash = true) ↔
      EachHashed (fun _ x => Recomputes hmac s x) rows := by
  constructor
  · intro h before x after hsplit hhash
    exact h x (by rw [hsplit]; exact List.mem_append_right _ List.mem_cons_self) hhash
  · intro h x hx hhash
    obtain ⟨before, after, hsplit⟩ := List.append_of_mem hx
    exact h before x after hsplit hhash

/-- A chain is what the two kinds of comparisons say together. -/
theorem unbroken_iff :
    Unbroken hmac s rows ↔ CheckedHold hmac s rows ∧ UncheckedHold hmac s rows := by
  have hsplit : Unbroken hmac s rows ↔
      EachHashed RefersBack rows ∧ EachHashed (fun _ x => Recomputes hmac s x) rows := by
    rw [← isChain_hashedEvents_iff, ← contents_iff]
    exact ⟨fun h => ⟨h.links, h.contents⟩, fun h => ⟨h.1, h.2⟩⟩
  rw [hsplit]
  constructor
  · rintro ⟨hlinks, hcontents⟩
    refine ⟨fun before x after hx hhash => ?_, fun before x after hx hhash => ?_⟩
    · exact ⟨fun _ => hlinks before x after hx hhash, fun _ => hcontents before x after hx hhash⟩
    · exact ⟨fun _ => hlinks before x after hx hhash, fun _ => hcontents before x after hx hhash⟩
  · rintro ⟨hchecked, hunchecked⟩
    refine ⟨fun before x after hx hhash => ?_, fun before x after hx hhash => ?_⟩
    · by_cases hlink : LinkChecked before x
      · exact (hchecked before x after hx hhash).1 hlink
      · exact (hunchecked before x after hx hhash).1 hlink
    · cases henabled : s.isHashChainEnabled with
      | true => exact (hchecked before x after hx hhash).2 henabled
      | false => exact (hunchecked before x after hx hhash).2 henabled

end Concat

-- ---------------------------------------------------------------------------
-- What the loop reports
-- ---------------------------------------------------------------------------

section Loop

variable {hmac : Bytes → Bytes → Bytes} {s : HashChainSecrets} {rows : List AuditChainRow}
  {row : AuditChainRow} {st st' : ChainCheck}

/-- Nothing critical is among the issues. -/
def Harmless (issues : List TamperIssue) : Prop := ∀ x ∈ issues, x.severity ≠ "critical"

theorem harmless_append {issues issues' : List TamperIssue} :
    Harmless (issues ++ issues') ↔ Harmless issues ∧ Harmless issues' := by
  simp only [Harmless, List.mem_append, or_imp, forall_and]

theorem harmless_timestampIssues (st : ChainCheck) (e : AuditEvent) :
    Harmless (timestampIssues st e) := by
  unfold timestampIssues
  intro x hx
  split at hx
  · split at hx
    · rw [List.mem_singleton.mp hx]
      exact fun h : "low" = "critical" => absurd h (by decide)
    · exact absurd hx List.not_mem_nil
  · exact absurd hx List.not_mem_nil

theorem verifyEventChain_concat :
    verifyEventChain hmac s (rows ++ [row]) =
      (verifyEventChain hmac s rows).bind fun st => checkRow hmac s st row := by
  unfold verifyEventChain
  rw [List.foldlM_append]
  cases rows.foldlM (checkRow hmac s) .start with
  | none => rfl
  | some st => exact bind_pure (checkRow hmac s st row)

theorem checkRow_seen (h : checkRow hmac s st row = some st') :
    st'.i = st.i + 1 ∧ st'.prev = some row.event := by
  unfold checkRow at h
  by_cases hhash : row.event.hash = []
  · simp only [hhash, if_true] at h
    rw [← Option.some.inj h]
    exact ⟨rfl, rfl⟩
  · simp only [hhash, if_false, Option.map_eq_some_iff] at h
    obtain ⟨content, -, rfl⟩ := h
    exact ⟨rfl, rfl⟩

/-- What the loop has seen of the rows before. -/
structure AfterRows (rows : List AuditChainRow) (st : ChainCheck) : Prop where
  i    : st.i = rows.length
  prev : st.prev = rows.getLast?.map AuditChainRow.event

theorem afterRows_of_run (h : verifyEventChain hmac s rows = some st) : AfterRows rows st := by
  induction rows using List.reverseRecOn generalizing st with
  | nil =>
    obtain rfl := Option.some.inj h
    exact ⟨rfl, rfl⟩
  | append_singleton rows row ih =>
    rw [verifyEventChain_concat, Option.bind_eq_some_iff] at h
    obtain ⟨before, hbefore, hstep⟩ := h
    obtain ⟨hi, hprev⟩ := checkRow_seen hstep
    refine ⟨?_, ?_⟩
    · rw [hi, (ih hbefore).i, List.length_append, List.length_singleton]
    · rw [hprev, List.getLast?_concat, Option.map_some]

/-- A row with a hash is the last one with a hash. -/
theorem getLast?_hashedEvents {prev : AuditChainRow} (hlast : rows.getLast? = some prev)
    (hhash : prev.event.hash ≠ []) : (hashedEvents rows).getLast? = some prev.event := by
  obtain ⟨init, rfl⟩ := List.getLast?_eq_some_iff.mp hlast
  rw [hashedEvents_concat, if_neg hhash, List.getLast?_concat]

theorem harmless_linkIssues_iff (hst : AfterRows rows st) :
    Harmless (linkIssues st row.event) ↔ (LinkChecked rows row → RefersBack rows row) := by
  unfold linkIssues
  rw [hst.prev]
  cases hlast : rows.getLast? with
  | none =>
    refine iff_of_true (fun x hx => absurd hx List.not_mem_nil) ?_
    rintro ⟨-, prev, hprev, -⟩
    rw [hlast] at hprev
    exact absurd hprev (by simp)
  | some prev =>
    have hpos : 0 < st.i := by
      rw [hst.i, List.length_pos_iff]
      rintro rfl
      exact absurd hlast (by simp)
    simp only [Option.map_some]
    by_cases hchecked : row.event.prevHash ≠ [] ∧ prev.event.hash ≠ []
    · -- the row before is the last one with a hash
      obtain ⟨hprevHash, hhash⟩ := hchecked
      have hback : RefersBack rows row ↔ row.event.prevHash = prev.event.hash := by
        rw [RefersBack, getLast?_hashedEvents hlast hhash]
        simp
      rw [hback, imp_iff_right ⟨hprevHash, prev, hlast, hhash⟩]
      by_cases hsame : row.event.prevHash = prev.event.hash
      · rw [if_neg fun h => h.2.2.2 hsame]
        exact iff_of_true (fun x hx => absurd hx List.not_mem_nil) hsame
      · rw [if_pos ⟨hpos, hhash, hprevHash, hsame⟩]
        refine iff_of_false (fun h => ?_) hsame
        exact h _ (List.mem_singleton_self _) rfl
    · rw [if_neg fun h => hchecked ⟨h.2.2.1, h.2.1⟩]
      refine iff_of_true (fun x hx => absurd hx List.not_mem_nil) ?_
      rintro ⟨hprevHash, prev', hprev', hhash⟩
      rw [hlast, Option.some.injEq] at hprev'
      exact absurd ⟨hprevHash, hprev' ▸ hhash⟩ hchecked

theorem harmless_contentIssues_iff :
    (∃ content, contentIssues hmac s row = some content ∧ Harmless content) ↔
      (s.isHashChainEnabled = true → Recomputes hmac s row) := by
  unfold contentIssues Recomputes
  simp only
  by_cases hpass : (row.piiRedacted || !s.isHashChainEnabled ||
      verifyHash hmac s row.event row.event.prevHash) = true
  · rw [if_pos hpass]
    refine iff_of_true ⟨[], rfl, fun x hx => absurd hx List.not_mem_nil⟩ ?_
    intro henabled hredacted
    simpa [henabled, hredacted] using hpass
  · rw [if_neg hpass]
    simp only [Bool.or_eq_true, Bool.not_eq_true', not_or, Bool.not_eq_true,
      Bool.not_eq_false] at hpass
    obtain ⟨⟨hredacted, henabled⟩, hverify⟩ := hpass
    refine iff_of_false ?_ fun h => ?_
    · rintro ⟨content, hcontent, hharmless⟩
      split at hcontent
      · exact absurd hcontent (by simp)
      · obtain rfl := Option.some.inj hcontent
        exact hharmless _ (List.mem_singleton_self _) rfl
    · rw [h henabled hredacted] at hverify
      exact absurd hverify (by decide)

/-- One more row is clean if the comparisons that are made of it succeed. -/
theorem clean_concat :
    Clean hmac s (rows ++ [row]) ↔
      Clean hmac s rows ∧ (row.event.hash ≠ [] → (LinkChecked rows row → RefersBack rows row) ∧
        (s.isHashChainEnabled = true → Recomputes hmac s row)) := by
  have hstep : ∀ st, AfterRows rows st →
      ((∃ st', checkRow hmac s st row = some st' ∧ Harmless st'.issues) ↔
        Harmless st.issues ∧ (row.event.hash ≠ [] → (LinkChecked rows row → RefersBack rows row) ∧
          (s.isHashChainEnabled = true → Recomputes hmac s row))) := by
    intro st hst
    unfold checkRow
    by_cases hhash : row.event.hash = []
    · simp [hhash]
    · simp only [hhash, if_false, Option.map_eq_some_iff, exists_exists_and_eq_and, ne_eq,
        not_false_eq_true, forall_const, harmless_append, harmless_timestampIssues, and_true,
        harmless_linkIssues_iff hst]
      rw [← harmless_contentIssues_iff]
      constructor
      · rintro ⟨content, hcontent, ⟨hold, hlink⟩, hharmless⟩
        exact ⟨hold, hlink, content, hcontent, hharmless⟩
      · rintro ⟨hold, hlink, content, hcontent, hharmless⟩
        exact ⟨content, hcontent, ⟨hold, hlink⟩, hharmless⟩
  constructor
  · rintro ⟨st', hrun, hharmless⟩
    rw [verifyEventChain_concat, Option.bind_eq_some_iff] at hrun
    obtain ⟨st, hbefore, hcheck⟩ := hrun
    obtain ⟨hold, hrow⟩ := (hstep st (afterRows_of_run hbefore)).mp ⟨st', hcheck, hharmless⟩
    exact ⟨⟨st, hbefore, hold⟩, hrow⟩
  · rintro ⟨⟨st, hbefore, hold⟩, hrow⟩
    obtain ⟨st', hcheck, hharmless⟩ := (hstep st (afterRows_of_run hbefore)).mpr ⟨hold, hrow⟩
    refine ⟨st', ?_, hharmless⟩
    rw [verifyEventChain_concat, hbefore]
    exact hcheck

/-- The check is clean exactly if the comparisons it makes succeed. -/
theorem clean_iff : Clean hmac s rows ↔ CheckedHold hmac s rows := by
  induction rows using List.reverseRecOn with
  | nil =>
    refine iff_of_true ⟨.start, rfl, fun x hx => absurd hx List.not_mem_nil⟩ ?_
    exact fun before row after hsplit => absurd hsplit.symm (by simp)
  | append_singleton rows row ih => rw [clean_concat, CheckedHold, eachHashed_concat, ih, CheckedHold]

end Loop

namespace Sample

def assignHash : Bytes := hexEncodeToString
  [70, 33, 4, 1, 199, 18, 179, 121, 217, 193, 172, 36, 239, 51, 127, 81, 252, 99, 65, 31, 202,
   169, 156, 29, 228, 42, 14, 227, 254, 216, 185, 194]

def logout : AuditEvent := event 13#128 "user.logout" 3000

/-- HMAC-SHA256, of the logout behind the assignment too. -/
def logoutHmac (key input : Bytes) : Bytes :=
  if key = ascii "s0" ∧ input = macInput 0 assignHash (canonicalEventData logout) then
    [225, 36, 139, 47, 140, 20, 64, 255, 21, 253, 210, 173, 218, 202, 66, 102, 92, 218, 65, 214,
     123, 174, 112, 140, 177, 29, 192, 160, 130, 88, 188, 37]
  else hmac key input

/-- A login, an event from before there was a secret, and a logout. The assignment
between the login and the logout is gone. -/
def deletion : List AuditChainRow :=
  [⟨{ login with hash := computeHash logoutHmac secrets login [] }, false⟩,
    ⟨event 12#128 "user.update" 2000, false⟩,
    ⟨{ logout with
        prevHash := assignHash
        hash     := computeHash logoutHmac secrets logout assignHash }, false⟩]

end Sample

end Ggid.Audit
