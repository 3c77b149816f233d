import Ggid.Audit.HashChain
import Mathlib.Data.Set.Function

/-!
# Audit service — what the last hash of a chain pins down

Two sequences of events that `VerifyChain` accepts, with the same last hash. Equal MACs
come from equal inputs; in the input the previous hash can be told from the event,
since an event has a dash and a hash has none. So the sequences agree from the last
event back to the first, as far as the canonical texts go.

A field's length is printed with *at least* four digits. A text of 65536 bytes or more
has a longer prefix, and what follows can be read in two ways.

* `chain_determined_by_last_hash` — the sequences have the same length, and the same
  covered fields exactly if no text is read in two ways; and a sequence that was tampered
  with is reported at the first difference, under the same condition;
* `canonical_collision`           — two events with different fields and the same hash.
-/

namespace Ggid.Audit

open Ggid.Go Ggid.Lib

-- ---------------------------------------------------------------------------
-- Covered fields
-- ---------------------------------------------------------------------------

/-- The fields that go into the hash. -/
structure Covered where
  id           : UUID
  tenantID     : UUID
  actorType    : Bytes
  actorID      : Option UUID
  action       : Bytes
  resourceType : Bytes
  resourceID   : Option UUID
  result       : Bytes
  ipAddress    : Bytes
  unixNano     : Int
  deriving DecidableEq

def covered (e : AuditEvent) : Covered :=
  ⟨e.id, e.tenantID, e.actorType, e.actorID, e.action, e.resourceType, e.resourceID, e.result,
    e.ipAddress, unixNano e.createdAt⟩

/-- As long as the events of two sequences have the same texts and hashes, the length
prefixes of their fields are equally wide. -/
def Unambiguous : List AuditEvent → List AuditEvent → Prop
  | e :: es, e' :: es' =>
    entry e = entry e' →
      SameWidths sprint04x (canonicalFields e) (canonicalFields e') ∧ Unambiguous es es'
  | _, _ => True

/-- An event as it is compared: its covered fields and its hash. -/
def seen (e : AuditEvent) : Covered × Bytes := (covered e, e.hash)

/-- The last hash of a sequence; none for the empty one. -/
def lastHash (events : List AuditEvent) : Bytes := tip [] (events.map entry)

/-- What the MACs of a sequence are computed of, when it is verified. -/
def macInputs (events : List AuditEvent) : List Bytes :=
  (inputs [] (events.map entry)).map fun x => macInput 0 x.1 x.2

/-- Every hash of `es'` is copied from `es` or is no MAC of its event: none was computed
anew, with the key. -/
def Unforged (hmac : Bytes → Bytes → Bytes) (s : HashChainSecrets) (es es' : List AuditEvent) :
    Prop :=
  ∀ e ∈ es', e.hash ∈ es.map AuditEvent.hash ∨
    ∀ prevHash, e.hash ≠ chainLink hmac s prevHash (canonicalEventData e)

section Fields

variable {e e' : AuditEvent}

theorem uuidToString_injective : Function.Injective uuidToString := by
  have hlength : ∀ u : UUID, ascii u.string ≠ [] := by
    intro u hempty
    have hlen := u.length_ascii_string
    rw [hempty] at hlen
    exact absurd hlen (by decide)
  intro u v h
  cases u with
  | none =>
    cases v with
    | none => rfl
    | some v => exact absurd h.symm (hlength v)
  | some u =>
    cases v with
    | none => exact absurd h (hlength u)
    | some v => exact congrArg some (UUID.ascii_string_injective h)

theorem canonicalFields_eq_iff :
    canonicalFields e = canonicalFields e' ↔ covered e = covered e' := by
  constructor
  · intro h
    simp only [canonicalFields, List.cons.injEq, and_true] at h
    obtain ⟨hid, htenant, hactorType, hactor, haction, hresourceType, hresource, hresult, hip,
      hcreated⟩ := h
    simp only [covered, Covered.mk.injEq]
    exact ⟨UUID.ascii_string_injective hid, UUID.ascii_string_injective htenant, hactorType,
      uuidToString_injective hactor, haction, hresourceType, uuidToString_injective hresource,
      hresult, hip, sprintD_injective hcreated⟩
  · intro h
    simp only [covered, Covered.mk.injEq] at h
    obtain ⟨hid, htenant, hactorType, hactor, haction, hresourceType, hresource, hresult, hip,
      hcreated⟩ := h
    simp only [canonicalFields, hid, htenant, hactorType, hactor, haction, hresourceType, hresource,
      hresult, hip, hcreated]

theorem canonicalEventData_of_covered (h : covered e = covered e') :
    canonicalEventData e = canonicalEventData e' := by
  rw [canonicalEventData, canonicalEventData, canonicalFields_eq_iff.mpr h]

/-- Events with the same canonical text have the same covered fields exactly if the
prefixes are equally wide. -/
theorem covered_eq_iff (h : canonicalEventData e = canonicalEventData e') :
    covered e = covered e' ↔ SameWidths sprint04x (canonicalFields e) (canonicalFields e') := by
  rw [← canonicalFields_eq_iff]
  constructor
  · intro hfields
    rw [hfields]
    exact sameWidths_refl _
  · exact fun hwidths => frames_inj sprint04x_injective hwidths h

theorem map_entry_snd (es : List AuditEvent) :
    (es.map entry).map Prod.snd = es.map AuditEvent.hash := by
  rw [List.map_map]
  exact List.map_congr_left fun e _ => by rw [Function.comp_apply, entry]

theorem entry_eq_iff :
    entry e = entry e' ↔ canonicalEventData e = canonicalEventData e' ∧ e.hash = e'.hash := by
  simp only [entry, Prod.mk.injEq]

theorem seen_eq_iff :
    seen e = seen e' ↔
      entry e = entry e' ∧ SameWidths sprint04x (canonicalFields e) (canonicalFields e') := by
  simp only [seen, Prod.mk.injEq, entry_eq_iff]
  constructor
  · rintro ⟨hcovered, hhash⟩
    have htext := canonicalEventData_of_covered hcovered
    exact ⟨⟨htext, hhash⟩, (covered_eq_iff htext).mp hcovered⟩
  · rintro ⟨⟨htext, hhash⟩, hwidths⟩
    exact ⟨(covered_eq_iff htext).mpr hwidths, hhash⟩

/-- The fields and the texts differ at the same position first exactly if no text is read
in two ways before. -/
theorem firstDifference_seen_iff {es es' : List AuditEvent} :
    firstDifference (es.map seen) (es'.map seen) =
      firstDifference (es.map entry) (es'.map entry) ↔ Unambiguous es es' := by
  induction es generalizing es' with
  | nil => cases es' <;> simp only [List.map_nil, List.map_cons, firstDifference, Unambiguous]
  | cons e es ih =>
    cases es' with
    | nil => simp only [List.map_nil, List.map_cons, firstDifference, Unambiguous]
    | cons e' es' =>
      rw [List.map_cons, List.map_cons, List.map_cons, List.map_cons, firstDifference,
        firstDifference, Unambiguous]
      by_cases hentry : entry e = entry e'
      · rw [if_pos hentry]
        by_cases hwidths : SameWidths sprint04x (canonicalFields e) (canonicalFields e')
        · rw [if_pos (seen_eq_iff.mpr ⟨hentry, hwidths⟩), ← ih]
          simp only [hentry, hwidths, true_and, forall_const]
          exact (Option.map_injective (add_left_injective 1)).eq_iff
        · rw [if_neg fun hseen => hwidths (seen_eq_iff.mp hseen).2]
          refine iff_of_false (fun hzero => ?_) fun h => hwidths (h hentry).1
          obtain ⟨n, -, hn⟩ := Option.map_eq_some_iff.mp hzero.symm
          exact absurd hn (Nat.succ_ne_zero n)
      · rw [if_neg hentry, if_neg fun hseen => hentry (seen_eq_iff.mp hseen).1]
        exact iff_of_true rfl fun h => absurd h hentry

/-- Sequences with the same texts and hashes have the same covered fields exactly if no
text is read in two ways. -/
theorem covered_eq_iff_unambiguous {es es' : List AuditEvent}
    (h : es.map entry = es'.map entry) :
    es'.map covered = es.map covered ↔ Unambiguous es es' := by
  induction es generalizing es' with
  | nil =>
    rw [List.map_nil, eq_comm, List.map_eq_nil_iff] at h
    subst h
    exact iff_of_true rfl trivial
  | cons e es ih =>
    cases es' with
    | nil => exact absurd h (List.cons_ne_nil _ _)
    | cons e' es' =>
      simp only [List.map_cons, List.cons.injEq] at h
      obtain ⟨hentry, hrest⟩ := h
      have htext := (entry_eq_iff.mp hentry).1
      rw [List.map_cons, List.map_cons, List.cons.injEq, ih hrest, Unambiguous, eq_comm,
        covered_eq_iff htext]
      exact ⟨fun hboth _ => hboth, fun hboth => hboth hentry⟩

/-- Texts of less than `2 ^ 16` bytes have prefixes of four digits. -/
theorem unambiguous_of_short {es es' : List AuditEvent}
    (h : ∀ e ∈ es, ∀ f ∈ canonicalFields e, f.length < 2 ^ 16)
    (h' : ∀ e ∈ es', ∀ f ∈ canonicalFields e, f.length < 2 ^ 16) : Unambiguous es es' := by
  have hten : ∀ e, (canonicalFields e).length = 10 := by
    intro e
    simp only [canonicalFields, List.length_cons, List.length_nil]
  induction es generalizing es' with
  | nil => exact trivial
  | cons e es ih =>
    cases es' with
    | nil => exact trivial
    | cons e' es' =>
      obtain ⟨he, hes⟩ := List.forall_mem_cons.mp h
      obtain ⟨he', hes'⟩ := List.forall_mem_cons.mp h'
      refine fun _ => ⟨?_, ih hes hes'⟩
      exact sameWidths_of_fixed (fun n hn => sprint04x_length hn) ((hten e).trans (hten e').symm)
        he he'

end Fields

-- ---------------------------------------------------------------------------
-- What is in a MAC
-- ---------------------------------------------------------------------------

section Input

variable {hmac : Bytes → Bytes → Bytes} {s : HashChainSecrets} {e e' : AuditEvent}
  {prevHash prevHash' : Bytes}

/-- The first dash of the canonical text comes after twelve bytes: the prefix of the ID
and its first eight digits. -/
theorem canonicalEventData_dash (e : AuditEvent) :
    ∃ front back, canonicalEventData e = front ++ dash :: back ∧ dash ∉ front ∧
      front.length = 12 := by
  have hid : ∃ back, ascii e.id.string = e.id.digits.take 8 ++ dash :: back := by
    rw [UUID.ascii_string]
    simp only [List.append_assoc, List.cons_append, List.nil_append]
    exact ⟨_, rfl⟩
  obtain ⟨back, hid⟩ := hid
  have hfront : dash ∉ sprint04x 36 ++ e.id.digits.take 8 := by
    rw [List.mem_append, not_or]
    exact ⟨dash_not_mem_sprint04x 36,
      fun hmem => e.id.dash_not_mem_digits (List.mem_of_mem_take hmem)⟩
  have hlength : (sprint04x 36 ++ e.id.digits.take 8).length = 12 := by
    rw [List.length_append, sprint04x_length (by decide), List.length_take, UUID.length_digits]
    rfl
  rw [canonicalEventData, canonicalFields, frames_cons, UUID.length_ascii_string, hid,
    ← List.append_assoc, ← List.append_assoc, List.append_assoc _ (dash :: back), List.cons_append]
  exact ⟨_, _, rfl, hfront, hlength⟩

/-- The previous hash can be told from the event. -/
theorem macInput_inj (hprev : dash ∉ prevHash) (hprev' : dash ∉ prevHash')
    (h : macInput 0 prevHash (canonicalEventData e) =
      macInput 0 prevHash' (canonicalEventData e')) :
    prevHash = prevHash' ∧ canonicalEventData e = canonicalEventData e' := by
  have hinput : prevHash ++ canonicalEventData e = prevHash' ++ canonicalEventData e' :=
    List.append_cancel_left h
  obtain ⟨front, back, hcanonical, hfront, hlength⟩ := canonicalEventData_dash e
  obtain ⟨front', back', hcanonical', hfront', hlength'⟩ := canonicalEventData_dash e'
  have hparts : prevHash ++ front = prevHash' ++ front' := by
    rw [hcanonical, hcanonical', ← List.append_assoc, ← List.append_assoc] at hinput
    refine (append_separator_inj ?_ ?_ hinput).1
    · rw [List.mem_append, not_or]
      exact ⟨hprev, hfront⟩
    · rw [List.mem_append, not_or]
      exact ⟨hprev', hfront'⟩
  have hsame : prevHash = prevHash' := (List.append_inj' hparts (hlength.trans hlength'.symm)).1
  rw [hsame] at hinput
  exact ⟨hsame, List.append_cancel_left hinput⟩

theorem exists_canonical {es : List AuditEvent} {x : Bytes × Bytes}
    (hx : x ∈ inputs [] (es.map entry)) : ∃ e, x.2 = canonicalEventData e := by
  obtain ⟨y, hy, hyx⟩ := List.mem_map.mp (inputs_snd hx)
  obtain ⟨e, -, hey⟩ := List.mem_map.mp hy
  exact ⟨e, by rw [← hyx, ← hey, entry]⟩

/-- Different inputs of two sequences have different hashes. -/
theorem chainLink_inj {es es' : List AuditEvent}
    (hmac_inj : Set.InjOn (hmac (s.keyOf 0)) {i | i ∈ macInputs es ∨ i ∈ macInputs es'})
    {x y : Bytes × Bytes} (hx : x ∈ inputs [] (es.map entry))
    (hy : y ∈ inputs [] (es.map entry) ++ inputs [] (es'.map entry)) (hxdash : dash ∉ x.1)
    (hydash : dash ∉ y.1) (h : chainLink hmac s x.1 x.2 = chainLink hmac s y.1 y.2) : x = y := by
  have hxmem : macInput 0 x.1 x.2 ∈ {i | i ∈ macInputs es ∨ i ∈ macInputs es'} :=
    .inl (List.mem_map_of_mem hx)
  have hymem : macInput 0 y.1 y.2 ∈ {i | i ∈ macInputs es ∨ i ∈ macInputs es'} :=
    (List.mem_append.mp hy).imp List.mem_map_of_mem List.mem_map_of_mem
  obtain ⟨e, hxdata⟩ := exists_canonical hx
  obtain ⟨e', hydata⟩ : ∃ e, y.2 = canonicalEventData e :=
    (List.mem_append.mp hy).elim exists_canonical exists_canonical
  rw [chainLink, chainLink] at h
  have hinput := hmac_inj hxmem hymem (hexEncodeToString_injective h)
  rw [hxdata, hydata] at hinput
  obtain ⟨hprev, hdata⟩ := macInput_inj hxdash hydash hinput
  exact Prod.ext hprev (hxdata.trans (hdata.trans hydata.symm))

/-- The previous hashes of an accepted chain are hashes. -/
theorem dash_not_mem_prev {es : List AuditEvent}
    (h : Linked (chainLink hmac s) [] [] (es.map entry)) {prev : Bytes}
    (hprev : prev = [] ∨ prev ∈ (es.map entry).map Prod.snd) : dash ∉ prev := by
  rcases hprev with rfl | hmem
  · exact List.not_mem_nil
  · obtain ⟨x, hx, rfl⟩ := List.mem_map.mp hmem
    obtain ⟨before, -, -, -, -, hdigest⟩ := h.split hx
    rw [hdigest, chainLink]
    exact dash_not_mem_hexEncodeToString _

end Input

-- ---------------------------------------------------------------------------
-- Tampering
-- ---------------------------------------------------------------------------

/-- **Integrity.** Take a sequence that `VerifyChain` accepts and another one with the
same last hash, and let the MAC tell their inputs apart. If the other is accepted too, it
has as many events, and the same covered fields exactly if no text is read in two ways.
If no hash of the other was computed anew, it is reported at the first difference in the
covered fields and the hashes, exactly under the same condition. -/
theorem chain_determined_by_last_hash (hmac : Bytes → Bytes → Bytes) (s : HashChainSecrets)
    (es es' : List AuditEvent)
    (hmac_inj : Set.InjOn (hmac (s.keyOf 0)) {i | i ∈ macInputs es ∨ i ∈ macInputs es'})
    (haccepted : verifyChain hmac s es = none) (hlast : lastHash es' = lastHash es) :
    (verifyChain hmac s es' = none →
      es'.length = es.length ∧ (es'.map covered = es.map covered ↔ Unambiguous es es')) ∧
    (Unforged hmac s es es' →
      (verifyChain hmac s es' = firstDifference (es.map seen) (es'.map seen) ↔
        Unambiguous es es')) := by
  have hlinked := verifyChain_none_iff.mp haccepted
  rw [lastHash, lastHash] at hlast
  constructor
  · intro haccepted'
    have hlinked' := verifyChain_none_iff.mp haccepted'
    have hsame : es.map entry = es'.map entry := by
      refine hlinked.eq_of_tip_eq hlinked' hlast.symm fun x hx y hy heq => ?_
      exact chainLink_inj hmac_inj hx (List.mem_append_right _ hy)
        (dash_not_mem_prev hlinked (inputs_fst hx)) (dash_not_mem_prev hlinked' (inputs_fst hy)) heq
    have hlength := congrArg List.length hsame
    rw [List.length_map, List.length_map] at hlength
    exact ⟨hlength.symm, covered_eq_iff_unambiguous hsame⟩
  · intro hunforged
    have hbroken : verifyChain hmac s es' = firstDifference (es.map entry) (es'.map entry) := by
      rw [verifyChain, verifyFrom_eq_firstBroken]
      refine firstBroken_eq_firstDifference hlinked hlast (fun x hx => ?_) fun x hx y hy hprev => ?_
      · obtain ⟨e, he, rfl⟩ := List.mem_map.mp hx
        simp only [map_entry_snd, entry]
        exact hunforged e he
      · exact chainLink_inj hmac_inj hx hy (dash_not_mem_prev hlinked (inputs_fst hx))
          (dash_not_mem_prev hlinked hprev)
    rw [hbroken, eq_comm]
    exact firstDifference_seen_iff

namespace Sample

/-- An event with its hash. -/
def hashed (hmac : Bytes → Bytes → Bytes) (e : AuditEvent) (prevHash : Bytes) : AuditEvent :=
  { e with prevHash := prevHash, hash := computeHash hmac secrets e prevHash }

def firstEvent : AuditEvent := hashed hmac login []

def secondEvent : AuditEvent := hashed hmac assign firstEvent.hash

end Sample

open Sample in
/-- The first of two events is deleted. -/
theorem chain_determined_by_last_hash_sample :
    verifyChain hmac secrets [firstEvent, secondEvent] = none ∧
    verifyChain hmac secrets [secondEvent] = some 0 := by
  have haccepted : verifyChain hmac secrets [firstEvent, secondEvent] = none := by decide +kernel
  have hmacs : ∀ i ∈ macInputs [firstEvent, secondEvent] ++ macInputs [secondEvent],
      ∀ j ∈ macInputs [firstEvent, secondEvent] ++ macInputs [secondEvent],
        hmac (secrets.keyOf 0) i = hmac (secrets.keyOf 0) j → i = j := by
    decide +kernel
  have hshort : ∀ e ∈ [firstEvent, secondEvent], ∀ f ∈ canonicalFields e, f.length < 2 ^ 16 := by
    decide +kernel
  have hunforged : Unforged hmac secrets [firstEvent, secondEvent] [secondEvent] := by
    intro e he
    left
    rw [List.mem_singleton.mp he]
    exact List.mem_map_of_mem (List.mem_cons_of_mem _ (List.mem_singleton_self _))
  have hreported := ((chain_determined_by_last_hash hmac secrets [firstEvent, secondEvent]
    [secondEvent] (fun i hi j hj => hmacs i (List.mem_append.mpr hi) j (List.mem_append.mpr hj))
    haccepted (by decide +kernel)).2 hunforged).mpr
      (unambiguous_of_short hshort fun e he => hshort e (List.mem_cons_of_mem _ he))
  refine ⟨haccepted, hreported.trans ?_⟩
  decide

namespace Sample

/-- A MAC that is as injective as can be. -/
def plainMac (key input : Bytes) : Bytes := key ++ input

/-- `'a'`, repeated. -/
def filler (n : Nat) : Bytes := List.replicate n 97

/-- An action of `0x10000` bytes, with four digits in it. -/
def longAction : AuditEvent :=
  { event 12#128 "" 0 with action := filler 4095 ++ (ascii "f001" ++ filler 61437) }

/-- An action of `0x1000` bytes and a resource type of `0xf001`. -/
def longResourceType : AuditEvent :=
  { event 12#128 "" 0 with
    action       := ascii "0" ++ filler 4095
    resourceType := filler 61437 ++ ascii "0000" }

theorem length_longAction : longAction.action.length = 65536 := by
  simp only [longAction, filler, List.length_append, List.length_replicate]
  decide

theorem length_longResourceType : longResourceType.action.length = 4096 := by
  simp only [longResourceType, filler, List.length_append, List.length_replicate]
  decide

/-- What one event has as the last digit of a prefix, the other has as the first byte of
a text. -/
theorem same_text : canonicalEventData longAction = canonicalEventData longResourceType := by
  have hlong : sprint04x longAction.action.length = ascii "1000" ++ ascii "0" := by
    rw [length_longAction]
    decide
  have hshort : sprint04x longResourceType.action.length = ascii "1000" := by
    rw [length_longResourceType]
    decide
  have hresource : sprint04x longResourceType.resourceType.length = ascii "f001" := by
    have hlength : longResourceType.resourceType.length = 61441 := by
      simp only [longResourceType, filler, List.length_append, List.length_replicate]
      decide
    rw [hlength]
    decide
  have hnone : sprint04x longAction.resourceType.length = ascii "0000" := by decide
  simp only [canonicalEventData, canonicalFields, frames_cons, hlong, hshort, hresource, hnone]
  simp only [longAction, longResourceType, event, List.append_assoc, List.nil_append]

/-- The event alone, with its hash, is a chain. -/
theorem alone_accepted (e : AuditEvent) :
    verifyChain plainMac secrets [hashed plainMac e []] = none := by
  have htext : canonicalEventData (hashed plainMac e []) = canonicalEventData e := by
    simp only [canonicalEventData, canonicalFields, hashed]
  rw [verifyChain_none_iff, List.map_singleton, Linked]
  simp only [entry, htext, Linked, and_true]
  refine ⟨fun hempty => ?_, rfl⟩
  have hmac_nil : plainMac _ _ = [] := hexEncodeToString_injective hempty
  exact absurd (List.append_eq_nil_iff.mp hmac_nil).1 (by decide)

end Sample

open Sample in
/-- Two different events with the same hash. -/
theorem canonical_collision :
    (∀ key, Function.Injective (plainMac key)) ∧
    verifyChain plainMac secrets [hashed plainMac longAction []] = none ∧
    verifyChain plainMac secrets [hashed plainMac longResourceType []] = none ∧
    lastHash [hashed plainMac longAction []] = lastHash [hashed plainMac longResourceType []] ∧
    [hashed plainMac longAction []].map covered ≠
      [hashed plainMac longResourceType []].map covered := by
  refine ⟨fun key i j h => List.append_cancel_left h, alone_accepted _, alone_accepted _, ?_, ?_⟩
  · simp only [lastHash, List.map_singleton, tip_cons, tip_nil, entry, hashed, computeHash,
      same_text]
  · intro h
    simp only [List.map_singleton, List.cons.injEq, and_true, covered, Covered.mk.injEq,
      hashed] at h
    obtain ⟨-, -, -, -, haction, -⟩ := h
    have hlength := congrArg List.length haction
    rw [length_longAction, length_longResourceType] at hlength
    exact absurd hlength (by decide)

end Ggid.Audit
