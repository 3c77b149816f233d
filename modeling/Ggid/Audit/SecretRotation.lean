import Ggid.Audit.HashChain

/-!
# Audit service — rotating the secret of the hash chain

Events are appended to a chain, each hashed under the version that is in use, while
secrets are set, versions added and the version in use changed in between. The state
keeps with every event the version and the key its hash was computed with.

`VerifyHash` checks every event under version 0.

* `rotated_chain_accepted`  — the chain is accepted in every state in which each event
  was hashed under version 0 with the key version 0 still has; and in no other state,
  as far as different keys and inputs have different MACs;
* `rotated_chain_rejected`  — an event hashed after a rotation is rejected.
-/

namespace Ggid.Audit

open Ggid.Go Ggid.Lib

-- ---------------------------------------------------------------------------
-- Runs
-- ---------------------------------------------------------------------------

/-- An event with what its hash was computed with. -/
structure Hashed where
  event   : AuditEvent
  version : Int
  key     : Bytes
  deriving DecidableEq

structure RotationState where
  secrets : HashChainSecrets
  chain   : List Hashed

def RotationState.events (p : RotationState) : List AuditEvent := p.chain.map Hashed.event

inductive RotationOp where
  | setHashChainSecret (secret : Option Bytes)
  | setHashChainSecretVersioned (version : Int) (secret : Option Bytes)
  | setHashChainCurrentVersion (v : Int)
  | append (e : AuditEvent)

/-- The event with its hash, and the version and the key in use. -/
def hashEvent (hmac : Bytes → Bytes → Bytes) (s : HashChainSecrets) (prevHash : Bytes)
    (e : AuditEvent) : Hashed :=
  ⟨{ e with prevHash := prevHash, hash := computeHash hmac s e prevHash }, s.currentVersion,
    s.keyOf s.currentVersion⟩

def rotationStep (hmac : Bytes → Bytes → Bytes) (p : RotationState) : RotationOp → RotationState
  | .setHashChainSecret secret => { p with secrets := p.secrets.setHashChainSecret secret }
  | .setHashChainSecretVersioned version secret =>
    { p with secrets := p.secrets.setHashChainSecretVersioned version secret }
  | .setHashChainCurrentVersion v => { p with secrets := p.secrets.setHashChainCurrentVersion v }
  | .append e =>
    { p with chain := p.chain ++ [hashEvent hmac p.secrets (tip [] (p.events.map entry)) e] }

/-- The event was hashed as `VerifyHash` will hash it: under version 0, with a key that
gives the MACs version 0 gives now. -/
def Hashed.UnderVersion0 (hmac : Bytes → Bytes → Bytes) (s : HashChainSecrets) (x : Hashed) :
    Prop :=
  x.version = 0 ∧ hmac x.key = hmac (s.keyOf 0)

/-- MACs of different inputs, or under keys that differ at all, are different. -/
def Separates (hmac : Bytes → Bytes → Bytes) : Prop :=
  ∀ key key' input input', hmac key input = hmac key' input' →
    hmac key = hmac key' ∧ input = input'

-- ---------------------------------------------------------------------------
-- What was hashed
-- ---------------------------------------------------------------------------

section Produced

variable {hmac : Bytes → Bytes → Bytes} {s : HashChainSecrets}

/-- The hashes are those that `ComputeHash` gave. -/
def Produced (hmac : Bytes → Bytes → Bytes) : Bytes → List Hashed → Prop
  | _, [] => True
  | prevHash, x :: xs =>
    x.event.hash = hexEncodeToString (hmac x.key
      (macInput x.version prevHash (canonicalEventData x.event))) ∧
    Produced hmac x.event.hash xs

theorem produced_concat {prevHash : Bytes} {xs : List Hashed} {x : Hashed} :
    Produced hmac prevHash (xs ++ [x]) ↔
      Produced hmac prevHash xs ∧ x.event.hash = hexEncodeToString (hmac x.key
        (macInput x.version (tip prevHash ((xs.map Hashed.event).map entry))
          (canonicalEventData x.event))) := by
  induction xs generalizing prevHash with
  | nil => simp [Produced]
  | cons y ys ih =>
    simp only [List.cons_append, Produced, ih, List.map_cons, tip_cons, and_assoc]
    rfl

theorem rotationStep_produced {p : RotationState} {op : RotationOp}
    (h : Produced hmac [] p.chain) : Produced hmac [] (rotationStep hmac p op).chain := by
  cases op with
  | setHashChainSecret secret => exact h
  | setHashChainSecretVersioned version secret => exact h
  | setHashChainCurrentVersion v => exact h
  | append e => exact produced_concat.mpr ⟨h, rfl⟩

theorem macInput_version {version version' : Int} {prevHash canonical : Bytes}
    (h : macInput version prevHash canonical = macInput version' prevHash canonical) :
    version = version' := by
  have htag : versionTag version = versionTag version' := List.append_cancel_right h
  exact sprintD_injective (List.append_cancel_right (List.append_cancel_left htag))

theorem hexEncodeToString_ne_nil {bs : Bytes} (h : bs ≠ []) : hexEncodeToString bs ≠ [] :=
  fun hempty => h (hexEncodeToString_injective hempty)

/-- Hashes of version 0 are the ones that are expected. -/
theorem linked_of_version0 (hmac_ne_nil : ∀ key input, hmac key input ≠ []) {prevHash : Bytes}
    {xs : List Hashed} (h : Produced hmac prevHash xs) (h0 : ∀ x ∈ xs, x.UnderVersion0 hmac s) :
    Linked (chainLink hmac s) [] prevHash ((xs.map Hashed.event).map entry) := by
  induction xs generalizing prevHash with
  | nil => trivial
  | cons x xs ih =>
    obtain ⟨hhash, hrest⟩ := h
    obtain ⟨⟨hversion, hkey⟩, h0⟩ := List.forall_mem_cons.mp h0
    refine ⟨⟨?_, ?_⟩, ih hrest h0⟩
    · rw [entry, hhash]
      exact hexEncodeToString_ne_nil (hmac_ne_nil _ _)
    · rw [entry, hhash, hversion, hkey, chainLink]

/-- Hashes that are the expected ones are of version 0. -/
theorem version0_of_linked (hseparates : Separates hmac) {prevHash : Bytes} {xs : List Hashed}
    (h : Produced hmac prevHash xs)
    (hlinked : Linked (chainLink hmac s) [] prevHash ((xs.map Hashed.event).map entry)) :
    ∀ x ∈ xs, x.UnderVersion0 hmac s := by
  induction xs generalizing prevHash with
  | nil => exact fun _ hx => absurd hx List.not_mem_nil
  | cons x xs ih =>
    obtain ⟨hhash, hrest⟩ := h
    obtain ⟨⟨-, hdigest⟩, hlinked⟩ := hlinked
    rw [List.forall_mem_cons]
    refine ⟨?_, ih hrest hlinked⟩
    simp only [entry] at hdigest
    rw [hhash, chainLink] at hdigest
    have hmacs : hmac x.key (macInput x.version prevHash (canonicalEventData x.event)) =
        hmac (s.keyOf 0) (macInput 0 prevHash (canonicalEventData x.event)) :=
      hexEncodeToString_injective hdigest
    obtain ⟨hkey, hinput⟩ := hseparates _ _ _ _ hmacs
    exact ⟨macInput_version hinput, hkey⟩

end Produced

/-- **Rotation.** Events are hashed one after the other, each under the version in use,
while secrets are rotated. In every state of every such run, `VerifyChain` accepts the
events if each was hashed under version 0 with the key version 0 has now; if MACs
separate keys and inputs, it accepts them in no other state. -/
theorem rotated_chain_accepted (hmac : Bytes → Bytes → Bytes)
    (hmac_ne_nil : ∀ key input, hmac key input ≠ []) (secrets : HashChainSecrets)
    (ops : List RotationOp) :
    ∀ p ∈ states (rotationStep hmac) ⟨secrets, []⟩ ops,
      ((∀ x ∈ p.chain, x.UnderVersion0 hmac p.secrets) →
        verifyChain hmac p.secrets p.events = none) ∧
      (Separates hmac → verifyChain hmac p.secrets p.events = none →
        ∀ x ∈ p.chain, x.UnderVersion0 hmac p.secrets) := by
  intro p hp
  have hstep : ∀ (q : RotationState) (op : RotationOp), Produced hmac [] q.chain →
      Produced hmac [] (rotationStep hmac q op).chain := fun _ _ => rotationStep_produced
  have hstart : Produced hmac [] (RotationState.mk secrets []).chain := trivial
  have hproduced : Produced hmac [] p.chain := invariant_states_of_step hstep hstart p hp
  constructor
  · intro h0
    exact verifyChain_none_iff.mpr (linked_of_version0 hmac_ne_nil hproduced h0)
  · intro hseparates haccepted
    exact version0_of_linked hseparates hproduced (verifyChain_none_iff.mp haccepted)

namespace Sample

/-- Two events, with the secret of version 0 set again in between. -/
def sameSecret : List RotationOp :=
  [.append login, .setHashChainSecret (some (ascii "s0")), .append assign]

/-- Two events, with a version 1 added in between. -/
def newVersion : List RotationOp :=
  [.append login, .setHashChainSecretVersioned 1 (some (ascii "s1")), .append assign]

end Sample

open Sample in
theorem rotated_chain_accepted_sample :
    (run (rotationStep hmac) ⟨secrets, []⟩ sameSecret).events.length = 2 ∧
    verifyChain hmac (run (rotationStep hmac) ⟨secrets, []⟩ sameSecret).secrets
      (run (rotationStep hmac) ⟨secrets, []⟩ sameSecret).events = none := by
  refine ⟨by decide, ?_⟩
  apply (rotated_chain_accepted hmac hmac_ne_nil secrets sameSecret _ (run_mem_states _ _)).1
  have hunder : ∀ x ∈ (run (rotationStep hmac) ⟨secrets, []⟩ sameSecret).chain,
      x.version = 0 ∧
        x.key = (run (rotationStep hmac) ⟨secrets, []⟩ sameSecret).secrets.keyOf 0 := by
    decide
  exact fun x hx => ⟨(hunder x hx).1, congrArg hmac (hunder x hx).2⟩

open Sample in
/-- The second event is hashed under version 1 and rejected, though nothing was changed. -/
theorem rotated_chain_rejected :
    (run (rotationStep hmac) ⟨secrets, []⟩ newVersion).secrets.secrets 0 = some (ascii "s0") ∧
    verifyChain hmac (run (rotationStep hmac) ⟨secrets, []⟩ newVersion).secrets
      (run (rotationStep hmac) ⟨secrets, []⟩ newVersion).events = some 1 := by
  decide +kernel

end Ggid.Audit
