import Ggid.Auth.WebAuthn

/-!
# Auth service — signature counters

The clone detection of `finishAuthentication` and the update of the counter are two steps, and the
update is unconditional.

* `CountersOk.step`    — accepted counters lie below the stored one, and what a request knows of it;
* `counters_increase`  — when accepted counters increase and stored ones never decrease: the check
  would pass again at the update.
-/

namespace Ggid.Auth.WebAuthn

open Ggid.Go Ggid.Lib

-- ---------------------------------------------------------------------------
-- Counters
-- ---------------------------------------------------------------------------

/-- The stored counter of a credential. -/
def counterOf (t : CredentialStore) (tenantID : UUID) (credentialID : Bytes) : Option Nat :=
  (t.getCredentialByID tenantID credentialID).map Credential.counter

/-- The counter the library gives back: the one of the assertion, or the user's if it is not less.
-/
def CountsUp (lib : Library) : Prop :=
  ∀ user data a cred, lib.validateLogin user data a = some cred →
    ∃ loaded ∈ user.credentials, loaded.id = cred.id ∧
      cred.signCount = if a.signCount ≤ loaded.signCount then loaded.signCount else a.signCount

/-- No credential is lost, and no counter is less than before. -/
def Grows (t t' : CredentialStore) : Prop :=
  ∀ tenantID credentialID counter, counterOf t tenantID credentialID = some counter →
    ∃ counter', counterOf t' tenantID credentialID = some counter' ∧ counter ≤ counter'

/-- Of the assertions that were accepted with one credential, the later has the greater counter,
unless the authenticator does not count. -/
def InOrder (accepted : List Accepted) : Prop :=
  accepted.Pairwise fun later earlier =>
    later.tenantID = earlier.tenantID → later.credentialID = earlier.credentialID →
      earlier.signCount < later.signCount ∨ earlier.signCount = 0 ∧ later.signCount = 0

/-- At the update, the counter is written if there is anything to write, and the check would pass
again. -/
def UpdatePasses (t : CredentialStore) (answers : Bool) : Task → Prop
  | .unique tenantID _ _ cred =>
    (answers = true ∨ cred.signCount = 0) ∧
      (t.getCredentialByID tenantID cred.id).any
        (fun stored => 0 < stored.counter && cred.signCount ≤ stored.counter) = false
  | _ => True

def StillPasses (p : Threads Store Task) : Step → Prop
  | .sweep _ => True
  | .act thread d => UpdatePasses p.store.credentials d.answers (p.task thread)

instance UpdatePasses.decidable (t : CredentialStore) (answers : Bool) :
    ∀ task, Decidable (UpdatePasses t answers task)
  | .unique tenantID _ _ cred => inferInstanceAs (Decidable (
    (answers = true ∨ cred.signCount = 0) ∧
      (t.getCredentialByID tenantID cred.id).any
        (fun stored => 0 < stored.counter && cred.signCount ≤ stored.counter) = false))
  | .begin .. | .listed .. | .finish .. | .taken .. | .found .. | .verified .. | .counted ..
  | .identified .. | .done _ => .isTrue trivial

instance StillPasses.decidable (p : Threads Store Task) : ∀ e, Decidable (StillPasses p e)
  | .sweep _ => .isTrue trivial
  | .act thread d =>
    inferInstanceAs (Decidable (UpdatePasses p.store.credentials d.answers (p.task thread)))

theorem Grows.refl (t : CredentialStore) : Grows t t :=
  fun _ _ counter h => ⟨counter, h, le_refl counter⟩

theorem counterOf_updateCounter (t : CredentialStore) (tenantID tenantID' : UUID)
    (credentialID credentialID' : Bytes) (counter : Nat) :
    counterOf (t.updateCounter tenantID credentialID counter) tenantID' credentialID' =
      if tenantID' = tenantID ∧ credentialID' = credentialID then
        (counterOf t tenantID' credentialID').map fun _ => counter
      else counterOf t tenantID' credentialID' := by
  unfold counterOf
  rw [getCredentialByID_updateCounter]
  cases hfind : t.getCredentialByID tenantID' credentialID' with
  | none => simp
  | some c =>
    obtain ⟨-, rfl, rfl⟩ := getCredentialByID_eq_some.mp hfind
    by_cases hsame : c.tenantID = tenantID ∧ c.credentialID = credentialID
    · simp [hsame.1, hsame.2]
    · rw [if_neg hsame]
      simp only [Option.map_some, ← Bool.decide_and, decide_eq_true_eq, if_neg hsame]

/-- A counter that is not less is written. -/
theorem grows_updateCounter {t : CredentialStore} {tenantID : UUID} {credentialID : Bytes}
    {counter : Nat}
    (h : ∀ stored, counterOf t tenantID credentialID = some stored → stored ≤ counter) :
    Grows t (t.updateCounter tenantID credentialID counter) := by
  intro tenantID' credentialID' stored hstored
  rw [counterOf_updateCounter, hstored]
  split_ifs with hsame
  · obtain ⟨rfl, rfl⟩ := hsame
    exact ⟨counter, rfl, h stored hstored⟩
  · exact ⟨stored, rfl, le_refl stored⟩

-- ---------------------------------------------------------------------------
-- Requests
-- ---------------------------------------------------------------------------

/-- What a request knows of its counter: it is the one of the assertion, or not more than the stored
one. -/
def CounterKnown (t : CredentialStore) (tenantID : UUID) (a : Assertion) (cred : LoginCredential) :
    Prop :=
  ∃ stored, counterOf t tenantID cred.id = some stored ∧
    a.signCount ≤ cred.signCount ∧ cred.signCount ≤ max stored a.signCount

def CounterTaskOk (t : CredentialStore) : Task → Prop
  | .verified tenantID a _ cred => CounterKnown t tenantID a cred
  | .unique tenantID a _ cred => CounterKnown t tenantID a cred
  | _ => True

structure CounterStoreOk (st : Store) : Prop where
  stored  : ∀ x ∈ st.accepted, ∃ stored,
    counterOf st.credentials x.tenantID x.credentialID = some stored ∧ x.signCount ≤ stored
  inOrder : InOrder st.accepted

structure CountersOk (p : Threads Store Task) : Prop where
  store : CounterStoreOk p.store
  tasks : ∀ t, CounterTaskOk p.store.credentials (p.task t)

section Requests

variable {lib : Library} {t t' : CredentialStore} {st : Store} {d : Draw} {tenantID : UUID}
  {a : Assertion} {session : Session} {cred : LoginCredential}

theorem CounterKnown.mono (h : CounterKnown t tenantID a cred) (hgrows : Grows t t') :
    CounterKnown t' tenantID a cred := by
  obtain ⟨stored, hstored, hleast, hmost⟩ := h
  obtain ⟨stored', hstored', hle⟩ := hgrows _ _ _ hstored
  exact ⟨stored', hstored', hleast, hmost.trans (max_le_max_right _ hle)⟩

theorem CounterTaskOk.mono {task : Task} (h : CounterTaskOk t task) (hgrows : Grows t t') :
    CounterTaskOk t' task := by
  cases task with
  | verified => exact CounterKnown.mono h hgrows
  | unique => exact CounterKnown.mono h hgrows
  | _ => trivial

/-- The verification, for a user who was built with stored counters. -/
theorem verify_known (hcounts : CountsUp lib) {user : User}
    (huser : ∀ loaded ∈ user.credentials,
      counterOf t tenantID loaded.id = some loaded.signCount) :
    CounterTaskOk t (verify lib tenantID a session user) := by
  unfold verify
  cases hvalid : lib.validateLogin user { session.data with userID := user.id } a with
  | none => trivial
  | some cred =>
    obtain ⟨loaded, hmem, hid, hcount⟩ := hcounts _ _ _ _ hvalid
    refine ⟨loaded.signCount, hid ▸ huser loaded hmem, ?_, ?_⟩
    · rw [hcount]
      split_ifs with hle
      · exact hle
      · exact le_refl _
    · rw [hcount]
      split_ifs
      · exact le_max_left _ _
      · exact le_max_right _ _

theorem counterOf_build (answers : Bool) (t : CredentialStore) (tenantID userID : UUID) :
    ∀ loaded ∈ (buildWebAuthnUser answers t tenantID userID).credentials,
      counterOf t tenantID loaded.id = some loaded.signCount := by
  intro loaded hmem
  cases answers with
  | false => cases hmem
  | true =>
    obtain ⟨c, hc, rfl⟩ := List.mem_map.mp hmem
    obtain ⟨hc, hkeys⟩ := List.mem_filter.mp hc
    simp only [Bool.and_eq_true, decide_eq_true_eq] at hkeys
    rw [counterOf, getCredentialByID_eq_some.mpr ⟨hc, hkeys.1, rfl⟩]
    rfl

/-- A request whose check would pass again has the counter of its assertion, and that is greater
than the stored one, unless both are zero. -/
theorem CounterKnown.passes {stored : Nat} (h : CounterKnown t tenantID a cred)
    (hstored : counterOf t tenantID cred.id = some stored)
    (hpasses : ¬ (0 < stored ∧ cred.signCount ≤ stored)) :
    cred.signCount = a.signCount ∧ (stored < a.signCount ∨ stored = 0 ∧ a.signCount = 0) := by
  obtain ⟨stored', hstored', hleast, hmost⟩ := h
  obtain rfl : stored' = stored := Option.some.inj (hstored'.symm.trans hstored)
  rcases le_max_iff.mp hmost with hle | hle
  · have hzero : stored' = 0 := by omega
    exact ⟨by omega, Or.inr ⟨hzero, by omega⟩⟩
  · exact ⟨by omega, by omega⟩

/-- An assertion that is accepted, with a counter above the stored one. -/
theorem CounterStoreOk.cons {x : Accepted} {stored counter : Nat} (h : CounterStoreOk st)
    (hstored : counterOf st.credentials x.tenantID x.credentialID = some stored)
    (hgreater : stored < x.signCount ∨ stored = 0 ∧ x.signCount = 0) {credentials : CredentialStore}
    (hgrows : Grows st.credentials credentials)
    (hcounter : counterOf credentials x.tenantID x.credentialID = some counter)
    (hle : x.signCount ≤ counter) :
    CounterStoreOk { st with credentials, accepted := x :: st.accepted } := by
  constructor
  · refine List.forall_mem_cons.mpr ⟨⟨counter, hcounter, hle⟩, fun y hy => ?_⟩
    obtain ⟨before, hbefore, hyle⟩ := h.stored y hy
    obtain ⟨after, hafter, hgrown⟩ := hgrows _ _ _ hbefore
    exact ⟨after, hafter, hyle.trans hgrown⟩
  · refine List.pairwise_cons.mpr ⟨fun y hy htenant hid => ?_, h.inOrder⟩
    obtain ⟨before, hbefore, hyle⟩ := h.stored y hy
    rw [← htenant, ← hid, hstored] at hbefore
    obtain rfl : stored = before := Option.some.inj hbefore
    omega

/-- **The update**, of a request whose check would pass again. -/
theorem unique_counts (lib : Library) (h : CounterStoreOk st)
    (hknown : CounterKnown st.credentials tenantID a cred)
    (hok : UpdatePasses st.credentials d.answers (.unique tenantID a session cred)) :
    Grows st.credentials ((Task.unique tenantID a session cred).act lib d st).1.credentials ∧
      CounterStoreOk ((Task.unique tenantID a session cred).act lib d st).1 := by
  obtain ⟨stored, hstored, -⟩ := id hknown
  obtain ⟨row, hrow, rfl⟩ := Option.map_eq_some_iff.mp hstored
  obtain ⟨hwritten, hpasses⟩ := hok
  rw [hrow] at hpasses
  obtain ⟨hsame, hgreater⟩ := hknown.passes hstored (by simpa using hpasses)
  cases hanswers : d.answers with
  | true =>
    have hgrows : Grows st.credentials
        (st.credentials.updateCounter tenantID cred.id cred.signCount) := by
      refine grows_updateCounter fun stored' hstored' => ?_
      obtain rfl : row.counter = stored' := Option.some.inj (hstored.symm.trans hstored')
      omega
    have hwrite : counterOf (st.credentials.updateCounter tenantID cred.id cred.signCount) tenantID
        cred.id = some cred.signCount := by
      rw [counterOf_updateCounter, if_pos ⟨rfl, rfl⟩, hstored, Option.map_some]
    simp only [Task.act, hanswers, if_true]
    exact ⟨hgrows, h.cons hstored hgreater hgrows hwrite hsame.ge⟩
  | false =>
    have hzero : cred.signCount = 0 := by simpa [hanswers] using hwritten
    have hle : a.signCount ≤ row.counter := by omega
    simp only [Task.act, hanswers, Bool.false_eq_true, if_false]
    exact ⟨Grows.refl _, h.cons hstored hgreater (Grows.refl _) hstored hle⟩

/-- What a step gives that leaves credentials and accepted assertions alone. -/
theorem unchanged_counts {st' : Store} {task : Task} (h : CounterStoreOk st)
    (hcredentials : st'.credentials = st.credentials) (haccepted : st'.accepted = st.accepted)
    (htask : CounterTaskOk st.credentials task) :
    Grows st.credentials st'.credentials ∧ CounterStoreOk st' ∧
      CounterTaskOk st'.credentials task := by
  rw [hcredentials]
  refine ⟨Grows.refl _, ⟨?_, ?_⟩, htask⟩
  · rw [haccepted, hcredentials]
    exact h.stored
  · rw [haccepted]
    exact h.inOrder

/-- **One step** of a request. -/
theorem act_counts (hcounts : CountsUp lib) {task : Task} (h : CounterStoreOk st)
    (hknown : CounterTaskOk st.credentials task)
    (hok : UpdatePasses st.credentials d.answers task) :
    Grows st.credentials (task.act lib d st).1.credentials ∧
      CounterStoreOk (task.act lib d st).1 ∧
      CounterTaskOk (task.act lib d st).1.credentials (task.act lib d st).2 := by
  cases task with
  | begin tenantID userID =>
    cases tenantID with
    | none => exact unchanged_counts h rfl rfl trivial
    | some tenantID =>
      cases userID with
      | none => exact unchanged_counts h rfl rfl trivial
      | some userID =>
        simp only [Task.act]
        split_ifs
        · exact unchanged_counts h rfl rfl trivial
        · exact unchanged_counts h rfl rfl trivial
  | listed tenantID userID allowed =>
    simp only [Task.act]
    cases lib.beginLogin (buildWebAuthnUser d.answers st.credentials tenantID userID)
        (if allowed = [] then none else some allowed) d.challenge with
    | none => exact unchanged_counts h rfl rfl trivial
    | some data => exact unchanged_counts h rfl rfl trivial
  | finish tenantID assertion =>
    cases tenantID with
    | none => exact unchanged_counts h rfl rfl trivial
    | some tenantID =>
      cases assertion with
      | none => exact unchanged_counts h rfl rfl trivial
      | some a =>
        simp only [Task.act]
        cases st.sessions a.challenge with
        | none => exact unchanged_counts h rfl rfl trivial
        | some session =>
          dsimp only
          split_ifs
          · exact unchanged_counts h rfl rfl trivial
          · exact unchanged_counts h rfl rfl trivial
  | taken tenantID a session =>
    simp only [Task.act]
    cases (st.credentials.getCredentialByID tenantID a.rawID).filter fun _ => d.answers with
    | none => exact unchanged_counts h rfl rfl (verify_known hcounts (by simp))
    | some cred =>
      dsimp only
      split_ifs
      · exact unchanged_counts h rfl rfl trivial
      · exact unchanged_counts h rfl rfl trivial
  | found tenantID a session userID =>
    exact unchanged_counts h rfl rfl (verify_known hcounts (counterOf_build _ _ _ _))
  | verified tenantID a session cred =>
    simp only [Task.act]
    split_ifs
    · exact unchanged_counts h rfl rfl trivial
    · exact unchanged_counts h rfl rfl hknown
  | unique tenantID a session cred =>
    obtain ⟨hgrows, hstore⟩ := unique_counts lib h hknown hok
    exact ⟨hgrows, hstore, trivial⟩
  | counted tenantID a session cred => exact unchanged_counts h rfl rfl trivial
  | identified tenantID a cred userID =>
    simp only [Task.act]
    split_ifs
    · exact unchanged_counts h rfl rfl trivial
    · exact unchanged_counts h rfl rfl trivial
    · exact unchanged_counts h rfl rfl trivial
  | done => exact unchanged_counts h rfl rfl trivial

/-- The credentials after a step of the system. -/
theorem CountersOk.act (hcounts : CountsUp lib) {p : Threads Store Task} (h : CountersOk p)
    {e : Step} (hok : StillPasses p e) :
    Grows p.store.credentials (step lib p e).store.credentials ∧ CountersOk (step lib p e) := by
  cases e with
  | sweep now => exact ⟨Grows.refl _, ⟨h.store.stored, h.store.inOrder⟩, h.tasks⟩
  | act thread d =>
    obtain ⟨hgrows, hstore, htask⟩ := act_counts hcounts h.store (h.tasks thread) hok
    exact ⟨hgrows, hstore, Threads.forall_put h.tasks (fun _ hx => hx.mono hgrows) htask⟩

end Requests

-- ---------------------------------------------------------------------------
-- Runs
-- ---------------------------------------------------------------------------

theorem start_counters (credentials : CredentialStore) (requests : Nat → Request) :
    CountersOk (start credentials requests) := by
  refine ⟨⟨fun _ hx => absurd hx List.not_mem_nil, List.Pairwise.nil⟩, fun t => ?_⟩
  show CounterTaskOk credentials (requests t).task
  cases requests t <;> trivial

/-- **Counters increase** in a run in which the check would pass again at every update. -/
theorem counters_increase {lib : Library} (hcounts : CountsUp lib) (credentials : CredentialStore)
    (requests : Nat → Request) {steps : List Step}
    (hok : StepsOk (step lib) StillPasses (start credentials requests) steps) :
    StepsOk (step lib) (fun p e => Grows p.store.credentials (step lib p e).store.credentials)
      (start credentials requests) steps ∧
    ∀ p ∈ states (step lib) (start credentials requests) steps, InOrder p.store.accepted := by
  have hstep : ∀ p e, CountersOk p → StillPasses p e → CountersOk (step lib p e) :=
    fun p e h hok => (h.act hcounts hok).2
  have hstart := start_counters credentials requests
  refine ⟨stepsOk_of_invariant hstep (fun p e h hok => (h.act hcounts hok).1) hstart hok,
    fun p hp => ?_⟩
  exact (invariant_states hstep hstart hok p hp).store.inOrder

namespace Sample

theorem lib_countsUp : CountsUp lib := by
  intro user data a cred h
  simp only [lib] at h
  split_ifs at h with hok
  obtain ⟨loaded, hfind, hcred⟩ := Option.map_eq_some_iff.mp h
  refine ⟨loaded, List.mem_of_find?_eq_some hfind, ?_, ?_⟩
  · rw [← hcred]
    split_ifs <;> rfl
  · rw [← hcred]
    split_ifs <;> rfl

/-- Two assertions with one counter, each for a challenge of its own. -/
def clones : Nat → Request := fun t =>
  if t < 2 then .begin (some 1) none
  else .finish (some 1) (some ⟨if t = 2 then "first" else "second", [1], 2, []⟩)

def challenges : List Step := alone 0 1 "first" ++ alone 1 1 "second"

end Sample

open Sample in
/-- Two requests check their counter before either writes it. -/
theorem clones_accepted :
    (run (step lib) (start credentials clones)
      (challenges ++ alone 2 4 "" ++ alone 3 5 "" ++ alone 2 1 "")).store.accepted =
        [⟨1, [1], 2⟩, ⟨1, [1], 2⟩] ∧
    ¬ ∀ p ∈ states (step lib) (start credentials clones)
      (challenges ++ alone 2 4 "" ++ alone 3 5 "" ++ alone 2 1 ""), InOrder p.store.accepted := by
  have haccepted : (run (step lib) (start credentials clones)
      (challenges ++ alone 2 4 "" ++ alone 3 5 "" ++ alone 2 1 "")).store.accepted =
        [⟨1, [1], 2⟩, ⟨1, [1], 2⟩] := by decide
  refine ⟨haccepted, fun hall => ?_⟩
  have hordered := hall _ (run_mem_states _ _)
  rw [haccepted] at hordered
  have hless := (List.pairwise_cons.mp hordered).1 ⟨1, [1], 2⟩ (by simp) rfl rfl
  exact absurd hless (by decide)

open Sample in
/-- One request after the other: the second is not accepted. -/
theorem counters_increase_sample :
    InOrder (run (step lib) (start credentials clones)
      (challenges ++ alone 2 7 "" ++ alone 3 7 "")).store.accepted := by
  refine (counters_increase lib_countsUp credentials clones ?_).2 _ (run_mem_states _ _)
  decide

end Ggid.Auth.WebAuthn
