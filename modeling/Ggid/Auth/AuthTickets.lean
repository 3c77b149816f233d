import Ggid.Auth.WebAuthn

/-!
# Auth service — the tickets of passkey logins

Who gets a ticket after `finishAuthentication`, and how many for a challenge.

* `Owns.step`       — the users of sessions and requests against the owners of credentials;
* `Once.step`       — a challenge is in a session, with one request, or spent;
* `tickets_owned`   — when tickets are for the owner of the credential: the tenant in which it is
  looked up is the one of the session, or the credential has the same owner there.
-/

namespace Ggid.Auth.WebAuthn

open Ggid.Go Ggid.Lib

-- ---------------------------------------------------------------------------
-- Owners
-- ---------------------------------------------------------------------------

/-- The owners of credentials, by tenant and ID. -/
abbrev Owners := UUID → Bytes → Option UUID

/-- A session for a user lists credentials of the user. -/
def SessionOk (owns : Owners) (session : Session) : Prop :=
  session.userID ≠ UUID.nil → session.data.allowedCredentialIDs ≠ [] ∧
    ∀ id ∈ session.data.allowedCredentialIDs, owns session.tenantID id = some session.userID

/-- In another tenant than the one of the session, the credential has no other owner. -/
def CrossOk (owns : Owners) (tenantID : UUID) (a : Assertion) (session : Session) : Prop :=
  session.userID ≠ UUID.nil → session.tenantID ≠ tenantID →
    ∀ userID, owns tenantID a.rawID = some userID → userID = session.userID

/-- What a request has found out about its user. -/
def TaskOk (owns : Owners) : Task → Prop
  | .listed tenantID userID allowed =>
    userID ≠ UUID.nil ∧ ∀ id ∈ allowed, owns tenantID id = some userID
  | .taken tenantID a session => SessionOk owns session ∧ CrossOk owns tenantID a session
  | .found tenantID a session _ => SessionOk owns session ∧ CrossOk owns tenantID a session
  | .verified tenantID _ session cred =>
    session.userID ≠ UUID.nil → owns tenantID cred.id = some session.userID
  | .unique tenantID _ session cred =>
    session.userID ≠ UUID.nil → owns tenantID cred.id = some session.userID
  | .counted tenantID _ session cred =>
    session.userID ≠ UUID.nil → owns tenantID cred.id = some session.userID
  | .identified tenantID _ cred userID =>
    userID ≠ UUID.nil → owns tenantID cred.id = some userID
  | .begin .. | .finish .. | .done _ => True

structure StoreOk (owns : Owners) (st : Store) : Prop where
  owner_eq : owner st.credentials = owns
  sessions : ∀ challenge session, st.sessions challenge = some session → SessionOk owns session
  tickets  : ∀ ticket ∈ st.tickets, owns ticket.tenantID ticket.credentialID = some ticket.userID

structure Owns (owns : Owners) (p : Threads Store Task) : Prop where
  store : StoreOk owns p.store
  tasks : ∀ t, TaskOk owns (p.task t)

/-- A session for a user is taken up in its tenant, or where the credential has the same owner. -/
def SameOwner (p : Threads Store Task) : Step → Prop
  | .sweep _ => True
  | .act thread _ => ∀ tenantID a, p.task thread = .finish (some tenantID) (some a) →
    ∀ session, p.store.sessions a.challenge = some session →
      CrossOk (owner p.store.credentials) tenantID a session

section Owners

variable {lib : Library} {owns : Owners} {st : Store} {d : Draw} {tenantID : UUID} {a : Assertion}
  {session : Session}

theorem StoreOk.save (h : StoreOk owns st) (challenge : String)
    (hsession : SessionOk owns session) : StoreOk owns (st.save challenge session) := by
  refine ⟨h.owner_eq, fun challenge' session' hget => ?_, h.tickets⟩
  by_cases hsame : challenge' = challenge
  · subst hsame
    rw [Store.save_sessions, Function.update_self, Option.some.injEq] at hget
    exact hget ▸ hsession
  · rw [Store.save_sessions, Function.update_of_ne hsame] at hget
    exact h.sessions challenge' session' hget

theorem StoreOk.drop (h : StoreOk owns st) (challenge : String) :
    StoreOk owns (st.drop challenge) := by
  refine ⟨h.owner_eq, fun challenge' session' hget => ?_, h.tickets⟩
  by_cases hsame : challenge' = challenge
  · subst hsame
    rw [Store.drop_sessions, Function.update_self] at hget
    cases hget
  · rw [Store.drop_sessions, Function.update_of_ne hsame] at hget
    exact h.sessions challenge' session' hget

theorem StoreOk.sweep (h : StoreOk owns st) (now : Time) : StoreOk owns (st.sweep now) := by
  refine ⟨h.owner_eq, fun challenge session hget => ?_, h.tickets⟩
  exact h.sessions challenge session (Option.filter_eq_some_iff.mp hget).1

/-- The verification, for a user who was built with own credentials. -/
theorem verify_ok (hlib : ValidatesLogin lib) {user : User}
    (huser : ∀ id ∈ user.credentials.map LoginCredential.id, owns tenantID id = some user.id)
    (hsession : SessionOk owns session) (hcross : CrossOk owns tenantID a session) :
    TaskOk owns (verify lib tenantID a session user) := by
  unfold verify
  cases hvalid : lib.validateLogin user { session.data with userID := user.id } a with
  | none => trivial
  | some cred =>
    obtain ⟨-, hraw, hmem, hallowed⟩ := hlib _ _ _ _ hvalid
    intro hsome
    obtain ⟨hlist, hlisted⟩ := hsession hsome
    have howner := huser cred.id hmem
    by_cases htenant : session.tenantID = tenantID
    · rw [← htenant]
      exact hlisted cred.id (hallowed hlist)
    · rw [howner, hcross hsome htenant user.id (hraw ▸ howner)]

/-- A session for a user whose login has begun. -/
theorem beginLogin_ok (hlib : BeginsLogin lib) {user : User} {allowed : List Bytes}
    {challenge : String} {data : SessionData} (createdAt : Time)
    (huser : ∀ id ∈ user.credentials.map LoginCredential.id, owns tenantID id = some user.id)
    (hallowed : ∀ id ∈ allowed, owns tenantID id = some user.id)
    (h : lib.beginLogin user (if allowed = [] then none else some allowed) challenge = some data) :
    SessionOk owns ⟨user.id, tenantID, data, createdAt⟩ := by
  obtain ⟨hsome, hids⟩ := hlib _ _ _ _ h
  intro _
  show data.allowedCredentialIDs ≠ [] ∧
    ∀ id ∈ data.allowedCredentialIDs, owns tenantID id = some user.id
  rw [hids]
  split_ifs with hnone
  · exact ⟨by simpa using hsome, huser⟩
  · exact ⟨hnone, hallowed⟩

theorem sessionOk_discoverable (tenantID : UUID) (data : SessionData) (createdAt : Time) :
    SessionOk owns ⟨UUID.nil, tenantID, data, createdAt⟩ := fun h => absurd rfl h

/-- **One step** of a request. -/
theorem act_ok (hbegin : BeginsLogin lib) (hvalidate : ValidatesLogin lib) {task : Task}
    (h : StoreOk owns st) (htask : TaskOk owns task)
    (hcross : ∀ tenantID a, task = .finish (some tenantID) (some a) →
      ∀ session, st.sessions a.challenge = some session → CrossOk owns tenantID a session) :
    StoreOk owns (task.act lib d st).1 ∧ TaskOk owns (task.act lib d st).2 := by
  have hbuilt : ∀ tenantID userID, ∀ id ∈ (buildWebAuthnUser d.answers st.credentials tenantID
      userID).credentials.map LoginCredential.id, owns tenantID id = some userID := by
    intro tenantID userID id hid
    rw [← h.owner_eq]
    exact owner_of_mem_build hid
  cases task with
  | begin tenantID userID =>
    cases tenantID with
    | none => exact ⟨h, trivial⟩
    | some tenantID =>
      have hdiscover : StoreOk owns (beginDiscoverable d st tenantID).1 :=
        h.save _ (sessionOk_discoverable _ _ _)
      cases userID with
      | none => exact ⟨hdiscover, trivial⟩
      | some userID =>
        simp only [Task.act]
        split_ifs with hnil
        · exact ⟨hdiscover, trivial⟩
        · exact ⟨h, hnil, hbuilt tenantID userID⟩
  | listed tenantID userID allowed =>
    simp only [Task.act]
    cases hlogin : lib.beginLogin (buildWebAuthnUser d.answers st.credentials tenantID userID)
        (if allowed = [] then none else some allowed) d.challenge with
    | none => exact ⟨h, trivial⟩
    | some data =>
      have hsession : SessionOk owns ⟨userID, tenantID, data, d.now⟩ :=
        beginLogin_ok hbegin d.now (hbuilt tenantID userID) htask.2 hlogin
      exact ⟨h.save _ hsession, trivial⟩
  | finish tenantID assertion =>
    cases tenantID with
    | none => exact ⟨h, trivial⟩
    | some tenantID =>
      cases assertion with
      | none => exact ⟨h, trivial⟩
      | some a =>
        simp only [Task.act]
        cases hget : st.sessions a.challenge with
        | none => exact ⟨h, trivial⟩
        | some session =>
          dsimp only
          split_ifs
          · exact ⟨h.drop _, trivial⟩
          · exact ⟨h.drop _, h.sessions _ _ hget, hcross tenantID a rfl session hget⟩
  | taken tenantID a session =>
    simp only [Task.act]
    cases hfind : (st.credentials.getCredentialByID tenantID a.rawID).filter
        fun _ => d.answers with
    | none => exact ⟨h, verify_ok hvalidate (by simp) htask.1 htask.2⟩
    | some cred =>
      dsimp only
      split_ifs
      · exact ⟨h, trivial⟩
      · exact ⟨h, htask⟩
  | found tenantID a session userID =>
    exact ⟨h, verify_ok hvalidate (hbuilt tenantID userID) htask.1 htask.2⟩
  | verified tenantID a session cred =>
    simp only [Task.act]
    split_ifs
    · exact ⟨h, trivial⟩
    · exact ⟨h, htask⟩
  | unique tenantID a session cred =>
    refine ⟨⟨?_, h.sessions, h.tickets⟩, htask⟩
    simp only [Task.act]
    split_ifs
    · rw [owner_updateCounter]
      exact h.owner_eq
    · exact h.owner_eq
  | counted tenantID a session cred =>
    simp only [Task.act]
    refine ⟨h, ?_⟩
    split_ifs with hsome
    · exact fun _ => htask hsome
    · intro hfound
      rw [← h.owner_eq, owner]
      cases hfind : (st.credentials.getCredentialByID tenantID cred.id).filter
          fun _ => d.answers with
      | none =>
        rw [hfind] at hfound
        exact absurd rfl hfound
      | some stored =>
        rw [(Option.filter_eq_some_iff.mp hfind).1]
        rfl
  | identified tenantID a cred userID =>
    simp only [Task.act]
    split_ifs with hnil hanswers
    · exact ⟨h, trivial⟩
    · exact ⟨h, trivial⟩
    · exact ⟨⟨h.owner_eq, h.sessions, List.forall_mem_cons.mpr ⟨htask hnil, h.tickets⟩⟩, trivial⟩
  | done => exact ⟨h, trivial⟩

theorem Owns.step (hbegin : BeginsLogin lib) (hvalidate : ValidatesLogin lib)
    {p : Threads Store Task} (h : Owns owns p) {e : Step} (hok : SameOwner p e) :
    Owns owns (step lib p e) := by
  cases e with
  | sweep now => exact ⟨h.store.sweep now, h.tasks⟩
  | act thread d =>
    obtain ⟨hstore, htask⟩ := act_ok (d := d) hbegin hvalidate h.store (h.tasks thread)
      (h.store.owner_eq ▸ hok)
    exact ⟨hstore, Threads.forall_put h.tasks (fun _ hx => hx) htask⟩

end Owners

-- ---------------------------------------------------------------------------
-- Challenges
-- ---------------------------------------------------------------------------

/-- The challenge of the session a request has consumed. -/
def Task.challenge : Task → Option String
  | .taken _ a _ => some a.challenge
  | .found _ a _ _ => some a.challenge
  | .verified _ a _ _ => some a.challenge
  | .unique _ a _ _ => some a.challenge
  | .counted _ a _ _ => some a.challenge
  | .identified _ a _ _ => some a.challenge
  | .begin .. | .listed .. | .finish .. | .done _ => none

/-- The challenge has been drawn, and is not in a session any more. -/
def Spent (st : Store) (challenge : String) : Prop :=
  challenge ∈ st.drawn ∧ st.sessions challenge = none

structure Once (p : Threads Store Task) : Prop where
  sessions : ∀ challenge, p.store.sessions challenge ≠ none → challenge ∈ p.store.drawn
  held     : ∀ t challenge, (p.task t).challenge = some challenge →
    Spent p.store challenge ∧ challenge ∉ p.store.tickets.map Ticket.challenge
  apart    : ∀ t u challenge, (p.task t).challenge = some challenge →
    (p.task u).challenge = some challenge → t = u
  tickets  : ∀ challenge ∈ p.store.tickets.map Ticket.challenge, Spent p.store challenge
  nodup    : (p.store.tickets.map Ticket.challenge).Nodup

/-- A challenge that is drawn is new. -/
def FreshDraw (p : Threads Store Task) : Step → Prop
  | .sweep _ => True
  | .act _ d => d.challenge ∉ p.store.drawn

instance FreshDraw.decidable (p : Threads Store Task) : ∀ e, Decidable (FreshDraw p e)
  | .sweep _ => .isTrue trivial
  | .act _ d => inferInstanceAs (Decidable (d.challenge ∉ p.store.drawn))

/-- What a step of a request does with challenges: it saves a session for a new one, consumes the
session of one, keeps or drops its own, or issues the ticket for its own. -/
inductive Effect (d : Draw) (st : Store) (held : Option String) (st' : Store) :
    Option String → Prop
  | saved (session : Session)
      (hsessions : st'.sessions = Function.update st.sessions d.challenge (some session))
      (hdrawn : st'.drawn = d.challenge :: st.drawn) (htickets : st'.tickets = st.tickets) :
      Effect d st held st' none
  | consumed (challenge : String) (held' : Option String) (hget : st.sessions challenge ≠ none)
      (hsessions : st'.sessions = Function.update st.sessions challenge none)
      (hdrawn : st'.drawn = st.drawn) (htickets : st'.tickets = st.tickets)
      (hheld : held' = none ∨ held' = some challenge) : Effect d st held st' held'
  | kept (held' : Option String) (hsessions : st'.sessions = st.sessions)
      (hdrawn : st'.drawn = st.drawn) (htickets : st'.tickets = st.tickets)
      (hheld : held' = none ∨ held' = held) : Effect d st held st' held'
  | issued (ticket : Ticket) (hheld : held = some ticket.challenge)
      (hsessions : st'.sessions = st.sessions) (hdrawn : st'.drawn = st.drawn)
      (htickets : st'.tickets = ticket :: st.tickets) : Effect d st held st' none

section Challenges

variable {lib : Library} {st : Store} {d : Draw}

theorem verify_challenge (lib : Library) (tenantID : UUID) (a : Assertion) (session : Session)
    (user : User) : (verify lib tenantID a session user).challenge = none ∨
      (verify lib tenantID a session user).challenge = some a.challenge := by
  unfold verify
  cases lib.validateLogin user { session.data with userID := user.id } a with
  | none => exact .inl rfl
  | some cred => exact .inr rfl

theorem act_effect (task : Task) : Effect d st task.challenge (task.act lib d st).1
    (task.act lib d st).2.challenge := by
  cases task with
  | begin tenantID userID =>
    cases tenantID with
    | none => exact .kept _ rfl rfl rfl (.inl rfl)
    | some tenantID =>
      cases userID with
      | none => exact .saved _ rfl rfl rfl
      | some userID =>
        simp only [Task.act]
        split_ifs
        · exact .saved _ rfl rfl rfl
        · exact .kept _ rfl rfl rfl (.inl rfl)
  | listed tenantID userID allowed =>
    simp only [Task.act]
    cases lib.beginLogin (buildWebAuthnUser d.answers st.credentials tenantID userID)
        (if allowed = [] then none else some allowed) d.challenge with
    | none => exact .kept _ rfl rfl rfl (.inl rfl)
    | some data => exact .saved _ rfl rfl rfl
  | finish tenantID assertion =>
    cases tenantID with
    | none => exact .kept _ rfl rfl rfl (.inl rfl)
    | some tenantID =>
      cases assertion with
      | none => exact .kept _ rfl rfl rfl (.inl rfl)
      | some a =>
        simp only [Task.act]
        cases hget : st.sessions a.challenge with
        | none => exact .kept _ rfl rfl rfl (.inl rfl)
        | some session =>
          dsimp only
          split_ifs
          · exact .consumed a.challenge _ (by simp [hget]) rfl rfl rfl (.inl rfl)
          · exact .consumed a.challenge _ (by simp [hget]) rfl rfl rfl (.inr rfl)
  | taken tenantID a session =>
    simp only [Task.act]
    cases (st.credentials.getCredentialByID tenantID a.rawID).filter fun _ => d.answers with
    | none => exact .kept _ rfl rfl rfl (verify_challenge _ _ _ _ _)
    | some cred =>
      dsimp only
      split_ifs
      · exact .kept _ rfl rfl rfl (.inl rfl)
      · exact .kept _ rfl rfl rfl (.inr rfl)
  | found tenantID a session userID => exact .kept _ rfl rfl rfl (verify_challenge _ _ _ _ _)
  | verified tenantID a session cred =>
    simp only [Task.act]
    split_ifs
    · exact .kept _ rfl rfl rfl (.inl rfl)
    · exact .kept _ rfl rfl rfl (.inr rfl)
  | unique tenantID a session cred => exact .kept _ rfl rfl rfl (.inr rfl)
  | counted tenantID a session cred => exact .kept _ rfl rfl rfl (.inr rfl)
  | identified tenantID a cred userID =>
    simp only [Task.act]
    split_ifs
    · exact .kept _ rfl rfl rfl (.inl rfl)
    · exact .kept _ rfl rfl rfl (.inl rfl)
    · exact .issued ⟨tenantID, userID, a.challenge, cred.id⟩ rfl rfl rfl rfl
  | done => exact .kept _ rfl rfl rfl (.inl rfl)

/-- Of the tasks after a step, the one that acted and the others. -/
theorem task_put {p : Threads Store Task} {thread t : Nat} {new : Store × Task} {challenge : String}
    (h : ((p.put thread new).task t).challenge = some challenge) :
    (t = thread ∧ new.2.challenge = some challenge) ∨
      (t ≠ thread ∧ (p.task t).challenge = some challenge) := by
  by_cases ht : t = thread
  · rw [ht, Threads.put_task_self] at h
    exact .inl ⟨ht, h⟩
  · rw [Threads.put_task_of_ne p new ht] at h
    exact .inr ⟨ht, h⟩

/-- The challenges that are drawn are so far those of no session, no request and no ticket. -/
theorem Once.fresh {p : Threads Store Task} (h : Once p) {challenge : String}
    (hfresh : challenge ∉ p.store.drawn) : p.store.sessions challenge = none ∧
      (∀ t, (p.task t).challenge ≠ some challenge) ∧
      challenge ∉ p.store.tickets.map Ticket.challenge := by
  refine ⟨?_, fun t hheld => ?_, fun hmem => ?_⟩
  · by_contra hget
    exact hfresh (h.sessions challenge hget)
  · exact hfresh (h.held t challenge hheld).1.1
  · exact hfresh (h.tickets challenge hmem).1

theorem Once.sweep {p : Threads Store Task} (h : Once p) (now : Time) :
    Once { p with store := p.store.sweep now } := by
  have hspent : ∀ challenge, Spent p.store challenge → Spent (p.store.sweep now) challenge := by
    rintro challenge ⟨hdrawn, hnone⟩
    exact ⟨hdrawn, by simp [Store.sweep, hnone]⟩
  refine ⟨fun challenge hget => h.sessions challenge fun hnone => hget ?_, ?_, h.apart,
    fun challenge hmem => hspent challenge (h.tickets challenge hmem), h.nodup⟩
  · show (p.store.sessions challenge).filter _ = none
    rw [hnone]
    rfl
  · exact fun t challenge hheld => ⟨hspent challenge (h.held t challenge hheld).1,
      (h.held t challenge hheld).2⟩

/-- What is not the challenge of the step is spent after it, if it was before. -/
theorem Spent.update {st' : Store} {challenge other : String} {session : Option Session}
    (h : Spent st challenge) (hne : challenge ≠ other)
    (hsessions : st'.sessions = Function.update st.sessions other session)
    (hdrawn : st.drawn ⊆ st'.drawn) : Spent st' challenge := by
  refine ⟨hdrawn h.1, ?_⟩
  rw [hsessions, Function.update_of_ne hne]
  exact h.2

section Put

variable {p : Threads Store Task} {thread : Nat} {new : Store × Task}

theorem Once.saved (h : Once p) {session : Session} (hfresh : d.challenge ∉ p.store.drawn)
    (hnew : new.2.challenge = none)
    (hsessions : new.1.sessions = Function.update p.store.sessions d.challenge (some session))
    (hdrawn : new.1.drawn = d.challenge :: p.store.drawn)
    (htickets : new.1.tickets = p.store.tickets) : Once (p.put thread new) := by
  obtain ⟨-, hheld, hticket⟩ := h.fresh hfresh
  have hsub : p.store.drawn ⊆ new.1.drawn := by
    rw [hdrawn]
    exact List.subset_cons_self _ _
  have hothers : ∀ t challenge, ((p.put thread new).task t).challenge = some challenge →
      (p.task t).challenge = some challenge := by
    intro t challenge ht
    rcases task_put ht with ⟨-, hself⟩ | ⟨-, hother⟩
    · rw [hnew] at hself
      cases hself
    · exact hother
  refine ⟨fun challenge hget => ?_, fun t challenge ht => ?_, fun t u challenge ht hu => ?_,
    fun challenge hmem => ?_, ?_⟩
  · rw [Threads.put_store] at hget ⊢
    by_cases hsame : challenge = d.challenge
    · rw [hsame, hdrawn]
      exact List.mem_cons_self
    · rw [hsessions, Function.update_of_ne hsame] at hget
      exact hsub (h.sessions challenge hget)
  · obtain ⟨hspent, hnone⟩ := h.held t challenge (hothers t challenge ht)
    have hne : challenge ≠ d.challenge := fun hsame => hheld t (hsame ▸ hothers t challenge ht)
    rw [Threads.put_store, htickets]
    exact ⟨hspent.update hne hsessions hsub, hnone⟩
  · exact h.apart t u challenge (hothers t challenge ht) (hothers u challenge hu)
  · rw [Threads.put_store, htickets] at hmem
    have hne : challenge ≠ d.challenge := fun hsame => hticket (hsame ▸ hmem)
    exact (h.tickets challenge hmem).update hne hsessions hsub
  · rw [Threads.put_store, htickets]
    exact h.nodup

theorem Once.consumed (h : Once p) {taken : String} (hget : p.store.sessions taken ≠ none)
    (hnew : new.2.challenge = none ∨ new.2.challenge = some taken)
    (hsessions : new.1.sessions = Function.update p.store.sessions taken none)
    (hdrawn : new.1.drawn = p.store.drawn) (htickets : new.1.tickets = p.store.tickets) :
    Once (p.put thread new) := by
  have hsub : p.store.drawn ⊆ new.1.drawn := by
    rw [hdrawn]
    exact List.Subset.refl _
  have hspent : Spent new.1 taken :=
    ⟨hsub (h.sessions taken hget), by rw [hsessions, Function.update_self]⟩
  have hne : ∀ challenge, Spent p.store challenge → challenge ≠ taken := by
    rintro challenge ⟨-, hnone⟩ rfl
    exact hget hnone
  have hother : ∀ t challenge, (p.task t).challenge = some challenge → challenge ≠ taken :=
    fun t challenge ht => hne challenge (h.held t challenge ht).1
  have hself : ∀ challenge, new.2.challenge = some challenge → challenge = taken := by
    intro challenge hsome
    rcases hnew with hnone | htaken
    · rw [hnone] at hsome
      cases hsome
    · exact Option.some.inj (hsome.symm.trans htaken)
  refine ⟨fun challenge hsome => ?_, fun t challenge ht => ?_, fun t u challenge ht hu => ?_,
    fun challenge hmem => ?_, ?_⟩
  · rw [Threads.put_store] at hsome ⊢
    refine hsub (h.sessions challenge fun hnone => hsome ?_)
    rw [hsessions, Function.update_apply]
    split_ifs
    · rfl
    · exact hnone
  · rw [Threads.put_store, htickets]
    rcases task_put ht with ⟨-, hsome⟩ | ⟨-, ht⟩
    · rw [hself challenge hsome]
      exact ⟨hspent, fun hmem => hne taken (h.tickets taken hmem) rfl⟩
    · obtain ⟨hbefore, hnone⟩ := h.held t challenge ht
      exact ⟨hbefore.update (hne challenge hbefore) hsessions hsub, hnone⟩
  · rcases task_put ht with ⟨ht, hsome⟩ | ⟨-, ht⟩
    · rcases task_put hu with ⟨hu, -⟩ | ⟨-, hu⟩
      · rw [ht, hu]
      · exact absurd (hself challenge hsome) (hother u challenge hu)
    · rcases task_put hu with ⟨-, hsome⟩ | ⟨-, hu⟩
      · exact absurd (hself challenge hsome) (hother t challenge ht)
      · exact h.apart t u challenge ht hu
  · rw [Threads.put_store, htickets] at hmem
    have hbefore := h.tickets challenge hmem
    exact hbefore.update (hne challenge hbefore) hsessions hsub
  · rw [Threads.put_store, htickets]
    exact h.nodup

theorem Once.kept (h : Once p)
    (hnew : new.2.challenge = none ∨ new.2.challenge = (p.task thread).challenge)
    (hsessions : new.1.sessions = p.store.sessions) (hdrawn : new.1.drawn = p.store.drawn)
    (htickets : new.1.tickets = p.store.tickets) : Once (p.put thread new) := by
  have hkept : ∀ t challenge, ((p.put thread new).task t).challenge = some challenge →
      (p.task t).challenge = some challenge := by
    intro t challenge ht
    rcases task_put ht with ⟨rfl, hself⟩ | ⟨-, hother⟩
    · rcases hnew with hnone | hsame
      · rw [hnone] at hself
        cases hself
      · exact hsame.symm.trans hself
    · exact hother
  refine ⟨?_, fun t challenge ht => ?_, fun t u challenge ht hu => ?_, ?_, ?_⟩
  · rw [Threads.put_store, hsessions, hdrawn]
    exact h.sessions
  · rw [Threads.put_store, Spent, hsessions, hdrawn, htickets]
    exact h.held t challenge (hkept t challenge ht)
  · exact h.apart t u challenge (hkept t challenge ht) (hkept u challenge hu)
  · simp only [Threads.put_store, Spent, hsessions, hdrawn, htickets]
    exact h.tickets
  · rw [Threads.put_store, htickets]
    exact h.nodup

theorem Once.issued (h : Once p) {ticket : Ticket}
    (hheld : (p.task thread).challenge = some ticket.challenge) (hnew : new.2.challenge = none)
    (hsessions : new.1.sessions = p.store.sessions) (hdrawn : new.1.drawn = p.store.drawn)
    (htickets : new.1.tickets = ticket :: p.store.tickets) : Once (p.put thread new) := by
  obtain ⟨hspent, hnone⟩ := h.held thread ticket.challenge hheld
  have hothers : ∀ t challenge, ((p.put thread new).task t).challenge = some challenge →
      t ≠ thread ∧ (p.task t).challenge = some challenge := by
    intro t challenge ht
    rcases task_put ht with ⟨-, hself⟩ | hother
    · rw [hnew] at hself
      cases hself
    · exact hother
  refine ⟨?_, fun t challenge ht => ?_, fun t u challenge ht hu => ?_, ?_, ?_⟩
  · rw [Threads.put_store, hsessions, hdrawn]
    exact h.sessions
  · obtain ⟨hne, hbefore⟩ := hothers t challenge ht
    obtain ⟨hspent', hnone'⟩ := h.held t challenge hbefore
    rw [Threads.put_store, Spent, hsessions, hdrawn, htickets, List.map_cons]
    refine ⟨hspent', List.not_mem_cons_of_ne_of_not_mem (fun hsame => hne ?_) hnone'⟩
    exact h.apart t thread challenge hbefore (hsame ▸ hheld)
  · exact h.apart t u challenge (hothers t challenge ht).2 (hothers u challenge hu).2
  · simp only [Threads.put_store, Spent, hsessions, hdrawn, htickets, List.map_cons]
    exact List.forall_mem_cons.mpr ⟨hspent, h.tickets⟩
  · rw [Threads.put_store, htickets, List.map_cons]
    exact List.nodup_cons.mpr ⟨hnone, h.nodup⟩

theorem Once.put (h : Once p) (hfresh : d.challenge ∉ p.store.drawn)
    (heffect : Effect d p.store (p.task thread).challenge new.1 new.2.challenge) :
    Once (p.put thread new) := by
  generalize hnew : new.2.challenge = held at heffect
  cases heffect with
  | saved session hsessions hdrawn htickets =>
    exact h.saved hfresh hnew hsessions hdrawn htickets
  | consumed taken held hget hsessions hdrawn htickets hheld =>
    exact h.consumed hget (hnew ▸ hheld) hsessions hdrawn htickets
  | kept held hsessions hdrawn htickets hheld =>
    exact h.kept (hnew ▸ hheld) hsessions hdrawn htickets
  | issued ticket hheld hsessions hdrawn htickets =>
    exact h.issued hheld hnew hsessions hdrawn htickets

end Put

theorem Once.step {p : Threads Store Task} (h : Once p) {e : Step} (hfresh : FreshDraw p e) :
    Once (step lib p e) := by
  cases e with
  | sweep now => exact h.sweep now
  | act thread d => exact h.put hfresh (act_effect (p.task thread))

end Challenges

-- ---------------------------------------------------------------------------
-- Runs
-- ---------------------------------------------------------------------------

theorem start_owns (credentials : CredentialStore) (requests : Nat → Request) :
    Owns (owner credentials) (start credentials requests) := by
  refine ⟨⟨rfl, fun _ _ hget => (by cases hget), fun _ hmem => absurd hmem List.not_mem_nil⟩,
    fun t => ?_⟩
  show TaskOk (owner credentials) (requests t).task
  cases requests t <;> trivial

theorem start_once (credentials : CredentialStore) (requests : Nat → Request) :
    Once (start credentials requests) := by
  have hnone : ∀ t, ((start credentials requests).task t).challenge = none := by
    intro t
    show (requests t).task.challenge = none
    cases requests t <;> rfl
  refine ⟨fun _ hget => absurd rfl hget, fun t challenge ht => ?_, fun t u challenge ht hu => ?_,
    fun _ hmem => absurd hmem List.not_mem_nil, List.nodup_nil⟩
  · rw [hnone t] at ht
    cases ht
  · rw [hnone t] at ht
    cases ht

/-- Every ticket is for the owner of the credential, and no two are for one challenge. -/
structure TicketsOwned (p : Threads Store Task) : Prop where
  owner_eq : ∀ ticket ∈ p.store.tickets,
    owner p.store.credentials ticket.tenantID ticket.credentialID = some ticket.userID
  once     : (p.store.tickets.map Ticket.challenge).Nodup

/-- **Tickets** in a run in which sessions for a user are taken up for credentials that the user
has. -/
theorem tickets_owned {lib : Library} (hbegin : BeginsLogin lib) (hvalidate : ValidatesLogin lib)
    (credentials : CredentialStore) (requests : Nat → Request) {steps : List Step}
    (hfresh : StepsOk (step lib) FreshDraw (start credentials requests) steps)
    (hok : StepsOk (step lib) SameOwner (start credentials requests) steps) :
    ∀ p ∈ states (step lib) (start credentials requests) steps, TicketsOwned p := by
  have howns : ∀ p ∈ states (step lib) (start credentials requests) steps,
      Owns (owner credentials) p :=
    invariant_states (fun _ _ h hok => Owns.step hbegin hvalidate h hok)
      (start_owns credentials requests) hok
  have honce : ∀ p ∈ states (step lib) (start credentials requests) steps, Once p :=
    invariant_states (fun _ _ h hok => Once.step h hok) (start_once credentials requests) hfresh
  intro p hp
  exact ⟨(howns p hp).store.owner_eq ▸ (howns p hp).store.tickets, (honce p hp).nodup⟩


namespace Sample

/-- A login begins for user 10 in tenant 1, and ends with an assertion in some tenant. -/
def login (tenantID : UUID) : Nat → Request := fun t =>
  if t = 0 then .begin (some 1) (some 10) else .finish (some tenantID) (some ⟨"first", [1], 2, []⟩)

def loginSteps : List Step := alone 0 2 "first" ++ alone 1 7 "second"

end Sample

open Sample in
/-- The user of tenant 2 asserts a credential, and the user of tenant 1 gets the ticket. -/
theorem ticket_of_other_user :
    (run (step lib) (start credentials (login 2)) loginSteps).store.tickets =
      [⟨2, 10, "first", [1]⟩] ∧
    owner credentials 2 [1] = some 20 ∧
    ¬ ∀ p ∈ states (step lib) (start credentials (login 2)) loginSteps, TicketsOwned p := by
  have htickets : (run (step lib) (start credentials (login 2)) loginSteps).store.tickets =
      [⟨2, 10, "first", [1]⟩] := by decide
  have howner : owner (run (step lib) (start credentials (login 2)) loginSteps).store.credentials
      2 [1] = some 20 := by decide
  refine ⟨htickets, by decide, fun hall => ?_⟩
  have howned := (hall _ (run_mem_states _ _)).owner_eq
  rw [htickets] at howned
  exact absurd (howner.symm.trans (howned ⟨2, 10, "first", [1]⟩ (by simp))) (by decide)

open Sample in
/-- A login in one tenant. -/
theorem tickets_owned_sample :
    TicketsOwned (run (step lib) (start credentials (login 1)) loginSteps) := by
  refine tickets_owned lib_beginsLogin lib_validatesLogin credentials (login 1) ?_ ?_ _
    (run_mem_states _ _)
  · decide
  · refine ⟨?_, ?_, ?_, ?_, ?_, ?_, ?_, ?_, ?_, trivial⟩
    case refine_3 =>
      rintro tenantID a ⟨⟩ session ⟨⟩ - hother
      exact absurd rfl hother
    all_goals rintro tenantID a ⟨⟩

end Ggid.Auth.WebAuthn
