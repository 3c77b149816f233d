import Ggid.Lib.Run
import Ggid.Lib.Tiers
import Ggid.OAuth.Domain

/-!
# OAuth service — pushed authorization requests

`PushAuthorizationRequest` and `GetPushedAuthorizationRequest` on any number of
instances, each with its own `parStore`, that share one Redis. Next to the stores a
`ParState` keeps which request URIs were handed out and which were consumed, and
when.

A request URI is single-use. Consuming it deletes the entry from Redis and from the
local map of the instance that consumes it. The instance it was pushed to keeps its
copy.

* `par_consumed_once`    — every request URI is consumed at most once and never after
  its expiry, in every run that consumes only where the last copy is; a copy that is
  left can be consumed again;
* `par_consumed_twice`   — a request is consumed on another instance than it was
  pushed to, and then on that one.
-/

namespace Ggid.OAuth

open Ggid.Go Ggid.Policy Ggid.Lib

-- ---------------------------------------------------------------------------
-- The service
-- ---------------------------------------------------------------------------

structure PushedAuthorizationRequest where
  tenantID            : UUID
  clientID            : String
  clientSecret        : String
  redirectURI         : String
  responseType        : String
  scope               : String
  state               : String
  nonce               : String
  codeChallenge       : String
  codeChallengeMethod : String
  userID              : UUID
  deriving DecidableEq

structure PushedAuthorizationResponse where
  requestURI : String
  expiresIn  : Int
  deriving DecidableEq

structure ParEntry where
  request   : PushedAuthorizationRequest
  expiresAt : Time
  deriving DecidableEq

/-- In seconds. -/
def parTTL : Int := 60

def parRequestURIPrefix : String := "urn:ietf:params:oauth:request_uri:"

/-- `parStore` of every instance, and Redis. -/
abbrev ParStore := Tiers String ParEntry

/-- What the outside contributes to a call. -/
structure ParEnv where
  now   : Time
  /-- Redis is configured and answers. -/
  redis : Bool
  /-- What `GetClientByID` returns. -/
  found : Option OAuthClient
  /-- `uuid.New()`. -/
  newID : UUID

def parStoreRedis (env : ParEnv) (st : ParStore) (i : Nat) (requestURI : String)
    (entry : ParEntry) : ParStore :=
  st.save env.redis i requestURI entry (some (env.now + parTTL * second))

def parLoadRedis (env : ParEnv) (st : ParStore) (i : Nat) (requestURI : String) :
    ParStore × Option ParEntry :=
  st.load env.now env.redis i requestURI

def parDeleteRedis (env : ParEnv) (st : ParStore) (i : Nat) (requestURI : String) : ParStore :=
  st.drop env.redis i requestURI

/-- The request URI a push hands out. -/
def ParEnv.requestURI (env : ParEnv) : String := parRequestURIPrefix ++ env.newID.string

/-- The checks of `PushAuthorizationRequest`. -/
def validatePush (crypto : Crypto) (found : Option OAuthClient)
    (req : PushedAuthorizationRequest) : Except GGIDError Unit :=
  match found with
  | none => .error (unauthenticated "client authentication failed")
  | some client =>
    if client.isConfidential &&
        !crypto.verifyPassword req.clientSecret client.clientSecretHash then
      .error (unauthenticated "invalid client credentials")
    else if !client.validateRedirectURI req.redirectURI then
      .error (invalidArgument "redirect_uri not registered for client")
    else if !client.responseTypes.contains req.responseType then
      .error (invalidArgument "unsupported response_type")
    else .ok ()

/-- `PushAuthorizationRequest` on instance `i`. -/
def pushAuthorizationRequest (crypto : Crypto) (env : ParEnv) (st : ParStore) (i : Nat)
    (req : PushedAuthorizationRequest) :
    ParStore × Except GGIDError PushedAuthorizationResponse :=
  match validatePush crypto env.found req with
  | .error err => (st, .error err)
  | .ok () =>
    (parStoreRedis env st i env.requestURI ⟨req, env.now + parTTL * second⟩,
      .ok ⟨env.requestURI, parTTL⟩)

/-- `GetPushedAuthorizationRequest` on instance `i`. -/
def getPushedAuthorizationRequest (env : ParEnv) (st : ParStore) (i : Nat) (requestURI : String) :
    ParStore × Except String PushedAuthorizationRequest :=
  if !Strings.hasPrefix requestURI.toList parRequestURIPrefix.toList then
    (st, .error "invalid request_uri format")
  else match parLoadRedis env st i requestURI with
    | (st', none) => (st', .error "request_uri not found or expired")
    | (st', some entry) =>
      if entry.expiresAt < env.now then
        (parDeleteRedis env st' i requestURI, .error "request_uri expired")
      else (parDeleteRedis env st' i requestURI, .ok entry.request)

-- ---------------------------------------------------------------------------
-- Runs
-- ---------------------------------------------------------------------------

inductive ParOp where
  | push (i : Nat) (req : PushedAuthorizationRequest)
  | consume (i : Nat) (requestURI : String)

/-- The stores, the request URIs handed out with their expiry, and those consumed
with the time. -/
structure ParState where
  store    : ParStore
  issued   : List (String × Time)
  consumed : List (String × Time)

def parStart : ParState := ⟨Tiers.empty, [], []⟩

def parStep (crypto : Crypto) (p : ParState) (e : ParOp × ParEnv) : ParState :=
  match e.1 with
  | .push i req =>
    { p with
      store := (pushAuthorizationRequest crypto e.2 p.store i req).1
      issued := match (pushAuthorizationRequest crypto e.2 p.store i req).2 with
        | .ok resp => (resp.requestURI, e.2.now + resp.expiresIn * second) :: p.issued
        | .error _ => p.issued }
  | .consume i requestURI =>
    { p with
      store := (getPushedAuthorizationRequest e.2 p.store i requestURI).1
      consumed := match (getPushedAuthorizationRequest e.2 p.store i requestURI).2 with
        | .ok _ => (requestURI, e.2.now) :: p.consumed
        | .error _ => p.consumed }

/-- Every request URI was consumed at most once, and no later than the expiry it was
handed out with. -/
structure SingleUse (p : ParState) : Prop where
  once   : (p.consumed.map Prod.fst).Nodup
  inTime : ∀ c ∈ p.consumed, ∃ expiresAt, (c.1, expiresAt) ∈ p.issued ∧ c.2 ≤ expiresAt

/-- `uuid.New` does not repeat itself: a push hands out a new request URI. -/
def FreshURI (p : ParState) (e : ParOp × ParEnv) : Prop :=
  ∀ i req, e.1 = .push i req → e.2.requestURI ∉ p.issued.map Prod.fst

/-- A request that is still valid is consumed where the last copy is: no other
instance has one in its local map, and Redis drops its own. -/
def ConsumesLastCopy (p : ParState) (e : ParOp × ParEnv) : Prop :=
  ∀ i requestURI entry, e.1 = .consume i requestURI →
    (parLoadRedis e.2 p.store i requestURI).2 = some entry → e.2.now ≤ entry.expiresAt →
      (∀ j, j ≠ i → p.store.copy (.near j) requestURI = none) ∧
        (e.2.redis = true ∨ p.store.copy .far requestURI = none)

-- ---------------------------------------------------------------------------
-- What a call does
-- ---------------------------------------------------------------------------

section Call

variable {crypto : Crypto} {env : ParEnv} {st : ParStore} {i : Nat} {k requestURI : String}
  {place : Place} {entry : ParEntry}

/-- A push hands out the new request URI, and saves the entry under it. -/
theorem parPush_ok {req : PushedAuthorizationRequest} {resp : PushedAuthorizationResponse}
    (h : (pushAuthorizationRequest crypto env st i req).2 = .ok resp) :
    resp = ⟨env.requestURI, parTTL⟩ ∧
      (pushAuthorizationRequest crypto env st i req).1 =
        parStoreRedis env st i env.requestURI ⟨req, env.now + parTTL * second⟩ := by
  unfold pushAuthorizationRequest at h ⊢
  split at h
  · exact absurd h (by simp)
  · exact ⟨(Except.ok.inj h).symm, rfl⟩

theorem parPush_error {req : PushedAuthorizationRequest} {err : GGIDError}
    (h : (pushAuthorizationRequest crypto env st i req).2 = .error err) :
    (pushAuthorizationRequest crypto env st i req).1 = st := by
  unfold pushAuthorizationRequest at h ⊢
  split at h
  · rfl
  · exact absurd h (by simp)

/-- A call that returns the request has loaded an entry that is not expired, and
deletes it. -/
theorem parConsume_ok {req : PushedAuthorizationRequest}
    (h : (getPushedAuthorizationRequest env st i requestURI).2 = .ok req) :
    (getPushedAuthorizationRequest env st i requestURI).1 =
        parDeleteRedis env (parLoadRedis env st i requestURI).1 i requestURI ∧
      ∃ entry, (parLoadRedis env st i requestURI).2 = some entry ∧ env.now ≤ entry.expiresAt := by
  unfold getPushedAuthorizationRequest at h ⊢
  split at h
  · exact absurd h (by simp)
  rename_i hformat
  rw [if_neg hformat]
  split at h
  · exact absurd h (by simp)
  · rename_i st' entry hload
    split at h
    · exact absurd h (by simp)
    · rename_i hfresh
      refine ⟨?_, entry, by rw [hload], not_lt.mp hfresh⟩
      simp only [hload, if_neg hfresh]

/-- Loading an entry makes no new copy of anything else. -/
theorem parLoad_copy (h : (parLoadRedis env st i requestURI).1.copy place k = some entry) :
    ∃ place', st.copy place' k = some entry := by
  rcases Tiers.copy_load st env.now env.redis i requestURI k place with
    hsame | ⟨rfl, rfl, -, hcopy, -⟩
  · exact ⟨place, hsame.symm.trans h⟩
  · exact ⟨.far, hcopy.symm.trans h⟩

/-- Whatever a consuming call returns, the entries it leaves were there before. -/
theorem parConsume_copy
    (h : (getPushedAuthorizationRequest env st i requestURI).1.copy place k = some entry) :
    ∃ place', st.copy place' k = some entry := by
  unfold getPushedAuthorizationRequest at h
  split at h
  · exact ⟨place, h⟩
  split at h
  · rename_i st' hload
    have hst : st' = (parLoadRedis env st i requestURI).1 := by rw [hload]
    rw [hst] at h
    exact parLoad_copy h
  · rename_i st' found hload
    have hst : st' = (parLoadRedis env st i requestURI).1 := by rw [hload]
    rw [hst] at h
    split at h
    · exact parLoad_copy (Tiers.copy_drop h)
    · exact parLoad_copy (Tiers.copy_drop h)

/-- What is gone stays gone. -/
theorem parConsume_gone (h : st.Gone k) :
    (getPushedAuthorizationRequest env st i requestURI).1.Gone k := by
  intro place
  cases hcopy : (getPushedAuthorizationRequest env st i requestURI).1.copy place k with
  | none => rfl
  | some entry =>
    obtain ⟨place', hold⟩ := parConsume_copy hcopy
    exact absurd ((h place').symm.trans hold) (by simp)

/-- A request consumed where the last copy is, is gone. -/
theorem parConsume_last {req : PushedAuthorizationRequest}
    (h : (getPushedAuthorizationRequest env st i requestURI).2 = .ok req)
    (hnear : ∀ j, j ≠ i → st.copy (.near j) requestURI = none)
    (hfar : env.redis = true ∨ st.copy .far requestURI = none) :
    (getPushedAuthorizationRequest env st i requestURI).1.Gone requestURI := by
  rw [(parConsume_ok h).1]
  apply Tiers.gone_drop
  · intro j hj
    rcases Tiers.copy_load st env.now env.redis i requestURI requestURI (.near j) with
      hsame | ⟨-, hplace, -⟩
    · exact hsame.trans (hnear j hj)
    · exact absurd (Place.near.inj hplace) hj
  · refine hfar.imp_right fun hnone => ?_
    rcases Tiers.copy_load st env.now env.redis i requestURI requestURI .far with
      hsame | ⟨-, hplace, -⟩
    · exact hsame.trans hnone
    · exact absurd hplace (by simp)

end Call

-- ---------------------------------------------------------------------------
-- Single use
-- ---------------------------------------------------------------------------

/-- What holds of the stores and the history: every copy expires when its request URI
does, and of what was consumed nothing is left. -/
structure ParInvariant (p : ParState) : Prop where
  single : SingleUse p
  issued : ∀ place k entry, p.store.copy place k = some entry → (k, entry.expiresAt) ∈ p.issued
  gone   : ∀ c ∈ p.consumed, p.store.Gone c.1

section Run

variable {crypto : Crypto} {p : ParState}

theorem parStart_invariant : ParInvariant parStart where
  single := ⟨List.nodup_nil, fun _ hc => absurd hc List.not_mem_nil⟩
  issued := by
    intro place k entry hcopy
    cases place <;> exact absurd hcopy (by simp [parStart, Tiers.copy, Tiers.empty])
  gone := fun _ hc => absurd hc List.not_mem_nil

theorem parPush_invariant {env : ParEnv} {i : Nat} {req : PushedAuthorizationRequest}
    (hp : ParInvariant p) (hfresh : env.requestURI ∉ p.issued.map Prod.fst) :
    ParInvariant (parStep crypto p (.push i req, env)) := by
  cases hresult : (pushAuthorizationRequest crypto env p.store i req).2 with
  | error err =>
    have hstep : parStep crypto p (.push i req, env) = p := by
      simp only [parStep, hresult, parPush_error hresult]
    rw [hstep]
    exact hp
  | ok resp =>
    obtain ⟨rfl, hstore⟩ := parPush_ok hresult
    have hstep : parStep crypto p (.push i req, env) =
        ⟨parStoreRedis env p.store i env.requestURI ⟨req, env.now + parTTL * second⟩,
          (env.requestURI, env.now + parTTL * second) :: p.issued, p.consumed⟩ := by
      simp only [parStep, hresult, hstore]
    rw [hstep]
    refine ⟨⟨hp.single.once, fun c hc => ?_⟩, fun place k entry hcopy => ?_, fun c hc => ?_⟩
    · obtain ⟨expiresAt, hissued, htime⟩ := hp.single.inTime c hc
      exact ⟨expiresAt, List.mem_cons_of_mem _ hissued, htime⟩
    · rcases Tiers.copy_save hcopy with ⟨rfl, rfl, -⟩ | hold
      · exact List.mem_cons_self
      · exact List.mem_cons_of_mem _ (hp.issued place k entry hold)
    · -- the new request URI is none of those handed out before
      obtain ⟨expiresAt, hissued, -⟩ := hp.single.inTime c hc
      apply (hp.gone c hc).save_of_ne
      intro heq
      have hmem : c.1 ∈ p.issued.map Prod.fst := List.mem_map.mpr ⟨_, hissued, rfl⟩
      exact hfresh (heq ▸ hmem)

theorem parConsume_invariant {env : ParEnv} {i : Nat} {requestURI : String} (hp : ParInvariant p)
    (hlast : ConsumesLastCopy p (.consume i requestURI, env)) :
    ParInvariant (parStep crypto p (.consume i requestURI, env)) := by
  have hissued : ∀ place k entry,
      (getPushedAuthorizationRequest env p.store i requestURI).1.copy place k = some entry →
        (k, entry.expiresAt) ∈ p.issued := by
    intro place k entry hcopy
    obtain ⟨place', hold⟩ := parConsume_copy hcopy
    exact hp.issued place' k entry hold
  cases hresult : (getPushedAuthorizationRequest env p.store i requestURI).2 with
  | error err =>
    have hstep : parStep crypto p (.consume i requestURI, env) =
        { p with store := (getPushedAuthorizationRequest env p.store i requestURI).1 } := by
      simp only [parStep, hresult]
    rw [hstep]
    exact ⟨⟨hp.single.once, hp.single.inTime⟩, hissued, fun c hc => parConsume_gone (hp.gone c hc)⟩
  | ok req =>
    have hstep : parStep crypto p (.consume i requestURI, env) =
        ⟨(getPushedAuthorizationRequest env p.store i requestURI).1, p.issued,
          (requestURI, env.now) :: p.consumed⟩ := by
      simp only [parStep, hresult]
    obtain ⟨-, entry, hload, hnow⟩ := parConsume_ok hresult
    obtain ⟨hnear, hfar⟩ := hlast i requestURI entry rfl hload hnow
    -- the entry was still there, so it had not been consumed
    have hfound : ∃ place, p.store.copy place requestURI = some entry := by
      rcases Tiers.load_value hload with hcopy | ⟨-, hcopy, -⟩
      · exact ⟨_, hcopy⟩
      · exact ⟨_, hcopy⟩
    obtain ⟨place, hcopy⟩ := hfound
    have hnew : requestURI ∉ p.consumed.map Prod.fst := by
      intro hmem
      obtain ⟨c, hc, rfl⟩ := List.mem_map.mp hmem
      exact absurd ((hp.gone c hc place).symm.trans hcopy) (by simp)
    rw [hstep]
    refine ⟨⟨List.nodup_cons.mpr ⟨hnew, hp.single.once⟩, ?_⟩, hissued, ?_⟩
    · intro c hc
      rcases List.mem_cons.mp hc with rfl | hc
      · exact ⟨entry.expiresAt, hp.issued place requestURI entry hcopy, hnow⟩
      · exact hp.single.inTime c hc
    · intro c hc
      rcases List.mem_cons.mp hc with rfl | hc
      · exact parConsume_last hresult hnear hfar
      · exact parConsume_gone (hp.gone c hc)

theorem parStep_invariant {e : ParOp × ParEnv} (hp : ParInvariant p)
    (hok : FreshURI p e ∧ ConsumesLastCopy p e) : ParInvariant (parStep crypto p e) := by
  obtain ⟨op, env⟩ := e
  cases op with
  | push i req => exact parPush_invariant hp (hok.1 i req rfl)
  | consume i requestURI => exact parConsume_invariant hp hok.2

/-- A valid copy on another instance survives a consuming call, and can be consumed. -/
theorem parConsume_leftover {env : ParEnv} {st : ParStore} {i j : Nat} {requestURI : String}
    {entry : ParEntry} {req : PushedAuthorizationRequest} (hj : j ≠ i)
    (hfirst : (getPushedAuthorizationRequest env st i requestURI).2 = .ok req)
    (hcopy : st.copy (.near j) requestURI = some entry) (hvalid : env.now ≤ entry.expiresAt) :
    (getPushedAuthorizationRequest env
      (getPushedAuthorizationRequest env st i requestURI).1 j requestURI).2 =
        .ok entry.request := by
  have hkept : (getPushedAuthorizationRequest env st i requestURI).1.copy (.near j) requestURI =
      some entry := by
    rw [(parConsume_ok hfirst).1, parDeleteRedis, Tiers.copy_drop_of_ne hj]
    exact Tiers.copy_load_of_some hcopy
  have hformat : Strings.hasPrefix requestURI.toList parRequestURIPrefix.toList = true := by
    by_contra hno
    rw [getPushedAuthorizationRequest, if_pos (by simpa using hno)] at hfirst
    exact absurd hfirst (by simp)
  have hload : ∀ st' : ParStore, st'.copy (.near j) requestURI = some entry →
      parLoadRedis env st' j requestURI = (st', some entry) := by
    intro st' hst'
    unfold parLoadRedis Tiers.load
    rw [show st'.near j requestURI = some entry from hst']
  rw [getPushedAuthorizationRequest, if_neg (by simp [hformat]), hload _ hkept]
  simp only
  rw [if_neg (not_lt.mpr hvalid)]

end Run

/-- A consumption leaves its mark in the history. -/
theorem parStep_consumed {crypto : Crypto} {p : ParState} {env : ParEnv} {i : Nat}
    {requestURI : String} {req : PushedAuthorizationRequest}
    (h : (getPushedAuthorizationRequest env p.store i requestURI).2 = .ok req) :
    (parStep crypto p (.consume i requestURI, env)).consumed =
      (requestURI, env.now) :: p.consumed := by
  simp only [parStep, h]

/-- **Single use of request URIs.** In every run that consumes valid requests only
where the last copy is, each request URI is consumed at most once and never after its
expiry. A valid copy that is left on another instance can be consumed once more. -/
theorem par_consumed_once (crypto : Crypto) (es : List (ParOp × ParEnv))
    (hfresh : StepsOk (parStep crypto) FreshURI parStart es) :
    (StepsOk (parStep crypto) ConsumesLastCopy parStart es →
      ∀ p ∈ states (parStep crypto) parStart es, SingleUse p) ∧
    (∀ p ∈ states (parStep crypto) parStart es, ∀ env i j requestURI req entry, j ≠ i →
      (getPushedAuthorizationRequest env p.store i requestURI).2 = .ok req →
      p.store.copy (.near j) requestURI = some entry → env.now ≤ entry.expiresAt →
        ¬ SingleUse (run (parStep crypto) p
          [(.consume i requestURI, env), (.consume j requestURI, env)])) := by
  constructor
  · intro hlast p hp
    exact (invariant_states (fun _ _ => parStep_invariant) parStart_invariant
      (hfresh.and hlast) p hp).single
  · intro p _ env i j requestURI req entry hj hfirst hcopy hvalid hsingle
    have hsecond : (getPushedAuthorizationRequest env
        (parStep crypto p (.consume i requestURI, env)).store j requestURI).2 =
          .ok entry.request :=
      parConsume_leftover hj hfirst hcopy hvalid
    have honce := hsingle.once
    rw [run, List.foldl_cons, List.foldl_cons, List.foldl_nil, parStep_consumed hsecond,
      parStep_consumed hfirst] at honce
    exact absurd honce (by simp)

namespace Sample

def parClient : OAuthClient :=
  ⟨5#128, 1#128, "web", "", "Web", "", .publicClient, [], ["code"], ["https://app/cb"], [], "none",
    [], false, [], true, 0, 0⟩

def parRequest : PushedAuthorizationRequest :=
  ⟨1#128, "web", "", "https://app/cb", "code", "openid", "", "", "", "", 2#128⟩

def parCrypto : Crypto := ⟨fun _ _ => false, id, id⟩

/-- One second passes between two calls. -/
def parEnv (t : Int) : ParEnv := ⟨t * second, true, some parClient, 9#128⟩

def parURI : String := (parEnv 0).requestURI

def pushedAndConsumed : List (ParOp × ParEnv) :=
  [(.push 0 parRequest, parEnv 0), (.consume 0 parURI, parEnv 1)]

theorem pushedAndConsumed_fresh :
    StepsOk (parStep parCrypto) FreshURI parStart pushedAndConsumed := by
  refine ⟨fun i req _ => ?_, fun i req h => ?_, trivial⟩
  · simp [parStart]
  · exact absurd h (by simp)

theorem pushedAndConsumed_last :
    StepsOk (parStep parCrypto) ConsumesLastCopy parStart pushedAndConsumed := by
  refine ⟨fun i uri entry h => absurd h (by simp), ?_, trivial⟩
  intro i uri entry h hload _
  obtain ⟨rfl, rfl⟩ := ParOp.consume.inj h
  refine ⟨fun j hj => ?_, Or.inl rfl⟩
  have hstore : (parStep parCrypto parStart (.push 0 parRequest, parEnv 0)).store =
      parStoreRedis (parEnv 0) Tiers.empty 0 parURI ⟨parRequest, 0 + 60 * second⟩ := rfl
  cases hcopy : (parStep parCrypto parStart (.push 0 parRequest, parEnv 0)).store.copy (.near j)
      parURI with
  | none => rfl
  | some entry' =>
    rw [hstore] at hcopy
    rcases Tiers.copy_save hcopy with ⟨-, -, hplace⟩ | hold
    · exact absurd (by simpa using hplace) hj
    · exact absurd hold (by simp [Tiers.copy, Tiers.empty])

end Sample

open Sample in
theorem par_consumed_once_sample :
    StepsOk (parStep parCrypto) FreshURI parStart pushedAndConsumed ∧
    StepsOk (parStep parCrypto) ConsumesLastCopy parStart pushedAndConsumed ∧
    (run (parStep parCrypto) parStart pushedAndConsumed).consumed = [(parURI, 1 * second)] ∧
    ∀ p ∈ states (parStep parCrypto) parStart pushedAndConsumed, SingleUse p :=
  ⟨pushedAndConsumed_fresh, pushedAndConsumed_last, by decide,
    (par_consumed_once parCrypto _ pushedAndConsumed_fresh).1 pushedAndConsumed_last⟩

open Sample in
/-- The request is pushed to one instance, consumed on a second and then on the first. -/
theorem par_consumed_twice :
    (run (parStep parCrypto) parStart
      [(.push 0 parRequest, parEnv 0), (.consume 1 parURI, parEnv 1),
        (.consume 0 parURI, parEnv 2)]).consumed =
      [(parURI, 2 * second), (parURI, 1 * second)] := by
  decide

end Ggid.OAuth
