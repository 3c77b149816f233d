import Ggid.Auth.Credentials
import Ggid.Auth.Sessions
import Ggid.Lib.Run
import Ggid.Lib.Tiers

/-!
# Auth service — passwords

`PasswordService` and the two calls of `AuthService` that set a new password: `ChangePassword` with
the old one, `ResetPassword` with a token. Both compare the new password with the history, which
has the passwords that were replaced, and end the sessions of the user.

`credential_history` is listed newest first; `created_at` is the time of the insertion.

* `run_replaces`         — a password is replaced, and the old one is in the history;
* `Tracks.step`          — the history of a user is the passwords that were replaced;
* `passwords_differ_iff` — when no password comes back: the one in force is not compared.
-/

namespace Ggid.Auth

open Ggid.Go Ggid.Lib

/-- `unicode.IsLetter`, `unicode.IsDigit` and `unicode.ToLower`. -/
structure Unicode where
  isLetter : Char → Bool
  isDigit  : Char → Bool
  toLower  : Char → Char

/-- The code outside the service. `tokenHash` is `hashToken`. -/
structure PasswordEnv where
  policy    : PasswordPolicy
  unicode   : Unicode
  crypto    : PasswordHash
  tokenHash : String → String

-- ---------------------------------------------------------------------------
-- The policy
-- ---------------------------------------------------------------------------

/-- What the loop over the characters of a password finds. -/
structure CharClasses where
  upper   : Bool
  lower   : Bool
  digit   : Bool
  special : Bool

def CharClasses.scan (unicode : Unicode) (found : CharClasses) (ch : Char) : CharClasses :=
  if 'A' ≤ ch ∧ ch ≤ 'Z' then { found with upper := true }
  else if 'a' ≤ ch ∧ ch ≤ 'z' then { found with lower := true }
  else if '0' ≤ ch ∧ ch ≤ '9' then { found with digit := true }
  else if !unicode.isLetter ch && !unicode.isDigit ch then { found with special := true }
  else found

/-- `Validate`. -/
def validate (unicode : Unicode) (policy : PasswordPolicy) (password : String) :
    Except String Unit :=
  let length : Int := password.utf8ByteSize
  if length < policy.minLength then
    .error ("password does not meet minimum length requirement: must be at least " ++
      toString policy.minLength ++ " characters")
  else if 0 < policy.maxLength ∧ policy.maxLength < length then
    .error ("password too long: must be at most " ++ toString policy.maxLength ++
      " characters (NIST 800-63B)")
  else
    let found := password.toList.foldl (CharClasses.scan unicode) ⟨false, false, false, false⟩
    let missing :=
      (if policy.requireUpper && !found.upper then ["an uppercase letter"] else []) ++
      (if policy.requireLower && !found.lower then ["a lowercase letter"] else []) ++
      (if policy.requireDigit && !found.digit then ["a digit"] else []) ++
      (if policy.requireSpecial && !found.special then ["a special character"] else [])
    if missing ≠ [] then
      .error ("password does not meet complexity requirements: must contain " ++
        Strings.join ", " missing)
    else if policy.blacklist.any fun weak =>
        Strings.toLower unicode.toLower password == Strings.toLower unicode.toLower weak then
      .error "password does not meet complexity requirements"
    else .ok ()

-- ---------------------------------------------------------------------------
-- The service
-- ---------------------------------------------------------------------------

/-- What the auth service keeps. The history is listed newest first. -/
structure AuthStore where
  credentials : CredentialTable
  history     : List CredentialHistoryEntry
  resetTokens : String → Option (Stored (UUID × UUID))
  store       : SessionStore

/-- `GetHistory`. -/
def getHistory (history : List CredentialHistoryEntry) (tenantID userID : UUID) (limit : Int) :
    List CredentialHistoryEntry :=
  (history.filter fun e => e.tenantID = tenantID && e.userID = userID).take limit.toNat

/-- The secrets in the history of a user. -/
def historyOf (st : AuthStore) (user : UUID × UUID) : List String :=
  (st.history.filter fun e => e.tenantID = user.1 && e.userID = user.2).map
    CredentialHistoryEntry.secret

/-- `CheckHistory`. -/
def checkHistory (env : PasswordEnv) (st : AuthStore) (tenantID userID : UUID)
    (newPassword : String) : Except String Unit :=
  if env.policy.historyCount ≤ 0 then .ok ()
  else if (getHistory st.history tenantID userID env.policy.historyCount).any fun entry =>
      env.crypto.verify newPassword entry.secret = some true then
    .error "password has been used recently and cannot be reused"
  else .ok ()

/-- `SetPassword`, when the store answers; `salt` is what `HashPassword` draws. -/
def setPassword (env : PasswordEnv) (salt : Nat) (st : AuthStore) (cred : Credential)
    (newPassword : String) : AuthStore × Except String Unit :=
  match validate env.unicode env.policy newPassword with
  | .error err => (st, .error err)
  | .ok () =>
    match env.crypto.hash salt newPassword with
    | none => (st, .error "failed to generate salt")
    | some hash =>
      ({ st with
          credentials := st.credentials.updateSecret cred.id hash
          history := ⟨cred.tenantID, cred.userID, cred.secret⟩ :: st.history }, .ok ())

/-- The end of `ChangePassword` and `ResetPassword`: every session of the user is revoked. -/
def endSessions (now : Time) (st : AuthStore) (tenantID userID : UUID) : AuthStore :=
  { st with store.sessions := st.store.sessions.revokeAllForUser now tenantID userID UUID.nil }

/-- The steps from the check of the history on, the same in both calls. -/
def replacePassword (env : PasswordEnv) (now : Time) (salt : Nat) (st : AuthStore)
    (tenantID userID : UUID) (cred : Credential) (newPassword : String) :
    AuthStore × Except String Unit :=
  match checkHistory env st tenantID userID newPassword with
  | .error err => (st, .error err)
  | .ok () =>
    match setPassword env salt st cred newPassword with
    | (st, .error err) => (st, .error err)
    | (st, .ok ()) => (endSessions now st tenantID userID, .ok ())

def changePassword (env : PasswordEnv) (now : Time) (salt : Nat) (st : AuthStore)
    (tenantID userID : UUID) (oldPassword newPassword : String) : AuthStore × Except String Unit :=
  match st.credentials.findByUserID tenantID userID with
  | none => (st, .error "credential not found")
  | some cred =>
    if env.crypto.verify oldPassword cred.secret = some true then
      replacePassword env now salt st tenantID userID cred newPassword
    else (st, .error "invalid username or password")

def resetKey (env : PasswordEnv) (token : String) : String := "ggid:pwreset:" ++ env.tokenHash token

/-- `time.Hour`. -/
def hour : Time := 3600 * second

/-- `IssueResetToken`, when the store answers; `token` is what it draws. -/
def issueResetToken (env : PasswordEnv) (now : Time) (st : AuthStore) (tenantID userID : UUID)
    (token : String) : AuthStore :=
  let entry : Stored (UUID × UUID) := ⟨(tenantID, userID), some (now + hour)⟩
  { st with resetTokens := Function.update st.resetTokens (resetKey env token) (some entry) }

/-- `ConsumeResetToken`: `GETDEL`. -/
def consumeResetToken (env : PasswordEnv) (now : Time) (st : AuthStore) (token : String) :
    AuthStore × Option (UUID × UUID) :=
  ({ st with resetTokens := Function.update st.resetTokens (resetKey env token) none },
    ((st.resetTokens (resetKey env token)).filter (Stored.live now)).map Stored.value)

def resetPassword (env : PasswordEnv) (now : Time) (salt : Nat) (st : AuthStore)
    (resetToken newPassword : String) : AuthStore × Except String Unit :=
  let consumed := consumeResetToken env now st resetToken
  match consumed.2 with
  | none => (consumed.1, .error "invalid or expired password reset token")
  | some user =>
    match consumed.1.credentials.findByUserID user.1 user.2 with
    | none => (consumed.1, .error "credential not found for user")
    | some cred => replacePassword env now salt consumed.1 user.1 user.2 cred newPassword

-- ---------------------------------------------------------------------------
-- Calls
-- ---------------------------------------------------------------------------

/-- The calls about passwords, each with what it draws. -/
inductive PasswordCall where
  | change (now : Time) (salt : Nat) (tenantID userID : UUID) (oldPassword newPassword : String)
  | reset (now : Time) (salt : Nat) (resetToken newPassword : String)
  | issue (now : Time) (tenantID userID : UUID) (token : String)

namespace PasswordCall

def run (env : PasswordEnv) (st : AuthStore) : PasswordCall → AuthStore × Except String Unit
  | change now salt tenantID userID oldPassword newPassword =>
    changePassword env now salt st tenantID userID oldPassword newPassword
  | reset now salt resetToken newPassword => resetPassword env now salt st resetToken newPassword
  | issue now tenantID userID token => (issueResetToken env now st tenantID userID token, .ok ())

/-- Whose password a call sets, and to what. -/
def sets (env : PasswordEnv) (st : AuthStore) : PasswordCall → Option ((UUID × UUID) × String)
  | change _ _ tenantID userID _ newPassword => some ((tenantID, userID), newPassword)
  | reset now _ resetToken newPassword =>
    (consumeResetToken env now st resetToken).2.map fun user => (user, newPassword)
  | issue .. => none

end PasswordCall

-- ---------------------------------------------------------------------------
-- The check of the history
-- ---------------------------------------------------------------------------

theorem checkHistory_ok_iff {env : PasswordEnv} {st : AuthStore} {user : UUID × UUID}
    {newPassword : String} {n : Nat} (hn : 1 ≤ n) (hcount : env.policy.historyCount = n) :
    checkHistory env st user.1 user.2 newPassword = .ok () ↔
      ∀ secret ∈ (historyOf st user).take n, env.crypto.verify newPassword secret ≠ some true := by
  have hlisting : (historyOf st user).take n =
      (getHistory st.history user.1 user.2 n).map CredentialHistoryEntry.secret := by
    rw [historyOf, ← List.map_take]
    rfl
  unfold checkHistory
  rw [if_neg (by omega), hcount, hlisting, List.forall_mem_map]
  split_ifs with hreused
  · obtain ⟨entry, hentry, hmatch⟩ := List.any_eq_true.mp hreused
    refine iff_of_false (by simp) fun h => h entry hentry ?_
    simpa using hmatch
  · refine iff_of_true rfl fun entry hentry hmatch => hreused ?_
    exact List.any_eq_true.mpr ⟨entry, hentry, by simpa using hmatch⟩

theorem exists_of_mem_forall₂ {α β : Type*} {R : α → β → Prop} {l : List α} {l' : List β}
    (h : List.Forall₂ R l l') {a : α} (ha : a ∈ l) : ∃ b ∈ l', R a b := by
  induction h with
  | nil => cases ha
  | cons hhead _ ih =>
    rcases List.mem_cons.mp ha with rfl | ha
    · exact ⟨_, List.mem_cons_self, hhead⟩
    · obtain ⟨b, hb, hrel⟩ := ih ha
      exact ⟨b, List.mem_cons_of_mem _ hb, hrel⟩

/-- What passes is not among the `n` passwords that were replaced last. -/
theorem not_mem_of_checkHistory {env : PasswordEnv} {st : AuthStore} {user : UUID × UUID}
    {newPassword : String} {n : Nat} (hcrypto : env.crypto.Accepts) (hn : 1 ≤ n)
    (hcount : env.policy.historyCount = n) {replaced : List String}
    (hreplaced : List.Forall₂ env.crypto.IsHash replaced (historyOf st user))
    (hfresh : checkHistory env st user.1 user.2 newPassword = .ok ()) :
    newPassword ∉ replaced.take n := by
  intro hmem
  obtain ⟨secret, hsecret, hhash⟩ := exists_of_mem_forall₂ (List.forall₂_take n hreplaced) hmem
  exact (checkHistory_ok_iff hn hcount).mp hfresh secret hsecret (hcrypto _ _ hhash)

section Replaces

variable {env : PasswordEnv} {now : Time} {salt : Nat} {st : AuthStore} {tenantID userID : UUID}
  {cred : Credential} {newPassword : String}

/-- What a call that succeeds does to the password of a user. -/
structure Replaces (env : PasswordEnv) (st st' : AuthStore) (tenantID userID : UUID)
    (newPassword : String) (cred : Credential) (secret : String) : Prop where
  found       : st.credentials.findByUserID tenantID userID = some cred
  fresh       : checkHistory env st tenantID userID newPassword = .ok ()
  hashed      : env.crypto.IsHash newPassword secret
  credentials : st'.credentials = st.credentials.updateSecret cred.id secret
  history     : st'.history = ⟨tenantID, userID, cred.secret⟩ :: st.history

theorem setPassword_ok (h : (setPassword env salt st cred newPassword).2 = .ok ()) :
    ∃ secret, env.crypto.hash salt newPassword = some secret ∧
      (setPassword env salt st cred newPassword).1 = { st with
        credentials := st.credentials.updateSecret cred.id secret
        history := ⟨cred.tenantID, cred.userID, cred.secret⟩ :: st.history } := by
  unfold setPassword at h ⊢
  cases hvalid : validate env.unicode env.policy newPassword with
  | error err =>
    rw [hvalid] at h
    cases h
  | ok =>
    cases hhash : env.crypto.hash salt newPassword with
    | none =>
      rw [hvalid, hhash] at h
      cases h
    | some secret => exact ⟨secret, rfl, rfl⟩

theorem replacePassword_ok (hfound : st.credentials.findByUserID tenantID userID = some cred)
    (h : (replacePassword env now salt st tenantID userID cred newPassword).2 = .ok ()) :
    ∃ secret, Replaces env st (replacePassword env now salt st tenantID userID cred newPassword).1
      tenantID userID newPassword cred secret := by
  obtain ⟨-, htenant, huser⟩ := CredentialTable.findByUserID_spec hfound
  unfold replacePassword at h ⊢
  cases hfresh : checkHistory env st tenantID userID newPassword with
  | error err =>
    rw [hfresh] at h
    cases h
  | ok =>
    rw [hfresh] at h
    have hset := @setPassword_ok env salt st cred newPassword
    simp only at h ⊢
    generalize setPassword env salt st cred newPassword = result at h hset ⊢
    obtain ⟨st', answer⟩ := result
    cases answer with
    | error err => cases h
    | ok =>
      obtain ⟨secret, hhash, rfl⟩ := hset rfl
      exact ⟨secret, hfound, hfresh, ⟨salt, hhash⟩, rfl, by rw [← htenant, ← huser]; rfl⟩

/-- **A call that succeeds** replaces the password of the user it is about. -/
theorem PasswordCall.run_replaces {call : PasswordCall} (h : (call.run env st).2 = .ok ())
    {user : UUID × UUID} (hsets : call.sets env st = some (user, newPassword)) :
    ∃ cred secret, Replaces env st (call.run env st).1 user.1 user.2 newPassword cred secret := by
  cases call with
  | issue => cases hsets
  | change now salt tenantID userID oldPassword newPassword' =>
    obtain ⟨rfl, rfl⟩ := Prod.mk.inj (Option.some.inj hsets)
    simp only [run, changePassword] at h ⊢
    cases hfound : st.credentials.findByUserID tenantID userID with
    | none =>
      rw [hfound] at h
      cases h
    | some cred =>
      rw [hfound] at h
      simp only at h ⊢
      by_cases hold : env.crypto.verify oldPassword cred.secret = some true
      · rw [if_pos hold] at h ⊢
        obtain ⟨secret, hreplaces⟩ := replacePassword_ok hfound h
        exact ⟨cred, secret, hreplaces⟩
      · rw [if_neg hold] at h
        cases h
  | reset now salt resetToken newPassword' =>
    obtain ⟨user', huser, hpair⟩ := Option.map_eq_some_iff.mp hsets
    obtain ⟨rfl, rfl⟩ := Prod.mk.inj hpair
    simp only [run, resetPassword, huser] at h ⊢
    cases hfound : st.credentials.findByUserID user'.1 user'.2 with
    | none =>
      have hfound' : (consumeResetToken env now st resetToken).1.credentials.findByUserID user'.1
        user'.2 = none := hfound
      rw [hfound'] at h
      cases h
    | some cred =>
      have hfound' : (consumeResetToken env now st resetToken).1.credentials.findByUserID user'.1
        user'.2 = some cred := hfound
      rw [hfound'] at h ⊢
      obtain ⟨secret, hreplaces⟩ := replacePassword_ok hfound' h
      exact ⟨cred, secret, hfound, hreplaces.fresh, hreplaces.hashed, hreplaces.credentials,
        hreplaces.history⟩

/-- A call that sets no password leaves them as they are. -/
theorem PasswordCall.run_of_sets_none {call : PasswordCall} (h : (call.run env st).2 = .ok ())
    (hsets : call.sets env st = none) : (call.run env st).1.credentials = st.credentials ∧
      (call.run env st).1.history = st.history := by
  cases call with
  | issue => exact ⟨rfl, rfl⟩
  | change => cases hsets
  | reset now salt resetToken newPassword =>
    simp only [run, resetPassword, Option.map_eq_none_iff.mp hsets] at h
    cases h

end Replaces

-- ---------------------------------------------------------------------------
-- Runs
-- ---------------------------------------------------------------------------

/-- The store, and the passwords each user has had, the one in force first. -/
structure PasswordRun where
  st   : AuthStore
  used : UUID × UUID → List String

namespace PasswordRun

variable {env : PasswordEnv} {r : PasswordRun} {call : PasswordCall} {n : Nat}

def step (env : PasswordEnv) (r : PasswordRun) (call : PasswordCall) : PasswordRun where
  st := (call.run env r.st).1
  used :=
    match (call.run env r.st).2, call.sets env r.st with
    | .ok (), some (user, newPassword) => Function.update r.used user (newPassword :: r.used user)
    | _, _ => r.used

def Succeeds (env : PasswordEnv) (r : PasswordRun) (call : PasswordCall) : Prop :=
  (call.run env r.st).2 = .ok ()

/-- A new password is not the one it replaces, and none of the `n` before. -/
def Differs (env : PasswordEnv) (n : Nat) (r : PasswordRun) (call : PasswordCall) : Prop :=
  ∀ user newPassword, call.sets env r.st = some (user, newPassword) →
    newPassword ∉ (r.used user).take (n + 1)

/-- A new password is not the one in force. -/
def NotInForce (env : PasswordEnv) (r : PasswordRun) (call : PasswordCall) : Prop :=
  ∀ user newPassword, call.sets env r.st = some (user, newPassword) →
    (r.used user).head? ≠ some newPassword

/-- The store has a hash of each password that was used: the credential of the one in force, the
history of the others. -/
def Tracks (env : PasswordEnv) (r : PasswordRun) : Prop :=
  ∀ user cred, r.st.credentials.findByUserID user.1 user.2 = some cred →
    ∃ password replaced, r.used user = password :: replaced ∧
      env.crypto.IsHash password cred.secret ∧
      List.Forall₂ env.crypto.IsHash replaced (historyOf r.st user)

theorem historyOf_cons (st : AuthStore) (entry : CredentialHistoryEntry) (user : UUID × UUID)
    {st' : AuthStore} (h : st'.history = entry :: st.history) :
    historyOf st' user =
      if entry.tenantID = user.1 ∧ entry.userID = user.2 then entry.secret :: historyOf st user
      else historyOf st user := by
  unfold historyOf
  rw [h, List.filter_cons]
  by_cases hown : entry.tenantID = user.1 ∧ entry.userID = user.2
  · simp [hown]
  · rw [if_neg hown, if_neg (by simpa using hown)]

theorem step_used_of_none (h : call.sets env r.st = none) : (r.step env call).used = r.used := by
  simp only [PasswordRun.step, h]
  cases (call.run env r.st).2 <;> rfl

theorem Tracks.step (h : r.Tracks env) (hok : r.Succeeds env call) :
    (r.step env call).Tracks env := by
  intro user cred hcred
  cases hsets : call.sets env r.st with
  | none =>
    obtain ⟨hcredentials, hhistory⟩ := PasswordCall.run_of_sets_none hok hsets
    have hused : (r.step env call).used = r.used := step_used_of_none hsets
    rw [hused]
    have hsame : historyOf (r.step env call).st user = historyOf r.st user := by
      simp only [historyOf, PasswordRun.step, hhistory]
    rw [hsame]
    refine h user cred ?_
    simpa only [PasswordRun.step, hcredentials] using hcred
  | some set =>
    obtain ⟨setUser, newPassword⟩ := set
    obtain ⟨old, secret, hreplaces⟩ := PasswordCall.run_replaces hok hsets
    have hused : (r.step env call).used =
        Function.update r.used setUser (newPassword :: r.used setUser) := by
      have hanswer : (call.run env r.st).2 = .ok () := hok
      simp only [PasswordRun.step, hsets, hanswer]
    have hhistory : historyOf (r.step env call).st user =
        if setUser = user then old.secret :: historyOf r.st user else historyOf r.st user := by
      refine (historyOf_cons r.st ⟨setUser.1, setUser.2, old.secret⟩ user hreplaces.history).trans ?_
      simp only [Prod.ext_iff]
    have hfind : (r.st.credentials.findByUserID user.1 user.2).map
        (fun c => if c.id = old.id then c.withSecret secret else c) = some cred := by
      rw [← CredentialTable.findByUserID_updateSecret, ← hreplaces.credentials]
      exact hcred
    obtain ⟨before, hbefore, rfl⟩ := Option.map_eq_some_iff.mp hfind
    obtain ⟨password, replaced, hlist, hinForce, hreplaced⟩ := h user before hbefore
    rw [hused, hhistory]
    by_cases huser : setUser = user
    · subst huser
      have hsame : before = old := Option.some.inj (hbefore.symm.trans hreplaces.found)
      subst hsame
      refine ⟨newPassword, password :: replaced, ?_, ?_, ?_⟩
      · rw [Function.update_self, hlist]
      · simpa [Credential.withSecret] using hreplaces.hashed
      · simpa using ⟨hinForce, hreplaced⟩
    · have hother : before.id ≠ old.id := by
        intro hid
        obtain ⟨hmem, htenant, hown⟩ := CredentialTable.findByUserID_spec hbefore
        obtain ⟨hmem', htenant', hown'⟩ := CredentialTable.findByUserID_spec hreplaces.found
        have hsame := r.st.credentials.eq_of_key hmem hmem' hid
        subst hsame
        exact huser (Prod.ext (htenant'.symm.trans htenant) (hown'.symm.trans hown))
      rw [if_neg hother, if_neg huser, Function.update_of_ne (Ne.symm huser)]
      exact ⟨password, replaced, hlist, hinForce, hreplaced⟩

/-- **No password comes back** exactly where none is set that is in force. -/
theorem passwords_differ_iff (hcrypto : env.crypto.Accepts) (hn : 1 ≤ n)
    (hcount : env.policy.historyCount = n) (hstart : r.Tracks env) {calls : List PasswordCall}
    (hsuccess : StepsOk (step env) (Succeeds env) r calls) :
    StepsOk (step env) (Differs env n) r calls ↔ StepsOk (step env) (NotInForce env) r calls := by
  constructor
  · refine stepsOk_mono fun r call hdiffers user newPassword hsets hhead => ?_
    obtain ⟨replaced, hlist⟩ := List.head?_eq_some_iff.mp hhead
    exact hdiffers user newPassword hsets (by simp [hlist])
  · intro hnot
    refine stepsOk_of_invariant (fun r call htracks hok => Tracks.step htracks hok.1) ?_ hstart
      (hsuccess.and hnot)
    intro r call htracks hok user newPassword hsets
    obtain ⟨cred, secret, hreplaces⟩ := PasswordCall.run_replaces hok.1 hsets
    obtain ⟨password, replaced, hlist, -, hreplaced⟩ := htracks user cred hreplaces.found
    have hinForce := hok.2 user newPassword hsets
    rw [hlist] at hinForce ⊢
    rw [List.take_succ_cons, List.mem_cons, not_or]
    exact ⟨fun heq => hinForce (by rw [heq]; rfl),
      not_mem_of_checkHistory hcrypto hn hcount hreplaced hreplaces.fresh⟩

end PasswordRun

namespace Sample

/-- A hash that keeps the password as it is, and a policy that remembers one password. -/
def passwordEnv : PasswordEnv where
  policy := ⟨4, 128, false, true, false, false, [], 1, 5, 900 * 1000000000⟩
  unicode := ⟨fun _ => true, fun _ => false, id⟩
  crypto := ⟨fun _ password => some password, fun password secret => some (password == secret)⟩
  tokenHash := id

theorem passwordEnv_accepts : passwordEnv.crypto.Accepts := by
  rintro password secret ⟨salt, hhash⟩
  rw [← Option.some.inj hhash]
  simp [passwordEnv]

def credential (id userID : UUID) (secret : String) : Credential :=
  ⟨id, 1, userID, "password", "ann", secret, true, 0, none⟩

/-- One user, who has not changed the password yet and was given a token. -/
def onePassword : PasswordRun where
  st :=
    { credentials := ⟨[credential 3 7 "autumn"], by decide⟩
      history := []
      resetTokens := fun key => if key = "ggid:pwreset:token" then some ⟨(1, 7), some 60⟩ else none
      store := ⟨Table.empty, Table.empty⟩ }
  used := fun user => if user = (1, 7) then ["autumn"] else []

theorem onePassword_tracks : onePassword.Tracks passwordEnv := by
  intro user cred hcred
  obtain ⟨hmem, htenant, huser⟩ := CredentialTable.findByUserID_spec hcred
  have hcred' : cred = credential 3 7 "autumn" := List.mem_singleton.mp hmem
  have huser' : user = (1, 7) := by
    rw [hcred'] at htenant huser
    exact Prod.ext htenant.symm huser.symm
  subst hcred' huser'
  exact ⟨"autumn", [], rfl, ⟨0, rfl⟩, .nil⟩

end Sample

open Sample in
/-- The password in force is set once more. -/
theorem password_set_again :
    onePassword.Tracks passwordEnv ∧
    StepsOk (PasswordRun.step passwordEnv) (PasswordRun.Succeeds passwordEnv) onePassword
      [.reset 5 0 "token" "autumn"] ∧
    ¬ StepsOk (PasswordRun.step passwordEnv) (PasswordRun.Differs passwordEnv 1) onePassword
      [.reset 5 0 "token" "autumn"] := by
  refine ⟨onePassword_tracks, ⟨by rfl, trivial⟩, fun h => ?_⟩
  exact h.1 (1, 7) "autumn" rfl (by decide)

open Sample in
/-- The next one differs from it. -/
theorem passwords_differ_iff_sample :
    StepsOk (PasswordRun.step passwordEnv) (PasswordRun.Differs passwordEnv 1) onePassword
      [.change 5 0 1 7 "autumn" "winter"] := by
  have hsuccess : StepsOk (PasswordRun.step passwordEnv) (PasswordRun.Succeeds passwordEnv)
      onePassword [.change 5 0 1 7 "autumn" "winter"] := ⟨by rfl, trivial⟩
  refine (PasswordRun.passwords_differ_iff passwordEnv_accepts (le_refl 1) rfl onePassword_tracks
    hsuccess).mpr ⟨fun user newPassword hsets => ?_, trivial⟩
  obtain ⟨rfl, rfl⟩ := Prod.mk.inj (Option.some.inj hsets)
  decide

end Ggid.Auth
