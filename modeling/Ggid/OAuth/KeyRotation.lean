import Ggid.OAuth.Keys

/-!
# OAuth service — key rotation

A replaced key is kept as the previous key for the grace period. There is room for
one previous key, so a second rotation within the grace period throws the first one
away; and `ParseAccessToken` verifies with the current key only, although the
previous one is still published.

* `replaced_keys_resolvable_iff`  — throughout a run every replaced key resolves by
  its id for the grace period, exactly if no rotation happens while the previous key
  is within its grace period;
* `autoRotationTick_spares`  — automatic rotation, with a maximum age of at least the
  grace period, is never too early;
* `replaced_key_lost`  — two rotations in a row lose the first key;
* `published_tokens_accepted_iff`  — throughout a run every unexpired token of a
  published key is accepted and active, exactly if no rotation happens while a token
  of the current key is unexpired;
* `published_token_rejected`  — a token is rejected right after the rotation.
-/

namespace Ggid.OAuth

open Ggid.Go Ggid.Policy Ggid.Lib

-- ---------------------------------------------------------------------------
-- The provider
-- ---------------------------------------------------------------------------

theorem generateKeyID_ne_empty (fingerprint : Fingerprint) (key : PrivateKey) :
    generateKeyID fingerprint key ≠ "" := by
  unfold generateKeyID
  split
  · intro h
    have hlen := congrArg String.length h
    simp [hexString] at hlen
  · simp

/-- What lasts until later lasts until now. -/
theorem within_earlier {start now later period : Int} (hle : now ≤ later)
    (h : later - start ≤ period) : now - start ≤ period := by omega

section Provider

variable {r : RotatingKeyProvider} {now : Time}

theorem inGracePeriod_iff : r.inGracePeriod now = true ↔ now - r.rotatedAt ≤ r.gracePeriod := by
  simp [RotatingKeyProvider.inGracePeriod]

theorem previousPublicKey_eq_some_iff {pub : PublicKey} :
    r.previousPublicKey now = some pub ↔
      ∃ key, r.previous = some key ∧ r.inGracePeriod now = true ∧ key.publicKey = pub := by
  unfold RotatingKeyProvider.previousPublicKey
  cases r.previous with
  | none => simp
  | some key => simp

theorem previousPublicKey_eq_none_iff :
    r.previousPublicKey now = none ↔
      ∀ key, r.previous = some key → r.inGracePeriod now = false := by
  unfold RotatingKeyProvider.previousPublicKey
  cases r.previous with
  | none => simp
  | some key => simp

/-- Cleaning up does nothing, or drops a previous key that is past its time. -/
theorem cleanupExpired_cases (r : RotatingKeyProvider) (now : Time) :
    r.cleanupExpired now = r ∨
      r.inGracePeriod now = false ∧
        r.cleanupExpired now = { r with previous := none, previousID := "" } := by
  unfold RotatingKeyProvider.cleanupExpired
  split
  · rename_i h
    simp only [Bool.and_eq_true, Bool.not_eq_true'] at h
    exact Or.inr ⟨h.2, rfl⟩
  · exact Or.inl rfl

theorem resolveKeyByID_previous {kid : String} (hid : kid ≠ r.currentID)
    (hprev : r.previousID = kid) (hgrace : r.inGracePeriod now = true) :
    r.resolveKeyByID now kid = r.previous := by
  unfold RotatingKeyProvider.resolveKeyByID
  rw [if_neg hid, if_pos ⟨hprev.symm, hgrace⟩]

theorem resolveKeyByID_unknown {kid : String} (hid : kid ≠ r.currentID)
    (hprev : kid ≠ r.previousID) : r.resolveKeyByID now kid = none := by
  unfold RotatingKeyProvider.resolveKeyByID
  rw [if_neg hid, if_neg (fun h => hprev h.1)]

/-- An entry publishes the key it was made from. -/
theorem publishes_iff {kid : String} {p pub : PublicKey} :
    (publicKeyToJWK kid p).n = pub.n ∧ (publicKeyToJWK kid p).e = pub.e ↔ p = pub := by
  cases p
  cases pub
  simp [publicKeyToJWK]

/-- The published keys: the current one, and the previous one in its grace period. -/
theorem published_iff {pub : PublicKey} :
    published r now pub = true ↔
      r.current.publicKey = pub ∨
        r.previousPublicKey now = some pub ∧ r.previousKeyID now ≠ "" := by
  unfold published getJWKS
  cases hprev : r.previousPublicKey now with
  | none => simp [publishes_iff]
  | some p =>
    by_cases hid : r.previousKeyID now = ""
    · simp [hid, publishes_iff]
    · simp [hid, publishes_iff]

end Provider

-- ---------------------------------------------------------------------------
-- Replaced keys
-- ---------------------------------------------------------------------------

section Replaced

variable (jwt : Jwt) (fingerprint : Fingerprint)

/-- A generated key has an id that no key of the service had before. -/
def GeneratesNewID (s : KeyState) (op : KeyOp) : Prop :=
  ∀ newKey, op = .rotateKey (some newKey) →
    generateKeyID fingerprint newKey ≠ s.keys.currentID ∧
      ∀ r ∈ s.replaced, generateKeyID fingerprint newKey ≠ r.id

/-- The key is rotated only when the previous key is gone or past its grace period. -/
def SparesPrevious (s : KeyState) (op : KeyOp) : Prop :=
  ∀ newKey, op = .rotateKey (some newKey) → s.keys.previousPublicKey s.now = none

/-- Every key resolves by its id until the grace period after its replacement ends. -/
def ReplacedKeysResolvable (s : KeyState) : Prop :=
  ∀ r ∈ s.replaced, s.now - r.replacedAt ≤ s.keys.gracePeriod →
    s.keys.resolveKeyByID s.now r.id = some r.key

/-- The previous key is on record, and no replaced key has the id of the current one. -/
structure KeysRecorded (s : KeyState) : Prop where
  previous : ∀ key, s.keys.previous = some key →
    ⟨key, s.keys.previousID, s.keys.rotatedAt⟩ ∈ s.replaced
  distinct : ∀ r ∈ s.replaced, r.id ≠ s.keys.currentID

/-- A replaced key within its grace period is the previous key. -/
def GraceKeysHeld (s : KeyState) : Prop :=
  ∀ r ∈ s.replaced, s.now - r.replacedAt ≤ s.keys.gracePeriod →
    s.keys.previous = some r.key ∧ s.keys.previousID = r.id ∧ s.keys.rotatedAt = r.replacedAt

variable {jwt fingerprint} {s : KeyState} {op : KeyOp}

theorem keysRecorded_step (hs : KeysRecorded s) (hnew : GeneratesNewID fingerprint s op) :
    KeysRecorded (keyStep jwt fingerprint s op) := by
  cases op with
  | rotateKey generated =>
    cases generated with
    | none => exact hs
    | some newKey =>
      obtain ⟨hcur, hrep⟩ := hnew newKey rfl
      refine ⟨?_, ?_⟩
      · intro key hkey
        obtain rfl : s.keys.current = key := Option.some.inj hkey
        exact List.mem_cons_self
      · intro r hr
        rcases List.mem_cons.mp hr with rfl | hr
        · exact hcur.symm
        · exact (hrep r hr).symm
  | cleanupExpired =>
    show KeysRecorded { s with keys := s.keys.cleanupExpired s.now }
    rcases cleanupExpired_cases s.keys s.now with h | ⟨-, h⟩
    · rw [h]
      exact hs
    · rw [h]
      exact ⟨fun key hkey => absurd hkey (by simp), hs.distinct⟩
  | issue lifetime claims => exact ⟨hs.previous, hs.distinct⟩
  | advance elapsed => exact ⟨hs.previous, hs.distinct⟩

/-- While a replaced key is within its grace period, so is the provider. -/
theorem GraceKeysHeld.inGracePeriod (hs : GraceKeysHeld s) {r : Replaced} (hr : r ∈ s.replaced)
    (hgrace : s.now - r.replacedAt ≤ s.keys.gracePeriod) : s.keys.inGracePeriod s.now = true := by
  rw [inGracePeriod_iff, (hs r hr hgrace).2.2]
  exact hgrace

theorem graceKeysHeld_step (hs : GraceKeysHeld s) (hok : SparesPrevious s op) :
    GraceKeysHeld (keyStep jwt fingerprint s op) := by
  cases op with
  | rotateKey generated =>
    cases generated with
    | none => exact hs
    | some newKey =>
      intro r hr hgrace
      rcases List.mem_cons.mp hr with rfl | hr
      · exact ⟨rfl, rfl, rfl⟩
      · -- an older key in its grace period would be the previous one
        have hpast := previousPublicKey_eq_none_iff.mp (hok newKey rfl) r.key (hs r hr hgrace).1
        rw [hs.inGracePeriod hr hgrace] at hpast
        exact absurd hpast (by simp)
  | cleanupExpired =>
    intro r hr hgrace
    show (s.keys.cleanupExpired s.now).previous = _ ∧ (s.keys.cleanupExpired s.now).previousID = _ ∧
      (s.keys.cleanupExpired s.now).rotatedAt = _
    have hgrace' : s.now - r.replacedAt ≤ (s.keys.cleanupExpired s.now).gracePeriod := hgrace
    rcases cleanupExpired_cases s.keys s.now with h | ⟨hpast, h⟩
    · rw [h] at hgrace' ⊢
      exact hs r hr hgrace'
    · rw [h] at hgrace'
      rw [hs.inGracePeriod hr hgrace'] at hpast
      exact absurd hpast (by simp)
  | issue lifetime claims => exact hs
  | advance elapsed =>
    intro r hr hgrace
    exact hs r hr (within_earlier (Int.le_add_of_nonneg_right (Int.natCast_nonneg elapsed)) hgrace)

theorem resolvable_of_held (hrec : KeysRecorded s) (hheld : GraceKeysHeld s) :
    ReplacedKeysResolvable s := by
  intro r hr hgrace
  obtain ⟨hprev, hid, -⟩ := hheld r hr hgrace
  rw [resolveKeyByID_previous (hrec.distinct r hr) hid (hheld.inGracePeriod hr hgrace)]
  exact hprev

/-- A rotation that overwrites a previous key in its grace period loses it. -/
theorem sparesPrevious_of_resolvable (hrec : KeysRecorded s)
    (hnew : GeneratesNewID fingerprint s op)
    (hres : ReplacedKeysResolvable (keyStep jwt fingerprint s op)) : SparesPrevious s op := by
  rintro newKey rfl
  obtain ⟨-, hrep⟩ := hnew newKey rfl
  rw [previousPublicKey_eq_none_iff]
  intro key hkey
  by_contra hin
  have hin : s.now - s.keys.rotatedAt ≤ s.keys.gracePeriod := by
    rw [← inGracePeriod_iff]
    simpa using hin
  have hmem := hrec.previous key hkey
  have hfound := hres _ (List.mem_cons_of_mem _ hmem) hin
  rw [resolveKeyByID_unknown (hrep _ hmem).symm (hrec.distinct _ hmem)] at hfound
  exact absurd hfound (by simp)

/-- Automatic rotation with a maximum age of at least the grace period never rotates
too early. -/
theorem autoRotationTick_spares {maxAge : Int} (hage : s.keys.gracePeriod ≤ maxAge)
    (generated : Option PrivateKey) :
    StepsOk (keyStep jwt fingerprint) SparesPrevious s (autoRotationTick s maxAge generated) := by
  have hclean : ∀ s', SparesPrevious s' .cleanupExpired := fun _ _ h => KeyOp.noConfusion h
  unfold autoRotationTick
  split
  · rename_i hold
    have hpast : s.keys.inGracePeriod s.now = false := by
      rw [Bool.eq_false_iff, ne_eq, inGracePeriod_iff]
      exact Int.not_le.mpr (lt_of_le_of_lt hage hold)
    have hspares : ∀ generated, SparesPrevious s (.rotateKey generated) := fun _ _ _ =>
      previousPublicKey_eq_none_iff.mpr fun _ _ => hpast
    cases generated with
    | none => exact ⟨hspares none, trivial⟩
    | some key => exact ⟨hspares (some key), hclean _, trivial⟩
  · exact ⟨hclean s, trivial⟩

end Replaced

/-- **Replaced keys.** Whenever keys are rotated and cleaned up, every key that was
current resolves by its id for the grace period after it was replaced, throughout the
run, exactly if the key is never rotated while there is a previous key within its
grace period. Generated keys have ids of their own. -/
theorem replaced_keys_resolvable_iff (jwt : Jwt) (fingerprint : Fingerprint) (issuer : String)
    (initialKey : PrivateKey) (gracePeriod : Int) (now : Time) (ops : List KeyOp)
    (hnew : StepsOk (keyStep jwt fingerprint) (GeneratesNewID fingerprint)
      (.start fingerprint issuer initialKey gracePeriod now) ops) :
    (∀ s ∈ states (keyStep jwt fingerprint)
        (.start fingerprint issuer initialKey gracePeriod now) ops,
      ∀ r ∈ s.replaced, s.now - r.replacedAt ≤ s.keys.gracePeriod →
        s.keys.resolveKeyByID s.now r.id = some r.key) ↔
    StepsOk (keyStep jwt fingerprint) SparesPrevious
      (.start fingerprint issuer initialKey gracePeriod now) ops := by
  have hrec : KeysRecorded (.start fingerprint issuer initialKey gracePeriod now) :=
    ⟨fun key hkey => absurd hkey (by simp [KeyState.start, RotatingKeyProvider.new]),
      fun r hr => absurd hr (by simp [KeyState.start])⟩
  have hheld : GraceKeysHeld (.start fingerprint issuer initialKey gracePeriod now) :=
    fun r hr => absurd hr (by simp [KeyState.start])
  exact forall_states_iff_stepsOk (fun _ _ => keysRecorded_step)
    (fun _ _ _ hs _ hok => graceKeysHeld_step hs hok) (fun _ => resolvable_of_held)
    (fun _ _ hs _ => sparesPrevious_of_resolvable hs) hrec hheld hnew

namespace Sample

def keyA : PrivateKey := ⟨⟨3233, 17⟩, 413⟩

def keyB : PrivateKey := ⟨⟨3127, 3⟩, 503⟩

def keyC : PrivateKey := ⟨⟨8633, 5⟩, 845⟩

/-- The fingerprints of the keys above. -/
def fingerprint : Fingerprint
  | ⟨3233, 17⟩ => some 0xe96b711038ed8c97#64
  | ⟨3127, 3⟩ => some 0xa2b10b2652321a2c#64
  | ⟨8633, 5⟩ => some 0x32b193a427fb9615#64
  | _ => none

/-- Signatures that show the key they were made with. -/
def jwt : Jwt where
  sign   := fun key header _ => header.alg ++ "/" ++ generateKeyID fingerprint key
  verify := fun pub header _ signature =>
    signature = header.alg ++ "/" ++ generateKeyID fingerprint ⟨pub, 0⟩

/-- One key, and the default grace period of a day. -/
def keyStart : KeyState := .start fingerprint "https://id" keyA 0 0

/-- Two rotations, a day and an hour apart. -/
def spacedRotations : List KeyOp :=
  [.rotateKey (some keyB), .advance 90000000000000, .cleanupExpired, .rotateKey (some keyC)]

theorem spacedRotations_newIDs :
    StepsOk (keyStep jwt fingerprint) (GeneratesNewID fingerprint) keyStart spacedRotations := by
  refine ⟨?_, fun _ h => KeyOp.noConfusion h, fun _ h => KeyOp.noConfusion h, ?_, trivial⟩
  · intro newKey h
    cases h
    decide
  · intro newKey h
    cases h
    decide

/-- Two rotations, an hour apart. -/
def closeRotations : KeyState :=
  run (keyStep jwt fingerprint) keyStart
    [.rotateKey (some keyB), .advance 3600000000000, .rotateKey (some keyC)]

end Sample

open Sample in
theorem replaced_keys_resolvable_iff_sample :
    StepsOk (keyStep jwt fingerprint) (GeneratesNewID fingerprint) keyStart spacedRotations ∧
    ((∀ s ∈ states (keyStep jwt fingerprint) keyStart spacedRotations,
      ∀ r ∈ s.replaced, s.now - r.replacedAt ≤ s.keys.gracePeriod →
        s.keys.resolveKeyByID s.now r.id = some r.key) ↔
    StepsOk (keyStep jwt fingerprint) SparesPrevious keyStart spacedRotations) :=
  ⟨spacedRotations_newIDs, replaced_keys_resolvable_iff jwt fingerprint "https://id" keyA 0 0
    spacedRotations spacedRotations_newIDs⟩

open Sample in
/-- Two rotations an hour apart: the first key is gone, twenty-three hours early. -/
theorem replaced_key_lost :
    ∃ r ∈ closeRotations.replaced, r.key = keyA ∧
      closeRotations.now - r.replacedAt ≤ closeRotations.keys.gracePeriod ∧
      closeRotations.keys.resolveKeyByID closeRotations.now r.id = none := by
  decide

-- ---------------------------------------------------------------------------
-- Verdicts on issued tokens
-- ---------------------------------------------------------------------------

section Verdict

variable {jwt : Jwt} {r : RotatingKeyProvider} {issuer : String} {now : Time} {t : Token}

/-- A token of the service that verifies under the current key is accepted. -/
theorem parseAccessToken_ok (halg : t.header.alg = "RS256") (hiss : t.claims.iss = issuer)
    (hverify : jwt.verify r.current.publicKey t.header t.claims t.signature = true)
    (hexp : unexpired now t.claims = true) :
    parseAccessToken jwt r issuer now t = .ok t.claims := by
  have hmethod : isSupportedSigningMethod t.header.alg = true := by
    rw [halg]
    decide
  simp [parseAccessToken, parseAccessTokenWithAudience, parseWithClaims, hmethod, hverify, hexp,
    hiss]

/-- Nothing is accepted that does not verify under the current key. -/
theorem verify_of_parseAccessToken_ok {claims : Claims}
    (h : parseAccessToken jwt r issuer now t = .ok claims) :
    jwt.verify r.current.publicKey t.header t.claims t.signature = true := by
  by_contra hverify
  rw [Bool.not_eq_true] at hverify
  by_cases hmethod : isSupportedSigningMethod t.header.alg = true
  · simp [parseAccessToken, parseAccessTokenWithAudience, parseWithClaims, hmethod, hverify] at h
  · simp [parseAccessToken, parseAccessTokenWithAudience, parseWithClaims, hmethod] at h

/-- As long as nothing is revoked, an accepted token is active. -/
theorem introspectToken_active {claims : Claims}
    (h : parseAccessToken jwt r issuer now t = .ok claims) :
    (introspectToken jwt r issuer now ⟨[], []⟩ t).active = true := by
  have hrevoked : isTokenRevoked jwt r issuer now ⟨[], []⟩ t = false := by
    simp [isTokenRevoked, h]
  simp [introspectToken, hrevoked, h]

end Verdict

-- ---------------------------------------------------------------------------
-- Published keys
-- ---------------------------------------------------------------------------

section Published

variable (jwt : Jwt) (fingerprint : Fingerprint)

/-- Tokens of the current key do not verify under a newly generated one. -/
def GeneratesNewKey (s : KeyState) (op : KeyOp) : Prop :=
  ∀ newKey, op = .rotateKey (some newKey) →
    ∀ i ∈ s.issued, i.key.publicKey = s.keys.current.publicKey →
      jwt.verify newKey.publicKey i.token.header i.token.claims i.token.signature = false

/-- The key is rotated only when every token of the current key has expired, or when
the replaced key is not published anyway. -/
def RotatesAfterExpiry (s : KeyState) (op : KeyOp) : Prop :=
  ∀ newKey, op = .rotateKey (some newKey) → s.keys.gracePeriod < 0 ∨
    ∀ i ∈ s.issued, i.key.publicKey = s.keys.current.publicKey →
      unexpired s.now i.token.claims = false

/-- The service accepts the unexpired tokens of the keys it publishes. -/
def PublishedTokensAccepted (s : KeyState) : Prop :=
  ∀ i ∈ s.issued, unexpired s.now i.token.claims = true →
    published s.keys s.now i.key.publicKey = true →
      parseAccessToken jwt s.keys s.issuer s.now i.token = .ok i.token.claims ∧
        (introspectToken jwt s.keys s.issuer s.now s.revoked i.token).active = true

/-- What the service knows of a token it issued. -/
structure GenuinelyIssued (issuer : String) (i : Issued) : Prop where
  alg       : i.token.header.alg = "RS256"
  iss       : i.token.claims.iss = issuer
  signature : i.token.signature = jwt.sign i.key i.token.header i.token.claims

structure TokensRecorded (s : KeyState) : Prop where
  genuine : ∀ i ∈ s.issued, GenuinelyIssued jwt s.issuer i
  kid     : s.keys.currentID ≠ ""
  revoked : s.revoked = ⟨[], []⟩

/-- Every unexpired token of a published key is one of the current key. -/
def LiveTokensCurrent (s : KeyState) : Prop :=
  ∀ i ∈ s.issued, unexpired s.now i.token.claims = true →
    s.keys.previousPublicKey s.now = some i.key.publicKey →
      i.key.publicKey = s.keys.current.publicKey

variable {jwt fingerprint} {s : KeyState} {op : KeyOp}

theorem tokensRecorded_step (hs : TokensRecorded jwt s) :
    TokensRecorded jwt (keyStep jwt fingerprint s op) := by
  cases op with
  | rotateKey generated =>
    cases generated with
    | none => exact hs
    | some newKey => exact ⟨hs.genuine, generateKeyID_ne_empty fingerprint newKey, hs.revoked⟩
  | cleanupExpired =>
    refine ⟨hs.genuine, ?_, hs.revoked⟩
    show (s.keys.cleanupExpired s.now).currentID ≠ ""
    rcases cleanupExpired_cases s.keys s.now with h | ⟨-, h⟩
    · rw [h]
      exact hs.kid
    · rw [h]
      exact hs.kid
  | issue lifetime claims =>
    refine ⟨?_, hs.kid, hs.revoked⟩
    intro i hi
    rcases List.mem_cons.mp hi with rfl | hi
    · exact ⟨rfl, rfl, rfl⟩
    · exact hs.genuine i hi
  | advance elapsed => exact ⟨hs.genuine, hs.kid, hs.revoked⟩

/-- Time only takes tokens away. -/
theorem unexpired_earlier {now later : Time} {claims : Claims} (hle : now ≤ later)
    (h : unexpired later claims = true) : unexpired now claims = true := by
  simp only [unexpired, Bool.or_eq_true, decide_eq_true_eq] at h ⊢
  rcases h with h | h
  · exact Or.inl h
  · exact Or.inr (lt_of_le_of_lt hle h)

theorem liveTokensCurrent_step (hs : LiveTokensCurrent s) (hok : RotatesAfterExpiry s op) :
    LiveTokensCurrent (keyStep jwt fingerprint s op) := by
  cases op with
  | rotateKey generated =>
    cases generated with
    | none => exact hs
    | some newKey =>
      intro i hi hlive hprev
      obtain ⟨key, hkey, hgrace, hpub⟩ := previousPublicKey_eq_some_iff.mp hprev
      obtain rfl : s.keys.current = key := Option.some.inj hkey
      rcases hok newKey rfl with hneg | hexpired
      · -- the replaced key would have to be within a negative grace period
        have hnow : s.now - s.now ≤ s.keys.gracePeriod := inGracePeriod_iff.mp hgrace
        rw [Int.sub_self] at hnow
        exact absurd hnow (Int.not_le.mpr hneg)
      · have hdead := hexpired i hi hpub.symm
        rw [show unexpired s.now i.token.claims = true from hlive] at hdead
        exact absurd hdead (by simp)
  | cleanupExpired =>
    intro i hi hlive hprev
    have hprev' : (s.keys.cleanupExpired s.now).previousPublicKey s.now = some i.key.publicKey :=
      hprev
    show i.key.publicKey = (s.keys.cleanupExpired s.now).current.publicKey
    rcases cleanupExpired_cases s.keys s.now with h | ⟨-, h⟩
    · rw [h] at hprev' ⊢
      exact hs i hi hlive hprev'
    · rw [h] at hprev'
      exact absurd hprev' (by simp [RotatingKeyProvider.previousPublicKey])
  | issue lifetime claims =>
    intro i hi hlive hprev
    rcases List.mem_cons.mp hi with rfl | hi
    · rfl
    · exact hs i hi hlive hprev
  | advance elapsed =>
    intro i hi hlive hprev
    have hle : s.now ≤ s.now + elapsed := Int.le_add_of_nonneg_right (Int.natCast_nonneg elapsed)
    obtain ⟨key, hkey, hgrace, hpub⟩ := previousPublicKey_eq_some_iff.mp hprev
    have hgrace' : s.keys.inGracePeriod s.now = true :=
      inGracePeriod_iff.mpr (within_earlier hle (inGracePeriod_iff.mp hgrace))
    exact hs i hi (unexpired_earlier hle hlive)
      (previousPublicKey_eq_some_iff.mpr ⟨key, hkey, hgrace', hpub⟩)

theorem accepted_of_current (hjwt : jwt.VerifiesOwn) (hrec : TokensRecorded jwt s)
    (hlive : LiveTokensCurrent s) : PublishedTokensAccepted jwt s := by
  intro i hi hexp hpub
  have hcurrent : i.key.publicKey = s.keys.current.publicKey := by
    rcases published_iff.mp hpub with h | ⟨h, -⟩
    · exact h.symm
    · exact hlive i hi hexp h
  have hgen := hrec.genuine i hi
  have hverify : jwt.verify s.keys.current.publicKey i.token.header i.token.claims
      i.token.signature = true := by
    rw [← hcurrent, hgen.signature]
    exact hjwt i.key i.token.header i.token.claims
  have hok := parseAccessToken_ok hgen.alg hgen.iss hverify hexp
  refine ⟨hok, ?_⟩
  rw [hrec.revoked]
  exact introspectToken_active hok

/-- A rotation over a live token leaves it published and no longer accepted. -/
theorem rotatesAfterExpiry_of_accepted (hrec : TokensRecorded jwt s)
    (hnew : GeneratesNewKey jwt s op)
    (hacc : PublishedTokensAccepted jwt (keyStep jwt fingerprint s op)) :
    RotatesAfterExpiry s op := by
  rintro newKey rfl
  by_cases hneg : s.keys.gracePeriod < 0
  · exact Or.inl hneg
  right
  intro i hi hkey
  by_contra hlive
  have hlive : unexpired s.now i.token.claims = true := by simpa using hlive
  have hin : ∀ keys : RotatingKeyProvider, keys.rotatedAt = s.now →
      keys.gracePeriod = s.keys.gracePeriod → keys.inGracePeriod s.now = true := by
    intro keys hat hperiod
    rw [inGracePeriod_iff, hat, hperiod, Int.sub_self]
    exact Int.not_lt.mp hneg
  have hpub : published (keyStep jwt fingerprint s (.rotateKey (some newKey))).keys s.now
      i.key.publicKey = true := by
    rw [published_iff]
    right
    have hgrace := hin (keyStep jwt fingerprint s (.rotateKey (some newKey))).keys rfl rfl
    refine ⟨previousPublicKey_eq_some_iff.mpr ⟨s.keys.current, rfl, hgrace, hkey.symm⟩, ?_⟩
    have hid : (keyStep jwt fingerprint s (.rotateKey (some newKey))).keys.previousKeyID s.now =
        s.keys.currentID := by
      unfold RotatingKeyProvider.previousKeyID
      rw [hgrace]
      rfl
    rw [hid]
    exact hrec.kid
  have hverify := verify_of_parseAccessToken_ok (hacc i hi hlive hpub).1
  have hreject := hnew newKey rfl i hi hkey
  rw [show jwt.verify newKey.publicKey i.token.header i.token.claims i.token.signature = true
    from hverify] at hreject
  exact absurd hreject (by simp)

end Published

/-- **Published keys.** Whenever keys are rotated and tokens issued, every unexpired
token of a published key is accepted by `ParseAccessToken` and reported active,
throughout the run, exactly if the key is never rotated while a token of the current
key is unexpired (or the grace period is negative, so that only the current key is
ever published). Signatures verify under their own key, and not under the one that
replaces it. -/
theorem published_tokens_accepted_iff (jwt : Jwt) (hjwt : jwt.VerifiesOwn)
    (fingerprint : Fingerprint) (issuer : String) (initialKey : PrivateKey) (gracePeriod : Int)
    (now : Time) (ops : List KeyOp)
    (hnew : StepsOk (keyStep jwt fingerprint) (GeneratesNewKey jwt)
      (.start fingerprint issuer initialKey gracePeriod now) ops) :
    (∀ s ∈ states (keyStep jwt fingerprint)
        (.start fingerprint issuer initialKey gracePeriod now) ops,
      ∀ i ∈ s.issued, unexpired s.now i.token.claims = true →
        published s.keys s.now i.key.publicKey = true →
          parseAccessToken jwt s.keys s.issuer s.now i.token = .ok i.token.claims ∧
            (introspectToken jwt s.keys s.issuer s.now s.revoked i.token).active = true) ↔
    StepsOk (keyStep jwt fingerprint) RotatesAfterExpiry
      (.start fingerprint issuer initialKey gracePeriod now) ops := by
  have hrec : TokensRecorded jwt (.start fingerprint issuer initialKey gracePeriod now) :=
    ⟨fun i hi => absurd hi (by simp [KeyState.start]), generateKeyID_ne_empty _ _, rfl⟩
  have hlive : LiveTokensCurrent (.start fingerprint issuer initialKey gracePeriod now) :=
    fun i hi => absurd hi (by simp [KeyState.start])
  exact forall_states_iff_stepsOk (fun _ _ hs _ => tokensRecorded_step hs)
    (fun _ _ _ hs _ hok => liveTokensCurrent_step hs hok) (fun _ => accepted_of_current hjwt)
    (fun _ _ hs _ => rotatesAfterExpiry_of_accepted hs) hrec hlive hnew

namespace Sample

def claims : Claims :=
  ⟨"", "user-1", .string "gcid_web", 0, 0, "jti-1", "tenant-1", "openid", "", "", "", "", "", "", 0,
    [], []⟩

theorem jwt_verifiesOwn : jwt.VerifiesOwn := by
  intro key header claims
  simp [jwt, generateKeyID]

/-- A token of fifteen minutes, and a rotation an hour later. -/
def lateRotation : List KeyOp :=
  [.issue (15 * minute) claims, .advance 3600000000000, .rotateKey (some keyB)]

theorem lateRotation_newKeys :
    StepsOk (keyStep jwt fingerprint) (GeneratesNewKey jwt) keyStart lateRotation := by
  refine ⟨fun _ h => KeyOp.noConfusion h, fun _ h => KeyOp.noConfusion h, ?_, trivial⟩
  intro newKey h
  cases h
  decide

/-- A token of fifteen minutes, and a rotation at once. -/
def earlyRotation : KeyState :=
  run (keyStep jwt fingerprint) keyStart [.issue (15 * minute) claims, .rotateKey (some keyB)]

end Sample

open Sample in
theorem published_tokens_accepted_iff_sample :
    jwt.VerifiesOwn ∧
    StepsOk (keyStep jwt fingerprint) (GeneratesNewKey jwt) keyStart lateRotation ∧
    ((∀ s ∈ states (keyStep jwt fingerprint) keyStart lateRotation,
      ∀ i ∈ s.issued, unexpired s.now i.token.claims = true →
        published s.keys s.now i.key.publicKey = true →
          parseAccessToken jwt s.keys s.issuer s.now i.token = .ok i.token.claims ∧
            (introspectToken jwt s.keys s.issuer s.now s.revoked i.token).active = true) ↔
    StepsOk (keyStep jwt fingerprint) RotatesAfterExpiry keyStart lateRotation) :=
  ⟨jwt_verifiesOwn, lateRotation_newKeys, published_tokens_accepted_iff jwt jwt_verifiesOwn
    fingerprint "https://id" keyA 0 0 lateRotation lateRotation_newKeys⟩

open Sample in
/-- A token is issued and the key rotated: the token is unexpired, its key is in the
published set, and the service rejects it. -/
theorem published_token_rejected :
    ∃ i ∈ earlyRotation.issued, unexpired earlyRotation.now i.token.claims = true ∧
      published earlyRotation.keys earlyRotation.now i.key.publicKey = true ∧
      parseAccessToken jwt earlyRotation.keys earlyRotation.issuer earlyRotation.now i.token =
        .error .signatureInvalid ∧
      (introspectToken jwt earlyRotation.keys earlyRotation.issuer earlyRotation.now
        earlyRotation.revoked i.token).active = false := by
  decide

end Ggid.OAuth
