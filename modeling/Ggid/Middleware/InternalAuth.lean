import Ggid.Go.Bytes
import Ggid.Go.Json
import Ggid.Lib.Framing

/-!
# Middleware — requests between services

`SignInternalRequest` signs five texts of a request, joined by bars, and `InternalAuth` verifies
the signature over the same text. A bar inside one of the five moves to another place what comes
behind it.

* `parts_eq_of_payload`   — with as many bars in the texts, the payload determines them;
* `signed_request_passes` — a signed request passes during the replay window;
* `authentic_iff`         — only what was signed passes, where the payloads of signed requests are
  cut in one way.
-/

namespace Ggid.Middleware

open Ggid.Go Ggid.Lib

-- ---------------------------------------------------------------------------
-- Requests
-- ---------------------------------------------------------------------------

/-- What is signed of a request, and the signature; of a header, the value that `Get` returns. -/
structure Request where
  method    : Bytes
  path      : Bytes
  requestID : Bytes
  service   : Bytes
  timestamp : Bytes
  signature : Bytes
  deriving DecidableEq

/-- HMAC-SHA256: the sum of a text under a secret. -/
abbrev Mac := Bytes → Bytes → Vector UInt8 32

/-- `time.Now().Unix()`, since 1970. -/
abbrev UnixTime := Fin (2 ^ 63)

def payload (service tsStr reqID method path : Bytes) : Bytes :=
  service ++ bar :: (tsStr ++ bar :: (reqID ++ bar :: (method ++ bar :: path)))

def Request.payload (r : Request) : Bytes :=
  Middleware.payload r.service r.timestamp r.requestID r.method r.path

section Auth

variable (mac : Mac)

def signInternalRequest (req : Request) (serviceName secret : Bytes) (now : UnixTime) : Request :=
  if secret = [] then req
  else
    let tsStr := sprintD now.val
    let sum := mac secret (payload serviceName tsStr req.requestID req.method req.path)
    { req with
      service := serviceName
      timestamp := tsStr
      signature := hexEncodeToString sum.toList }

def verifyHMAC (secret text sigHex : Bytes) : Bool :=
  match hexDecodeString sigHex with
  | none => false
  | some got => decide ((mac secret text).toList = got)

structure InternalAuthConfig where
  secret       : Bytes
  prevSecret   : Bytes
  replayWindow : Int
  whitelist    : List Bytes

namespace InternalAuthConfig

/-- The replay window, with its default. -/
def window (cfg : InternalAuthConfig) : Nat :=
  if cfg.replayWindow ≤ 0 then 120 else cfg.replayWindow.toNat

def whitelisted (cfg : InternalAuthConfig) (path : Bytes) : Bool :=
  cfg.whitelist.any fun p => decide (path = p) || p.isPrefixOf path

/-- The secrets that signatures are verified with. -/
def accepted (cfg : InternalAuthConfig) : List Bytes :=
  if cfg.secret = [] then []
  else if cfg.prevSecret = [] then [cfg.secret] else [cfg.secret, cfg.prevSecret]

/-- The test of the timestamp: the difference of two `int64` as a `float64`. -/
def outsideWindow (cfg : InternalAuthConfig) (now : UnixTime) (ts : Int) : Bool :=
  Float64.lt (.ofInt cfg.window) (Float64.abs (.ofInt (Int.bmod (now.val - ts) (2 ^ 64))))

end InternalAuthConfig

def internalAuth (cfg : InternalAuthConfig) (now : UnixTime) (r : Request) : Except String Unit :=
  if cfg.whitelisted r.path then .ok ()
  else if cfg.secret = [] then .ok ()
  else if r.service = [] || r.timestamp = [] || r.signature = [] then
    .error "missing internal auth headers"
  else
    match parseInt64 r.timestamp with
    | none => .error "invalid timestamp"
    | some ts =>
      if cfg.outsideWindow now ts then .error "timestamp outside replay window"
      else if verifyHMAC mac cfg.secret r.payload r.signature then .ok ()
      else if cfg.prevSecret ≠ [] && verifyHMAC mac cfg.prevSecret r.payload r.signature then .ok ()
      else .error "invalid signature"

-- ---------------------------------------------------------------------------
-- What has been signed
-- ---------------------------------------------------------------------------

/-- A call of `SignInternalRequest`. -/
structure Signing where
  req     : Request
  service : Bytes
  secret  : Bytes
  now     : UnixTime

/-- The request that is sent. -/
def Signing.sent (call : Signing) : Request :=
  signInternalRequest mac call.req call.service call.secret call.now

/-- The two agree on service, timestamp, request id, method and path. -/
def SameParts (a b : Request) : Prop := { a with signature := b.signature } = b

instance (a b : Request) : Decidable (SameParts a b) :=
  inferInstanceAs (Decidable ({ a with signature := b.signature } = b))

/-- An ideal MAC: a signature that verifies was made, under an accepted secret, for this payload. -/
def Unforged (cfg : InternalAuthConfig) (signed : List Signing) (r : Request) : Prop :=
  (∃ secret ∈ cfg.accepted, verifyHMAC mac secret r.payload r.signature = true) →
    ∃ call ∈ signed, call.secret ∈ cfg.accepted ∧ (call.sent mac).payload = r.payload

/-- Whenever the request passes, with whatever signature, some service has signed it, and not too
long ago or ahead. -/
def Authentic (cfg : InternalAuthConfig) (signed : List Signing) (r : Request) : Prop :=
  ∀ now signature, Unforged mac cfg signed { r with signature } →
    internalAuth mac cfg now { r with signature } = .ok () →
      ∃ call ∈ signed, call.secret ∈ cfg.accepted ∧ SameParts (call.sent mac) r ∧
        ((now.val : Int) - call.now.val).natAbs ≤ cfg.window

/-- As many bars in the service, the request id and the method. -/
def SameBars (a b : Request) : Prop :=
  a.service.count bar = b.service.count bar ∧ a.requestID.count bar = b.requestID.count bar ∧
    a.method.count bar = b.method.count bar

instance (a b : Request) : Decidable (SameBars a b) :=
  inferInstanceAs (Decidable (_ ∧ _))

/-- There is a secret; and a request that is taken up, and has the payload of a signed one, has
that of one with as many bars, and its time is not rounded into the window. -/
structure CutOneWay (cfg : InternalAuthConfig) (signed : List Signing) (r : Request) : Prop where
  configured : cfg.secret ≠ []
  cut        : ∀ now ts, r.service ≠ [] → parseInt64 r.timestamp = some ts →
    cfg.outsideWindow now ts = false →
      (∃ call ∈ signed, call.secret ∈ cfg.accepted ∧ (call.sent mac).payload = r.payload) →
        ((now.val : Int) - ts).natAbs ≤ cfg.window ∧
          ∃ call ∈ signed, call.secret ∈ cfg.accepted ∧ (call.sent mac).payload = r.payload ∧
            SameBars (call.sent mac) r

end Auth

-- ---------------------------------------------------------------------------
-- The payload
-- ---------------------------------------------------------------------------

theorem SameParts.of_eq {a b : Request} (hservice : a.service = b.service)
    (htimestamp : a.timestamp = b.timestamp) (hrequestID : a.requestID = b.requestID)
    (hmethod : a.method = b.method) (hpath : a.path = b.path) : SameParts a b := by
  cases a
  cases b
  cases hservice
  cases htimestamp
  cases hrequestID
  cases hmethod
  cases hpath
  rfl

theorem SameParts.payload_eq {a b : Request} (h : SameParts a b) : a.payload = b.payload := by
  rw [← h]
  rfl

theorem SameParts.bars {a b : Request} (h : SameParts a b) : SameBars a b := by
  rw [← h]
  exact ⟨rfl, rfl, rfl⟩

/-- **The payload determines its parts** if it is known how many bars are in them. -/
theorem parts_eq_of_payload {a b : Request} (hpayload : a.payload = b.payload)
    (hbars : SameBars a b) (ha : bar ∉ a.timestamp) (hb : bar ∉ b.timestamp) : SameParts a b := by
  obtain ⟨hserviceBars, hrequestBars, hmethodBars⟩ := hbars
  unfold Request.payload payload at hpayload
  obtain ⟨hservice, hrest⟩ := append_separator_inj_of_count hserviceBars hpayload
  obtain ⟨htimestamp, hrest⟩ := append_separator_inj ha hb hrest
  obtain ⟨hrequestID, hrest⟩ := append_separator_inj_of_count hrequestBars hrest
  obtain ⟨hmethod, hpath⟩ := append_separator_inj_of_count hmethodBars hrest
  exact SameParts.of_eq hservice htimestamp hrequestID hmethod hpath

theorem bar_not_mem_of_parseInt64 {s : Bytes} {ts : Int} (h : parseInt64 s = some ts) : bar ∉ s :=
  not_mem_of_parseInt64 h (by decide) (by decide) (by decide)

-- ---------------------------------------------------------------------------
-- Signing and verifying
-- ---------------------------------------------------------------------------

section Auth

variable {mac : Mac} {cfg : InternalAuthConfig} {signed : List Signing} {r : Request}
  {now : UnixTime} {call : Signing}

theorem ne_nil_of_accepted {secret : Bytes} (h : secret ∈ cfg.accepted) : secret ≠ [] := by
  unfold InternalAuthConfig.accepted at h
  split_ifs at h with hsecret hprev
  · cases h
  · rw [List.mem_singleton.mp h]
    exact hsecret
  · rcases List.mem_pair.mp h with rfl | rfl
    · exact hsecret
    · exact hprev

/-- The timestamp of a signed request is the time of the call. -/
theorem parseInt64_sent (h : call.secret ≠ []) :
    parseInt64 (call.sent mac).timestamp = some (call.now.val : Int) := by
  rw [Signing.sent, signInternalRequest, if_neg h]
  exact parseInt64_sprintD call.now.isLt

theorem verifyHMAC_encode (secret text : Bytes) :
    verifyHMAC mac secret text (hexEncodeToString (mac secret text).toList) = true := by
  rw [verifyHMAC, hexDecodeString_encode]
  exact decide_eq_true rfl

theorem verifyHMAC_sent (h : call.secret ≠ []) :
    verifyHMAC mac call.secret (call.sent mac).payload (call.sent mac).signature = true := by
  rw [Signing.sent, signInternalRequest, if_neg h]
  exact verifyHMAC_encode _ _

theorem signature_sent_ne_nil (h : call.secret ≠ []) : (call.sent mac).signature ≠ [] := by
  rw [Signing.sent, signInternalRequest, if_neg h]
  intro hempty
  have hdecoded := congrArg hexDecodeString hempty
  rw [hexDecodeString_encode, hexDecodeString, Option.some.injEq] at hdecoded
  have hlength := congrArg List.length hdecoded
  rw [Vector.length_toList] at hlength
  cases hlength

/-- **What passes**, off the whitelist and with a secret. -/
theorem internalAuth_ok_iff (hpath : cfg.whitelisted r.path = false) (hsecret : cfg.secret ≠ []) :
    internalAuth mac cfg now r = .ok () ↔
      r.service ≠ [] ∧ r.signature ≠ [] ∧
        (∃ ts, parseInt64 r.timestamp = some ts ∧ cfg.outsideWindow now ts = false) ∧
          ∃ secret ∈ cfg.accepted, verifyHMAC mac secret r.payload r.signature = true := by
  have haccepted : (∃ secret ∈ cfg.accepted, verifyHMAC mac secret r.payload r.signature = true) ↔
      verifyHMAC mac cfg.secret r.payload r.signature = true ∨
        cfg.prevSecret ≠ [] ∧ verifyHMAC mac cfg.prevSecret r.payload r.signature = true := by
    unfold InternalAuthConfig.accepted
    by_cases hprev : cfg.prevSecret = [] <;> simp [hsecret, hprev]
  rw [haccepted, internalAuth, hpath, if_neg Bool.false_ne_true, if_neg hsecret]
  by_cases hservice : r.service = []
  · simp [hservice]
  by_cases hsignature : r.signature = []
  · simp [hsignature]
  cases hts : parseInt64 r.timestamp with
  | none =>
    simp only [reduceCtorEq, false_and, exists_false, and_false, iff_false]
    split_ifs <;> exact not_false
  | some ts =>
    have htimestamp : r.timestamp ≠ [] := by
      intro hempty
      rw [hempty] at hts
      cases hts
    by_cases hwindow : cfg.outsideWindow now ts = true
    · simp [hservice, htimestamp, hsignature, hwindow]
    · by_cases hcurrent : verifyHMAC mac cfg.secret r.payload r.signature = true
      · simp [hservice, htimestamp, hsignature, hwindow, hcurrent]
      · simp [hservice, htimestamp, hsignature, hwindow, hcurrent]

/-- A window that `float64` holds exactly, and no time before 1970. -/
theorem outsideWindow_iff {ts : Nat} (hwindow : cfg.window < 2 ^ 53) (hts : ts < 2 ^ 63) :
    cfg.outsideWindow now ts = true ↔ cfg.window < ((now.val : Int) - ts).natAbs := by
  have hnow := now.isLt
  have hsame : Int.bmod ((now.val : Int) - ts) (2 ^ 64) = (now.val : Int) - ts := by
    rw [Int.bmod_def]
    omega
  rw [InternalAuthConfig.outsideWindow, hsame]
  exact Float64.lt_abs_ofInt_iff hwindow (by omega)

/-- **A signed request passes** for as long as the window lasts. -/
theorem signed_request_passes (hcall : call.secret ∈ cfg.accepted) (hservice : call.service ≠ [])
    (hwindow : cfg.window < 2 ^ 53)
    (hnow : ((now.val : Int) - call.now.val).natAbs ≤ cfg.window) :
    internalAuth mac cfg now (call.sent mac) = .ok () := by
  have hsecret := ne_nil_of_accepted hcall
  have hconfigured : cfg.secret ≠ [] := by
    intro hempty
    rw [InternalAuthConfig.accepted, if_pos hempty] at hcall
    cases hcall
  cases hpath : cfg.whitelisted (call.sent mac).path with
  | true => rw [internalAuth, hpath, if_pos rfl]
  | false =>
    refine (internalAuth_ok_iff hpath hconfigured).mpr ⟨?_, signature_sent_ne_nil hsecret,
      ⟨call.now.val, parseInt64_sent hsecret, ?_⟩, call.secret, hcall, verifyHMAC_sent hsecret⟩
    · rw [Signing.sent, signInternalRequest, if_neg hsecret]
      exact hservice
    · rw [← Bool.not_eq_true, outsideWindow_iff hwindow call.now.isLt]
      omega

-- ---------------------------------------------------------------------------
-- Who signed
-- ---------------------------------------------------------------------------

/-- Payloads are cut in one way where no bar comes before the path. -/
theorem cutOneWay_of_no_bars (hsecret : cfg.secret ≠ []) (hwindow : cfg.window < 2 ^ 53)
    (hsigned : ∀ call ∈ signed, SameBars (call.sent mac) ⟨[], [], [], [], [], []⟩)
    (hr : SameBars r ⟨[], [], [], [], [], []⟩) : CutOneWay mac cfg signed r := by
  refine ⟨hsecret, fun now ts _ hts hinside ⟨call, hmem, hcall, hpayload⟩ => ?_⟩
  have hbars : SameBars (call.sent mac) r := by
    obtain ⟨hservice, hrequestID, hmethod⟩ := hsigned call hmem
    exact ⟨hservice.trans hr.1.symm, hrequestID.trans hr.2.1.symm, hmethod.trans hr.2.2.symm⟩
  have hsent := @parseInt64_sent mac call (ne_nil_of_accepted hcall)
  have hparts : SameParts (call.sent mac) r := parts_eq_of_payload hpayload hbars
    (bar_not_mem_of_parseInt64 hsent) (bar_not_mem_of_parseInt64 hts)
  have hsame : (call.sent mac).timestamp = r.timestamp := by rw [← hparts]
  rw [hsame, hts, Option.some.injEq] at hsent
  subst hsent
  rw [← Bool.not_eq_true, outsideWindow_iff hwindow call.now.isLt] at hinside
  exact ⟨Nat.not_lt.mp hinside, call, hmem, hcall, hpayload, hbars⟩

theorem CutOneWay.authentic (h : CutOneWay mac cfg signed r)
    (hpath : cfg.whitelisted r.path = false) : Authentic mac cfg signed r := by
  intro now signature hunforged hpasses
  obtain ⟨hservice, -, ⟨ts, hts, hinside⟩, hverified⟩ :=
    (@internalAuth_ok_iff mac cfg { r with signature } now hpath h.configured).mp hpasses
  obtain ⟨hwindow, call, hmem, hsecret, hpayload, hbars⟩ :=
    h.cut now ts hservice hts hinside (hunforged hverified)
  have hsent := @parseInt64_sent mac call (ne_nil_of_accepted hsecret)
  have hparts : SameParts (call.sent mac) r := parts_eq_of_payload hpayload hbars
    (bar_not_mem_of_parseInt64 hsent) (bar_not_mem_of_parseInt64 hts)
  have htime : ts = call.now.val := by
    have hsame : (call.sent mac).timestamp = r.timestamp := by rw [← hparts]
    rw [hsame, hts, Option.some.injEq] at hsent
    exact hsent
  exact ⟨call, hmem, hsecret, hparts, htime ▸ hwindow⟩

/-- Without a secret everything passes, signed or not. -/
theorem Authentic.configured (h : Authentic mac cfg signed r) : cfg.secret ≠ [] := by
  intro hempty
  have hnone : cfg.accepted = [] := by rw [InternalAuthConfig.accepted, if_pos hempty]
  have hpasses : internalAuth mac cfg 0 { r with signature := [] } = .ok () := by
    unfold internalAuth
    split_ifs
    · rfl
    · rfl
  obtain ⟨call, -, hcall, -⟩ := h 0 [] (fun ⟨secret, hsecret, _⟩ => by
    rw [hnone] at hsecret
    cases hsecret) hpasses
  rw [hnone] at hcall
  cases hcall

/-- The signature of a request with the same payload is a signature of this one. -/
theorem Authentic.cut (h : Authentic mac cfg signed r) (hpath : cfg.whitelisted r.path = false)
    {ts : Int} (hservice : r.service ≠ []) (hts : parseInt64 r.timestamp = some ts)
    (hinside : cfg.outsideWindow now ts = false)
    (hsigned : ∃ call ∈ signed, call.secret ∈ cfg.accepted ∧ (call.sent mac).payload = r.payload) :
    ((now.val : Int) - ts).natAbs ≤ cfg.window ∧
      ∃ call ∈ signed, call.secret ∈ cfg.accepted ∧ (call.sent mac).payload = r.payload ∧
        SameBars (call.sent mac) r := by
  obtain ⟨call, hmem, hcall, hpayload⟩ := hsigned
  have hsecret := ne_nil_of_accepted hcall
  have hverified := @verifyHMAC_sent mac call hsecret
  rw [hpayload] at hverified
  have hpasses : internalAuth mac cfg now { r with signature := (call.sent mac).signature } =
      .ok () :=
    (@internalAuth_ok_iff mac cfg { r with signature := (call.sent mac).signature } now hpath
      h.configured).mpr ⟨hservice, signature_sent_ne_nil hsecret, ⟨ts, hts, hinside⟩, call.secret,
        hcall, hverified⟩
  obtain ⟨signer, hsigner, haccepted, hparts, hwindow⟩ :=
    h now (call.sent mac).signature (fun _ => ⟨call, hmem, hcall, hpayload⟩) hpasses
  have hsame : (signer.sent mac).timestamp = r.timestamp := by rw [← hparts]
  have hsent := @parseInt64_sent mac signer (ne_nil_of_accepted haccepted)
  rw [hsame, hts, Option.some.injEq] at hsent
  exact ⟨hsent ▸ hwindow, signer, hsigner, haccepted, hparts.payload_eq, hparts.bars⟩

/-- **Only a request that was signed passes**, exactly where there is a secret and the payloads of
signed requests are not cut in another way. -/
theorem authentic_iff (mac : Mac) (cfg : InternalAuthConfig) (signed : List Signing) (r : Request)
    (hpath : cfg.whitelisted r.path = false) :
    Authentic mac cfg signed r ↔ CutOneWay mac cfg signed r :=
  ⟨fun h => ⟨h.configured, fun _ _ hservice hts hinside hsigned =>
    h.cut hpath hservice hts hinside hsigned⟩, fun h => h.authentic hpath⟩

end Auth

namespace Sample

def servicesSecret : Bytes := ascii "internal-secret-of-the-services"

def servicesConfig : InternalAuthConfig := ⟨servicesSecret, [], 0, [ascii "/healthz"]⟩

/-- A client of the gateway has chosen a request id with bars in it. -/
def postWithBars : Signing :=
  ⟨⟨ascii "POST", ascii "/y", ascii "r|GET|/x", [], [], []⟩, ascii "gateway", servicesSecret,
    1700000000⟩

/-- HMAC-SHA256, of this one text. -/
def hmacOfPost : Mac := fun _ text =>
  if text = ascii "gateway|1700000000|r|GET|/x|POST|/y" then
    #v[69, 8, 120, 39, 55, 238, 189, 203, 250, 226, 193, 239, 219, 5, 189, 142,
      22, 160, 83, 144, 142, 89, 14, 81, 31, 55, 26, 23, 250, 148, 237, 205]
  else Vector.replicate 32 0

/-- The same text as another request. -/
def getWithBars : Request :=
  ⟨ascii "GET", ascii "/x|POST|/y", ascii "r", ascii "gateway", ascii "1700000000",
    (postWithBars.sent hmacOfPost).signature⟩

/-- A request without bars. -/
def postPlain : Signing :=
  ⟨⟨ascii "POST", ascii "/y", ascii "r", [], [], []⟩, ascii "gateway", servicesSecret, 1700000000⟩

end Sample

open Sample in
theorem authentic_iff_sample : Authentic hmacOfPost servicesConfig [postPlain]
    (postPlain.sent hmacOfPost) := by
  refine (authentic_iff hmacOfPost servicesConfig [postPlain] (postPlain.sent hmacOfPost)
    (by decide)).mpr (cutOneWay_of_no_bars (by decide) (by decide) ?_ (by decide))
  intro call hcall
  rw [List.mem_singleton.mp hcall]
  decide

open Sample in
/-- The signature of the POST lets a GET through that nobody has signed. -/
theorem signature_of_another_request :
    internalAuth hmacOfPost servicesConfig 1700000000 getWithBars = .ok () ∧
      ¬ Authentic hmacOfPost servicesConfig [postWithBars] getWithBars := by
  have hpasses : internalAuth hmacOfPost servicesConfig 1700000000 getWithBars = .ok () := by
    decide
  refine ⟨hpasses, fun h => ?_⟩
  have hsigned : Unforged hmacOfPost servicesConfig [postWithBars] getWithBars := fun _ =>
    ⟨postWithBars, List.mem_singleton_self _, by decide, by decide⟩
  obtain ⟨call, hcall, -, hparts, -⟩ := h 1700000000 _ hsigned hpasses
  rw [List.mem_singleton.mp hcall] at hparts
  exact absurd hparts (by decide)

end Ggid.Middleware
