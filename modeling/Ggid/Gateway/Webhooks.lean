import Ggid.Go.Strings
import Ggid.Lib.Run

/-!
# Gateway — webhook deliveries

`NewSSRFSafeDeliverer`: a client whose transport looks up a host and refuses it if one of its
addresses is blocked. The dialer, which then connects, is given the host and looks it up again.

The other side moves: it answers the lookups, one after the other, and the requests. Which of the
addresses it is answered the dialer connects to is not said.

* `isBlocked_text`       — the text of an address is blocked as the address is;
* `connections_safe_iff` — when no blocked address is connected to;
* `safe_of_repeats`      — where both lookups are answered alike.
-/

namespace Ggid.Gateway.Webhooks

open Ggid.Go Ggid.Lib

-- ---------------------------------------------------------------------------
-- Addresses
-- ---------------------------------------------------------------------------

/-- `net.IP`: the bytes of an address, four or sixteen if it is one. -/
abbrev IP := List UInt8

namespace IP

def v4InV6Prefix : IP := [0, 0, 0, 0, 0, 0, 0, 0, 0, 0, 0xff, 0xff]

def to4 (ip : IP) : Option IP :=
  if ip.length = 4 then some ip
  else if ip.length = 16 ∧ ip.take 12 = v4InV6Prefix then some (ip.drop 12)
  else none

/-- An address that is written in either length. -/
def short (ip : IP) : IP := ip.to4.getD ip

def equal (ip x : IP) : Bool := ip.short = x.short

def v6Loopback : IP := List.replicate 15 0 ++ [1]

def isLoopback (ip : IP) : Bool :=
  match ip.to4 with
  | some ip4 => ip4.head? = some 127
  | none => ip.equal v6Loopback

def isUnspecified (ip : IP) : Bool :=
  ip.equal (List.replicate 4 0) || ip.equal (List.replicate 16 0)

end IP

/-- `net.IPNet`. -/
structure IPNet where
  ip   : IP
  mask : List UInt8

namespace IPNet

def networkNumberAndMask (n : IPNet) : IP × List UInt8 :=
  let ip := n.ip.short
  if ip.length = 4 ∧ n.mask.length = 4 then (ip, n.mask)
  else if ip.length = 4 ∧ n.mask.length = 16 then (ip, n.mask.drop 12)
  else if ip.length = 16 ∧ n.mask.length = 16 then (ip, n.mask)
  else ([], [])

def contains (n : IPNet) (ip : IP) : Bool :=
  let (number, mask) := n.networkNumberAndMask
  ip.short.length = number.length &&
    (List.zipWith (· &&& ·) number mask) = (List.zipWith (· &&& ·) ip.short mask)

end IPNet

/-- The rest of package `net`: texts of addresses, what a lookup takes for an address, and the host
that a transport dials for a URL, if any. -/
structure Net where
  parseIP   : String → Option IP
  ipString  : IP → String
  parseCIDR : String → Option IPNet
  literal   : String → Option IP
  dialHost  : String → Option String

def IP.Valid (ip : IP) : Prop := ip.length = 4 ∨ ip.length = 16

/-- The text of an address is read as the address, in either form. -/
structure Net.Lawful (net : Net) : Prop where
  prints  : ∀ ip : IP, ip.Valid →
    ∃ ip', net.parseIP (net.ipString ip) = some ip' ∧ ip'.short = ip.short
  literal : ∀ host ip, net.literal host = some ip → ip.Valid

-- ---------------------------------------------------------------------------
-- The deliverer
-- ---------------------------------------------------------------------------

structure SSRFConfig where
  blockedCIDRs   : List String
  allowRedirects : Bool
  allowLoopback  : Bool

def defaultSSRFConfig : SSRFConfig where
  blockedCIDRs := ["10.0.0.0/8", "172.16.0.0/12", "192.168.0.0/16", "127.0.0.0/8", "169.254.0.0/16",
    "::1/128", "fc00::/7", "fe80::/10"]
  allowRedirects := false
  allowLoopback := false

variable (net : Net) (cfg : SSRFConfig)

def isBlockedIP (ipStr : String) (blockedCIDRs : List IPNet) : Bool :=
  match net.parseIP ipStr with
  | none => true
  | some ip => blockedCIDRs.any fun cidr => cidr.contains ip

def validateURL (rawURL : String) : Bool :=
  Strings.hasPrefix rawURL.toList "http://".toList ||
    Strings.hasPrefix rawURL.toList "https://".toList

/-- The ranges that can be parsed; the others are dropped. -/
def blockedCIDRs : List IPNet := cfg.blockedCIDRs.filterMap net.parseCIDR

/-- An address is in a blocked range. -/
def Blocked (ip : IP) : Prop := ∃ cidr ∈ blockedCIDRs net cfg, cidr.contains ip = true

/-- The check of `DialContext`. -/
def passes (ips : List IP) : Bool :=
  ips.all fun ip =>
    cfg.allowLoopback && (ip.isLoopback || ip.isUnspecified) ||
      !isBlockedIP net (net.ipString ip) (blockedCIDRs net cfg)

/-- A lookup. An address is its own answer; for a name, there is one or an error. -/
def lookup (host : String) (answer : Option (List IP)) : Option (List IP) :=
  match net.literal host with
  | some ip => some [ip]
  | none => answer

/-- What the dialer does with its addresses, the n-th time: the address it connects to, if any. -/
abbrev Dialer := Nat → List IP → Option IP

/-- It connects to an address of its own lookup. -/
def Dialer.Obeys (dialer : Dialer) : Prop := ∀ n ips ip, dialer n ips = some ip → ip ∈ ips

variable (dialer : Dialer)

/-- `DialContext`, with the answers to the lookup of the check and to that of the dialer. -/
def dialContext (n : Nat) (host : String) (checked dialed : Option (List IP)) : Option IP :=
  match lookup net host checked with
  | none => none
  | some ips =>
    if passes net cfg ips then (lookup net host dialed).bind (dialer n) else none

-- ---------------------------------------------------------------------------
-- Deliveries
-- ---------------------------------------------------------------------------

/-- How a request ends: with a response, with one that is a redirect, without one, or without one
as the context is done. -/
inductive Reply where
  | status (code : Nat)
  | redirect (code : Nat) (location : String)
  | failed
  | cancelled

/-- What a request meets with: an idle connection, or else two lookups; and the reply. -/
structure Exchange where
  reuses  : Bool
  checked : Option (List IP)
  dialed  : Option (List IP)
  reply   : Reply

/-- A call of `Deliver`: the request that is to be made next, with the redirects and the attempts
that are left. -/
structure Delivery where
  url      : String
  next     : Option (String × Nat)
  attempts : Nat
  dials    : Nat
  opened   : List IP

/-- The first attempt of three. -/
def deliver (url : String) : Delivery := ⟨url, some (url, 2), 2, 0, []⟩

namespace Delivery

def finish (d : Delivery) : Delivery := { d with next := none }

/-- The next attempt, if there is one. -/
def retry (d : Delivery) : Delivery :=
  match d.attempts with
  | 0 => d.finish
  | n + 1 => { d with next := some (d.url, 2), attempts := n }

/-- What becomes of a delivery after a reply. -/
def answered (d : Delivery) (redirects : Nat) : Reply → Delivery
  | .status code => if 200 ≤ code ∧ code < 300 then d.finish else d.retry
  | .redirect code location =>
    if cfg.allowRedirects then
      match redirects with
      | 0 => d.retry
      | n + 1 => if validateURL location then { d with next := some (location, n) } else d.retry
    else if 200 ≤ code ∧ code < 300 then d.finish
    else d.retry
  | .failed => d.retry
  | .cancelled => d.finish

/-- A dial, and a connection if it comes to that. -/
def dial (d : Delivery) (connection : Option IP) : Delivery :=
  { d with dials := d.dials + 1, opened := d.opened ++ connection.toList }

end Delivery

/-- One request of a delivery. -/
def request (d : Delivery) (e : Exchange) : Delivery :=
  match d.next with
  | none => d
  | some (url, redirects) =>
    match net.dialHost url with
    | none => d.retry
    | some host =>
      if e.reuses then d.answered cfg redirects e.reply
      else
        match dialContext net cfg dialer d.dials host e.checked e.dialed with
        | none =>
          match e.reply with
          | .cancelled => (d.dial none).finish
          | _ => (d.dial none).retry
        | some ip => (d.dial (some ip)).answered cfg redirects e.reply

-- ---------------------------------------------------------------------------
-- Safety
-- ---------------------------------------------------------------------------

/-- No connection was opened to a blocked address. -/
def Delivery.Safe (d : Delivery) : Prop := ∀ ip ∈ d.opened, ¬ Blocked net cfg ip

/-- If a host is dialed and passes the check, the dialer is answered no blocked address. -/
def Steady (d : Delivery) (e : Exchange) : Prop :=
  ∀ url redirects host ips ips', d.next = some (url, redirects) → net.dialHost url = some host →
    e.reuses = false → lookup net host e.checked = some ips → passes net cfg ips = true →
      lookup net host e.dialed = some ips' → ∀ ip ∈ ips', ¬ Blocked net cfg ip

variable {net cfg dialer} {d : Delivery} {e : Exchange} {ip : IP}

-- ---------------------------------------------------------------------------
-- Texts
-- ---------------------------------------------------------------------------

theorem contains_congr {ip' : IP} (h : ip.short = ip'.short) (n : IPNet) :
    n.contains ip = n.contains ip' := by
  unfold IPNet.contains
  rw [h]

theorem blocked_congr {ip' : IP} (h : ip.short = ip'.short) :
    Blocked net cfg ip ↔ Blocked net cfg ip' := by
  unfold Blocked
  simp only [contains_congr h]

/-- **The text of an address** is blocked as the address is. -/
theorem isBlocked_text (hlawful : net.Lawful) (hvalid : ip.Valid) :
    isBlockedIP net (net.ipString ip) (blockedCIDRs net cfg) = true ↔ Blocked net cfg ip := by
  obtain ⟨ip', hparse, hsame⟩ := hlawful.prints ip hvalid
  rw [← blocked_congr hsame]
  unfold isBlockedIP Blocked
  rw [hparse]
  exact List.any_eq_true

/-- What passes the check is not blocked. -/
theorem not_blocked_of_passes (hlawful : net.Lawful) (hloopback : cfg.allowLoopback = false)
    {ips : List IP} (h : passes net cfg ips = true) (hip : ip ∈ ips) (hvalid : ip.Valid) :
    ¬ Blocked net cfg ip := by
  have hone := List.all_eq_true.mp h ip hip
  rw [hloopback, Bool.false_and, Bool.false_or, Bool.not_eq_true'] at hone
  rw [← isBlocked_text hlawful hvalid, hone]
  exact Bool.false_ne_true

-- ---------------------------------------------------------------------------
-- Requests
-- ---------------------------------------------------------------------------

section Replies

variable (redirects : Nat) (reply : Reply)

theorem retry_same (d : Delivery) : d.retry.opened = d.opened ∧ d.retry.dials = d.dials := by
  unfold Delivery.retry
  split <;> exact ⟨rfl, rfl⟩

/-- A reply opens nothing. -/
theorem answered_same (d : Delivery) : (d.answered cfg redirects reply).opened = d.opened ∧
    (d.answered cfg redirects reply).dials = d.dials := by
  unfold Delivery.answered
  cases reply with
  | status code =>
    dsimp only
    split_ifs
    · exact ⟨rfl, rfl⟩
    · exact retry_same d
  | redirect code location =>
    dsimp only
    by_cases hallow : cfg.allowRedirects = true
    · rw [if_pos hallow]
      cases redirects with
      | zero => exact retry_same d
      | succ n =>
        dsimp only
        split_ifs
        · exact ⟨rfl, rfl⟩
        · exact retry_same d
    · rw [if_neg hallow]
      split_ifs
      · exact ⟨rfl, rfl⟩
      · exact retry_same d
  | failed => exact retry_same d
  | cancelled => exact ⟨rfl, rfl⟩

end Replies

/-- The host that a request dials, if it dials. -/
def dialed (net : Net) (d : Delivery) (e : Exchange) : Option String :=
  if e.reuses then none else d.next.bind fun next => net.dialHost next.1

/-- The address that it connects to. -/
def connection (net : Net) (cfg : SSRFConfig) (dialer : Dialer) (d : Delivery) (e : Exchange) :
    Option IP :=
  (dialed net d e).bind fun host => dialContext net cfg dialer d.dials host e.checked e.dialed

theorem request_spec (net : Net) (cfg : SSRFConfig) (dialer : Dialer) (d : Delivery)
    (e : Exchange) :
    (request net cfg dialer d e).opened = d.opened ++ (connection net cfg dialer d e).toList ∧
      (request net cfg dialer d e).dials = d.dials + (dialed net d e).toList.length := by
  unfold request
  cases hnext : d.next with
  | none => simp [connection, dialed, hnext]
  | some next =>
    dsimp only
    cases hhost : net.dialHost next.1 with
    | none =>
      obtain ⟨hopened, hdials⟩ := retry_same d
      refine ⟨hopened.trans ?_, hdials.trans ?_⟩ <;> simp [connection, dialed, hnext, hhost]
    | some host =>
      dsimp only
      by_cases hreuses : e.reuses = true
      · rw [if_pos hreuses]
        obtain ⟨hopened, hdials⟩ := answered_same next.2 e.reply d
        refine ⟨hopened.trans ?_, hdials.trans ?_⟩ <;> simp [connection, dialed, hreuses]
      · rw [if_neg hreuses]
        have hdialed : dialed net d e = some host := by simp [dialed, hreuses, hnext, hhost]
        rw [connection, hdialed, Option.bind_some]
        cases dialContext net cfg dialer d.dials host e.checked e.dialed with
        | none =>
          have hnone : (d.dial none).opened = d.opened ++ [] ∧ (d.dial none).dials = d.dials + 1 :=
            ⟨rfl, rfl⟩
          dsimp only
          split
          · exact hnone
          · obtain ⟨hopened, hdials⟩ := retry_same (d.dial none)
            exact ⟨hopened.trans hnone.1, hdials.trans hnone.2⟩
        | some ip =>
          obtain ⟨hopened, hdials⟩ := answered_same next.2 e.reply (d.dial (some ip))
          exact ⟨hopened, hdials⟩

/-- The dialer is asked once for each dial. -/
theorem request_congr {dialer' : Dialer}
    (h : (dialed net d e).isSome → ∀ ips, dialer d.dials ips = dialer' d.dials ips) :
    request net cfg dialer' d e = request net cfg dialer d e := by
  unfold request
  cases hnext : d.next with
  | none => rfl
  | some next =>
    dsimp only
    cases hhost : net.dialHost next.1 with
    | none => rfl
    | some host =>
      dsimp only
      by_cases hreuses : e.reuses = true
      · rw [if_pos hreuses, if_pos hreuses]
      · have hdialed : dialed net d e = some host := by simp [dialed, hreuses, hnext, hhost]
        have hsame : dialer' d.dials = dialer d.dials := funext fun ips =>
          (h (by rw [hdialed]; rfl) ips).symm
        have hdial : dialContext net cfg dialer' d.dials host e.checked e.dialed =
            dialContext net cfg dialer d.dials host e.checked e.dialed := by
          unfold dialContext
          rw [hsame]
        rw [if_neg hreuses, if_neg hreuses, hdial]

/-- What the dialer would do with later lookups does not matter. -/
theorem run_congr {dialer' : Dialer} {es : List Exchange}
    (h : ∀ n < (run (request net cfg dialer) d es).dials, ∀ ips, dialer n ips = dialer' n ips) :
    run (request net cfg dialer') d es = run (request net cfg dialer) d es := by
  induction es using List.reverseRecOn with
  | nil => rfl
  | append_singleton es e ih =>
    rw [run_concat, (request_spec net cfg dialer _ e).2] at h
    rw [run_concat, run_concat, ih fun n hn => h n (by omega)]
    refine request_congr fun hdialed => h _ ?_
    obtain ⟨host, hhost⟩ := Option.isSome_iff_exists.mp hdialed
    rw [hhost]
    exact Nat.lt_succ_self _

-- ---------------------------------------------------------------------------
-- Runs
-- ---------------------------------------------------------------------------

theorem safe_request_iff (hsafe : d.Safe net cfg) : (request net cfg dialer d e).Safe net cfg ↔
    ∀ ip, connection net cfg dialer d e = some ip → ¬ Blocked net cfg ip := by
  unfold Delivery.Safe
  rw [(request_spec net cfg dialer d e).1]
  constructor
  · intro hafter ip hip
    exact hafter ip (List.mem_append_right _ (by simp [hip]))
  · intro hnew ip hip
    rcases List.mem_append.mp hip with hold | hip
    · exact hsafe ip hold
    · exact hnew ip (Option.mem_toList.mp hip)

/-- What is connected to was answered to the dialer, after another answer passed the check. -/
theorem connection_eq_some : connection net cfg dialer d e = some ip ↔
    ∃ url redirects host ips ips', d.next = some (url, redirects) ∧ net.dialHost url = some host ∧
      e.reuses = false ∧ lookup net host e.checked = some ips ∧ passes net cfg ips = true ∧
        lookup net host e.dialed = some ips' ∧ dialer d.dials ips' = some ip := by
  unfold connection dialed dialContext
  constructor
  · intro h
    obtain ⟨host, hdialed, hdial⟩ := Option.bind_eq_some_iff.mp h
    split_ifs at hdialed with hreuses
    obtain ⟨⟨url, redirects⟩, hnext, hhost⟩ := Option.bind_eq_some_iff.mp hdialed
    cases hchecked : lookup net host e.checked with
    | none =>
      rw [hchecked] at hdial
      cases hdial
    | some ips =>
      rw [hchecked] at hdial
      dsimp only at hdial
      split_ifs at hdial with hpasses
      obtain ⟨ips', hlookup, hchosen⟩ := Option.bind_eq_some_iff.mp hdial
      exact ⟨url, redirects, host, ips, ips', hnext, hhost, by simpa using hreuses, hchecked,
        hpasses, hlookup, hchosen⟩
  · rintro ⟨url, redirects, host, ips, ips', hnext, hhost, hreuses, hchecked, hpasses, hlookup,
      hchosen⟩
    rw [hreuses, if_neg Bool.false_ne_true, hnext, Option.bind_some, hhost, Option.bind_some,
      hchecked]
    dsimp only
    rw [if_pos hpasses, hlookup, Option.bind_some, hchosen]

theorem safe_of_steady (hobeys : dialer.Obeys) {url : String} {es : List Exchange}
    (hsteady : StepsOk (request net cfg dialer) (Steady net cfg) (deliver url) es) :
    ∀ d ∈ states (request net cfg dialer) (deliver url) es, d.Safe net cfg := by
  refine invariant_states (fun d e hsafe hok => (safe_request_iff hsafe).mpr ?_) ?_ hsteady
  · intro ip hip
    obtain ⟨next, redirects, host, ips, ips', hnext, hhost, hreuses, hchecked, hpasses, hdialed,
      hchosen⟩ := connection_eq_some.mp hip
    exact hok next redirects host ips ips' hnext hhost hreuses hchecked hpasses hdialed ip
      (hobeys _ _ _ hchosen)
  · exact fun ip hip => absurd hip List.not_mem_nil

/-- **Connections are safe** exactly if no dial that passes the check is answered a blocked address
in the lookup of the dialer. -/
theorem connections_safe_iff (net : Net) (cfg : SSRFConfig) (url : String) (es : List Exchange) :
    (∀ dialer : Dialer, dialer.Obeys →
      ∀ d ∈ states (request net cfg dialer) (deliver url) es, d.Safe net cfg) ↔
    ∀ dialer : Dialer, dialer.Obeys →
      StepsOk (request net cfg dialer) (Steady net cfg) (deliver url) es := by
  constructor
  · intro hsafe dialer hobeys
    refine stepsOk_of_split fun before e after hsplit => ?_
    intro next redirects host ips ips' hnext hhost hreuses hchecked hpasses hdialed ip hip hblocked
    -- a dialer that does the same until now, and then takes the blocked address
    set d := run (request net cfg dialer) (deliver url) before
    let dialer' : Dialer := fun n ips =>
      if n = d.dials ∧ ip ∈ ips then some ip else dialer n ips
    have hobeys' : dialer'.Obeys := by
      intro n ips ip' h
      dsimp only [dialer'] at h
      split_ifs at h with hnow
      · rw [← Option.some.inj h]
        exact hnow.2
      · exact hobeys n ips ip' h
    have hrun : run (request net cfg dialer') (deliver url) before = d := by
      refine run_congr fun n hn ips => ?_
      exact (if_neg fun hnow => absurd hnow.1 hn.ne).symm
    have hconnects : connection net cfg dialer' d e = some ip :=
      connection_eq_some.mpr ⟨next, redirects, host, ips, ips', hnext, hhost, hreuses, hchecked,
        hpasses, hdialed, if_pos ⟨rfl, hip⟩⟩
    have hmem : request net cfg dialer' d e ∈
        states (request net cfg dialer') (deliver url) es := by
      have hpart := states_append_left (deliver url) (before ++ [e]) after _
        (@run_mem_states _ _ (request net cfg dialer') (deliver url) (before ++ [e]))
      rw [run_concat, hrun, List.append_assoc] at hpart
      rwa [hsplit]
    refine hsafe dialer' hobeys' _ hmem ip ?_ hblocked
    rw [(request_spec net cfg dialer' d e).1, hconnects]
    exact List.mem_append_right _ (List.mem_singleton_self ip)
  · exact fun hsteady dialer hobeys => safe_of_steady hobeys (hsteady dialer hobeys)

/-- Every address that the dialer is answered was answered to the check as well. -/
def Repeats (e : Exchange) : Prop :=
  ∀ ips', e.dialed = some ips' → ∃ ips, e.checked = some ips ∧
    ∀ ip ∈ ips', ∃ ip' ∈ ips, ip'.Valid ∧ ip'.short = ip.short

theorem steady_of_repeats (hlawful : net.Lawful) (hloopback : cfg.allowLoopback = false)
    (h : Repeats e) : Steady net cfg d e := by
  intro url redirects host ips ips' _ _ _ hchecked hpasses hdialed ip hip
  unfold lookup at hchecked hdialed
  cases hliteral : net.literal host with
  | some address =>
    rw [hliteral] at hchecked hdialed
    cases hchecked
    cases hdialed
    obtain rfl := List.mem_singleton.mp hip
    exact not_blocked_of_passes hlawful hloopback hpasses hip (hlawful.literal host ip hliteral)
  | none =>
    rw [hliteral] at hchecked hdialed
    obtain ⟨ips₀, hips₀, hrepeats⟩ := h ips' hdialed
    dsimp only at hchecked
    rw [hchecked, Option.some.injEq] at hips₀
    subst hips₀
    obtain ⟨ip', hip', hvalid, hsame⟩ := hrepeats ip hip
    rw [← blocked_congr hsame]
    exact not_blocked_of_passes hlawful hloopback hpasses hip' hvalid

/-- **Without rebinding**, connections are safe. -/
theorem safe_of_repeats (hlawful : net.Lawful) (hloopback : cfg.allowLoopback = false)
    {url : String} {es : List Exchange} (h : ∀ e ∈ es, Repeats e) (hobeys : dialer.Obeys) :
    ∀ d ∈ states (request net cfg dialer) (deliver url) es, d.Safe net cfg := by
  refine safe_of_steady hobeys ?_
  exact stepsOk_mono (fun d e => steady_of_repeats hlawful hloopback) (stepsOk_of_forall h)

-- ---------------------------------------------------------------------------
-- A name that is bound again
-- ---------------------------------------------------------------------------

namespace Sample

def publicIP : IP := [93, 184, 216, 34]

/-- The address of the metadata of a cloud. -/
def metadataIP : IP := [169, 254, 169, 254]

/-- As much of package `net` as the delivery needs. -/
def sampleNet : Net where
  parseIP s :=
    if s = "93.184.216.34" then some publicIP
    else if s = "169.254.169.254" then some metadataIP
    else none
  ipString ip := ".".intercalate (ip.map fun b => b.toNat.repr)
  parseCIDR s := if s = "169.254.0.0/16" then some ⟨[169, 254, 0, 0], [255, 255, 0, 0]⟩ else none
  literal _ := none
  dialHost url := if url = "https://hooks.example/" then some "hooks.example" else none

def takesFirst : Dialer := fun _ ips => ips.head?

def rebinding : List Exchange := [⟨false, some [publicIP], some [metadataIP], .status 200⟩]

def hook : Delivery := deliver "https://hooks.example/"

theorem metadata_reached : takesFirst.Obeys ∧
    ¬ ∀ d ∈ states (request sampleNet defaultSSRFConfig takesFirst) hook rebinding,
      d.Safe sampleNet defaultSSRFConfig := by
  refine ⟨fun _ _ _ h => List.mem_of_mem_head? h, fun hall => ?_⟩
  have hsafe := hall _ (run_mem_states _ rebinding)
  have hopened : (run (request sampleNet defaultSSRFConfig takesFirst) hook rebinding).opened =
      [metadataIP] := by decide
  refine hsafe metadataIP (by rw [hopened]; exact List.mem_singleton_self _) ?_
  refine ⟨⟨[169, 254, 0, 0], [255, 255, 0, 0]⟩, ?_, by decide⟩
  exact List.mem_filterMap.mpr ⟨"169.254.0.0/16", by decide, rfl⟩

end Sample

end Ggid.Gateway.Webhooks
