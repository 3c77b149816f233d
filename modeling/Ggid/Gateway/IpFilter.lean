import Ggid.Gateway.Request
import Ggid.Go.NetIP

/-!
# Gateway — the IP filter

`IPFilterMiddleware` lets a request through unless its client is in the deny list, or outside the
allow list where there is one. A single address is made a range by a prefix length of 32, whatever
its family.

* `network_iff`     — what the code makes of an entry, against what the entry says;
* `filter_iff`      — when the answer is that of the lists.
-/

namespace Ggid.Gateway

open Ggid.Go Ggid.Go.NetIP Ggid.Lib

-- ---------------------------------------------------------------------------
-- Configurations
-- ---------------------------------------------------------------------------

structure IPFilterConfig where
  allowList : List String
  denyList  : List String
  enabled   : Bool

/-- The map and the fallback hold pointers, which may be `nil`. -/
structure IPFilterStore where
  configs  : String → Option (Option IPFilterConfig)
  fallback : Option IPFilterConfig

def IPFilterStore.get (s : IPFilterStore) (tenantID : String) : Option IPFilterConfig :=
  match s.configs tenantID with
  | some cfg => cfg
  | none => s.fallback

/-- What the filter reads of a request; the tenant is `""` where the context has none. -/
structure FilteredRequest where
  path       : String
  tenantID   : String
  header     : Header
  remoteAddr : String

/-- The last entry of `X-Forwarded-For` that is not empty, `X-Real-IP`, or the peer. -/
def clientIP (r : FilteredRequest) : String :=
  let parts := Strings.split (r.header.get "X-Forwarded-For").toList ','
  let trimmed := parts.map fun part => Strings.trimSpace (String.ofList part)
  match trimmed.reverse.find? fun ip => ip != "" with
  | some ip => ip
  | none =>
    if r.header.get "X-Real-IP" ≠ "" then r.header.get "X-Real-IP"
    else
      match splitHostPort r.remoteAddr.toList with
      | some (host, _) => String.ofList host
      | none => r.remoteAddr

-- ---------------------------------------------------------------------------
-- `IPFilterMiddleware`
-- ---------------------------------------------------------------------------

/-- An entry as `ParseCIDR` gets it. -/
def completed (cidr : List Char) : List Char :=
  if '/' ∈ cidr then cidr else cidr ++ ['/', '3', '2']

/-- What cannot be parsed is dropped. -/
def parseCIDRList (cidrs : List String) : List IPNet :=
  cidrs.filterMap fun cidr => parseCIDR (completed cidr.toList)

def ipInList (ip : String) (networks : List IPNet) : Bool :=
  match parseIP ip.toList with
  | none => false
  | some parsedIP => networks.any fun network => network.contains parsedIP.1

/-- The next handler, or a `403` with a message. -/
inductive IPFilterAnswer where
  | served
  | forbidden (message : String)
  deriving DecidableEq

def FilteredRequest.isProbe (r : FilteredRequest) : Bool :=
  r.path == "/healthz" || r.path == "/readyz"

def IPFilterStore.middleware (store : IPFilterStore) (r : FilteredRequest) : IPFilterAnswer :=
  if r.isProbe = true then .served
  else
    match store.get r.tenantID with
    | none => .served
    | some cfg =>
      if cfg.enabled = false then .served
      else if cfg.denyList ≠ [] ∧ ipInList (clientIP r) (parseCIDRList cfg.denyList) = true then
        .forbidden "IP address blocked by denylist"
      else if cfg.allowList ≠ [] ∧ ipInList (clientIP r) (parseCIDRList cfg.allowList) = false then
        .forbidden "IP address not in allowlist"
      else .served

-- ---------------------------------------------------------------------------
-- What the lists say
-- ---------------------------------------------------------------------------

/-- An entry is an address or a range of addresses. -/
inductive FilterEntry where
  | address (a : Addr)
  | range (r : Range)

def entryOf (s : String) : Option FilterEntry :=
  match parseUnzoned s.toList with
  | some a => some (.address a)
  | none => (parsePrefix s.toList).map fun p => .range p.range

/-- A single address stands for itself. -/
def FilterEntry.Contains : FilterEntry → IP → Prop
  | .address a, x => x = a.ip
  | .range r, x => x ∈ r

/-- The entries of a list stand in relation `rel` to the client, if it has an address. -/
def SomeEntry (rel : FilterEntry → IP → Prop) (l : List String) (client : Option IP) : Prop :=
  ∃ x, client = some x ∧ ∃ s ∈ l, ∃ e, entryOf s = some e ∧ rel e x

/-- The client is in an entry of the list. -/
abbrev Listed (l : List String) (client : Option IP) : Prop :=
  SomeEntry FilterEntry.Contains l client

/-- In no deny entry and, if there is an allow list, in one of its entries. -/
def IPFilterConfig.Admits (cfg : IPFilterConfig) (client : Option IP) : Prop :=
  ¬Listed cfg.denyList client ∧ (cfg.allowList ≠ [] → Listed cfg.allowList client)

def FilteredRequest.client (r : FilteredRequest) : Option IP := parseIP (clientIP r).toList

/-- A single address in the notation of IPv6 becomes the range of its first 32 bits: it takes in
other IPv6 addresses, and leaves out the IPv4 address it may stand for. -/
def FilterEntry.Misread : FilterEntry → IP → Prop
  | .address a, x => a.is4 = false ∧
      if x.IsV4 then x = a.ip else x ≠ a.ip ∧ SamePrefix 32 a.ip.1 x.1
  | .range _, _ => False

/-- The entry contains the address, and is read so. -/
def FilterEntry.Reads (e : FilterEntry) (x : IP) : Prop := e.Contains x ∧ ¬e.Misread x

-- ---------------------------------------------------------------------------
-- Entries
-- ---------------------------------------------------------------------------

/-- The prefix length that is put behind a single address. -/
theorem parsePrefix_slash32 {s : List Char} (hs : '/' ∉ s) :
    parsePrefix (s ++ ['/', '3', '2']) = (parseUnzoned s).map fun a =>
      ⟨a, 32, by unfold Addr.bitLen; split <;> decide⟩ := by
  have hdtoi : dtoi 0 0 ['3', '2'] = some (32, 2) := by decide
  have htake : ((s ++ ['/', '3', '2']).takeWhile fun c => c ≠ '/') = s :=
    Strings.takeWhile_ne_append hs _
  have hdrop : ((s ++ ['/', '3', '2']).dropWhile fun c => c ≠ '/') = ['/', '3', '2'] :=
    Strings.dropWhile_ne_append hs _
  rw [parsePrefix, hdrop, htake]
  cases parseUnzoned s with
  | none => rfl
  | some a =>
    have hle : 32 ≤ a.bitLen := by
      unfold Addr.bitLen
      split <;> decide
    simp [hdtoi, hle]

theorem slash_mem_of_parsePrefix {s : List Char} {p : Prefix} (h : parsePrefix s = some p) :
    '/' ∈ s := by
  by_contra hs
  have hdrop : (s.dropWhile fun c => c ≠ '/') = [] := by
    rw [List.dropWhile_eq_nil_iff]
    intro c hc
    simpa using fun heq : c = '/' => hs (heq ▸ hc)
  rw [parsePrefix, hdrop] at h
  cases h

/-- What the code makes of a single address. -/
theorem parseCIDR_address {s : String} {a : Addr} (h : parseUnzoned s.toList = some a) :
    ∃ p : Prefix, parseCIDR (completed s.toList) = some p.network ∧
      p.range = if a.is4 = true then Range.single a.ip else ⟨a.ip, 32⟩ := by
  have hs : '/' ∉ s.toList := slash_not_mem h
  rw [completed, if_neg hs, parseCIDR, parsePrefix_slash32 hs, h]
  refine ⟨_, rfl, ?_⟩
  by_cases his4 : a.is4 = true
  · simp [Prefix.range, his4, Range.single]
  · simp [Prefix.range, his4]

/-- The range of the first 32 bits of an IPv6 address. -/
theorem mem_first32_iff {a x : IP} :
    x ∈ (⟨a, 32⟩ : Range) ↔ ¬x.IsV4 ∧ SamePrefix 32 a.1 x.1 := by
  have hwide : ¬(⟨a, 32⟩ : Range).IsV4 := fun h => absurd h.2 (by decide : ¬96 ≤ 32)
  rw [Range.mem_def]
  refine ⟨fun h => ⟨fun hx => hwide (h.2 hx), h.1⟩, fun h => ⟨h.2, fun hx => absurd hx h.1⟩⟩

/-- The code reads an entry as it says, but for the addresses it misreads. -/
theorem network_iff {s : String} {e : FilterEntry} (h : entryOf s = some e) :
    ∃ net, parseCIDR (completed s.toList) = some net ∧ ∀ x : IP,
      net.contains x.1 = true ↔ e.Reads x ∨ (¬x.IsV4 ∧ e.Misread x) := by
  rw [entryOf] at h
  split at h
  · rename_i a ha
    cases h
    obtain ⟨p, hnetwork, hrange⟩ := parseCIDR_address ha
    refine ⟨p.network, hnetwork, fun x => ?_⟩
    rw [contains_iff, hrange]
    by_cases his4 : a.is4 = true
    · rw [if_pos his4, Range.mem_single]
      simp [FilterEntry.Reads, FilterEntry.Contains, FilterEntry.Misread, his4]
    · rw [if_neg his4, mem_first32_iff]
      have hsame : SamePrefix 32 a.ip.1 a.ip.1 := rfl
      by_cases hx : x.IsV4
      · simp [FilterEntry.Reads, FilterEntry.Contains, FilterEntry.Misread, his4, hx]
      · by_cases heq : x = a.ip
        · obtain rfl := heq
          simp [FilterEntry.Reads, FilterEntry.Contains, FilterEntry.Misread, hx, hsame]
        · simp [FilterEntry.Reads, FilterEntry.Contains, FilterEntry.Misread, his4, hx, heq]
  · obtain ⟨p, hp, rfl⟩ := Option.map_eq_some_iff.mp h
    have hs : '/' ∈ s.toList := slash_mem_of_parsePrefix hp
    refine ⟨p.network, by rw [completed, if_pos hs, parseCIDR, hp]; rfl, fun x => ?_⟩
    rw [contains_iff]
    simp [FilterEntry.Reads, FilterEntry.Contains, FilterEntry.Misread]

/-- An entry that is neither an address nor a range is dropped. -/
theorem parseCIDR_completed_eq_none {s : String} (h : entryOf s = none) :
    parseCIDR (completed s.toList) = none := by
  rw [entryOf] at h
  split at h
  · cases h
  · rename_i hnone
    have hprefix : parsePrefix s.toList = none := Option.map_eq_none_iff.mp h
    rw [completed, parseCIDR]
    by_cases hs : '/' ∈ s.toList
    · rw [if_pos hs, hprefix]
      rfl
    · rw [if_neg hs, parsePrefix_slash32 hs, hnone]
      rfl

/-- What an entry contains is read, or left out. -/
theorem contains_entry_iff {e : FilterEntry} {x : IP} :
    e.Contains x ↔ e.Reads x ∨ (x.IsV4 ∧ e.Misread x) := by
  cases e with
  | range r => simp [FilterEntry.Reads, FilterEntry.Contains, FilterEntry.Misread]
  | address a =>
    by_cases hx : x.IsV4
    · by_cases his4 : a.is4 = true
      · simp [FilterEntry.Reads, FilterEntry.Contains, FilterEntry.Misread, his4]
      · simp [FilterEntry.Reads, FilterEntry.Contains, FilterEntry.Misread, his4, hx]
    · simp only [FilterEntry.Reads, FilterEntry.Contains, FilterEntry.Misread, hx, if_false,
        false_and, or_false]
      exact ⟨fun h => ⟨h, fun hmisread => hmisread.2.1 h⟩, fun h => h.1⟩

-- ---------------------------------------------------------------------------
-- Lists
-- ---------------------------------------------------------------------------

theorem someEntry_or {rel rel' : FilterEntry → IP → Prop} {l : List String} {x : IP} :
    SomeEntry (fun e x => rel e x ∨ rel' e x) l (some x) ↔
      SomeEntry rel l (some x) ∨ SomeEntry rel' l (some x) := by
  unfold SomeEntry
  constructor
  · rintro ⟨y, hy, s, hs, e, he, hrel | hrel⟩
    · exact Or.inl ⟨y, hy, s, hs, e, he, hrel⟩
    · exact Or.inr ⟨y, hy, s, hs, e, he, hrel⟩
  · rintro (⟨y, hy, s, hs, e, he, hrel⟩ | ⟨y, hy, s, hs, e, he, hrel⟩)
    · exact ⟨y, hy, s, hs, e, he, Or.inl hrel⟩
    · exact ⟨y, hy, s, hs, e, he, Or.inr hrel⟩

theorem someEntry_and {q : IP → Prop} {rel : FilterEntry → IP → Prop} {l : List String} {x : IP} :
    SomeEntry (fun e x => q x ∧ rel e x) l (some x) ↔ q x ∧ SomeEntry rel l (some x) := by
  unfold SomeEntry
  constructor
  · rintro ⟨y, hy, s, hs, e, he, hq, hrel⟩
    cases hy
    exact ⟨hq, x, rfl, s, hs, e, he, hrel⟩
  · rintro ⟨hq, y, hy, s, hs, e, he, hrel⟩
    cases hy
    exact ⟨x, rfl, s, hs, e, he, hq, hrel⟩

theorem someEntry_congr {rel rel' : FilterEntry → IP → Prop} (h : ∀ e x, rel e x ↔ rel' e x)
    {l : List String} {client : Option IP} : SomeEntry rel l client ↔ SomeEntry rel' l client := by
  unfold SomeEntry
  simp only [h]

theorem listed_iff {l : List String} {x : IP} : Listed l (some x) ↔
    SomeEntry FilterEntry.Reads l (some x) ∨
      (x.IsV4 ∧ SomeEntry FilterEntry.Misread l (some x)) := by
  unfold Listed
  rw [someEntry_congr fun _ _ => contains_entry_iff, someEntry_or, someEntry_and]

theorem ipInList_iff {ip : String} {l : List String} : ipInList ip (parseCIDRList l) = true ↔
    SomeEntry (fun e x => e.Reads x ∨ (¬x.IsV4 ∧ e.Misread x)) l (parseIP ip.toList) := by
  rw [ipInList]
  cases parseIP ip.toList with
  | none => simp [SomeEntry]
  | some x =>
    simp only [List.any_eq_true, parseCIDRList, List.mem_filterMap]
    constructor
    · rintro ⟨net, ⟨s, hs, hnet⟩, hcontains⟩
      cases he : entryOf s with
      | none => rw [parseCIDR_completed_eq_none he] at hnet; cases hnet
      | some e =>
        obtain ⟨net', hnet', hiff⟩ := network_iff he
        obtain rfl : net' = net := Option.some.inj (hnet'.symm.trans hnet)
        exact ⟨x, rfl, s, hs, e, he, (hiff x).mp hcontains⟩
    · rintro ⟨y, hy, s, hs, e, he, hrel⟩
      cases hy
      obtain ⟨net, hnet, hiff⟩ := network_iff he
      exact ⟨net, ⟨s, hs, hnet⟩, (hiff x).mpr hrel⟩

-- ---------------------------------------------------------------------------
-- The filter
-- ---------------------------------------------------------------------------

/-- Either a deny entry that is read right contains the client; or no deny entry misreads it where
the allow list has nothing against it, and no allow entry does where the allow list has, unless a
deny entry misreads it as well. -/
def IPFilterConfig.ReadRight (cfg : IPFilterConfig) (client : Option IP) : Prop :=
  SomeEntry FilterEntry.Reads cfg.denyList client ∨
    ((cfg.allowList = [] ∨ SomeEntry FilterEntry.Reads cfg.allowList client →
        ¬SomeEntry FilterEntry.Misread cfg.denyList client) ∧
      (SomeEntry FilterEntry.Misread cfg.allowList client →
        SomeEntry FilterEntry.Reads cfg.allowList client ∨
          SomeEntry FilterEntry.Misread cfg.denyList client))

/-- The lists as the code reads them. -/
theorem served_iff {store : IPFilterStore} {r : FilteredRequest} {cfg : IPFilterConfig}
    (hcfg : store.get r.tenantID = some cfg) (hprobe : ¬r.isProbe = true)
    (henabled : ¬cfg.enabled = false) : store.middleware r = .served ↔
      ¬ipInList (clientIP r) (parseCIDRList cfg.denyList) = true ∧
        (cfg.allowList ≠ [] → ipInList (clientIP r) (parseCIDRList cfg.allowList) = true) := by
  have hnil : ∀ ip, ipInList ip (parseCIDRList []) = false := fun ip => by
    rw [ipInList]
    split <;> rfl
  rw [IPFilterStore.middleware, if_neg hprobe, hcfg]
  simp only [henabled]
  by_cases hdeny : ipInList (clientIP r) (parseCIDRList cfg.denyList) = true
  · have hne : cfg.denyList ≠ [] := fun heq => by
      rw [heq, hnil] at hdeny
      cases hdeny
    simp [hdeny, hne]
  · by_cases hallow : ipInList (clientIP r) (parseCIDRList cfg.allowList) = true
    · simp [hdeny, hallow]
    · simp [hdeny, hallow]

theorem not_someEntry_none {rel : FilterEntry → IP → Prop} {l : List String} :
    ¬SomeEntry rel l none := by
  rintro ⟨x, hx, -⟩
  cases hx

theorem readRight_iff {cfg : IPFilterConfig} {client : Option IP} :
    ((¬SomeEntry (fun e x => e.Reads x ∨ (¬x.IsV4 ∧ e.Misread x)) cfg.denyList client ∧
        (cfg.allowList ≠ [] →
          SomeEntry (fun e x => e.Reads x ∨ (¬x.IsV4 ∧ e.Misread x)) cfg.allowList client)) ↔
      cfg.Admits client) ↔ cfg.ReadRight client := by
  unfold IPFilterConfig.Admits IPFilterConfig.ReadRight
  cases client with
  | none =>
    simp [not_someEntry_none, Listed]
  | some x =>
    simp only [listed_iff, someEntry_or, someEntry_and]
    by_cases hdeny : SomeEntry FilterEntry.Reads cfg.denyList (some x)
    · simp only [hdeny, true_or, not_true, false_and]
    · -- an IPv4 address is left out only, any other is taken in only
      by_cases hnil : cfg.allowList = []
      · have hnone : ∀ rel, ¬SomeEntry rel [] (some x) := fun rel => by
          rintro ⟨_, _, s, hs, _⟩
          exact List.not_mem_nil hs
        by_cases hx : x.IsV4
        · simp [hdeny, hnil, hx, hnone]
        · simp [hdeny, hnil, hx, hnone]
      · by_cases hallow : SomeEntry FilterEntry.Reads cfg.allowList (some x)
        · by_cases hx : x.IsV4
          · simp [hdeny, hnil, hallow, hx]
          · simp [hdeny, hnil, hallow, hx]
        · by_cases hx : x.IsV4
          · simp [hdeny, hnil, hallow, hx, not_imp_not]
          · simp [hdeny, hnil, hallow, hx, not_imp_not]

theorem answer_iff {store : IPFilterStore} {r : FilteredRequest} {cfg : IPFilterConfig}
    (hcfg : store.get r.tenantID = some cfg) (hprobe : ¬r.isProbe = true)
    (henabled : ¬cfg.enabled = false) :
    (store.middleware r = .served ↔ cfg.Admits r.client) ↔ cfg.ReadRight r.client := by
  rw [served_iff hcfg hprobe henabled, ipInList_iff, ipInList_iff]
  exact readRight_iff

/-- The probes and the configurations that are switched off let everyone through. Elsewhere the
answer is that of the lists exactly if no entry that misreads the client decides. -/
theorem filter_iff (store : IPFilterStore) (r : FilteredRequest) (cfg : IPFilterConfig)
    (hcfg : store.get r.tenantID = some cfg) :
    (store.middleware r = .served ↔ cfg.Admits r.client) ↔
      if r.isProbe = true ∨ cfg.enabled = false then cfg.Admits r.client
      else cfg.ReadRight r.client := by
  by_cases hskip : r.isProbe = true ∨ cfg.enabled = false
  · have hserved : store.middleware r = .served := by
      rw [IPFilterStore.middleware, hcfg]
      obtain hprobe | henabled := hskip
      · rw [if_pos hprobe]
      · simp [henabled]
    rw [if_pos hskip]
    exact ⟨fun h => h.mp hserved, fun h => ⟨fun _ => h, fun _ => hserved⟩⟩
  · obtain ⟨hprobe, henabled⟩ := not_or.mp hskip
    rw [if_neg hskip]
    exact answer_iff hcfg hprobe henabled

/-- Lists whose single addresses are written as IPv4 addresses are always read right. -/
theorem readRight_of_is4 {cfg : IPFilterConfig} (h : ∀ s ∈ cfg.denyList ++ cfg.allowList,
    ∀ a, entryOf s = some (.address a) → a.is4 = true) (client : Option IP) :
    cfg.ReadRight client := by
  have hnone : ∀ l : List String, (∀ s ∈ l, s ∈ cfg.denyList ++ cfg.allowList) →
      ¬SomeEntry FilterEntry.Misread l client := by
    rintro l hl ⟨x, -, s, hs, e, he, hmisread⟩
    cases e with
    | range r => exact hmisread
    | address a =>
      have his4 := h s (hl s hs) a he
      rw [hmisread.1] at his4
      cases his4
  refine Or.inr ⟨fun _ => hnone _ fun s hs => List.mem_append_left _ hs, fun hallow => ?_⟩
  exact absurd hallow (hnone _ fun s hs => List.mem_append_right _ hs)

/-- One configuration for everyone, and it denies an IPv6 address. -/
def oneDenied : IPFilterStore := ⟨fun _ => none, some ⟨[], ["2001:db8::1"], true⟩⟩

/-- A request from the address after it. -/
def neighbour : FilteredRequest := ⟨"/api/v1/users", "", [], "[2001:db8::2]:443"⟩

theorem entryOf_oneDenied : ∃ a : Addr, entryOf "2001:db8::1" = some (.address a) ∧ a.is4 = false ∧
    a.ip.1 = [32, 1, 13, 184, 0, 0, 0, 0, 0, 0, 0, 0, 0, 0, 0, 1] := by
  have hchars : "2001:db8::1".toList =
      ['2', '0', '0', '1', ':', 'd', 'b', '8', ':', ':', '1'] := String.toList_ofList
  rw [entryOf, hchars]
  exact ⟨_, rfl, rfl, rfl⟩

theorem client_neighbour : ∃ x : IP, neighbour.client = some x ∧
    x.1 = [32, 1, 13, 184, 0, 0, 0, 0, 0, 0, 0, 0, 0, 0, 0, 2] := by
  have hpeer : neighbour.remoteAddr.toList =
      ['[', '2', '0', '0', '1', ':', 'd', 'b', '8', ':', ':', '2', ']', ':', '4', '4', '3'] :=
    String.toList_ofList
  have hheader : ∀ name, neighbour.header.get name = "" := fun _ => rfl
  have hhost : clientIP neighbour =
      String.ofList ['2', '0', '0', '1', ':', 'd', 'b', '8', ':', ':', '2'] := by
    unfold clientIP
    rw [hheader, hheader, hpeer]
    rfl
  rw [FilteredRequest.client, hhost, String.toList_ofList]
  exact ⟨_, rfl, rfl⟩

/-- The deny list has one address, and another one is kept out. -/
theorem neighbour_kept_out :
    (entryOf "2001:db8::1").isSome = true ∧
      ¬(oneDenied.middleware neighbour = .served ↔
        IPFilterConfig.Admits ⟨[], ["2001:db8::1"], true⟩ neighbour.client) := by
  obtain ⟨a, hentry, his4, ha⟩ := entryOf_oneDenied
  obtain ⟨x, hclient, hx⟩ := client_neighbour
  have hne : x ≠ a.ip := fun heq => by
    have hbytes := congrArg Subtype.val heq
    rw [hx, ha] at hbytes
    exact absurd hbytes (by decide)
  have hv6 : ¬x.IsV4 := by
    rw [IP.IsV4, hx]
    decide
  have hmisread : (FilterEntry.address a).Misread x := by
    refine ⟨his4, ?_⟩
    rw [if_neg hv6, ha, hx]
    exact ⟨hne, by decide⟩
  refine ⟨by rw [hentry]; rfl, fun hiff => ?_⟩
  have hprobe : ¬neighbour.isProbe = true := by decide
  have hcfg : oneDenied.get neighbour.tenantID = some ⟨[], ["2001:db8::1"], true⟩ := rfl
  have hdecided := (answer_iff hcfg hprobe (by decide)).mp hiff
  rw [hclient] at hdecided
  obtain ⟨y, hy, s, hs, e, he, hreads⟩ | ⟨hright, -⟩ := hdecided
  · obtain rfl : s = "2001:db8::1" := List.mem_singleton.mp hs
    cases hy
    rw [hentry] at he
    cases he
    exact hreads.2 hmisread
  · exact hright (Or.inl rfl)
      ⟨x, rfl, "2001:db8::1", List.mem_singleton.mpr rfl, _, hentry, hmisread⟩

theorem filter_iff_neighbour :
    (oneDenied.middleware neighbour = .served ↔
        IPFilterConfig.Admits ⟨[], ["2001:db8::1"], true⟩ neighbour.client) ↔
      if neighbour.isProbe = true ∨ true = false then
        IPFilterConfig.Admits ⟨[], ["2001:db8::1"], true⟩ neighbour.client
      else IPFilterConfig.ReadRight ⟨[], ["2001:db8::1"], true⟩ neighbour.client :=
  filter_iff oneDenied neighbour ⟨[], ["2001:db8::1"], true⟩ rfl

end Ggid.Gateway
