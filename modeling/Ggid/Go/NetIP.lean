import Ggid.Go.Bytes
import Ggid.Go.Strings
import Ggid.Lib.BitPrefix

/-!
# Packages `net` and `net/netip`

The texts of addresses and of ranges of addresses, and which addresses a range contains. An address
has sixteen bytes; the IPv4 addresses are those behind a fixed prefix of twelve.

* `slash_not_mem` — the text of an address has no `'/'`;
* `contains_iff`  — an `IPNet` contains the addresses of the range its text denotes.
-/

namespace Ggid.Go.NetIP

open Ggid.Lib

-- ---------------------------------------------------------------------------
-- Addresses
-- ---------------------------------------------------------------------------

abbrev IP := { bs : Bytes // bs.length = 16 }

def v4InV6Prefix : Bytes := [0, 0, 0, 0, 0, 0, 0, 0, 0, 0, 255, 255]

/-- An IPv4 address, however it is written. -/
def IP.IsV4 (ip : IP) : Prop := ip.1.take 12 = v4InV6Prefix

instance (ip : IP) : Decidable ip.IsV4 :=
  inferInstanceAs (Decidable (ip.1.take 12 = v4InV6Prefix))

/-- `netip.Addr`; `is4` only if it was written as an IPv4 address. -/
structure Addr where
  ip   : IP
  is4  : Bool
  zone : List Char
  v4   : is4 = true → ip.IsV4

def Addr.bitLen (a : Addr) : Nat := if a.is4 = true then 32 else 128

-- ---------------------------------------------------------------------------
-- `netip.ParseAddr`
-- ---------------------------------------------------------------------------

/-- `parseIPv4Fields`, with the fields read so far, the value of the current one and its digits. -/
def parseIPv4Fields (fields : Bytes) (val digLen : Nat) : List Char → Option Bytes
  | [] => if fields.length < 3 then none else some (fields ++ [UInt8.ofNat val])
  | c :: s =>
    if c.isDigit = true then
      if digLen = 1 ∧ val = 0 then none
      else if 255 < val * 10 + (c.toNat - 48) then none
      else parseIPv4Fields fields (val * 10 + (c.toNat - 48)) (digLen + 1) s
    else if c = '.' then
      -- `digLen` is zero at the start and after another dot
      if digLen = 0 ∨ s = [] then none
      else if fields.length = 3 then none
      else parseIPv4Fields (fields ++ [UInt8.ofNat val]) 0 0 s
    else none

def hexValue (c : Char) : Option Nat :=
  if c.isDigit = true then some (c.toNat - 48)
  else if 'a' ≤ c ∧ c ≤ 'f' then some (c.toNat - 87)
  else if 'A' ≤ c ∧ c ≤ 'F' then some (c.toNat - 55)
  else none

/-- A hexadecimal number: how many digits it has, its value, and what follows. -/
def hexField (off acc : Nat) : List Char → Option (Nat × Nat × List Char)
  | [] => some (off, acc, [])
  | c :: s =>
    match hexValue c with
    | none => some (off, acc, c :: s)
    | some d =>
      if 3 < off then none
      else if 65535 < acc * 16 + d then none
      else hexField (off + 1) (acc * 16 + d) s

/-- The two bytes of a field. -/
def fieldBytes (acc : Nat) : Bytes := [UInt8.ofNat (acc / 256), UInt8.ofNat (acc % 256)]

/-- The loop of `parseIPv6` while there is room for this many fields. `ip` has the bytes so far; it
ends with them, the place of the ellipsis and what is left of the text. -/
def parseGroups : (room : Nat) → (ip : Bytes) → (ellipsis : Option Nat) → (s : List Char) →
    Option (Bytes × Option Nat × List Char)
  | 0, ip, ellipsis, s => some (ip, ellipsis, s)
  | room + 1, ip, ellipsis, s =>
    match hexField 0 0 s with
    | none => none
    | some (off, acc, rest) =>
      if off = 0 then none
      else
        match rest with
        | [] => some (ip ++ fieldBytes acc, ellipsis, [])
        | '.' :: _ =>
          -- an embedded IPv4 address, from the start of the field
          if ellipsis = none ∧ ip.length ≠ 12 then none
          else if 16 < ip.length + 4 then none
          else (parseIPv4Fields [] 0 0 s).map fun fields => (ip ++ fields, ellipsis, [])
        | [':'] => none
        | ':' :: ':' :: rest =>
          if ellipsis ≠ none then none
          else if rest = [] then some (ip ++ fieldBytes acc, some (ip.length + 2), [])
          else parseGroups room (ip ++ fieldBytes acc) (some (ip.length + 2)) rest
        | ':' :: rest => parseGroups room (ip ++ fieldBytes acc) ellipsis rest
        | _ => none

/-- Zeros go in for the ellipsis, at least one field of them. -/
def expand : Bytes × Option Nat × List Char → Option Bytes
  | (ip, ellipsis, rest) =>
    if rest ≠ [] then none
    else if ip.length < 16 then
      ellipsis.map fun place =>
        ip.take place ++ List.replicate (16 - ip.length) 0 ++ ip.drop place
    else if ellipsis ≠ none then none
    else some ip

/-- The bytes of an IPv6 address without its zone. -/
def ipv6Bytes : List Char → Option Bytes
  | [':', ':'] => some (List.replicate 16 0)
  | ':' :: ':' :: s => (parseGroups 8 [] (some 0) s).bind expand
  | s => (parseGroups 8 [] none s).bind expand

theorem length_parseIPv4Fields {fields bs : Bytes} {val digLen : Nat} {s : List Char}
    (hfields : fields.length ≤ 3) (h : parseIPv4Fields fields val digLen s = some bs) :
    bs.length = 4 := by
  induction s generalizing fields val digLen with
  | nil =>
    rw [parseIPv4Fields] at h
    split at h
    · cases h
    · cases h
      rw [List.length_append, List.length_singleton]
      omega
  | cons c s ih =>
    rw [parseIPv4Fields] at h
    split at h
    · split at h
      · cases h
      · split at h
        · cases h
        · exact ih hfields h
    · split at h
      · split at h
        · cases h
        · split at h
          · cases h
          · exact ih (by rw [List.length_append, List.length_singleton]; omega) h
      · cases h

/-- One turn of the loop: it ends with this field, or with an embedded IPv4 address, or goes on
behind a colon. -/
theorem parseGroups_cases {room : Nat} {ip : Bytes} {ellipsis : Option Nat} {s : List Char}
    {r : Bytes × Option Nat × List Char} (h : parseGroups (room + 1) ip ellipsis s = some r) :
    ∃ off acc rest, hexField 0 0 s = some (off, acc, rest) ∧
      ((rest = [] ∧ r = (ip ++ fieldBytes acc, ellipsis, [])) ∨
        (ip.length + 4 ≤ 16 ∧ ∃ fields, parseIPv4Fields [] 0 0 s = some fields ∧
          r = (ip ++ fields, ellipsis, [])) ∨
        (∃ place, rest = [':', ':'] ∧ r = (ip ++ fieldBytes acc, place, [])) ∨
        (∃ place rest', (rest = ':' :: ':' :: rest' ∨ rest = ':' :: rest') ∧
          parseGroups room (ip ++ fieldBytes acc) place rest' = some r)) := by
  rw [parseGroups] at h
  split at h
  · cases h
  · rename_i off acc rest hfield
    refine ⟨off, acc, rest, hfield, ?_⟩
    split at h
    · cases h
    · split at h
      · cases h
        exact Or.inl ⟨rfl, rfl⟩
      · split at h
        · cases h
        · split at h
          · cases h
          · obtain ⟨fields, hfields, rfl⟩ := Option.map_eq_some_iff.mp h
            exact Or.inr (Or.inl ⟨by omega, fields, hfields, rfl⟩)
      · cases h
      · rename_i rest'
        split at h
        · cases h
        · split at h
          · rename_i hnil
            cases h
            exact Or.inr (Or.inr (Or.inl ⟨_, by rw [hnil], rfl⟩))
          · exact Or.inr (Or.inr (Or.inr ⟨_, rest', Or.inl rfl, h⟩))
      · rename_i rest' _ _
        exact Or.inr (Or.inr (Or.inr ⟨_, rest', Or.inr rfl, h⟩))
      · cases h

theorem length_parseGroups {room : Nat} {ip : Bytes} {ellipsis : Option Nat} {s : List Char}
    {r : Bytes × Option Nat × List Char} (hroom : ip.length + 2 * room ≤ 16)
    (h : parseGroups room ip ellipsis s = some r) : r.1.length ≤ 16 := by
  induction room generalizing ip ellipsis s with
  | zero =>
    cases h
    exact hroom
  | succ room ih =>
    have hfield : ∀ acc, (ip ++ fieldBytes acc).length = ip.length + 2 := fun _ => by
      rw [List.length_append]
      rfl
    obtain ⟨off, acc, rest, -, ⟨-, rfl⟩ | ⟨hfits, fields, hfields, rfl⟩ | ⟨place, -, rfl⟩ |
      ⟨place, rest', -, hrest⟩⟩ := parseGroups_cases h
    · have hlength := hfield acc
      change (ip ++ fieldBytes acc).length ≤ 16
      omega
    · have hlength := length_parseIPv4Fields (by simp) hfields
      rw [List.length_append]
      omega
    · have hlength := hfield acc
      change (ip ++ fieldBytes acc).length ≤ 16
      omega
    · exact ih (by rw [hfield]; omega) hrest

theorem length_expand {r : Bytes × Option Nat × List Char} {bs : Bytes} (hr : r.1.length ≤ 16)
    (h : expand r = some bs) : bs.length = 16 := by
  obtain ⟨ip, ellipsis, rest⟩ := r
  have hle : ip.length ≤ 16 := hr
  rw [expand] at h
  split at h
  · cases h
  · split at h
    · obtain ⟨place, -, rfl⟩ := Option.map_eq_some_iff.mp h
      simp only [List.length_append, List.length_take, List.length_replicate, List.length_drop]
      omega
    · split at h
      · cases h
      · cases h
        omega

theorem length_ipv6Bytes {s : List Char} {bs : Bytes} (h : ipv6Bytes s = some bs) :
    bs.length = 16 := by
  rw [ipv6Bytes.eq_def] at h
  split at h
  · cases h
    exact List.length_replicate
  · obtain ⟨r, hr, hbs⟩ := Option.bind_eq_some_iff.mp h
    exact length_expand (length_parseGroups (by decide) hr) hbs
  · obtain ⟨r, hr, hbs⟩ := Option.bind_eq_some_iff.mp h
    exact length_expand (length_parseGroups (by decide) hr) hbs

/-- `AddrFrom4`. -/
def addrFrom4 (bs : Bytes) (h : bs.length = 4) : Addr :=
  ⟨⟨v4InV6Prefix ++ bs, by rw [List.length_append, h]; rfl⟩, true, [], fun _ =>
    List.take_left' rfl⟩

def parseIPv4 (s : List Char) : Option Addr :=
  (parseIPv4Fields [] 0 0 s).pmap addrFrom4 fun _ h => length_parseIPv4Fields (by simp) h

/-- `AddrFrom16` with a zone. -/
def addrFrom16 (zone : List Char) (bs : Bytes) (h : bs.length = 16) : Addr :=
  ⟨⟨bs, h⟩, false, zone, by simp⟩

/-- The text ends at the zone, which may not be empty. -/
def parseIPv6 (s : List Char) : Option Addr :=
  let zone := s.dropWhile fun c => c != '%'
  if zone = ['%'] then none
  else
    (ipv6Bytes (s.takeWhile fun c => c != '%')).pmap (addrFrom16 (zone.drop 1)) fun _ h =>
      length_ipv6Bytes h

def parseAddr (s : List Char) : Option Addr :=
  match s.find? fun c => c == '.' || c == ':' || c == '%' with
  | some '.' => parseIPv4 s
  | some ':' => parseIPv6 s
  | _ => none

/-- Package `net` has no addresses with a zone. -/
def parseUnzoned (s : List Char) : Option Addr := (parseAddr s).filter fun a => a.zone == []

/-- `net.ParseIP`. -/
def parseIP (s : List Char) : Option IP := (parseUnzoned s).map Addr.ip

-- ---------------------------------------------------------------------------
-- The characters of an address
-- ---------------------------------------------------------------------------

theorem slash_not_mem_fields {fields bs : Bytes} {val digLen : Nat} {s : List Char}
    (h : parseIPv4Fields fields val digLen s = some bs) : '/' ∉ s := by
  induction s generalizing fields val digLen with
  | nil => exact List.not_mem_nil
  | cons c s ih =>
    rw [parseIPv4Fields] at h
    rw [List.mem_cons, not_or]
    split at h
    · rename_i hdigit
      have hne : '/' ≠ c := by
        rintro rfl
        exact absurd hdigit (by decide)
      split at h
      · cases h
      · split at h
        · cases h
        · exact ⟨hne, ih h⟩
    · split at h
      · rename_i hdot
        have hne : '/' ≠ c := by
          rw [hdot]
          decide
        split at h
        · cases h
        · split at h
          · cases h
          · exact ⟨hne, ih h⟩
      · cases h

theorem slash_mem_of_hexField {off acc off' acc' : Nat} {s rest : List Char}
    (h : hexField off acc s = some (off', acc', rest)) (hs : '/' ∈ s) : '/' ∈ rest := by
  induction s generalizing off acc with
  | nil => exact absurd hs List.not_mem_nil
  | cons c s ih =>
    rw [hexField] at h
    split at h
    · cases h
      exact hs
    · rename_i d hd
      have hne : '/' ≠ c := by
        rintro rfl
        cases hd
      split at h
      · cases h
      · split at h
        · cases h
        · exact ih h (List.mem_of_ne_of_mem hne hs)

/-- The loop does not get past a `'/'`. -/
theorem slash_mem_of_parseGroups {room : Nat} {ip : Bytes} {ellipsis : Option Nat} {s : List Char}
    {r : Bytes × Option Nat × List Char} (h : parseGroups room ip ellipsis s = some r)
    (hs : '/' ∈ s) : '/' ∈ r.2.2 := by
  induction room generalizing ip ellipsis s with
  | zero =>
    cases h
    exact hs
  | succ room ih =>
    obtain ⟨off, acc, rest, hfield, hcases⟩ := parseGroups_cases h
    have hrest : '/' ∈ rest := slash_mem_of_hexField hfield hs
    obtain ⟨rfl, -⟩ | ⟨-, fields, hfields, -⟩ | ⟨place, rfl, -⟩ | ⟨place, rest', hcolon, hgo⟩ :=
      hcases
    · exact absurd hrest List.not_mem_nil
    · exact absurd hs (slash_not_mem_fields hfields)
    · exact absurd hrest (by decide)
    · obtain rfl | rfl := hcolon
      · exact ih hgo (by simpa using hrest)
      · exact ih hgo (by simpa using hrest)

theorem slash_not_mem_of_expand {r : Bytes × Option Nat × List Char} {bs : Bytes}
    (h : expand r = some bs) : '/' ∉ r.2.2 := by
  obtain ⟨ip, ellipsis, rest⟩ := r
  rw [expand] at h
  split at h
  · cases h
  · rename_i hrest
    rw [not_not.mp hrest]
    exact List.not_mem_nil

theorem slash_not_mem_ipv6 {s : List Char} {bs : Bytes} (h : ipv6Bytes s = some bs) : '/' ∉ s := by
  rw [ipv6Bytes.eq_def] at h
  split at h
  · decide
  · rename_i s _
    obtain ⟨r, hr, hbs⟩ := Option.bind_eq_some_iff.mp h
    intro hmem
    have hs : '/' ∈ s := by simpa using hmem
    exact slash_not_mem_of_expand hbs (slash_mem_of_parseGroups hr hs)
  · obtain ⟨r, hr, hbs⟩ := Option.bind_eq_some_iff.mp h
    intro hmem
    exact slash_not_mem_of_expand hbs (slash_mem_of_parseGroups hr hmem)

theorem slash_not_mem {s : List Char} {a : Addr} (h : parseUnzoned s = some a) : '/' ∉ s := by
  obtain ⟨haddr, hzone⟩ := Option.filter_eq_some_iff.mp h
  rw [parseAddr] at haddr
  split at haddr
  · obtain ⟨bs, -, hfields, -⟩ := Option.pmap_eq_some_iff.mp haddr
    exact slash_not_mem_fields hfields
  · rw [parseIPv6] at haddr
    split at haddr
    · cases haddr
    · rename_i hpercent
      obtain ⟨bs, hbs, hbytes, hofBytes⟩ := Option.pmap_eq_some_iff.mp haddr
      have hdrop : (s.dropWhile fun c => c != '%').drop 1 = [] := by
        rw [hofBytes] at hzone
        exact eq_of_beq hzone
      have hnone : (s.dropWhile fun c => c != '%') = [] := by
        cases hs : s.dropWhile fun c => c != '%' with
        | nil => rfl
        | cons c rest =>
          have hrest : rest = [] := by simpa [hs] using hdrop
          have hc := List.head?_dropWhile_not (fun c => c != '%') s
          rw [hs] at hc
          have hpc : c = '%' := by simpa using hc
          rw [hs, hrest, hpc] at hpercent
          exact absurd rfl hpercent
      have hwhole : (s.takeWhile fun c => c != '%') = s := by
        have happend := List.takeWhile_append_dropWhile (p := fun c => c != '%') (l := s)
        rwa [hnone, List.append_nil] at happend
      rw [hwhole] at hbytes
      exact slash_not_mem_ipv6 hbytes
  · cases haddr

-- ---------------------------------------------------------------------------
-- `net.ParseCIDR`
-- ---------------------------------------------------------------------------

/-- `dtoi`: a decimal number and how many digits it has. -/
def dtoi (n i : Nat) : List Char → Option (Nat × Nat)
  | [] => if i = 0 then none else some (n, i)
  | c :: s =>
    if c.isDigit = true then
      if 0xFFFFFF ≤ n * 10 + (c.toNat - 48) then none
      else dtoi (n * 10 + (c.toNat - 48)) (i + 1) s
    else if i = 0 then none
    else some (n, i)

/-- An address and the number of leading bits that count. -/
structure Prefix where
  addr : Addr
  ones : Nat
  le   : ones ≤ addr.bitLen

/-- What `ParseCIDR` reads: an address before the first `'/'`, and a number behind it. -/
def parsePrefix (s : List Char) : Option Prefix :=
  match s.dropWhile fun c => c ≠ '/' with
  | [] => none
  | _ :: mask =>
    match parseUnzoned (s.takeWhile fun c => c ≠ '/') with
    | none => none
    | some a =>
      match dtoi 0 0 mask with
      | none => none
      | some (n, i) => if h : i = mask.length ∧ n ≤ a.bitLen then some ⟨a, n, h.2⟩ else none

/-- `net.IPNet`. -/
structure IPNet where
  ip   : Bytes
  mask : Bytes

/-- `IP.To4`; none stands for `nil`. -/
def to4 (ip : Bytes) : Option Bytes :=
  if ip.length = 4 then some ip
  else if ip.length = 16 ∧ ip.take 12 = v4InV6Prefix then some (ip.drop 12)
  else none

/-- `IP.Mask`; where the lengths do not fit, nothing is left. -/
def maskIP (ip m : Bytes) : Bytes :=
  let m :=
    if m.length = 16 ∧ ip.length = 4 ∧ m.take 12 = List.replicate 12 255 then m.drop 12 else m
  let ip := if m.length = 4 ∧ ip.length = 16 ∧ ip.take 12 = v4InV6Prefix then ip.drop 12 else ip
  if ip.length = m.length then masked m ip else []

/-- `CIDRMask` is `mask`. -/
def Prefix.network (p : Prefix) : IPNet :=
  ⟨maskIP p.addr.ip.1 (mask p.ones (p.addr.bitLen / 8)), mask p.ones (p.addr.bitLen / 8)⟩

def parseCIDR (s : List Char) : Option IPNet := (parsePrefix s).map Prefix.network

/-- `networkNumberAndMask`. -/
def IPNet.numberAndMask (n : IPNet) : Option (Bytes × Bytes) :=
  match (to4 n.ip).or (if n.ip.length = 16 then some n.ip else none) with
  | none => none
  | some ip =>
    if n.mask.length = 4 then if ip.length = 4 then some (ip, n.mask) else none
    else if n.mask.length = 16 then
      if ip.length = 4 then some (ip, n.mask.drop 12) else some (ip, n.mask)
    else none

def IPNet.contains (n : IPNet) (ip : Bytes) : Bool :=
  let ip := (to4 ip).getD ip
  match n.numberAndMask with
  | none => false
  | some (nn, m) => ip.length == nn.length && masked m nn == masked m ip

-- ---------------------------------------------------------------------------
-- Ranges
-- ---------------------------------------------------------------------------

/-- The addresses with the first bits of `base`. -/
structure Range where
  base : IP
  ones : Nat

/-- A range of IPv4 addresses. -/
def Range.IsV4 (r : Range) : Prop := r.base.IsV4 ∧ 96 ≤ r.ones

/-- The IPv4 addresses are a family of their own: a range of IPv6 addresses contains none of them,
however wide it is. -/
instance : Membership IP Range :=
  ⟨fun r x => SamePrefix r.ones r.base.1 x.1 ∧ (x.IsV4 → r.IsV4)⟩

theorem Range.mem_def {r : Range} {x : IP} :
    x ∈ r ↔ SamePrefix r.ones r.base.1 x.1 ∧ (x.IsV4 → r.IsV4) := Iff.rfl

/-- The range of one address. -/
def Range.single (a : IP) : Range := ⟨a, 128⟩

theorem Range.mem_single {a x : IP} : x ∈ Range.single a ↔ x = a := by
  have hall : SamePrefix 128 a.1 x.1 ↔ a.1 = x.1 :=
    samePrefix_all (by rw [a.2]) (by rw [x.2])
  rw [Range.mem_def, Range.single, hall]
  constructor
  · intro h
    exact (Subtype.ext h.1).symm
  · intro h
    rw [h]
    exact ⟨rfl, fun hv4 => ⟨hv4, (by decide : 96 ≤ 128)⟩⟩

/-- The range a text denotes. The bits of an IPv4 text are counted behind the fixed prefix. -/
def Prefix.range (p : Prefix) : Range :=
  ⟨p.addr.ip, if p.addr.is4 = true then 96 + p.ones else p.ones⟩

@[simp] theorem Prefix.range_base (p : Prefix) : p.range.base = p.addr.ip := rfl

/-- Behind the fixed prefix, addresses agree in the bits of their last four bytes. -/
theorem samePrefix_v4 {n : Nat} {a x : IP} (ha : a.IsV4) :
    SamePrefix (96 + n) a.1 x.1 ↔ x.IsV4 ∧ SamePrefix n (a.1.drop 12) (x.1.drop 12) := by
  have hsplit := samePrefix_add 12 (n := n) (a := a.1) (b := x.1) (by rw [a.2]; decide)
    (by rw [x.2]; decide)
  rw [show 96 + n = 8 * 12 + n from rfl, hsplit, ha, IP.IsV4]
  exact and_congr_left fun _ => eq_comm

theorem to4_ip (x : IP) : to4 x.1 = if x.IsV4 then some (x.1.drop 12) else none := by
  rw [to4, if_neg (by rw [x.2]; decide)]
  simp only [x.2, true_and]
  rfl

theorem network_v4 {p : Prefix} (h : p.addr.is4 = true) :
    p.network = ⟨masked (mask p.ones 4) (p.addr.ip.1.drop 12), mask p.ones 4⟩ := by
  have hv4 : p.addr.ip.1.take 12 = v4InV6Prefix := p.addr.v4 h
  have hlength : (p.addr.ip.1.drop 12).length = 4 := by rw [List.length_drop, p.addr.ip.2]
  simp [Prefix.network, Addr.bitLen, h, maskIP, length_mask, p.addr.ip.2, hv4, hlength]

theorem network_v6 {p : Prefix} (h : ¬ p.addr.is4 = true) :
    p.network = ⟨masked (mask p.ones 16) p.addr.ip.1, mask p.ones 16⟩ := by
  simp [Prefix.network, Addr.bitLen, h, maskIP, length_mask, p.addr.ip.2]

/-- A mask keeps the fixed prefix, and makes it out of nothing else, if it goes over all of it. -/
theorem take_masked_eq_iff {n : Nat} {a : IP} :
    (masked (mask n 16) a.1).take 12 = v4InV6Prefix ↔ a.IsV4 ∧ 96 ≤ n := by
  have hkept : 96 ≤ n → (masked (mask n 16) a.1).take 12 = a.1.take 12 := fun hle => by
    have htake : (masked (mask n a.1.length) a.1).take 12 = a.1.take 12 := take_masked hle
    rwa [a.2] at htake
  constructor
  · intro h
    have hfull : (masked (mask n a.1.length) a.1)[11]? = some 255 := by
      rw [a.2, ← List.getElem?_take_of_lt (by decide : 11 < 12), h]
      rfl
    have hle : 96 ≤ n := le_of_full hfull
    exact ⟨(hkept hle).symm.trans h, hle⟩
  · rintro ⟨hv4, hle⟩
    rw [hkept hle]
    exact hv4

theorem numberAndMask_v4 {p : Prefix} (h : p.range.IsV4) : p.network.numberAndMask =
    some (masked (mask (p.range.ones - 96) 4) (p.addr.ip.1.drop 12),
      mask (p.range.ones - 96) 4) := by
  have hlength : (p.addr.ip.1.drop 12).length = 4 := by rw [List.length_drop, p.addr.ip.2]
  by_cases his4 : p.addr.is4 = true
  · have hones : p.range.ones - 96 = p.ones := by simp [Prefix.range, his4]
    rw [network_v4 his4, hones]
    simp [IPNet.numberAndMask, to4, length_masked, length_mask, hlength]
  · have hones : p.range.ones = p.ones := by simp [Prefix.range, his4]
    rw [Range.IsV4, hones] at h
    have hprefix : (masked (mask p.ones 16) p.addr.ip.1).take 12 = v4InV6Prefix :=
      take_masked_eq_iff.mpr h
    have hdrop : mask (p.ones - 96) 4 = (mask p.ones 16).drop 12 := (drop_mask 12 p.ones 4).symm
    rw [network_v6 his4, hones, hdrop, ← drop_masked]
    simp [IPNet.numberAndMask, to4, length_masked, length_mask, p.addr.ip.2, hprefix]

theorem numberAndMask_v6 {p : Prefix} (h : ¬ p.range.IsV4) : p.network.numberAndMask =
    some (masked (mask p.range.ones 16) p.addr.ip.1, mask p.range.ones 16) := by
  by_cases his4 : p.addr.is4 = true
  · refine absurd ⟨p.addr.v4 his4, ?_⟩ h
    simp [Prefix.range, his4]
  · have hones : p.range.ones = p.ones := by simp [Prefix.range, his4]
    have hprefix : (masked (mask p.ones 16) p.addr.ip.1).take 12 ≠ v4InV6Prefix := fun heq =>
      h (by rw [Range.IsV4, hones]; exact take_masked_eq_iff.mp heq)
    rw [network_v6 his4, hones]
    simp [IPNet.numberAndMask, to4, length_masked, length_mask, p.addr.ip.2, hprefix]

/-- `Contains` is membership in the range. -/
theorem contains_iff (p : Prefix) (x : IP) : p.network.contains x.1 = true ↔ x ∈ p.range := by
  have hdrop : ∀ a : IP, (a.1.drop 12).length = 4 := fun a => by rw [List.length_drop, a.2]
  rw [IPNet.contains, to4_ip, Range.mem_def]
  by_cases hr : p.range.IsV4
  · have hones : p.range.ones = 96 + (p.range.ones - 96) := by
      have := hr.2
      omega
    have hbase : p.range.base.IsV4 := hr.1
    rw [numberAndMask_v4 hr, hones, samePrefix_v4 hbase]
    by_cases hx : x.IsV4
    · have hsame := @masked_eq_iff (p.range.ones - 96) _ _
        ((hdrop p.addr.ip).trans (hdrop x).symm)
      rw [hdrop] at hsame
      simp [hx, hr, length_masked, length_mask, hdrop, masked_masked, hsame]
    · simp [hx, length_masked, length_mask, hdrop, x.2]
  · rw [numberAndMask_v6 hr]
    by_cases hx : x.IsV4
    · simp [hx, hr, length_masked, length_mask, hdrop, p.addr.ip.2]
    · have hsame := @masked_eq_iff p.range.ones _ _ (p.addr.ip.2.trans x.2.symm)
      rw [p.addr.ip.2] at hsame
      simp [hx, length_masked, length_mask, p.addr.ip.2, x.2, masked_masked, hsame]

-- ---------------------------------------------------------------------------
-- `net.SplitHostPort`
-- ---------------------------------------------------------------------------

/-- The host and the port, which starts after the last colon. A host may have colons inside
brackets only. -/
def splitHostPort (s : List Char) : Option (List Char × List Char) :=
  let port := (s.reverse.takeWhile fun c => c != ':').reverse
  let host := s.take (s.length - port.length - 1)
  if ':' ∉ s then none
  else if s.head? = some '[' then
    let inside := s.takeWhile fun c => c != ']'
    if host ≠ inside ++ [']'] then none
    else if '[' ∈ s.drop 1 then none
    else if ']' ∈ s.drop (inside.length + 1) then none
    else some (inside.drop 1, port)
  else if ':' ∈ host ∨ '[' ∈ s ∨ ']' ∈ s then none
  else some (host, port)

end Ggid.Go.NetIP
