import Ggid.Go.Value

/-!
# Policy engine — chains of delegations

`DelegationValidator.ValidateChain` is to perform all checks on a delegation chain. It looks at
its length, at the expiry of each link, at the delegatees and at the two ends of the chain; the
check that scopes only narrow is there, but `ValidateChain` does not call it, and nothing
compares the delegator of a link with the delegatee before it.

* `validateChain_valid` — the chains that are reported as valid;
* `judges_iff`          — for which chains that report is right.
-/

namespace Ggid.Policy

open Ggid.Go

-- ---------------------------------------------------------------------------
-- The validator
-- ---------------------------------------------------------------------------

structure DelegationValidationResult where
  valid    : Bool
  reason   : String
  maxDepth : Int := 0
  deriving DecidableEq

/-- A single link of a delegation chain; a link without `ExpiresAt` does not expire. -/
structure DelegationLink where
  delegatorID : UUID
  delegateeID : UUID
  scopes      : List String
  expiresAt   : Option Time
  deriving DecidableEq

structure DelegationValidator where
  maxDepth : Int

/-- `now.After(*link.ExpiresAt)` of a link that has an expiry. -/
def DelegationLink.expired (link : DelegationLink) (now : Time) : Bool :=
  link.expiresAt.any fun t => decide (t < now)

namespace DelegationValidator

def newDelegationValidator (maxDepth : Int) : DelegationValidator :=
  ⟨if maxDepth ≤ 0 then 3 else maxDepth⟩

/-- Unlike the constructor it takes any depth. -/
def setMaxDepth (dv : DelegationValidator) (depth : Int) : DelegationValidator :=
  { dv with maxDepth := depth }

def checkDelegationDepth (dv : DelegationValidator) (chain : List DelegationLink) :
    DelegationValidationResult :=
  if chain.length = 0 then ⟨true, "empty chain", 0⟩
  else if (chain.length : Int) > dv.maxDepth then
    ⟨false, "chain depth " ++ toString chain.length ++ " exceeds max " ++ toString dv.maxDepth,
      dv.maxDepth⟩
  else ⟨true, "depth within limit", dv.maxDepth⟩

/-- Nothing but the tests calls it. -/
def checkScopeNarrowing (delegatedScopes : List String) : List String → Bool × String
  | [] => (true, "")
  | req :: rest =>
    if !delegatedScopes.contains req && !delegatedScopes.contains "*" then
      (false, "scope '" ++ req ++ "' not in delegated scopes")
    else checkScopeNarrowing delegatedScopes rest

/-- The loop of `CheckDelegationExpiry` from the link number `i`. -/
def expiryFrom (now : Time) (i : Nat) : List DelegationLink → Bool × String
  | [] => (true, "")
  | link :: rest =>
    if link.expired now then (false, "link " ++ toString i ++ " expired")
    else expiryFrom now (i + 1) rest

def checkDelegationExpiry (now : Time) (chain : List DelegationLink) : Bool × String :=
  expiryFrom now 0 chain

/-- The first delegatee that an earlier link has as well. -/
def revisited (visited : List UUID) : List DelegationLink → Option UUID
  | [] => none
  | link :: rest =>
    if visited.contains link.delegateeID = true then some link.delegateeID
    else revisited (link.delegateeID :: visited) rest

def circularAt (id : UUID) : Bool × String := (true, "circular delegation at user " ++ id.string)

def checkCircularDelegation (chain : List DelegationLink) : Bool × String :=
  match revisited [] chain with
  | some id => circularAt id
  | none =>
    match chain.head?, chain.getLast? with
    | some first, some last =>
      if 2 ≤ chain.length ∧ first.delegatorID = last.delegateeID then circularAt last.delegateeID
      else (false, "")
    | _, _ => (false, "")

def validateChain (dv : DelegationValidator) (now : Time) (chain : List DelegationLink) :
    DelegationValidationResult :=
  let depthResult := dv.checkDelegationDepth chain
  if !depthResult.valid then depthResult
  else
    let (ok, reason) := checkDelegationExpiry now chain
    if !ok then { valid := false, reason := reason }
    else
      let (isCircular, reason) := checkCircularDelegation chain
      if isCircular then { valid := false, reason := reason }
      else if chain.any (fun link => link.delegatorID == link.delegateeID) then
        { valid := false, reason := "self-delegation is not allowed" }
      else ⟨true, "chain is valid", dv.maxDepth⟩

-- ---------------------------------------------------------------------------
-- What the checks decide
-- ---------------------------------------------------------------------------

theorem checkDelegationDepth_valid (dv : DelegationValidator) (chain : List DelegationLink) :
    (dv.checkDelegationDepth chain).valid = true ↔
      chain = [] ∨ (chain.length : Int) ≤ dv.maxDepth := by
  rw [checkDelegationDepth]
  by_cases hnil : chain.length = 0
  · simp [List.length_eq_zero_iff.mp hnil]
  · have hne : chain ≠ [] := fun h => hnil (List.length_eq_zero_iff.mpr h)
    rw [if_neg hnil, or_iff_right hne, ← Int.not_lt]
    by_cases hlong : (chain.length : Int) > dv.maxDepth <;> simp [hlong]

/-- A requested scope is covered by a delegated one. -/
def Covered (delegatedScopes : List String) (req : String) : Prop :=
  req ∈ delegatedScopes ∨ "*" ∈ delegatedScopes

theorem checkScopeNarrowing_ok (delegatedScopes requestedScopes : List String) :
    (checkScopeNarrowing delegatedScopes requestedScopes).1 = true ↔
      ∀ req ∈ requestedScopes, Covered delegatedScopes req := by
  induction requestedScopes with
  | nil => simp [checkScopeNarrowing]
  | cons req rest ih =>
    rw [checkScopeNarrowing, List.forall_mem_cons, ← ih, Covered]
    by_cases h : req ∈ delegatedScopes ∨ "*" ∈ delegatedScopes
    · have hno : ¬ (!delegatedScopes.contains req && !delegatedScopes.contains "*") = true := by
        rcases h with h | h <;> simp [h]
      rw [if_neg hno, and_iff_right h]
    · obtain ⟨hreq, hstar⟩ := not_or.mp h
      simp [hreq, hstar]

theorem expiryFrom_ok (now : Time) (i : Nat) (chain : List DelegationLink) :
    (expiryFrom now i chain).1 = true ↔ ∀ link ∈ chain, link.expired now = false := by
  induction chain generalizing i with
  | nil => simp [expiryFrom]
  | cons link rest ih =>
    rw [expiryFrom, List.forall_mem_cons, ← ih (i + 1)]
    cases h : link.expired now <;> simp

/-- What the loop over the visited users finds, from any set of users visited before. -/
theorem revisited_eq_none (visited : List UUID) (chain : List DelegationLink) :
    revisited visited chain = none ↔
      (∀ link ∈ chain, link.delegateeID ∉ visited) ∧ (chain.map (·.delegateeID)).Nodup := by
  induction chain generalizing visited with
  | nil => simp [revisited]
  | cons link rest ih =>
    rw [revisited, List.map_cons, List.nodup_cons, List.forall_mem_cons]
    by_cases hmem : link.delegateeID ∈ visited
    · simp [hmem]
    · have hnew : (∀ l ∈ rest, l.delegateeID ∉ link.delegateeID :: visited) ↔
          (∀ l ∈ rest, l.delegateeID ∉ visited) ∧
            link.delegateeID ∉ rest.map (·.delegateeID) := by
        simp only [List.mem_cons, not_or, List.mem_map, not_exists, not_and]
        exact ⟨fun h => ⟨fun l hl => (h l hl).2, fun l hl => (h l hl).1⟩,
          fun h l hl => ⟨h.2 l hl, h.1 l hl⟩⟩
      rw [if_neg fun h => hmem (List.contains_iff_mem.mp h), ih, hnew]
      simp only [hmem, not_false_eq_true, true_and, and_assoc]

/-- The chain comes back to the user it started from. -/
def Returns (chain : List DelegationLink) : Prop :=
  2 ≤ chain.length ∧ chain.head?.map (·.delegatorID) = chain.getLast?.map (·.delegateeID)

theorem checkCircularDelegation_none (chain : List DelegationLink) :
    (checkCircularDelegation chain).1 = false ↔
      (chain.map (·.delegateeID)).Nodup ∧ ¬ Returns chain := by
  have hnone := revisited_eq_none [] chain
  simp only [List.not_mem_nil, not_false_eq_true, implies_true, true_and] at hnone
  rw [checkCircularDelegation, ← hnone]
  cases hrev : revisited [] chain with
  | some id => simp [circularAt]
  | none =>
    rw [Returns]
    cases hhead : chain.head? with
    | none =>
      obtain rfl := List.head?_eq_none_iff.mp hhead
      simp
    | some first =>
      cases hlast : chain.getLast? with
      | none =>
        obtain rfl := List.getLast?_eq_none_iff.mp hlast
        simp at hhead
      | some last =>
        by_cases h : 2 ≤ chain.length ∧ first.delegatorID = last.delegateeID
        · simp [h, circularAt]
        · simp [h]

-- ---------------------------------------------------------------------------
-- Chains
-- ---------------------------------------------------------------------------

/-- Each link is handed on by the user whom the link before it was handed to. -/
def Contiguous (chain : List DelegationLink) : Prop :=
  chain.IsChain fun link next => next.delegatorID = link.delegateeID

/-- The users along the chain. -/
def usersOf : List DelegationLink → List UUID
  | [] => []
  | link :: rest => link.delegatorID :: (link :: rest).map (·.delegateeID)

/-- Each link hands on some of the scopes of the link before it. -/
def Narrows (chain : List DelegationLink) : Prop :=
  chain.IsChain fun link next => ∀ req ∈ next.scopes, Covered link.scopes req

/-- A delegation chain as it is meant to be. -/
structure Sound (dv : DelegationValidator) (now : Time) (chain : List DelegationLink) : Prop where
  short   : (chain.length : Int) ≤ dv.maxDepth
  current : ∀ link ∈ chain, link.expired now = false
  simple  : (usersOf chain).Nodup
  narrows : Narrows chain

/-- A chain that none of the checks turns down. -/
structure Passes (dv : DelegationValidator) (now : Time) (chain : List DelegationLink) : Prop where
  short      : chain = [] ∨ (chain.length : Int) ≤ dv.maxDepth
  current    : ∀ link ∈ chain, link.expired now = false
  delegatees : (chain.map (·.delegateeID)).Nodup
  leaves     : ¬ Returns chain
  noSelf     : ∀ link ∈ chain, link.delegatorID ≠ link.delegateeID

theorem validateChain_valid (dv : DelegationValidator) (now : Time) (chain : List DelegationLink) :
    (dv.validateChain now chain).valid = true ↔ Passes dv now chain := by
  have hdepth := checkDelegationDepth_valid dv chain
  have hexpiry := expiryFrom_ok now 0 chain
  have hcircular := checkCircularDelegation_none chain
  have hself : chain.any (fun link => link.delegatorID == link.delegateeID) = false ↔
      ∀ link ∈ chain, link.delegatorID ≠ link.delegateeID := by simp
  rw [← checkDelegationExpiry] at hexpiry
  constructor
  · intro hvalid
    rw [validateChain] at hvalid
    cases hd : (dv.checkDelegationDepth chain).valid with
    | false => simp [hd] at hvalid
    | true =>
      cases he : (checkDelegationExpiry now chain).1 with
      | false => simp [hd, he] at hvalid
      | true =>
        cases hc : (checkCircularDelegation chain).1 with
        | true => simp [hd, he, hc] at hvalid
        | false =>
          cases hs : chain.any (fun link => link.delegatorID == link.delegateeID) with
          | true => simp [hd, he, hc, hs] at hvalid
          | false =>
            exact ⟨hdepth.mp hd, hexpiry.mp he, (hcircular.mp hc).1, (hcircular.mp hc).2,
              hself.mp hs⟩
  · intro h
    have hd := hdepth.mpr h.short
    have he := hexpiry.mpr h.current
    have hc := hcircular.mpr ⟨h.delegatees, h.leaves⟩
    have hs := hself.mpr h.noSelf
    rw [validateChain]
    simp [hd, he, hc, hs]

/-- The first delegator is none of the delegatees. -/
def StaysAway (chain : List DelegationLink) : Prop :=
  ∀ link ∈ chain, chain.head?.map (·.delegatorID) ≠ some link.delegateeID

theorem usersOf_nodup (chain : List DelegationLink) :
    (usersOf chain).Nodup ↔ StaysAway chain ∧ (chain.map (·.delegateeID)).Nodup := by
  cases chain with
  | nil => simp [usersOf, StaysAway]
  | cons link rest =>
    have haway : link.delegatorID ∉ (link :: rest).map (·.delegateeID) ↔
        StaysAway (link :: rest) := by
      simp only [List.mem_map, not_exists, not_and, StaysAway, List.head?_cons, Option.map_some,
        ne_eq, Option.some.injEq]
      exact ⟨fun h l hl heq => h l hl heq.symm, fun h l hl heq => h l hl heq.symm⟩
    rw [usersOf, List.nodup_cons, haway]

theorem not_returns_of_staysAway {chain : List DelegationLink} (h : StaysAway chain) :
    ¬ Returns chain := by
  rintro ⟨hlen, hends⟩
  cases hlast : chain.getLast? with
  | none =>
    obtain rfl := List.getLast?_eq_none_iff.mp hlast
    simp at hlen
  | some last =>
    rw [hlast, Option.map_some] at hends
    exact h last (List.mem_of_getLast? hlast) hends

/-- Along a contiguous chain the delegator of a link is the user before its delegatee. -/
theorem noSelf_of_nodup {chain : List DelegationLink} (hc : Contiguous chain)
    (hnodup : (usersOf chain).Nodup) : ∀ link ∈ chain, link.delegatorID ≠ link.delegateeID := by
  induction chain with
  | nil => simp
  | cons link rest ih =>
    rw [usersOf, List.map_cons, List.nodup_cons] at hnodup
    obtain ⟨haway, hnodup⟩ := hnodup
    rw [List.forall_mem_cons]
    refine ⟨fun heq => haway (heq ▸ List.mem_cons_self), ?_⟩
    cases rest with
    | nil => simp
    | cons next rest =>
      rw [Contiguous, List.isChain_cons_cons] at hc
      refine ih hc.2 ?_
      rw [usersOf, hc.1]
      exact hnodup

theorem Sound.passes {dv : DelegationValidator} {now : Time} {chain : List DelegationLink}
    (hc : Contiguous chain) (h : Sound dv now chain) : Passes dv now chain := by
  obtain ⟨haway, hdelegatees⟩ := (usersOf_nodup chain).mp h.simple
  exact ⟨.inr h.short, h.current, hdelegatees, not_returns_of_staysAway haway,
    noSelf_of_nodup hc h.simple⟩

theorem Passes.sound_iff_narrows {dv : DelegationValidator} {now : Time} {chain : List DelegationLink}
    (h : Passes dv now chain) :
    Sound dv now chain ↔ Narrows chain ∧ StaysAway chain ∧ (chain = [] → 0 ≤ dv.maxDepth) := by
  constructor
  · intro hs
    refine ⟨hs.narrows, ((usersOf_nodup chain).mp hs.simple).1, fun hnil => ?_⟩
    have := hs.short
    simpa [hnil] using this
  · rintro ⟨hnarrows, haway, hempty⟩
    refine ⟨?_, h.current, (usersOf_nodup chain).mpr ⟨haway, h.delegatees⟩, hnarrows⟩
    rcases h.short with hnil | hshort
    · simpa [hnil] using hempty hnil
    · exact hshort

-- ---------------------------------------------------------------------------
-- When the report is right
-- ---------------------------------------------------------------------------

/-- `ValidateChain` tells the sound contiguous chains from the others, and takes no chain with
a gap. -/
def Judges (dv : DelegationValidator) (now : Time) (chain : List DelegationLink) : Prop :=
  (Contiguous chain → ((dv.validateChain now chain).valid = true ↔ Sound dv now chain)) ∧
    (¬ Contiguous chain → (dv.validateChain now chain).valid = false)

/-- The report is right about a chain that a check turns down. Of the others it is right about
those without a gap whose scopes narrow and that do not come back, between their ends, to the
user they started from. -/
theorem judges_iff (dv : DelegationValidator) (now : Time) (chain : List DelegationLink) :
    Judges dv now chain ↔
      ¬ Passes dv now chain ∨
        (Contiguous chain ∧ Narrows chain ∧ StaysAway chain ∧
          (chain = [] → 0 ≤ dv.maxDepth)) := by
  have hvalid := validateChain_valid dv now chain
  rw [Judges, ← Bool.not_eq_true, hvalid]
  by_cases hp : Passes dv now chain
  · by_cases hc : Contiguous chain
    · simp only [hp, hc, not_true_eq_false, false_or, true_and, true_iff, forall_const,
        false_implies, and_true]
      exact hp.sound_iff_narrows
    · simp [hp, hc]
  · simp only [hp, not_false_eq_true, true_or, iff_true, implies_true, and_true, false_iff]
    exact fun hc hs => hp (hs.passes hc)

/-- Alice hands on reading, and Bob hands on writing. -/
def widened : List DelegationLink :=
  [⟨1#128, 2#128, ["read"], none⟩, ⟨2#128, 3#128, ["write"], none⟩]

/-- Bob hands back to Alice, who hands on to Carol. -/
def handedBack : List DelegationLink :=
  [⟨1#128, 2#128, ["read"], none⟩, ⟨2#128, 1#128, ["read"], none⟩,
    ⟨1#128, 3#128, ["read"], none⟩]

/-- What is handed to Bob is handed on by Carol. -/
def gapped : List DelegationLink :=
  [⟨1#128, 2#128, ["read"], none⟩, ⟨3#128, 4#128, ["read"], none⟩]

theorem accepts_unsound_chains :
    ¬ Judges (newDelegationValidator 3) 0 widened ∧
      ¬ Judges (newDelegationValidator 3) 0 handedBack ∧
      ¬ Judges (newDelegationValidator 3) 0 gapped := by
  have hwidened : ((newDelegationValidator 3).validateChain 0 widened).valid = true := by decide
  have hhandedBack : ((newDelegationValidator 3).validateChain 0 handedBack).valid = true := by
    decide
  have hgapped : ((newDelegationValidator 3).validateChain 0 gapped).valid = true := by decide
  refine ⟨fun h => ?_, fun h => ?_, fun h => ?_⟩
  · have hsound := (h.1 (by simp [Contiguous, widened])).mp hwidened
    have hnarrows := hsound.narrows
    simp [Narrows, widened, Covered] at hnarrows
  · have hsound := (h.1 (by simp [Contiguous, handedBack])).mp hhandedBack
    have hsimple := hsound.simple
    simp [usersOf, handedBack] at hsimple
  · have hfalse := h.2 (by simp [Contiguous, gapped])
    rw [hgapped] at hfalse
    exact Bool.noConfusion hfalse

end DelegationValidator

end Ggid.Policy
