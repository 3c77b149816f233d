import Mathlib.Data.Finset.Card
import Mathlib.Data.List.Basic
import Mathlib.Data.List.Nodup
import Mathlib.Logic.Relation

/-!
# Depth-first search with a depth limit and one set of visited keys

At a node the search makes its attempts in order: an attempt is a hit, or a visit of another
node with one level less to go. A node is marked under its key on the way in, the marks are
shared by all branches, and a node whose key is marked is refused, whatever depth its first
visit had left.

The graph is a relation `R` with a set of hits, which the attempts `Follow`. A way to a hit is
a path (`Finds`). The search is sound (`finds_of_search`); it may miss a path, because a node
can be entered first along a *detour* that leaves too little depth for the rest of the way and
is then refused on the path itself.

* `search_of_detoursFit` — a path is not missed if every detour to one of its nodes,
  continued along the path, stays within the limit;
* `search_iff_of_card`   — if the keys tell the reachable nodes apart and the limit is at
  least their number, the search finds exactly what can be found.
-/

namespace Ggid.Lib

variable {α β σ κ : Type*}

-- ---------------------------------------------------------------------------
-- The search
-- ---------------------------------------------------------------------------

/-- A loop that stops at its first success; the state is passed along. -/
def tryEach (f : β → σ → Bool × σ) : List β → σ → Bool × σ
  | [], s => (false, s)
  | b :: bs, s => if (f b s).1 = true then f b s else tryEach f bs (f b s).2

/-- Go on after a failure. -/
def orElse (r : Bool × σ) (next : σ → Bool × σ) : Bool × σ :=
  if r.1 = true then r else next r.2

theorem tryEach_append (f : β → σ → Bool × σ) (bs bs' : List β) (s : σ) :
    tryEach f (bs ++ bs') s = orElse (tryEach f bs s) (tryEach f bs') := by
  induction bs generalizing s with
  | nil => simp [tryEach, orElse]
  | cons b bs ih =>
    rw [List.cons_append, tryEach, tryEach]
    by_cases hb : (f b s).1 = true
    · rw [if_pos hb, if_pos hb, orElse, if_pos hb]
    · rw [if_neg hb, if_neg hb, ih]

theorem tryEach_singleton (f : β → σ → Bool × σ) (b : β) (s : σ) : tryEach f [b] s = f b s := by
  rw [tryEach]
  by_cases hb : (f b s).1 = true
  · rw [if_pos hb]
  · rw [if_neg hb, tryEach]
    exact Prod.ext (Bool.eq_false_iff.mpr hb).symm rfl

/-- A loop whose body is a loop. -/
theorem tryEach_flatMap {γ : Type*} (f : β → σ → Bool × σ) (g : γ → List β) (cs : List γ) (s : σ) :
    tryEach f (cs.flatMap g) s = tryEach (fun c => tryEach f (g c)) cs s := by
  induction cs generalizing s with
  | nil => rfl
  | cons c cs ih =>
    rw [List.flatMap_cons, tryEach_append, tryEach, orElse]
    by_cases hc : (tryEach f (g c) s).1 = true
    · rw [if_pos hc, if_pos hc]
    · rw [if_neg hc, if_neg hc, ih]

inductive Attempt (α : Type*) where
  | hit
  | visit (a : α)
  deriving DecidableEq

def Attempt.run (go : α → σ → Bool × σ) : Attempt α → σ → Bool × σ
  | .hit, s => (true, s)
  | .visit a, s => go a s

section Search

variable [DecidableEq κ] (key : α → κ) (attempts : α → List (Attempt α))

/-- The answer, and the marked keys. -/
def search : Nat → α → List κ → Bool × List κ
  | 0, _, seen => (false, seen)
  | depth + 1, a, seen =>
    if key a ∈ seen then (false, seen)
    else tryEach (Attempt.run (search depth)) (attempts a) (key a :: seen)

end Search

-- ---------------------------------------------------------------------------
-- Paths
-- ---------------------------------------------------------------------------

/-- The nodes of a path from `a` to a hit, both ends included. -/
inductive Finds (hit : α → Prop) (R : α → α → Prop) : α → List α → Prop
  | hit {a : α} (h : hit a) : Finds hit R a [a]
  | step {a b : α} {path : List α} (h : R a b) (rest : Finds hit R b path) :
      Finds hit R a (a :: path)

section Paths

variable {hit : α → Prop} {R : α → α → Prop}

theorem Finds.head {a : α} {path : List α} (h : Finds hit R a path) :
    ∃ rest, path = a :: rest := by
  cases h with
  | hit => exact ⟨[], rfl⟩
  | step => exact ⟨_, rfl⟩

/-- The end of a path is a path. -/
theorem Finds.suffix {a b : α} {path before rest : List α} (h : Finds hit R a path)
    (hsplit : path = before ++ b :: rest) : Finds hit R b (b :: rest) := by
  induction h generalizing before with
  | hit hhit =>
    cases before with
    | nil =>
      obtain ⟨rfl, rfl⟩ := List.cons.inj hsplit
      exact .hit hhit
    | cons x before => exact absurd (List.cons.inj hsplit).2 (by simp)
  | step hstep hrest ih =>
    cases before with
    | nil =>
      obtain ⟨rfl, rfl⟩ := List.cons.inj hsplit
      exact .step hstep hrest
    | cons x before => exact ih (List.cons.inj hsplit).2

/-- A path that ends here ends in a hit; one that goes on steps to its next node. -/
theorem Finds.next {a : α} {rest : List α} (h : Finds hit R a (a :: rest)) :
    (rest = [] ∧ hit a) ∨ ∃ b rest', rest = b :: rest' ∧ R a b := by
  cases h with
  | hit hhit => exact .inl ⟨rfl, hhit⟩
  | step hstep hrest =>
    obtain ⟨rest', hrest'⟩ := hrest.head
    exact .inr ⟨_, rest', hrest', hstep⟩

/-- Whatever can be found is found along a path that repeats no node. -/
theorem Finds.exists_nodup {a : α} {path : List α} (h : Finds hit R a path) :
    ∃ path', Finds hit R a path' ∧ path'.Nodup := by
  induction h with
  | hit hhit => exact ⟨_, .hit hhit, List.nodup_singleton _⟩
  | @step a b path hstep hrest ih =>
    obtain ⟨path', hpath', hnodup⟩ := ih
    by_cases ha : a ∈ path'
    · -- the path comes back to `a`: start there
      obtain ⟨before, rest, rfl⟩ := List.append_of_mem ha
      exact ⟨a :: rest, hpath'.suffix rfl, (List.nodup_append.mp hnodup).2.1⟩
    · exact ⟨a :: path', .step hstep hpath', List.nodup_cons.mpr ⟨ha, hnodup⟩⟩

/-- The nodes of a path can be reached from its start. -/
theorem Finds.reachable {a : α} {path : List α} (h : Finds hit R a path) :
    ∀ b ∈ path, Relation.ReflTransGen R a b := by
  induction h with
  | hit _ =>
    intro b hb
    rw [List.mem_singleton.mp hb]
  | step hstep _ ih =>
    intro b hb
    rcases List.mem_cons.mp hb with rfl | hb
    · exact .refl
    · exact .head hstep (ih b hb)

/-- A way a search can take from `a` to `b` without success: no key comes twice, and none of
its nodes is a hit. -/
structure Trail (key : α → κ) (hit : α → Prop) (R : α → α → Prop) (a b : α) (nodes : List α) :
    Prop where
  chain : nodes.IsChain R
  head  : nodes.head? = some a
  last  : nodes.getLast? = some b
  nodup : (nodes.map key).Nodup
  noHit : ∀ x ∈ nodes, ¬ hit x

variable {key : α → κ}

theorem Trail.single {a : α} (h : ¬ hit a) : Trail key hit R a a [a] where
  chain := .singleton a
  head  := rfl
  last  := rfl
  nodup := List.nodup_singleton _
  noHit := by simpa using h

theorem Trail.cons {a b c : α} {nodes : List α} (h : Trail key hit R b c nodes) (hstep : R a b)
    (hkey : ∀ x ∈ nodes, key x ≠ key a) (hhit : ¬ hit a) : Trail key hit R a c (a :: nodes) := by
  obtain ⟨rest, rfl⟩ : ∃ rest, nodes = b :: rest := by
    cases nodes with
    | nil => exact absurd h.head (by simp)
    | cons x rest => exact ⟨rest, by rw [Option.some.inj h.head]⟩
  refine ⟨List.isChain_cons_cons.mpr ⟨hstep, h.chain⟩, rfl, ?_, ?_, ?_⟩
  · rw [List.getLast?_cons_cons]
    exact h.last
  · rw [List.map_cons, List.nodup_cons]
    refine ⟨fun hmem => ?_, h.nodup⟩
    obtain ⟨x, hx, hxa⟩ := List.mem_map.mp hmem
    exact hkey x hx hxa
  · exact List.forall_mem_cons.mpr ⟨hhit, h.noHit⟩

theorem reachable_of_isChain {a : α} {rest : List α} (h : (a :: rest).IsChain R) :
    ∀ x ∈ a :: rest, Relation.ReflTransGen R a x := by
  induction rest generalizing a with
  | nil =>
    intro x hx
    rw [List.mem_singleton.mp hx]
  | cons b rest ih =>
    intro x hx
    obtain ⟨hab, hrest⟩ := List.isChain_cons_cons.mp h
    rcases List.mem_cons.mp hx with rfl | hx
    · exact .refl
    · exact .head hab (ih hrest x hx)

/-- What is closed under the steps and has the start has all that is in reach. -/
theorem reachable_of_closed {S : α → Prop} (hclosed : ∀ a, S a → ∀ b, R a b → S b) {a b : α}
    (ha : S a) (h : Relation.ReflTransGen R a b) : S b := by
  induction h with
  | refl => exact ha
  | tail _ hstep ih => exact hclosed _ ih _ hstep

theorem Trail.reachable {a b : α} {nodes : List α} (h : Trail key hit R a b nodes) :
    ∀ x ∈ nodes, Relation.ReflTransGen R a x := by
  obtain ⟨rest, rfl⟩ := List.head?_eq_some_iff.mp h.head
  exact reachable_of_isChain h.chain

end Paths

/-- The attempts are the steps of a graph; what they leave out starts at a hit. -/
structure Follow (attempts : α → List (Attempt α)) (hit : α → Prop) (R : α → α → Prop) :
    Prop where
  hit_iff    : ∀ a, .hit ∈ attempts a ↔ hit a
  of_visit   : ∀ a b, .visit b ∈ attempts a → R a b
  hit_or_visit : ∀ a b, R a b → hit a ∨ .visit b ∈ attempts a

/-- The key `k` was marked on a visit, along a trail from `a` over nodes not marked before.
If that visit had depth left, all it could go on to is marked by now. -/
def Explored (key : α → κ) (hit : α → Prop) (R : α → α → Prop) (depth : Nat) (before : List κ)
    (a : α) (after : List κ) (k : κ) : Prop :=
  ∃ b nodes, Trail key hit R a b nodes ∧ key b = k ∧ nodes.length ≤ depth ∧
    (∀ x ∈ nodes, key x ∉ before ∧ key x ∈ after) ∧
    (nodes.length < depth → ∀ c, R b c → key c ∈ after)

variable {attempts : α → List (Attempt α)} {hit : α → Prop} {R : α → α → Prop} {key : α → κ}

theorem Explored.mono {depth : Nat} {before before' : List κ} {a : α} {after after' : List κ}
    {k : κ} (h : Explored key hit R depth before' a after k) (hbefore : before ⊆ before')
    (hafter : after ⊆ after') : Explored key hit R depth before a after' k := by
  obtain ⟨b, nodes, htrail, hkey, hlen, hnodes, hnext⟩ := h
  exact ⟨b, nodes, htrail, hkey, hlen,
    fun x hx => ⟨fun hmem => (hnodes x hx).1 (hbefore hmem), hafter (hnodes x hx).2⟩,
    fun hlt c hc => hafter (hnext hlt c hc)⟩

-- ---------------------------------------------------------------------------
-- Soundness
-- ---------------------------------------------------------------------------

variable [DecidableEq κ]

/-- A loop that succeeds does so at one of its elements. -/
theorem exists_of_tryEach {f : β → σ → Bool × σ} {bs : List β} {s : σ}
    (h : (tryEach f bs s).1 = true) : ∃ b ∈ bs, ∃ s', (f b s').1 = true := by
  induction bs generalizing s with
  | nil => exact absurd h (by simp [tryEach])
  | cons b bs ih =>
    rw [tryEach] at h
    by_cases hb : (f b s).1 = true
    · exact ⟨b, List.mem_cons_self, s, hb⟩
    · rw [if_neg hb] at h
      obtain ⟨b', hb', hs'⟩ := ih h
      exact ⟨b', List.mem_cons_of_mem _ hb', hs'⟩

/-- **Soundness**: what the search finds lies at the end of a path within the limit. -/
theorem finds_of_search (hf : Follow attempts hit R) {depth : Nat} {a : α} {seen : List κ}
    (h : (search key attempts depth a seen).1 = true) :
    ∃ path, Finds hit R a path ∧ path.length ≤ depth := by
  induction depth generalizing a seen with
  | zero => exact absurd h (by simp [search])
  | succ depth ih =>
    rw [search] at h
    by_cases hseen : key a ∈ seen
    · rw [if_pos hseen] at h
      exact absurd h (by simp)
    rw [if_neg hseen] at h
    obtain ⟨t, ht, s', hs'⟩ := exists_of_tryEach h
    cases t with
    | hit => exact ⟨[a], .hit ((hf.hit_iff a).mp ht), by simp⟩
    | visit b =>
      obtain ⟨path, hpath, hlen⟩ := ih hs'
      exact ⟨a :: path, .step (hf.of_visit a b ht) hpath, by simpa using hlen⟩

-- ---------------------------------------------------------------------------
-- A search that fails
-- ---------------------------------------------------------------------------

/-- What a failed search at `a` leaves behind. -/
structure Failed (key : α → κ) (hit : α → Prop) (R : α → α → Prop) (depth : Nat)
    (before : List κ) (a : α) (after : List κ) : Prop where
  kept     : before ⊆ after
  marked   : 0 < depth → key a ∈ after
  explored : ∀ k ∈ after, k ∈ before ∨ Explored key hit R depth before a after k

/-- What a failed loop over attempts leaves behind. -/
structure FailedLoop (key : α → κ) (hit : α → Prop) (R : α → α → Prop) (depth : Nat)
    (before : List κ) (ts : List (Attempt α)) (after : List κ) : Prop where
  kept     : before ⊆ after
  noHit    : .hit ∉ ts
  marked   : 0 < depth → ∀ c, .visit c ∈ ts → key c ∈ after
  explored : ∀ k ∈ after, k ∈ before ∨
    ∃ c, .visit c ∈ ts ∧ Explored key hit R depth before c after k

theorem failedLoop_of_tryEach {depth : Nat}
    (ih : ∀ (c : α) (seen : List κ), (search key attempts depth c seen).1 = false →
      Failed key hit R depth seen c (search key attempts depth c seen).2)
    (ts : List (Attempt α)) : ∀ (seen : List κ),
      (tryEach (Attempt.run (search key attempts depth)) ts seen).1 = false →
      FailedLoop key hit R depth seen ts
        (tryEach (Attempt.run (search key attempts depth)) ts seen).2 := by
  induction ts with
  | nil =>
    intro seen _
    exact ⟨List.Subset.refl _, by simp, fun _ c hc => absurd hc (by simp),
      fun k hk => .inl hk⟩
  | cons t ts ihts =>
    intro seen hfalse
    rw [tryEach] at hfalse ⊢
    by_cases htrue : (Attempt.run (search key attempts depth) t seen).1 = true
    · rw [if_pos htrue] at hfalse
      exact absurd (hfalse.symm.trans htrue) (by simp)
    rw [if_neg htrue] at hfalse ⊢
    cases t with
    | hit => exact absurd rfl htrue
    | visit c =>
      have hfirst := ih c seen (Bool.eq_false_iff.mpr htrue)
      have hrest := ihts _ hfalse
      refine ⟨fun k hk => hrest.kept (hfirst.kept hk), ?_, ?_, ?_⟩
      · intro hmem
        rcases List.mem_cons.mp hmem with hmem | hmem
        · exact absurd hmem (by simp)
        · exact hrest.noHit hmem
      · intro hdepth d hd
        rcases List.mem_cons.mp hd with hd | hd
        · rw [Attempt.visit.inj hd]
          exact hrest.kept (hfirst.marked hdepth)
        · exact hrest.marked hdepth d hd
      · intro k hk
        rcases hrest.explored k hk with hk | ⟨d, hd, hexp⟩
        · rcases hfirst.explored k hk with hk | hexp
          · exact .inl hk
          · exact .inr ⟨c, List.mem_cons_self, hexp.mono (List.Subset.refl _) hrest.kept⟩
        · exact .inr ⟨d, List.mem_cons_of_mem _ hd, hexp.mono hfirst.kept (List.Subset.refl _)⟩

theorem failed_of_search (hf : Follow attempts hit R) {depth : Nat} :
    ∀ (a : α) (seen : List κ), (search key attempts depth a seen).1 = false →
      Failed key hit R depth seen a (search key attempts depth a seen).2 := by
  induction depth with
  | zero =>
    intro a seen _
    exact ⟨List.Subset.refl _, fun h => absurd h (by simp), fun k hk => .inl hk⟩
  | succ depth ih =>
    intro a seen hfalse
    rw [search] at hfalse ⊢
    by_cases hseen : key a ∈ seen
    · rw [if_pos hseen]
      exact ⟨List.Subset.refl _, fun _ => hseen, fun k hk => .inl hk⟩
    rw [if_neg hseen] at hfalse ⊢
    have hloop := failedLoop_of_tryEach ih (attempts a) _ hfalse
    have hmarked := hloop.kept List.mem_cons_self
    have hnoHit : ¬ hit a := fun hhit => hloop.noHit ((hf.hit_iff a).mpr hhit)
    refine ⟨fun k hk => hloop.kept (List.mem_cons_of_mem _ hk), fun _ => hmarked, ?_⟩
    intro k hk
    rcases hloop.explored k hk with hk | ⟨c, hc, b, nodes, htrail, hkey, hlen, hnodes, hnext⟩
    · rcases List.mem_cons.mp hk with rfl | hk
      · -- `a` itself
        refine .inr ⟨a, [a], .single hnoHit, rfl, by simp, ?_, ?_⟩
        · intro x hx
          rw [List.mem_singleton.mp hx]
          exact ⟨hseen, hmarked⟩
        · intro hlt d hd
          exact hloop.marked (by simpa using hlt) d ((hf.hit_or_visit a d hd).resolve_left hnoHit)
      · exact .inl hk
    · -- a node below `c`: the trail starts at `a`
      have hne : ∀ x ∈ nodes, key x ≠ key a := by
        intro x hx hxa
        exact (hnodes x hx).1 (hxa ▸ List.mem_cons_self)
      refine .inr ⟨b, a :: nodes, htrail.cons (hf.of_visit a c hc) hne hnoHit, hkey,
        by simpa using hlen, ?_, ?_⟩
      · intro x hx
        rcases List.mem_cons.mp hx with rfl | hx
        · exact ⟨hseen, hmarked⟩
        · exact ⟨fun hmem => (hnodes x hx).1 (List.mem_cons_of_mem _ hmem), (hnodes x hx).2⟩
      · intro hlt
        exact hnext (by simpa using hlt)

-- ---------------------------------------------------------------------------
-- Completeness
-- ---------------------------------------------------------------------------

theorem tryEach_of_mem {f : β → σ → Bool × σ} {bs : List β} {b : β} (hb : b ∈ bs)
    (hf : ∀ s, (f b s).1 = true) (s : σ) : (tryEach f bs s).1 = true := by
  induction bs generalizing s with
  | nil => exact absurd hb (by simp)
  | cons c bs ih =>
    rw [tryEach]
    by_cases hc : (f c s).1 = true
    · rw [if_pos hc]
      exact hc
    · rw [if_neg hc]
      rcases List.mem_cons.mp hb with rfl | hb
      · exact absurd (hf s) hc
      · exact ih hb _

/-- A hit is found at once. -/
theorem search_of_hit {a : α} (h : .hit ∈ attempts a) (depth : Nat) {seen : List κ}
    (hseen : key a ∉ seen) : (search key attempts (depth + 1) a seen).1 = true := by
  rw [search, if_neg hseen]
  exact tryEach_of_mem h (fun _ => rfl) _

/-- A hit one step away is found, if nothing the search reaches before it has its key. -/
theorem search_of_next (hf : Follow attempts hit R) {a c : α} {before after : List (Attempt α)}
    (hsplit : attempts a = before ++ .visit c :: after) (hhit : .hit ∈ attempts c)
    (hne : key c ≠ key a)
    (hclear : ∀ b, .visit b ∈ before → ∀ x, Relation.ReflTransGen R b x → key x ≠ key c)
    (depth : Nat) : (search key attempts (depth + 2) a []).1 = true := by
  rw [search, if_neg (by simp), hsplit, tryEach_append, orElse]
  by_cases hbefore :
      (tryEach (Attempt.run (search key attempts (depth + 1))) before [key a]).1 = true
  · rw [if_pos hbefore]
    exact hbefore
  rw [if_neg hbefore]
  have hloop := failedLoop_of_tryEach (failed_of_search hf) before _ (Bool.eq_false_iff.mpr hbefore)
  have hnew : key c ∉ (tryEach (Attempt.run (search key attempts (depth + 1))) before [key a]).2 := by
    intro hmem
    rcases hloop.explored _ hmem with hmem | ⟨b, hb, x, nodes, htrail, hkey, -⟩
    · exact hne (List.mem_singleton.mp hmem)
    · exact hclear b hb x (htrail.reachable x (List.mem_of_getLast? htrail.last)) hkey
  have hvisit := search_of_hit hhit depth hnew
  rw [tryEach]
  exact (congrArg Prod.fst (if_pos hvisit)).trans hvisit

/-- Every trail to a node of the path that keeps clear of the rest of the path can be
continued along it within the limit; and no other node has the key of a node of the path. -/
def DetoursFit (key : α → κ) (hit : α → Prop) (R : α → α → Prop) (depth : Nat) (a : α)
    (path : List α) : Prop :=
  ∀ before b rest, path = before ++ b :: rest →
    ∀ b' nodes, Trail key hit R a b' nodes → nodes.length ≤ depth → key b' = key b →
      b' = b ∧ ((∀ x ∈ rest, x ∉ nodes) → (nodes ++ rest).length ≤ depth)

/-- The last element of a list with a property. -/
theorem exists_last_of_mem {p : β → Prop} {l : List β} {b : β} (hb : b ∈ l) (hp : p b) :
    ∃ before c rest, l = before ++ c :: rest ∧ p c ∧ ∀ x ∈ rest, ¬ p x := by
  induction l generalizing b with
  | nil => exact absurd hb (by simp)
  | cons x l ih =>
    by_cases hex : ∃ y ∈ l, p y
    · obtain ⟨y, hy, hpy⟩ := hex
      obtain ⟨before, c, rest, rfl, hc, hrest⟩ := ih hy hpy
      exact ⟨x :: before, c, rest, rfl, hc, hrest⟩
    · rcases List.mem_cons.mp hb with rfl | hb
      · exact ⟨[], b, l, rfl, hp, fun y hy hpy => hex ⟨y, hy, hpy⟩⟩
      · exact absurd ⟨b, hb, hp⟩ hex

/-- **Completeness**: a path all of whose detours fit is not missed. The last node of the
path that a failing search marks would have had depth left to go on. -/
theorem search_of_detoursFit (hf : Follow attempts hit R) {depth : Nat} {a : α} {path : List α}
    (hfinds : Finds hit R a path) (hlen : path.length ≤ depth)
    (hfit : DetoursFit key hit R depth a path) : (search key attempts depth a []).1 = true := by
  by_contra hfalse
  have hfailed := failed_of_search hf a [] (Bool.eq_false_iff.mpr hfalse)
  obtain ⟨tail, htail⟩ := hfinds.head
  have hdepth : 0 < depth := by
    rw [htail, List.length_cons] at hlen
    omega
  have hstart : a ∈ path := htail ▸ List.mem_cons_self
  obtain ⟨before, b, rest, hsplit, hb, hrest⟩ := exists_last_of_mem
    (p := fun x => key x ∈ (search key attempts depth a []).2) hstart (hfailed.marked hdepth)
  rcases hfailed.explored _ hb with hnil | ⟨b', nodes, htrail, hkey, hnlen, hnodes, hnext⟩
  · exact absurd hnil (by simp)
  obtain ⟨rfl, hfits⟩ := hfit before b rest hsplit b' nodes htrail hnlen hkey
  have hclear : ∀ x ∈ rest, x ∉ nodes := fun x hx hmem => hrest x hx (hnodes x hmem).2
  have htotal := hfits hclear
  rcases (hfinds.suffix hsplit).next with ⟨-, hhit⟩ | ⟨c, rest', rfl, hstep⟩
  · exact htrail.noHit b' (List.mem_of_getLast? htrail.last) hhit
  · have hlt : nodes.length < depth := by
      rw [List.length_append, List.length_cons] at htotal
      omega
    exact hrest c List.mem_cons_self (hnext hlt c hstep)

omit [DecidableEq κ] in
/-- With a limit of at least the number of reachable nodes, all told apart by their keys,
the detours of a path that repeats no node fit. -/
theorem detoursFit_of_card {depth : Nat} {a : α} {path : List α} (hfinds : Finds hit R a path)
    (hnodup : path.Nodup) {U : Finset α} (hU : ∀ b, Relation.ReflTransGen R a b → b ∈ U)
    (hcard : U.card ≤ depth) (hkey : ∀ b ∈ U, ∀ c ∈ U, key b = key c → b = c) :
    path.length ≤ depth ∧ DetoursFit key hit R depth a path := by
  classical
  have hbound : ∀ l : List α, l.Nodup → (∀ x ∈ l, x ∈ U) → l.length ≤ depth := by
    intro l hl hsub
    have hle := Finset.card_le_card fun x hx => hsub x (List.mem_toFinset.mp hx)
    rw [List.toFinset_card_of_nodup hl] at hle
    exact hle.trans hcard
  have hpathU : ∀ x ∈ path, x ∈ U := fun x hx => hU x (hfinds.reachable x hx)
  refine ⟨hbound path hnodup hpathU, ?_⟩
  intro before b rest hsplit b' nodes htrail _ hb'
  have hnodesU : ∀ x ∈ nodes, x ∈ U := fun x hx => hU x (htrail.reachable x hx)
  have hbU : b ∈ U := hpathU b (by simp [hsplit])
  refine ⟨hkey b' (hnodesU b' (List.mem_of_getLast? htrail.last)) b hbU hb', fun hclear => ?_⟩
  have hrest : rest.Nodup := by
    rw [hsplit] at hnodup
    exact ((List.nodup_append.mp hnodup).2.1).of_cons
  refine hbound _ ?_ ?_
  · refine List.nodup_append.mpr ⟨htrail.nodup.of_map, hrest, ?_⟩
    rintro x hx y hy rfl
    exact hclear x hy hx
  · intro x hx
    rcases List.mem_append.mp hx with hx | hx
    · exact hnodesU x hx
    · exact hpathU x (by simp [hsplit, hx])

/-- **Within the limit of the graph** the search finds exactly what can be found. -/
theorem search_iff_of_card (hf : Follow attempts hit R) {depth : Nat} {a : α} {U : Finset α}
    (hU : ∀ b, Relation.ReflTransGen R a b → b ∈ U) (hcard : U.card ≤ depth)
    (hkey : ∀ b ∈ U, ∀ c ∈ U, key b = key c → b = c) :
    (search key attempts depth a []).1 = true ↔ ∃ path, Finds hit R a path := by
  constructor
  · intro h
    obtain ⟨path, hpath, -⟩ := finds_of_search hf h
    exact ⟨path, hpath⟩
  · rintro ⟨path, hpath⟩
    obtain ⟨path', hfinds, hnodup⟩ := hpath.exists_nodup
    obtain ⟨hlen, hfit⟩ := detoursFit_of_card hfinds hnodup hU hcard hkey
    exact search_of_detoursFit hf hfinds hlen hfit

end Ggid.Lib
