import Ggid.Go.Bytes
import Ggid.Go.Strings

/-!
# Gateway — GraphQL requests

`GraphQLMiddleware` decodes the body of a POST request, checks depth and complexity of its query
and hands the body on. With persisted queries only, a hash in the URL may name a stored query, which
is then checked in place of the one in the body; the body stays as it is.

* `serves_iff`  — what is handed on, and what was checked;
* `vouched_iff` — when the two are the same, and registered.
-/

namespace Ggid.Gateway

open Ggid.Go

namespace GraphQL

-- ---------------------------------------------------------------------------
-- Depth and complexity
-- ---------------------------------------------------------------------------

def maxQueryDepth : Int := 10

def maxQueryComplexity : Nat := 1000

def fieldCosts : List (String × Nat) :=
  [("users", 10), ("groups", 5), ("roles", 5), ("sessions", 3), ("auditEvents", 10),
    ("policies", 5), ("riskScore", 2), ("device", 2), ("members", 3), ("permissions", 2)]

/-- `strings.Count`; so many characters belong to the occurrence that was counted last. -/
def countFrom (sub : List Char) : Nat → List Char → Nat
  | _, [] => 0
  | covered + 1, _ :: s => countFrom sub covered s
  | 0, ch :: s =>
    if sub.isPrefixOf (ch :: s) then countFrom sub (sub.length - 1) s + 1 else countFrom sub 0 s

/-- The depth after a character, and the greatest so far. -/
def nest : Int × Int → Char → Int × Int
  | (current, deepest), ch =>
    if ch = '{' then (current + 1, max deepest (current + 1))
    else if ch = '}' then (current - 1, deepest)
    else (current, deepest)

structure Complexity where
  depth      : Int
  complexity : Nat

def analyzeComplexity (query : String) : Except String Complexity :=
  let query := (Strings.trimSpace query).toList
  if query = [] then .error "empty query"
  else .ok
    ⟨(query.foldl nest (0, 0)).2,
      (fieldCosts.map fun field => countFrom field.1.toList 0 query * field.2).sum⟩

/-- The limits, with a word for `maximum`. -/
def checkLimits (maximum : String) (c : Complexity) : Except String Unit :=
  if maxQueryDepth < c.depth then
    .error ("query depth " ++ toString c.depth ++ " exceeds " ++ maximum ++ " " ++
      toString maxQueryDepth)
  else if maxQueryComplexity < c.complexity then
    .error ("query complexity " ++ toString c.complexity ++ " exceeds " ++ maximum ++ " " ++
      toString maxQueryComplexity)
  else .ok ()

def validateQuery (query : String) : Except String Unit := do
  let c ← analyzeComplexity query
  checkLimits "maximum" c

-- ---------------------------------------------------------------------------
-- Persisted queries
-- ---------------------------------------------------------------------------

structure GraphQLRequest where
  query : String

/-- What is used of other packages. -/
structure GraphQLLibs where
  /-- `sha256.Sum256`, of the bytes of a text. -/
  sha256 : String → Bytes
  /-- `json.Unmarshal` into a `GraphQLRequest`. -/
  unmarshal : Bytes → Option GraphQLRequest

/-- The stored queries by their hash, and whether only these are accepted. -/
structure Persisted where
  queries       : Bytes → Option String
  persistedMode : Bool

variable (libs : GraphQLLibs)

def queryHash (query : String) : Bytes := hexEncodeToString ((libs.sha256 query).take 16)

def registerPersistedQuery (p : Persisted) (query : String) : Persisted :=
  { p with queries := Function.update p.queries (queryHash libs query) (some query) }

def lookupPersistedQuery (p : Persisted) (hash : Bytes) : Option String := p.queries hash

/-- The store after some queries were registered. -/
def persisted (registered : List String) (persistedMode : Bool) : Persisted :=
  registered.foldl (registerPersistedQuery libs) ⟨fun _ => none, persistedMode⟩

-- ---------------------------------------------------------------------------
-- The middleware
-- ---------------------------------------------------------------------------

/-- `hash` is the parameter of the URL, empty if there is none; a body that cannot be read is
none. -/
structure Request where
  method : String
  hash   : Bytes
  body   : Option Bytes

inductive Served where
  /-- `next` is called with the request as it is. -/
  | passed
  | refused (message : String)
  /-- `next` is called with a body; the query that was checked is logged. -/
  | next (body : Bytes) (checked : String)

/-- The query a hash names. -/
def named (p : Persisted) (hash : Bytes) : Option String :=
  if hash ≠ [] then lookupPersistedQuery p hash else none

/-- The query that is to be checked, if one is accepted. -/
def accept (p : Persisted) (hash : Bytes) (query : String) : Option String :=
  if p.persistedMode then
    let query := (named p hash).getD query
    if query = "" ∨ Strings.hasPrefix query.toList "__".toList then none else some query
  else some query

def orRefuse {α : Type} (message : String) : Option α → Except String α
  | some a => .ok a
  | none => .error message

/-- The body of a POST request, and the query that was checked. -/
def checkPost (p : Persisted) (r : Request) : Except String (Bytes × String) := do
  let body ← orRefuse "failed to read body" r.body
  let req ← orRefuse "invalid JSON" (libs.unmarshal body)
  let query ← orRefuse "only persisted queries allowed in production mode"
    (accept p r.hash req.query)
  let c ← analyzeComplexity query
  checkLimits "max" c
  return (body, query)

def graphQLMiddleware (p : Persisted) (r : Request) : Served :=
  if r.method ≠ "POST" then .passed
  else
    match checkPost libs p r with
    | .error message => .refused message
    | .ok (body, query) => .next body query

-- ---------------------------------------------------------------------------
-- What is handed on
-- ---------------------------------------------------------------------------

/-- The query in the body that is handed on is the one that was checked, and is registered if only
these are accepted. -/
def Vouched (registered : List String) (persistedMode : Bool) (r : Request) : Prop :=
  ∀ body checked, graphQLMiddleware libs (persisted libs registered persistedMode) r =
    .next body checked → ∃ handed, libs.unmarshal body = some handed ∧ handed.query = checked ∧
      (persistedMode = true → handed.query ∈ registered)

/-- A text that is not refused when only persisted queries are accepted. -/
def Admissible (query : String) : Prop :=
  query ≠ "" ∧ ¬ Strings.hasPrefix query.toList "__".toList ∧ validateQuery query = .ok ()

/-- With persisted queries only, an admissible query that the hash names is that of the body; and
where it names none, an admissible query of the body is registered. -/
def BringsOwn (registered : List String) (persistedMode : Bool) (r : Request) : Prop :=
  r.method = "POST" → persistedMode = true → ∀ body req, r.body = some body →
    libs.unmarshal body = some req →
      match named (persisted libs registered persistedMode) r.hash with
      | some query => Admissible query → query = req.query
      | none => Admissible req.query → req.query ∈ registered

variable {libs} {registered : List String} {persistedMode : Bool} {p : Persisted} {r : Request}

theorem persistedMode_persisted :
    (persisted libs registered persistedMode).persistedMode = persistedMode := by
  have hfold : ∀ (p : Persisted), (registered.foldl (registerPersistedQuery libs) p).persistedMode =
      p.persistedMode := by
    induction registered with
    | nil => exact fun _ => rfl
    | cons query registered ih => exact fun p => ih _
  exact hfold _

/-- A stored query was registered. -/
theorem mem_of_named {hash : Bytes} {query : String}
    (h : named (persisted libs registered persistedMode) hash = some query) :
    query ∈ registered := by
  have hfold : ∀ (p : Persisted),
      (registered.foldl (registerPersistedQuery libs) p).queries hash = some query →
        query ∈ registered ∨ p.queries hash = some query := by
    clear h
    induction registered with
    | nil => exact fun _ h => .inr h
    | cons stored registered ih =>
      intro p h
      rcases ih _ h with hmem | hstored
      · exact .inl (List.mem_cons_of_mem _ hmem)
      · by_cases hhash : hash = queryHash libs stored
        · have heq : some stored = some query := by
            rw [← hstored, hhash, registerPersistedQuery]
            exact (Function.update_self (queryHash libs stored) _ p.queries).symm
          exact .inl (Option.some.inj heq ▸ List.mem_cons_self)
        · rw [registerPersistedQuery] at hstored
          exact .inr ((Function.update_of_ne hhash _ _).symm.trans hstored)
  unfold named at h
  split_ifs at h
  exact (hfold _ h).resolve_right (by simp)

/-- The two ways to check the limits agree. -/
theorem validateQuery_iff (query : String) : validateQuery query = .ok () ↔
    ∃ c, analyzeComplexity query = .ok c ∧ checkLimits "max" c = .ok () := by
  have hword : ∀ c, checkLimits "maximum" c = .ok () ↔ checkLimits "max" c = .ok () := by
    intro c
    unfold checkLimits
    split_ifs
    · simp
    · simp
    · rfl
  unfold validateQuery
  rw [bind_ok]
  exact exists_congr fun c => and_congr_right fun _ => hword c

theorem orRefuse_ok {α : Type} {message : String} {x : Option α} {a : α} :
    orRefuse message x = .ok a ↔ x = some a := by
  cases x with
  | none => simp [orRefuse]
  | some b => simp [orRefuse]

/-- **What is handed on**: the body as it came, while a query was checked that was accepted. -/
theorem serves_iff {body : Bytes} {checked : String} :
    graphQLMiddleware libs p r = .next body checked ↔ r.method = "POST" ∧ r.body = some body ∧
      ∃ req, libs.unmarshal body = some req ∧ accept p r.hash req.query = some checked ∧
        validateQuery checked = .ok () := by
  have hcheck : checkPost libs p r = .ok (body, checked) ↔ r.body = some body ∧
      ∃ req, libs.unmarshal body = some req ∧ accept p r.hash req.query = some checked ∧
        validateQuery checked = .ok () := by
    unfold checkPost
    simp only [bind_ok, orRefuse_ok, validateQuery_iff, pure, Except.pure, Except.ok.injEq,
      Prod.mk.injEq]
    constructor
    · rintro ⟨_, hbody, req, hreq, _, haccept, c, hc, _, hlimits, rfl, rfl⟩
      exact ⟨hbody, req, hreq, haccept, c, hc, hlimits⟩
    · rintro ⟨hbody, req, hreq, haccept, c, hc, hlimits⟩
      exact ⟨body, hbody, req, hreq, checked, haccept, c, hc, (), hlimits, rfl, rfl⟩
  rw [← hcheck]
  unfold graphQLMiddleware
  by_cases hpost : r.method = "POST"
  · rw [if_neg (not_not.mpr hpost), and_iff_right hpost]
    cases checkPost libs p r with
    | error message => simp
    | ok served => simp [Prod.ext_iff]
  · simp [hpost]

theorem accept_of_mode (hmode : p.persistedMode = true) {hash : Bytes} {query checked : String} :
    accept p hash query = some checked ↔ (named p hash).getD query = checked ∧ checked ≠ "" ∧
      ¬ Strings.hasPrefix checked.toList "__".toList := by
  unfold accept
  rw [if_pos hmode]
  dsimp only
  split_ifs with hrefused
  · simp only [false_iff, not_and]
    rintro rfl hne hprefix
    exact hrefused.elim hne hprefix
  · rw [Option.some.injEq, and_comm]
    constructor
    · rintro rfl
      exact ⟨not_or.mp hrefused, rfl⟩
    · exact And.right

/-- **What is checked and what is handed on** are the same registered query exactly if the body
brings its own. -/
theorem vouched_iff (libs : GraphQLLibs) (registered : List String) (persistedMode : Bool)
    (r : Request) :
    Vouched libs registered persistedMode r ↔ BringsOwn libs registered persistedMode r := by
  set p := persisted libs registered persistedMode with hp
  have hmode : p.persistedMode = persistedMode := persistedMode_persisted
  constructor
  · rintro hvouched hpost rfl body req hbody hreq
    have hserves : ∀ query, (named p r.hash).getD req.query = query → Admissible query →
        query = req.query ∧ req.query ∈ registered := by
      rintro query hquery ⟨hne, hprefix, hvalid⟩
      obtain ⟨handed, hhanded, heq, hmem⟩ := hvouched body query (serves_iff.mpr
        ⟨hpost, hbody, req, hreq, (accept_of_mode hmode).mpr ⟨hquery, hne, hprefix⟩, hvalid⟩)
      rw [hreq, Option.some.injEq] at hhanded
      subst hhanded
      exact ⟨heq.symm, hmem rfl⟩
    cases hnamed : named p r.hash with
    | some query =>
      exact fun hadmissible => (hserves query (by rw [hnamed]; rfl) hadmissible).1
    | none =>
      exact fun hadmissible => (hserves req.query (by rw [hnamed]; rfl) hadmissible).2
  · intro hown body checked hnext
    obtain ⟨hpost, hbody, req, hreq, haccept, hvalid⟩ := serves_iff.mp hnext
    cases persistedMode with
    | false =>
      rw [accept, ← hp, if_neg (by simp [hmode]), Option.some.injEq] at haccept
      exact ⟨req, hreq, haccept, fun h => absurd h Bool.false_ne_true⟩
    | true =>
      obtain ⟨hquery, hne, hprefix⟩ := (accept_of_mode hmode).mp haccept
      have hbrings := hown hpost rfl body req hbody hreq
      rw [← hp] at hbrings
      cases hnamed : named p r.hash with
      | some query =>
        rw [hnamed] at hbrings hquery
        rw [Option.getD_some] at hquery
        subst hquery
        have heq := hbrings ⟨hne, hprefix, hvalid⟩
        exact ⟨req, hreq, heq.symm, fun _ => heq ▸ mem_of_named hnamed⟩
      | none =>
        rw [hnamed] at hbrings hquery
        rw [Option.getD_none] at hquery
        subst hquery
        exact ⟨req, hreq, rfl, fun _ => hbrings ⟨hne, hprefix, hvalid⟩⟩

namespace Sample

/-- The digest of the one query that is registered, and the decoder at the one body. -/
def hashed : GraphQLLibs where
  sha256 := fun _ => [213, 175, 84, 155, 230, 153, 183, 108, 147, 27, 36, 25, 194, 25, 35, 79, 80,
    251, 86, 154, 184, 137, 155, 84, 158, 103, 189, 149, 101, 112, 223, 212]
  unmarshal := fun _ => some ⟨"{ users }"⟩

def request (hash : String) : Request :=
  ⟨"POST", ascii hash, some (ascii "\x7b\"query\":\"\x7b users \x7d\"\x7d")⟩

end Sample

open GraphQL.Sample in
/-- A query that is not registered, alone and under the hash of one that is. -/
theorem unregistered_query :
    ¬ Vouched hashed ["{ roles }"] true (request "") ∧
      ¬ Vouched hashed ["{ roles }"] true (request "d5af549be699b76c931b2419c219234f") := by
  have hvalid : ∀ query ∈ ["{ users }", "{ roles }"], validateQuery query = .ok () := by decide
  constructor
  · intro h
    obtain ⟨handed, hhanded, -, hmem⟩ := h _ "{ users }" (serves_iff.mpr
      ⟨rfl, rfl, _, rfl, by decide, hvalid _ (by simp)⟩)
    obtain rfl := Option.some.inj hhanded
    exact absurd (hmem rfl) (by decide)
  · intro h
    obtain ⟨handed, hhanded, heq, -⟩ := h _ "{ roles }" (serves_iff.mpr
      ⟨rfl, rfl, _, rfl, by decide, hvalid _ (by simp)⟩)
    obtain rfl := Option.some.inj hhanded
    exact absurd heq (by decide)

end GraphQL

end Ggid.Gateway
