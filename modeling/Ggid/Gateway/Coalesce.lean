import Ggid.Gateway.Request
import Ggid.Go.ResponseWriter
import Ggid.Lib.Framing
import Ggid.Lib.Run
import Ggid.Lib.Table
import Ggid.Lib.Threads

/-!
# Gateway — coalesced requests

`CoalesceMiddleware`: requests with the same key share one run of the handler. The first of them
leads; those that come while it is served wait for it, and those that come later may find what it
left in the cache.

* `parts_of_key`         — what the key tells apart;
* `finish_record`        — what a leader gets;
* `finish_copy_iff`      — what the others get, and when that is the handler's response;
* `delivered_of_shared`  — every request gets a response the handler gave to its like, as long as
  what is shared may be shared;
* `shares_of_separated`  — for keys that can be taken apart, it may be if it can be repeated.
-/

namespace Ggid.Gateway

open Ggid.Go Ggid.Lib

-- ---------------------------------------------------------------------------
-- Requests and keys
-- ---------------------------------------------------------------------------

/-- A request, and what earlier middleware has put into its context. -/
structure CoalesceRequest where
  method   : String
  path     : String
  rawQuery : String
  header   : Header
  tenant   : Option UUID
  ctxUID   : Option String

/-- What requests are told apart by. -/
structure CoalesceParts where
  method   : String
  path     : String
  query    : String
  tenantID : String
  userID   : String
  deriving DecidableEq

def coalesceKey (method path query tenantID userID : String) : String :=
  tenantID ++ ":" ++ userID ++ ":" ++ method ++ " " ++ path ++ "?" ++ query

namespace CoalesceRequest

/-- The tenant of the context, if there is one, before that of the header. -/
def tenantID (r : CoalesceRequest) : String :=
  match r.tenant with
  | some id => if id ≠ UUID.nil then id.string else r.header.get "X-Tenant-ID"
  | none => r.header.get "X-Tenant-ID"

def userID (r : CoalesceRequest) : String :=
  match r.ctxUID with
  | some id => if id ≠ "" then id else r.header.get "X-User-ID"
  | none => r.header.get "X-User-ID"

def parts (r : CoalesceRequest) : CoalesceParts :=
  ⟨r.method, r.path, r.rawQuery, r.tenantID, r.userID⟩

/-- The key, for a request that is coalesced. -/
def key (r : CoalesceRequest) : Option String :=
  if r.method = "GET" then
    some (coalesceKey r.method r.path r.rawQuery r.tenantID r.userID)
  else if r.header.get "Idempotency-Key" ≠ "" then
    some (coalesceKey r.method r.path "" r.tenantID r.userID ++ "&idem=" ++
      r.header.get "Idempotency-Key")
  else none

end CoalesceRequest

-- ---------------------------------------------------------------------------
-- Recording and copying
-- ---------------------------------------------------------------------------

/-- `coalesceRecorder`: the header a handler sets goes to `header`, and not to the writer. -/
structure CoalesceRecorder where
  responseWriter : Writer
  status         : Int
  header         : ResponseHeader
  body           : Bytes

namespace CoalesceRecorder

def new : CoalesceRecorder := ⟨.new, 200, fun _ => [], []⟩

def serve (c : CoalesceRecorder) (op : WriterOp) : CoalesceRecorder :=
  if c.responseWriter.panicked = true then c
  else
    match op with
    | .setHeader name values => { c with header := Function.update c.header name values }
    | .writeHeader code =>
      { c with status := code, responseWriter := c.responseWriter.writeHeader code }
    | .write data =>
      { c with body := c.body ++ data, responseWriter := c.responseWriter.write data }
    | .panic => { c with responseWriter := { c.responseWriter with panicked := true } }

/-- The handler of a leader. -/
def record (run : List WriterOp) : CoalesceRecorder := run.foldl serve new

end CoalesceRecorder

def copyResponse (w : Writer) (status : Int) (body : Bytes) (header : ResponseHeader) : Writer :=
  [.writeHeader status, .write body].foldl Writer.serve
    { w with header := fun k => if header k = [] then w.header k else header k }

-- ---------------------------------------------------------------------------
-- `RequestCoalescer`
-- ---------------------------------------------------------------------------

/-- A call in flight, under the number of the thread that leads it; and, for the statements only,
the request and the run of the handler. -/
structure CoalescedCall where
  status  : Int
  body    : Bytes
  header  : ResponseHeader
  done    : Bool
  request : Option CoalesceRequest
  run     : Option (List WriterOp)

def CoalescedCall.new (request : Option CoalesceRequest) : CoalescedCall :=
  ⟨0, [], fun _ => [], false, request, none⟩

/-- `cachedResponse`; and whose response it was. -/
structure CoalescedResponse where
  key     : String
  status  : Int
  body    : Bytes
  header  : ResponseHeader
  expires : Time
  leader  : Nat

/-- The coalescer and the time; and, for the statements only, what the handler has answered so
far. -/
structure RequestCoalescer where
  ttl        : Int
  maxEntries : Nat
  clock      : Time
  inflight   : String → Option Nat
  calls      : Nat → CoalescedCall
  cache      : Table CoalescedResponse.key
  answered   : List (CoalesceParts × Response)

/-- Where a request is; from its last response on, with what was written. `panicked` says whether
its own handler did. -/
inductive CoalesceTask where
  | idle
  | passing (r : CoalesceRequest)
  | leading (r : CoalesceRequest) (key : String)
  | storing (r : CoalesceRequest) (key : String) (w : Writer)
  | closing (r : CoalesceRequest) (key : String) (panicked : Bool) (w : Writer)
  | removing (r : CoalesceRequest) (key : String) (panicked : Bool) (w : Writer)
  | waiting (r : CoalesceRequest) (leader : Nat)
  | ended (r : CoalesceRequest) (panicked : Bool) (w : Writer)

namespace RequestCoalescer

/-- The response in the cache that has not expired. -/
def cached (rc : RequestCoalescer) (key : String) : Option CoalescedResponse :=
  (rc.cache.find? key).filter fun c => decide (rc.clock < c.expires)

def setCall (rc : RequestCoalescer) (t : Nat) (call : CoalescedCall) : RequestCoalescer :=
  { rc with calls := Function.update rc.calls t call }

@[simp] theorem setCall_self (rc : RequestCoalescer) (t : Nat) (call : CoalescedCall) :
    (rc.setCall t call).calls t = call := Function.update_self ..

theorem setCall_of_ne (rc : RequestCoalescer) {t u : Nat} (call : CoalescedCall) (h : u ≠ t) :
    (rc.setCall t call).calls u = rc.calls u := Function.update_of_ne h ..

/-- The middleware up to its first unlock. -/
def arrive (rc : RequestCoalescer) (t : Nat) (r : CoalesceRequest) :
    RequestCoalescer × CoalesceTask :=
  match r.key with
  | none => (rc, .passing r)
  | some key =>
    match rc.cached key with
    | some c => (rc, .ended r false (copyResponse .new c.status c.body c.header))
    | none =>
      match rc.inflight key with
      | some leader => (rc, .waiting r leader)
      | none =>
        ({ rc.setCall t (.new (some r)) with
            inflight := Function.update rc.inflight key (some t) }, .leading r key)

/-- A request that is not coalesced. -/
def pass (rc : RequestCoalescer) (r : CoalesceRequest) (run : List WriterOp) :
    RequestCoalescer × CoalesceTask :=
  let w := Writer.plain run
  if w.panicked = true then (rc, .ended r true w)
  else ({ rc with answered := (r.parts, w.finish) :: rc.answered }, .ended r false w)

/-- The handler of a leader. Its header map is that of the call; status and body are set when it has
returned. -/
def lead (rc : RequestCoalescer) (t : Nat) (r : CoalesceRequest) (key : String)
    (run : List WriterOp) : RequestCoalescer × CoalesceTask :=
  let sr := CoalesceRecorder.record run
  let call := { rc.calls t with header := sr.header, run := some run }
  if sr.responseWriter.panicked = true then
    (rc.setCall t call, .closing r key true sr.responseWriter)
  else
    ({ rc.setCall t { call with status := sr.status, body := sr.body } with
        answered := (r.parts, (Writer.plain run).finish) :: rc.answered },
      if 0 < rc.ttl ∧ 200 ≤ sr.status ∧ sr.status < 300 then .storing r key sr.responseWriter
      else .closing r key false sr.responseWriter)

/-- The cache less one entry, if it is full; `evicted` says which comes first in the iteration. -/
def evict (rc : RequestCoalescer) (evicted : Nat) : Table CoalescedResponse.key :=
  if rc.maxEntries ≤ rc.cache.rows.length then
    match rc.cache.rows[evicted % rc.cache.rows.length]? with
    | some c => rc.cache.delete fun c' => decide (c'.key = c.key)
    | none => rc.cache
  else rc.cache

def cacheResponse (rc : RequestCoalescer) (t : Nat) (key : String) (evicted : Nat) :
    RequestCoalescer :=
  let call := rc.calls t
  { rc with
    cache := (rc.evict evicted).put
      ⟨key, call.status, call.body, call.header, rc.clock + rc.ttl, t⟩ }

/-- `close(call.done)`. -/
def closeDone (rc : RequestCoalescer) (t : Nat) : RequestCoalescer :=
  rc.setCall t { rc.calls t with done := true }

/-- A request that waits goes on when the call is over. -/
def receive (rc : RequestCoalescer) (r : CoalesceRequest) (leader : Nat) :
    RequestCoalescer × CoalesceTask :=
  let call := rc.calls leader
  if call.done = true then
    (rc, .ended r false (copyResponse .new call.status call.body call.header))
  else (rc, .waiting r leader)

/-- One round of `cleanupLoop`. -/
def cleanup (rc : RequestCoalescer) : RequestCoalescer :=
  { rc with cache := rc.cache.delete fun c => decide (c.expires < rc.clock) }

end RequestCoalescer

/-- What a thread does next: the request if it is idle, the run of the handler if it serves one. -/
structure CoalesceTurn where
  thread  : Nat
  request : CoalesceRequest
  run     : List WriterOp
  evicted : Nat

/-- One step of a request. -/
def CoalesceTask.act (a : CoalesceTurn) (rc : RequestCoalescer) :
    CoalesceTask → RequestCoalescer × CoalesceTask
  | .idle => rc.arrive a.thread a.request
  | .passing r => rc.pass r a.run
  | .leading r key => rc.lead a.thread r key a.run
  | .storing r key w => (rc.cacheResponse a.thread key a.evicted, .closing r key false w)
  | .closing r key panicked w => (rc.closeDone a.thread, .removing r key panicked w)
  | .removing r key panicked w =>
    ({ rc with inflight := Function.update rc.inflight key none }, .ended r panicked w)
  | .waiting r leader => rc.receive r leader
  | .ended r panicked w => (rc, .ended r panicked w)

/-- A request goes on, or the cache is cleaned up, some time later. -/
inductive CoalesceEvent where
  | turn (elapsed : Nat) (a : CoalesceTurn)
  | cleanup (elapsed : Nat)

-- ---------------------------------------------------------------------------
-- What the key tells apart
-- ---------------------------------------------------------------------------

namespace CoalesceRequest

/-- No separator of the key is in a field in front of it, and the key has all of the query. -/
structure Separated (r : CoalesceRequest) : Prop where
  tenantID : ':' ∉ r.tenantID.toList
  userID   : ':' ∉ r.userID.toList
  method   : ' ' ∉ r.method.toList
  path     : '?' ∉ r.path.toList
  query    : r.method = "GET" ∨ r.rawQuery = ""

/-- The fields of a key in their order; behind the path comes the query, for a GET. -/
theorem toList_key {r : CoalesceRequest} {key : String} (h : r.key = some key) :
    ∃ rest, key.toList = r.tenantID.toList ++ ':' :: (r.userID.toList ++ ':' ::
      (r.method.toList ++ ' ' :: (r.path.toList ++ '?' :: rest))) ∧
        (r.method = "GET" → rest = r.rawQuery.toList) := by
  unfold CoalesceRequest.key at h
  split_ifs at h with hget hidem
  · rw [Option.some.injEq] at h
    subst h
    refine ⟨r.rawQuery.toList, ?_, fun _ => rfl⟩
    simp [coalesceKey, String.toList_append]
  · rw [Option.some.injEq] at h
    subst h
    refine ⟨"&idem=".toList ++ (r.header.get "Idempotency-Key").toList, ?_,
      fun hmethod => absurd hmethod hget⟩
    simp [coalesceKey, String.toList_append]

/-- **What the key tells apart.** -/
theorem parts_of_key {r r' : CoalesceRequest} (hr : r.Separated) (hr' : r'.Separated)
    {key : String} (h : r.key = some key) (h' : r'.key = some key) : r.parts = r'.parts := by
  obtain ⟨rest, hchars, hrest⟩ := toList_key h
  obtain ⟨rest', hchars', hrest'⟩ := toList_key h'
  rw [hchars] at hchars'
  obtain ⟨htenant, hchars'⟩ := append_separator_inj hr.tenantID hr'.tenantID hchars'
  obtain ⟨huser, hchars'⟩ := append_separator_inj hr.userID hr'.userID hchars'
  obtain ⟨hmethod, hchars'⟩ := append_separator_inj hr.method hr'.method hchars'
  obtain ⟨hpath, heq⟩ := append_separator_inj hr.path hr'.path hchars'
  have hmethod := String.toList_inj.mp hmethod
  have hquery : r.rawQuery = r'.rawQuery := by
    rcases hr.query with hget | hempty
    · rw [← String.toList_inj, ← hrest hget, ← hrest' (hmethod ▸ hget), heq]
    · rcases hr'.query with hget' | hempty'
      · rw [← String.toList_inj, ← hrest (hmethod ▸ hget'), ← hrest' hget', heq]
      · rw [hempty, hempty']
  simp only [parts, CoalesceParts.mk.injEq]
  exact ⟨hmethod, String.toList_inj.mp hpath, hquery, String.toList_inj.mp htenant,
    String.toList_inj.mp huser⟩

end CoalesceRequest

-- ---------------------------------------------------------------------------
-- What is recorded, and what is copied
-- ---------------------------------------------------------------------------

namespace CoalesceRecorder

/-- The recorder of a handler, and the writer the handler would have had. -/
structure Agrees (c : CoalesceRecorder) (w : Writer) : Prop where
  panicked : c.responseWriter.panicked = w.panicked
  header   : c.header = w.header
  inner    : c.responseWriter.header = fun _ => []
  sent     : c.responseWriter.sent = w.sent.map fun s => (s.1, fun _ => [])
  body     : c.responseWriter.body = w.body
  copied   : w.body = if bodyAllowed w.sending.1 = true then c.body else []
  unsent   : w.sent = none → c.body = []

variable {c : CoalesceRecorder} {w : Writer}

theorem Agrees.sending (h : Agrees c w) :
    c.responseWriter.sending = (w.sending.1, fun _ => []) := by
  cases hsent : w.sent with
  | none =>
    rw [Writer.sending_of_unsent hsent, Writer.sending_of_unsent (by rw [h.sent, hsent]; rfl),
      h.inner]
  | some s =>
    rw [Writer.sending_of_sent hsent, Writer.sending_of_sent (by rw [h.sent, hsent]; rfl)]

theorem Agrees.writeHeader (h : Agrees c w) (code : Int) :
    Agrees { c with status := code, responseWriter := c.responseWriter.writeHeader code }
      (w.writeHeader code) := by
  have hisSome : c.responseWriter.sent.isSome = w.sent.isSome := by
    rw [h.sent, Option.isSome_map]
  unfold Writer.writeHeader
  rw [hisSome]
  split_ifs with hsent
  · exact { h with }
  · exact { h with panicked := rfl }
  · exact { h with }
  · have hnone : w.sent = none := by simpa using hsent
    have hempty := h.unsent hnone
    have hbody : w.body = [] := by
      rw [h.copied, hempty, ite_self]
    refine { h with sent := ?_, copied := ?_, unsent := fun hsome => by cases hsome }
    · simp only [h.inner, Option.map_some]
    · simp only [hempty, hbody, ite_self]

theorem Agrees.write (h : Agrees c w) (data : Bytes) :
    Agrees { c with body := c.body ++ data, responseWriter := c.responseWriter.write data }
      (w.write data) := by
  refine { h with sent := ?_, body := ?_, copied := ?_, unsent := fun hsome => by cases hsome }
  · simp only [Writer.write, h.sending, Option.map_some]
  · simp only [Writer.write, h.sending, h.body]
  · rw [Writer.sending_write, Writer.write, h.copied]
    split_ifs <;> rfl

theorem Agrees.serve (h : Agrees c w) (op : WriterOp) : Agrees (c.serve op) (w.serve op) := by
  unfold CoalesceRecorder.serve Writer.serve
  rw [h.panicked]
  split_ifs
  · exact h
  · cases op with
    | setHeader name values =>
      refine { h with header := ?_, copied := ?_ }
      · simp only [h.header]
      · have hcopied := h.copied
        unfold Writer.sending at hcopied ⊢
        cases hsent : w.sent with
        | none => simpa [hsent] using hcopied
        | some s => simpa [hsent] using hcopied
    | writeHeader code => exact h.writeHeader code
    | write data => exact h.write data
    | panic => exact { h with panicked := rfl }

theorem agrees_record (run : List WriterOp) : Agrees (record run) (Writer.plain run) := by
  have hrun : ∀ (c : CoalesceRecorder) (w : Writer), Agrees c w →
      Agrees (run.foldl CoalesceRecorder.serve c) (run.foldl Writer.serve w) := by
    induction run with
    | nil => exact fun _ _ h => h
    | cons op run ih => exact fun c w h => ih _ _ (h.serve op)
  exact hrun new .new ⟨rfl, rfl, rfl, rfl, rfl, rfl, fun _ => rfl⟩

/-- A leader gets status and body, and no header. -/
theorem finish_record (run : List WriterOp) : (record run).responseWriter.finish =
    ⟨(Writer.plain run).finish.status, fun _ => [], (Writer.plain run).finish.body⟩ := by
  have h := agrees_record run
  unfold Writer.finish
  rw [h.sending, h.body]

theorem record_concat (run : List WriterOp) (op : WriterOp) :
    record (run ++ [op]) = (record run).serve op := by
  unfold record
  rw [List.foldl_append]
  rfl

/-- The status that is recorded is the last one set, unless the handler panicked. -/
theorem status_record {run : List WriterOp} (h : (Writer.plain run).panicked = false) :
    (record run).status = lastCode run := by
  rw [← (agrees_record run).panicked] at h
  induction run using List.reverseRecOn with
  | nil => rfl
  | append_singleton run op ih =>
    rw [record_concat] at h ⊢
    by_cases hpanicked : (record run).responseWriter.panicked = true
    · rw [show (record run).serve op = record run from if_pos hpanicked, hpanicked] at h
      cases h
    · have hlast := ih (by simpa using hpanicked)
      unfold CoalesceRecorder.serve
      rw [if_neg hpanicked, lastCode, List.foldl_append]
      cases op with
      | writeHeader code => rfl
      | setHeader key values => exact hlast
      | write data => exact hlast
      | panic => exact hlast

end CoalesceRecorder

/-- A copy of a response, if its status can be sent. -/
theorem copyResponse_of_valid {status : Int} (h : 100 ≤ status ∧ status ≤ 999) (body : Bytes)
    (header : ResponseHeader) :
    (copyResponse .new status body header).panicked = false ∧
      (copyResponse .new status body header).finish =
        ⟨sentCode status, header, if bodyAllowed (sentCode status) = true then body else []⟩ := by
  have hheader : (fun k => if header k = [] then Writer.new.header k else header k) = header := by
    funext k
    split_ifs with hk
    · exact hk.symm
    · rfl
  have hcode : ¬ (status < 100 ∨ 999 < status) := by omega
  unfold copyResponse
  rw [hheader]
  by_cases hinfo : informational status = true
  · simp [Writer.serve, Writer.new, Writer.writeHeader, Writer.write, Writer.sending, Writer.finish,
      hcode, hinfo, sentCode]
    rfl
  · simp [Writer.serve, Writer.new, Writer.writeHeader, Writer.write, Writer.sending, Writer.finish,
      hcode, hinfo, sentCode]
    rfl

/-- Any other status makes the copy panic. -/
theorem copyResponse_panics {status : Int} (h : ¬ (100 ≤ status ∧ status ≤ 999)) (body : Bytes)
    (header : ResponseHeader) : (copyResponse .new status body header).panicked = true := by
  have hcode : status < 100 ∨ 999 < status := by omega
  simp [copyResponse, Writer.serve, Writer.new, Writer.writeHeader, hcode]

/-- **What is copied** is the response of the handler if and only if that can be repeated. -/
theorem finish_copy_iff {run : List WriterOp} (hended : (Writer.plain run).panicked = false)
    {w : Writer} (hw : w = copyResponse .new (CoalesceRecorder.record run).status
      (CoalesceRecorder.record run).body (CoalesceRecorder.record run).header) :
    w.panicked = false ∧ w.finish = (Writer.plain run).finish ↔ Repeats run := by
  have hagrees := CoalesceRecorder.agrees_record run
  have hstatus := CoalesceRecorder.status_record hended
  rw [hstatus, hagrees.header] at hw
  subst hw
  by_cases hvalid : 100 ≤ lastCode run ∧ lastCode run ≤ 999
  · obtain ⟨hok, hfinish⟩ := copyResponse_of_valid hvalid (CoalesceRecorder.record run).body
      (Writer.plain run).header
    rw [hok, hfinish]
    simp only [true_and, Repeats, hended, Writer.finish, Response.mk.injEq]
    refine ⟨fun h => ⟨h.1, h.2.1⟩, fun h => ⟨h.1, h.2, ?_⟩⟩
    rw [hagrees.copied, h.1]
  · rw [copyResponse_panics hvalid]
    simp only [Bool.true_eq_false, false_and, false_iff]
    rintro ⟨-, hsent, -⟩
    -- what was sent has three digits
    have hthree := Writer.valid_sending (Writer.plain_valid run)
    rw [Writer.finish, sentCode] at hsent
    split_ifs at hsent with hinfo
    · unfold informational at hinfo
      simp only [Bool.and_eq_true, decide_eq_true_eq] at hinfo
      exact hvalid ⟨hinfo.1.1, hinfo.1.2.trans (by decide)⟩
    · exact hvalid (hsent ▸ hthree)

-- ---------------------------------------------------------------------------
-- Runs
-- ---------------------------------------------------------------------------

namespace Coalesce

abbrev State := Threads RequestCoalescer CoalesceTask

/-- Time goes by. -/
def wait (rc : RequestCoalescer) (elapsed : Nat) : RequestCoalescer :=
  { rc with clock := rc.clock + elapsed }

def step (p : State) : CoalesceEvent → State
  | .turn elapsed a => p.put a.thread ((p.task a.thread).act a (wait p.store elapsed))
  | .cleanup elapsed => { p with store := (wait p.store elapsed).cleanup }

/-- `NewRequestCoalescer`, before the first request. -/
def start (ttl : Int) (clock : Time) : State :=
  ⟨⟨ttl, 10000, clock, fun _ => none, fun _ => .new none, .empty, []⟩, fun _ => .idle⟩

/-- What was written to a request is what the handler has answered to one with the same method,
path, query, tenant and user, unless its own handler panicked. -/
def Served (rc : RequestCoalescer) (r : CoalesceRequest) (panicked : Bool) (w : Writer) : Prop :=
  panicked = true ∨ (w.panicked = false ∧ (r.parts, w.finish) ∈ rc.answered)

def Delivered (p : State) : Prop :=
  ∀ t r panicked w, p.task t = .ended r panicked w → Served p.store r panicked w

/-- The response of a call may be given to a request: the key they have in common does not stand
for different requests, and the handler's response can be repeated. -/
def Shareable (rc : RequestCoalescer) (r : CoalesceRequest) (leader : Nat) : Prop :=
  ∀ origin run, (rc.calls leader).request = some origin → (rc.calls leader).run = some run →
    (origin.key = r.key → origin.parts = r.parts) ∧ Repeats run

/-- A response is given to others only if it may be; and where a handler's own request is to get its
response, that has no header. -/
def SharesTask (a : CoalesceTurn) (rc : RequestCoalescer) : CoalesceTask → Prop
  | .idle => ∀ key c, a.request.key = some key → rc.cached key = some c →
    Shareable rc a.request c.leader
  | .leading _ _ => (Writer.plain a.run).panicked = false →
    (Writer.plain a.run).finish.header = fun _ => []
  | .waiting r leader => (rc.calls leader).done = true → Shareable rc r leader
  | _ => True

def Shares (p : State) : CoalesceEvent → Prop
  | .turn elapsed a => SharesTask a (wait p.store elapsed) (p.task a.thread)
  | .cleanup _ => True

variable {rc rc' : RequestCoalescer} {t : Nat}

-- ---------------------------------------------------------------------------
-- What is known of calls and of the cache
-- ---------------------------------------------------------------------------

/-- A call whose handler has ended. -/
structure Records (rc : RequestCoalescer) (call : CoalescedCall) (r : CoalesceRequest)
    (run : List WriterOp) : Prop where
  status   : call.status = (CoalesceRecorder.record run).status
  body     : call.body = (CoalesceRecorder.record run).body
  header   : call.header = (CoalesceRecorder.record run).header
  answered : (r.parts, (Writer.plain run).finish) ∈ rc.answered

/-- A call whose handler panicked keeps the status 0. -/
structure CallInv (rc : RequestCoalescer) (call : CoalescedCall) : Prop where
  run  : ∀ run, call.run = some run → ∃ r, call.request = some r ∧
    ((Writer.plain run).panicked = false → Records rc call r run)
  done : call.done = true → ∃ run, call.run = some run

/-- A call in flight is there for its key. -/
def InflightInv (rc : RequestCoalescer) (key : String) (leader : Nat) : Prop :=
  ∃ r, (rc.calls leader).request = some r ∧ r.key = some key

/-- What the cache has is what the call had. -/
def CachedInv (rc : RequestCoalescer) (c : CoalescedResponse) : Prop :=
  InflightInv rc c.key c.leader ∧ c.status = (rc.calls c.leader).status ∧
    c.body = (rc.calls c.leader).body ∧ c.header = (rc.calls c.leader).header ∧
      ∃ run, (rc.calls c.leader).run = some run

structure StoreInv (rc : RequestCoalescer) : Prop where
  calls    : ∀ t, CallInv rc (rc.calls t)
  inflight : ∀ key leader, rc.inflight key = some leader → InflightInv rc key leader
  cache    : ∀ c ∈ rc.cache, CachedInv rc c

def TaskInv (rc : RequestCoalescer) (t : Nat) : CoalesceTask → Prop
  | .idle => (rc.calls t).request = none
  | .passing _ => True
  | .leading r key => (rc.calls t).request = some r ∧ (rc.calls t).run = none ∧ r.key = some key
  | .storing r key w => InflightInv rc key t ∧ (∃ run, (rc.calls t).run = some run) ∧
    Served rc r false w
  | .closing r _ panicked w => (∃ run, (rc.calls t).run = some run) ∧ Served rc r panicked w
  | .removing r _ panicked w => Served rc r panicked w
  | .waiting r leader => ∃ origin, (rc.calls leader).request = some origin ∧ origin.key = r.key
  | .ended r panicked w => Served rc r panicked w

/-- What a step of a thread leaves of the calls and the answers. -/
structure Later (t : Nat) (rc rc' : RequestCoalescer) : Prop where
  others   : ∀ u, u ≠ t → rc'.calls u = rc.calls u
  request  : ∀ u r, (rc.calls u).request = some r → (rc'.calls u).request = some r
  run      : ∀ u run, (rc.calls u).run = some run → (rc'.calls u).run = some run ∧
    (rc'.calls u).status = (rc.calls u).status ∧ (rc'.calls u).body = (rc.calls u).body ∧
      (rc'.calls u).header = (rc.calls u).header
  answered : ∀ x ∈ rc.answered, x ∈ rc'.answered

theorem later_of_calls (h : rc'.calls = rc.calls)
    (hanswered : ∀ x ∈ rc.answered, x ∈ rc'.answered) : Later t rc rc' := by
  refine ⟨fun u _ => ?_, fun u r hr => ?_, fun u run hrun => ?_, hanswered⟩
  · rw [h]
  · rw [h]
    exact hr
  · rw [h]
    exact ⟨hrun, rfl, rfl, rfl⟩

theorem Served.later {r : CoalesceRequest} {panicked : Bool} {w : Writer}
    (h : Served rc r panicked w) (hlater : Later t rc rc') : Served rc' r panicked w :=
  h.imp id fun h => ⟨h.1, hlater.answered _ h.2⟩

theorem InflightInv.later {key : String} {leader : Nat} (h : InflightInv rc key leader)
    (hlater : Later t rc rc') : InflightInv rc' key leader := by
  obtain ⟨r, hr, hkey⟩ := h
  exact ⟨r, hlater.request leader r hr, hkey⟩

theorem CachedInv.later {c : CoalescedResponse} (h : CachedInv rc c) (hlater : Later t rc rc') :
    CachedInv rc' c := by
  obtain ⟨hinflight, hstatus, hbody, hheader, run, hrun⟩ := h
  obtain ⟨hrun', hstatus', hbody', hheader'⟩ := hlater.run c.leader run hrun
  exact ⟨hinflight.later hlater, hstatus.trans hstatus'.symm, hbody.trans hbody'.symm,
    hheader.trans hheader'.symm, run, hrun'⟩

theorem CallInv.later {call : CoalescedCall} (h : CallInv rc call) (hlater : Later t rc rc') :
    CallInv rc' call := by
  refine ⟨fun run hrun => ?_, h.done⟩
  obtain ⟨r, hr, hrecords⟩ := h.run run hrun
  exact ⟨r, hr, fun hended => { hrecords hended with
    answered := hlater.answered _ (hrecords hended).answered }⟩

/-- The task of another thread. -/
theorem TaskInv.later {u : Nat} {task : CoalesceTask} (h : TaskInv rc u task) (hne : u ≠ t)
    (hlater : Later t rc rc') : TaskInv rc' u task := by
  cases task with
  | idle =>
    rw [TaskInv, hlater.others u hne]
    exact h
  | passing r => trivial
  | leading r key =>
    rw [TaskInv, hlater.others u hne]
    exact h
  | storing r key w =>
    obtain ⟨hinflight, ⟨run, hrun⟩, hserved⟩ := h
    exact ⟨hinflight.later hlater, ⟨run, (hlater.run u run hrun).1⟩, hserved.later hlater⟩
  | closing r key panicked w =>
    obtain ⟨⟨run, hrun⟩, hserved⟩ := h
    exact ⟨⟨run, (hlater.run u run hrun).1⟩, hserved.later hlater⟩
  | removing r key panicked w => exact Served.later h hlater
  | waiting r leader =>
    obtain ⟨origin, horigin, hkey⟩ := h
    exact ⟨origin, hlater.request leader origin horigin, hkey⟩
  | ended r panicked w => exact Served.later h hlater

/-- What a step leaves of the store: the call of its thread, a key in flight and an entry of the
cache may be new. -/
theorem StoreInv.later (h : StoreInv rc) (hlater : Later t rc rc')
    (hcall : CallInv rc' (rc'.calls t))
    (hinflight : ∀ key leader, rc'.inflight key = some leader →
      rc.inflight key = some leader ∨ InflightInv rc' key leader)
    (hcache : ∀ c ∈ rc'.cache, c ∈ rc.cache ∨ CachedInv rc' c) : StoreInv rc' := by
  refine ⟨fun u => ?_, fun key leader hkey => ?_, fun c hc => ?_⟩
  · by_cases hu : u = t
    · rw [hu]
      exact hcall
    · rw [hlater.others u hu]
      exact (h.calls u).later hlater
  · rcases hinflight key leader hkey with hbefore | hnew
    · exact (h.inflight key leader hbefore).later hlater
    · exact hnew
  · rcases hcache c hc with hbefore | hnew
    · exact (h.cache c hbefore).later hlater
    · exact hnew

-- ---------------------------------------------------------------------------
-- One step
-- ---------------------------------------------------------------------------

section Step

variable {r : CoalesceRequest} {key : String} {leader : Nat}

/-- A step that changes the call of its thread. -/
theorem later_setCall {call : CoalescedCall}
    (hcalls : ∀ u, rc'.calls u = (rc.setCall t call).calls u)
    (hrequest : ∀ r, (rc.calls t).request = some r → call.request = some r)
    (hrun : ∀ run, (rc.calls t).run = some run → call.run = some run ∧
      call.status = (rc.calls t).status ∧ call.body = (rc.calls t).body ∧
        call.header = (rc.calls t).header)
    (hanswered : ∀ x ∈ rc.answered, x ∈ rc'.answered) : Later t rc rc' := by
  refine ⟨fun u hu => ?_, fun u r hr => ?_, fun u run hu => ?_, hanswered⟩
  · rw [hcalls, rc.setCall_of_ne call hu]
  · rw [hcalls]
    by_cases hut : u = t
    · subst hut
      rw [rc.setCall_self]
      exact hrequest r hr
    · rw [rc.setCall_of_ne call hut]
      exact hr
  · rw [hcalls]
    by_cases hut : u = t
    · subst hut
      rw [rc.setCall_self]
      exact hrun run hu
    · rw [rc.setCall_of_ne call hut]
      exact ⟨hu, rfl, rfl, rfl⟩

theorem CallInv.run_none {call : CoalescedCall} (h : CallInv rc call)
    (hnone : call.request = none) : call.run = none := by
  cases hrun : call.run with
  | none => rfl
  | some run =>
    obtain ⟨r, hr, -⟩ := h.run run hrun
    rw [hnone] at hr
    cases hr

/-- **A copy** of a call that may be shared. -/
theorem served_copy (h : StoreInv rc) {origin : CoalesceRequest} {run : List WriterOp}
    (horigin : (rc.calls leader).request = some origin) (hkey : origin.key = r.key)
    (hrun : (rc.calls leader).run = some run) (hshareable : Shareable rc r leader) :
    Served rc r false (copyResponse .new (rc.calls leader).status (rc.calls leader).body
      (rc.calls leader).header) := by
  obtain ⟨hparts, hrepeats⟩ := hshareable origin run horigin hrun
  obtain ⟨origin', horigin', hrecords⟩ := (h.calls leader).run run hrun
  obtain rfl : origin' = origin := Option.some.inj (horigin'.symm.trans horigin)
  have hended := hrepeats.1
  have hcall := hrecords hended
  obtain ⟨hok, hfinish⟩ := (finish_copy_iff hended rfl).mpr hrepeats
  rw [hcall.status, hcall.body, hcall.header]
  refine .inr ⟨hok, ?_⟩
  rw [hfinish, ← hparts hkey]
  exact hcall.answered

/-- What a step is to keep. -/
structure Kept (t : Nat) (rc : RequestCoalescer) (new : RequestCoalescer × CoalesceTask) :
    Prop where
  later : Later t rc new.1
  store : StoreInv new.1
  task  : TaskInv new.1 t new.2

/-- A step that leaves the coalescer as it is. -/
theorem kept_of_task (h : StoreInv rc) {task : CoalesceTask} (htask : TaskInv rc t task) :
    Kept t rc (rc, task) :=
  ⟨later_of_calls rfl fun _ hx => hx, h, htask⟩

theorem arrive_kept (h : StoreInv rc) (hidle : (rc.calls t).request = none)
    (hshares : ∀ key c, r.key = some key → rc.cached key = some c → Shareable rc r c.leader) :
    Kept t rc (rc.arrive t r) := by
  unfold RequestCoalescer.arrive
  split
  · exact kept_of_task h trivial
  · rename_i key hkey
    split
    · rename_i c hcached
      refine kept_of_task h ?_
      have hfound := (Option.filter_eq_some_iff.mp hcached).1
      obtain ⟨hc, rfl⟩ := Table.find?_eq_some_iff.mp hfound
      obtain ⟨⟨origin, horigin, hsame⟩, hstatus, hbody, hheader, run, hrun⟩ := h.cache c hc
      rw [TaskInv, hstatus, hbody, hheader]
      exact served_copy h horigin (hsame.trans hkey.symm) hrun (hshares c.key c hkey hcached)
    · split
      · rename_i leader hleader
        obtain ⟨origin, horigin, hsame⟩ := h.inflight key leader hleader
        exact kept_of_task h ⟨origin, horigin, hsame.trans hkey.symm⟩
      · -- a new call; there was none under the number of the thread
        have hnorun := (h.calls t).run_none hidle
        have hlater : Later t rc { rc.setCall t (.new (some r)) with
            inflight := Function.update rc.inflight key (some t) } := by
          refine later_setCall (fun _ => rfl) (fun r' hr' => ?_) (fun run hrun => ?_) fun _ hx => hx
          · rw [hidle] at hr'
            cases hr'
          · rw [hnorun] at hrun
            cases hrun
        have hself : InflightInv (rc.setCall t (.new (some r))) key t := by
          refine ⟨r, ?_, hkey⟩
          rw [rc.setCall_self]
          rfl
        refine ⟨hlater, h.later hlater ?_ (fun key' leader hleader => ?_) fun c hc => .inl hc, ?_⟩
        · show CallInv _ ((rc.setCall t (.new (some r))).calls t)
          rw [rc.setCall_self]
          exact ⟨fun run hrun => (by cases hrun), fun hdone => (by cases hdone)⟩
        · by_cases hsame : key' = key
          · subst hsame
            dsimp only at hleader
            rw [Function.update_self, Option.some.injEq] at hleader
            subst hleader
            exact .inr hself
          · dsimp only at hleader
            rw [Function.update_of_ne hsame] at hleader
            exact .inl hleader
        · show ((rc.setCall t (.new (some r))).calls t).request = some r ∧
            ((rc.setCall t (.new (some r))).calls t).run = none ∧ r.key = some key
          rw [rc.setCall_self]
          exact ⟨rfl, rfl, hkey⟩

theorem pass_kept (h : StoreInv rc) (run : List WriterOp) : Kept t rc (rc.pass r run) := by
  unfold RequestCoalescer.pass
  dsimp only
  split_ifs with hpanicked
  · exact kept_of_task h (.inl rfl)
  · have hlater : Later t rc
        { rc with answered := (r.parts, (Writer.plain run).finish) :: rc.answered } :=
      later_of_calls rfl fun _ hx => List.mem_cons_of_mem _ hx
    refine ⟨hlater, h.later hlater ((h.calls t).later hlater) (fun _ _ hkey => .inl hkey)
      fun _ hc => .inl hc, ?_⟩
    exact .inr ⟨Bool.eq_false_iff.mpr hpanicked, List.mem_cons_self⟩

/-- The call of a leader has its run. -/
theorem setCall_kept (run : List WriterOp) (h : StoreInv rc) {call : CoalescedCall}
    {task : CoalesceTask} (hrequest : (rc.calls t).request = some r)
    (hnorun : (rc.calls t).run = none) (hcalls : ∀ u, rc'.calls u = (rc.setCall t call).calls u)
    (hinflight : rc'.inflight = rc.inflight) (hcache : rc'.cache = rc.cache)
    (hanswered : ∀ x ∈ rc.answered, x ∈ rc'.answered) (hcall : call.request = some r)
    (hrun : call.run = some run)
    (hrecords : (Writer.plain run).panicked = false → Records rc' call r run)
    (htask : TaskInv rc' t task) : Kept t rc (rc', task) := by
  have hlater : Later t rc rc' := by
    refine later_setCall hcalls (fun r' hr' => ?_) (fun run' hrun' => ?_) hanswered
    · rw [hcall, ← hrequest, hr']
    · rw [hnorun] at hrun'
      cases hrun'
  refine ⟨hlater, h.later hlater ?_ (fun key leader hleader => ?_) fun c hc => ?_, htask⟩
  · dsimp only
    rw [hcalls, rc.setCall_self]
    refine ⟨fun run' hrun' => ⟨r, hcall, ?_⟩, fun _ => ⟨run, hrun⟩⟩
    obtain rfl : run = run' := Option.some.inj (hrun.symm.trans hrun')
    exact hrecords
  · exact .inl (hinflight ▸ hleader)
  · exact .inl (hcache ▸ hc)

/-- **The handler of a leader**, whose response has no header. -/
theorem lead_kept (h : StoreInv rc) {run : List WriterOp}
    (htask : TaskInv rc t (.leading r key))
    (hshares : (Writer.plain run).panicked = false →
      (Writer.plain run).finish.header = fun _ => []) :
    Kept t rc (rc.lead t r key run) := by
  obtain ⟨hrequest, hnorun, hkey⟩ := htask
  have hpanicked := (CoalesceRecorder.agrees_record run).panicked
  unfold RequestCoalescer.lead
  dsimp only
  split_ifs with hpanics hcacheable
  · refine setCall_kept run h hrequest hnorun (fun _ => rfl) rfl rfl (fun _ hx => hx) hrequest rfl
      (fun hended => ?_) ⟨⟨run, ?_⟩, .inl rfl⟩
    · rw [← hpanicked, hpanics] at hended
      cases hended
    · rw [rc.setCall_self]
  all_goals
    have hended : (Writer.plain run).panicked = false := by
      rw [← hpanicked]
      exact Bool.eq_false_iff.mpr hpanics
    -- what the leader gets is the response of the handler, without a header
    have hserved : ∀ rc' : RequestCoalescer, rc'.answered =
        (r.parts, (Writer.plain run).finish) :: rc.answered →
          Served rc' r false (CoalesceRecorder.record run).responseWriter := by
      intro rc' hanswered
      refine .inr ⟨Bool.eq_false_iff.mpr hpanics, ?_⟩
      rw [hanswered, CoalesceRecorder.finish_record, ← hshares hended]
      exact List.mem_cons_self
  · refine setCall_kept run h hrequest hnorun (fun _ => rfl) rfl rfl
      (fun _ hx => List.mem_cons_of_mem _ hx) hrequest rfl
      (fun _ => ⟨rfl, rfl, rfl, List.mem_cons_self⟩) ⟨?_, ⟨run, ?_⟩, hserved _ rfl⟩
    · refine ⟨r, ?_, hkey⟩
      dsimp only
      rw [rc.setCall_self]
      exact hrequest
    · dsimp only
      rw [rc.setCall_self]
  · refine setCall_kept run h hrequest hnorun (fun _ => rfl) rfl rfl
      (fun _ hx => List.mem_cons_of_mem _ hx) hrequest rfl
      (fun _ => ⟨rfl, rfl, rfl, List.mem_cons_self⟩) ⟨⟨run, ?_⟩, hserved _ rfl⟩
    dsimp only
    rw [rc.setCall_self]

theorem mem_evict {evicted : Nat} {c : CoalescedResponse} (h : c ∈ rc.evict evicted) :
    c ∈ rc.cache := by
  unfold RequestCoalescer.evict at h
  split_ifs at h
  · split at h
    · exact (Table.mem_delete.mp h).1
    · exact h
  · exact h

theorem cacheResponse_kept (h : StoreInv rc) {w : Writer} {evicted : Nat}
    (htask : TaskInv rc t (.storing r key w)) :
    Kept t rc (rc.cacheResponse t key evicted, .closing r key false w) := by
  obtain ⟨hinflight, hrun, hserved⟩ := htask
  have hlater : Later t rc (rc.cacheResponse t key evicted) := later_of_calls rfl fun _ hx => hx
  refine ⟨hlater, h.later hlater ((h.calls t).later hlater) (fun _ _ hleader => .inl hleader)
    fun c hc => ?_, hrun, hserved.later hlater⟩
  rcases Table.mem_put.mp hc with rfl | ⟨hc, -⟩
  · exact .inr ⟨hinflight.later hlater, rfl, rfl, rfl, hrun⟩
  · exact .inl (mem_evict hc)

theorem closeDone_kept (h : StoreInv rc) {panicked : Bool} {w : Writer}
    (htask : TaskInv rc t (.closing r key panicked w)) :
    Kept t rc (rc.closeDone t, .removing r key panicked w) := by
  obtain ⟨hrun, hserved⟩ := htask
  have hlater : Later t rc (rc.closeDone t) :=
    later_setCall (fun _ => rfl) (fun _ hr => hr) (fun _ hrun => ⟨hrun, rfl, rfl, rfl⟩)
      fun _ hx => hx
  refine ⟨hlater, h.later hlater ?_ (fun _ _ hleader => .inl hleader) fun _ hc => .inl hc,
    hserved.later hlater⟩
  have hcall := (h.calls t).later hlater
  unfold RequestCoalescer.closeDone at hcall ⊢
  dsimp only
  rw [rc.setCall_self]
  refine ⟨fun run hrun => ?_, fun _ => hrun⟩
  obtain ⟨r', hr', hrecords⟩ := hcall.run run hrun
  exact ⟨r', hr', fun hended => { hrecords hended with }⟩

theorem removing_kept (h : StoreInv rc) {panicked : Bool} {w : Writer}
    (htask : TaskInv rc t (.removing r key panicked w)) :
    Kept t rc ({ rc with inflight := Function.update rc.inflight key none },
      .ended r panicked w) := by
  have hlater : Later t rc { rc with inflight := Function.update rc.inflight key none } :=
    later_of_calls rfl fun _ hx => hx
  refine ⟨hlater, h.later hlater ((h.calls t).later hlater) (fun key' leader hleader => ?_)
    fun _ hc => .inl hc, Served.later htask hlater⟩
  by_cases hsame : key' = key
  · subst hsame
    dsimp only at hleader
    rw [Function.update_self] at hleader
    cases hleader
  · dsimp only at hleader
    rw [Function.update_of_ne hsame] at hleader
    exact .inl hleader

theorem receive_kept (h : StoreInv rc) (htask : TaskInv rc t (.waiting r leader))
    (hshares : (rc.calls leader).done = true → Shareable rc r leader) :
    Kept t rc (rc.receive r leader) := by
  unfold RequestCoalescer.receive
  dsimp only
  split_ifs with hdone
  · obtain ⟨origin, horigin, hkey⟩ := htask
    obtain ⟨run, hrun⟩ := (h.calls leader).done hdone
    exact kept_of_task h (served_copy h horigin hkey hrun (hshares hdone))
  · exact kept_of_task h htask

/-- **One step** of a request. -/
theorem act_kept {a : CoalesceTurn} {task : CoalesceTask} (h : StoreInv rc)
    (htask : TaskInv rc a.thread task) (hshares : SharesTask a rc task) :
    Kept a.thread rc (task.act a rc) := by
  cases task with
  | idle => exact arrive_kept h htask hshares
  | passing r => exact pass_kept h a.run
  | leading r key => exact lead_kept h htask hshares
  | storing r key w => exact cacheResponse_kept h htask
  | closing r key panicked w => exact closeDone_kept h htask
  | removing r key panicked w => exact removing_kept h htask
  | waiting r leader => exact receive_kept h htask hshares
  | ended r panicked w => exact kept_of_task h htask

end Step

-- ---------------------------------------------------------------------------
-- Every run
-- ---------------------------------------------------------------------------

/-- What is known of all requests. -/
structure Inv (p : State) : Prop where
  store : StoreInv p.store
  tasks : ∀ t, TaskInv p.store t (p.task t)

theorem Inv.delivered {p : State} (h : Inv p) : Delivered p := by
  intro t r panicked w hended
  have htask := h.tasks t
  rw [hended] at htask
  exact htask

/-- Nothing changes but the time, and expired entries may go. -/
theorem inv_of_cache {p : State} (h : Inv p) (hcalls : rc.calls = p.store.calls)
    (hinflight : rc.inflight = p.store.inflight) (hanswered : rc.answered = p.store.answered)
    (hcache : ∀ c ∈ rc.cache, c ∈ p.store.cache) : Inv { p with store := rc } := by
  have hlater : ∀ t, Later t p.store rc := fun t =>
    later_of_calls hcalls fun _ hx => hanswered ▸ hx
  refine ⟨h.store.later (hlater 0) ?_ (fun _ _ hleader => .inl (hinflight ▸ hleader))
    fun c hc => .inl (hcache c hc), fun t => (h.tasks t).later (Nat.ne_of_lt t.lt_succ_self)
      (hlater (t + 1))⟩
  rw [hcalls]
  exact (h.store.calls 0).later (hlater 0)

theorem Inv.wait {p : State} (h : Inv p) (elapsed : Nat) :
    Inv { p with store := wait p.store elapsed } :=
  inv_of_cache h rfl rfl rfl fun _ hc => hc

/-- **Every step** keeps what is known. -/
theorem Inv.step {p : State} (h : Inv p) {e : CoalesceEvent} (hshares : Shares p e) :
    Inv (step p e) := by
  cases e with
  | cleanup elapsed =>
    exact inv_of_cache h rfl rfl rfl fun c hc => (Table.mem_delete.mp hc).1
  | turn elapsed a =>
    have hwait := h.wait elapsed
    obtain ⟨hlater, hstore, htask⟩ := act_kept hwait.store (hwait.tasks a.thread) hshares
    refine ⟨hstore, fun t => ?_⟩
    by_cases ht : t = a.thread
    · subst ht
      show TaskInv _ a.thread ((p.put a.thread _).task a.thread)
      rw [Threads.put_task_self]
      exact htask
    · show TaskInv _ t ((p.put a.thread _).task t)
      rw [Threads.put_task_of_ne p _ ht]
      exact (hwait.tasks t).later ht hlater

theorem inv_start (ttl : Int) (clock : Time) : Inv (start ttl clock) where
  store :=
    { calls := fun _ => ⟨fun _ hrun => (by cases hrun), fun hdone => (by cases hdone)⟩
      inflight := fun _ _ hleader => (by cases hleader)
      cache := fun c hc => absurd hc (Table.not_mem_empty c) }
  tasks := fun _ => rfl

/-- **Every request gets the handler's response**, in every run that shares only what may be
shared. -/
theorem delivered_of_shared (ttl : Int) (clock : Time) (events : List CoalesceEvent)
    (h : StepsOk step Shares (start ttl clock) events) :
    ∀ p ∈ states step (start ttl clock) events, Delivered p := by
  have hstep : ∀ p e, Inv p → Shares p e → Inv (step p e) := fun _ _ hp hshares => hp.step hshares
  exact fun p hp => (invariant_states hstep (inv_start ttl clock) h p hp).delivered

-- ---------------------------------------------------------------------------
-- Requests whose keys can be taken apart
-- ---------------------------------------------------------------------------

section Separated

variable {a : CoalesceTurn} {task : CoalesceTask} {r : CoalesceRequest} {leader : Nat}

/-- A response is given to others only if it can be repeated; what the keys are is left open. -/
def RepeatsTask (a : CoalesceTurn) (rc : RequestCoalescer) : CoalesceTask → Prop
  | .idle => ∀ key c, a.request.key = some key → rc.cached key = some c →
    ∀ run, (rc.calls c.leader).run = some run → Repeats run
  | .leading _ _ => (Writer.plain a.run).panicked = false →
    (Writer.plain a.run).finish.header = fun _ => []
  | .waiting _ leader => (rc.calls leader).done = true →
    ∀ run, (rc.calls leader).run = some run → Repeats run
  | _ => True

/-- All requests have keys that can be taken apart. -/
def SeparatedRepeats (p : State) : CoalesceEvent → Prop
  | .turn elapsed a => a.request.Separated ∧
    RepeatsTask a (wait p.store elapsed) (p.task a.thread)
  | .cleanup _ => True

/-- The requests of calls, and those that wait. -/
structure AllSeparated (p : State) : Prop where
  calls   : ∀ u r, (p.store.calls u).request = some r → r.Separated
  waiting : ∀ u r leader, p.task u = .waiting r leader → r.Separated ∧ ∃ key, r.key = some key

theorem request_of_setCall {call : CoalescedCall} {u : Nat}
    (h : ((rc.setCall t call).calls u).request = some r)
    (hsame : call.request = (rc.calls t).request) : (rc.calls u).request = some r := by
  by_cases hu : u = t
  · rw [hu, rc.setCall_self, hsame] at h
    rw [hu, h]
  · rw [rc.setCall_of_ne call hu] at h
    exact h

/-- The request of a call is there, or just came in. -/
theorem act_request {u : Nat} (h : ((task.act a rc).1.calls u).request = some r) :
    (rc.calls u).request = some r ∨ r = a.request := by
  cases task with
  | idle =>
    dsimp only [CoalesceTask.act, RequestCoalescer.arrive] at h
    split at h
    · exact .inl h
    · split at h
      · exact .inl h
      · split at h
        · exact .inl h
        · by_cases hu : u = a.thread
          · subst hu
            dsimp only at h
            rw [rc.setCall_self] at h
            exact .inr (Option.some.inj h).symm
          · dsimp only at h
            rw [rc.setCall_of_ne _ hu] at h
            exact .inl h
  | passing r' =>
    dsimp only [CoalesceTask.act, RequestCoalescer.pass] at h
    split_ifs at h
    · exact .inl h
    · exact .inl h
  | leading r' key =>
    dsimp only [CoalesceTask.act, RequestCoalescer.lead] at h
    left
    split_ifs at h
    · exact request_of_setCall h rfl
    · exact request_of_setCall h rfl
    · exact request_of_setCall h rfl
  | storing r' key w => exact .inl h
  | closing r' key panicked w => exact .inl (request_of_setCall h rfl)
  | removing r' key panicked w => exact .inl h
  | waiting r' leader =>
    dsimp only [CoalesceTask.act, RequestCoalescer.receive] at h
    split_ifs at h
    · exact .inl h
    · exact .inl h
  | ended r' panicked w => exact .inl h

/-- A request waits already, or just came in. -/
theorem act_waiting (h : (task.act a rc).2 = .waiting r leader) :
    task = .waiting r leader ∨ (r = a.request ∧ ∃ key, r.key = some key) := by
  cases task with
  | idle =>
    dsimp only [CoalesceTask.act, RequestCoalescer.arrive] at h
    split at h
    · cases h
    · rename_i key hkey
      split at h
      · cases h
      · split at h
        · cases h
          exact .inr ⟨rfl, key, hkey⟩
        · cases h
  | passing r' =>
    dsimp only [CoalesceTask.act, RequestCoalescer.pass] at h
    split_ifs at h
  | leading r' key =>
    dsimp only [CoalesceTask.act, RequestCoalescer.lead] at h
    split_ifs at h
  | storing r' key w => cases h
  | closing r' key panicked w => cases h
  | removing r' key panicked w => cases h
  | waiting r' leader' =>
    dsimp only [CoalesceTask.act, RequestCoalescer.receive] at h
    split_ifs at h
    exact .inl h
  | ended r' panicked w => cases h

theorem AllSeparated.step {p : State} (h : AllSeparated p) {e : CoalesceEvent}
    (hok : SeparatedRepeats p e) : AllSeparated (step p e) := by
  cases e with
  | cleanup elapsed => exact ⟨h.calls, h.waiting⟩
  | turn elapsed a =>
    refine ⟨fun u r hr => ?_, fun u r leader hr => ?_⟩
    · rcases act_request hr with hbefore | rfl
      · exact h.calls u r hbefore
      · exact hok.1
    · by_cases hu : u = a.thread
      · subst hu
        have hnew : ((p.task a.thread).act a (wait p.store elapsed)).2 = .waiting r leader := by
          rw [← Threads.put_task_self p a.thread]
          exact hr
        rcases act_waiting hnew with hbefore | ⟨rfl, hkey⟩
        · exact h.waiting _ r leader hbefore
        · exact ⟨hok.1, hkey⟩
      · have hold : p.task u = .waiting r leader := by
          rw [← Threads.put_task_of_ne p _ hu]
          exact hr
        exact h.waiting u r leader hold

/-- A key that can be taken apart does not stand for different requests. -/
theorem AllSeparated.shares {p : State} (h : AllSeparated p) {e : CoalesceEvent}
    (hok : SeparatedRepeats p e) : Shares p e := by
  have hparts : ∀ u origin (r : CoalesceRequest) key,
      (p.store.calls u).request = some origin → r.Separated → r.key = some key →
        origin.key = r.key → origin.parts = r.parts :=
    fun u origin r key horigin hr hkey hsame =>
      CoalesceRequest.parts_of_key (h.calls u origin horigin) hr (hsame.trans hkey) hkey
  cases e with
  | cleanup elapsed => trivial
  | turn elapsed a =>
    obtain ⟨hrequest, hrepeats⟩ := hok
    show SharesTask a (wait p.store elapsed) (p.task a.thread)
    cases htask : p.task a.thread with
    | idle =>
      rw [htask] at hrepeats
      intro key c hkey hcached origin run horigin hrun
      exact ⟨hparts c.leader origin a.request key horigin hrequest hkey,
        hrepeats key c hkey hcached run hrun⟩
    | leading r key =>
      rw [htask] at hrepeats
      exact hrepeats
    | waiting r leader =>
      rw [htask] at hrepeats
      obtain ⟨hr, key, hkey⟩ := h.waiting _ r leader htask
      intro hdone origin run horigin hrun
      exact ⟨hparts leader origin r key horigin hr hkey, hrepeats hdone run hrun⟩
    | passing r => trivial
    | storing r key w => trivial
    | closing r key panicked w => trivial
    | removing r key panicked w => trivial
    | ended r panicked w => trivial

/-- With such keys, runs share what may be shared if the responses can be repeated. -/
theorem shares_of_separated {ttl : Int} {clock : Time} {events : List CoalesceEvent}
    (h : StepsOk step SeparatedRepeats (start ttl clock) events) :
    StepsOk step Shares (start ttl clock) events := by
  have hstart : AllSeparated (start ttl clock) :=
    ⟨fun _ _ hr => (by cases hr), fun _ _ _ hr => (by cases hr)⟩
  have hstep : ∀ p e, AllSeparated p → SeparatedRepeats p e → AllSeparated (step p e) :=
    fun _ _ hp hok => hp.step hok
  have hshares : ∀ p e, AllSeparated p → SeparatedRepeats p e → Shares p e :=
    fun _ _ hp hok => hp.shares hok
  exact stepsOk_of_invariant hstep hshares hstart h

end Separated

namespace Sample

/-- `GET` of a path, by nobody in particular. -/
def asking (path query : String) : CoalesceRequest := ⟨"GET", path, query, [], none, none⟩

/-- The next step of a thread; the cache is not in use. -/
def turn (t : Nat) (r : CoalesceRequest) (run : List WriterOp) : CoalesceEvent :=
  .turn 0 ⟨t, r, run, 0⟩

/-- Two requests, of which the second waits for the first. -/
def pair (r r' : CoalesceRequest) (ops : List WriterOp) : List CoalesceEvent :=
  [turn 0 r [], turn 1 r' [], turn 0 r ops, turn 0 r [], turn 1 r' [], turn 0 r []]

def status : CoalesceRequest := asking "/status" ""

def typed : List WriterOp := [.setHeader "Content-Type" ["text/html"], .write (ascii "<p>")]

def found : List WriterOp := [.writeHeader 200, .write (ascii "up")]

end Sample

open Coalesce.Sample in
theorem delivered_of_shared_sample : Delivered (run step (start 0 0) (pair status status found)) := by
  refine delivered_of_shared 0 0 (pair status status found)
    ⟨fun _ _ _ hcached => ?_, fun _ _ _ hcached => ?_, fun _ => rfl, trivial, fun _ => ?_, trivial,
      trivial⟩ _ (run_mem_states _ _)
  · cases hcached
  · cases hcached
  · rintro origin run ⟨⟩ ⟨⟩
    exact ⟨fun _ => rfl, rfl, rfl, rfl⟩

open Coalesce.Sample in
/-- A leader loses its header; a request that waits for a handler that panics is given status 0; and
one that waits may get what was meant for another query. -/
theorem responses_differ :
    ¬ Delivered (run step (start 0 0) (pair status status typed)) ∧
      ¬ Delivered (run step (start 0 0) (pair status status [.panic])) ∧
      ¬ Delivered (run step (start 0 0) (pair (asking "/a?b" "") (asking "/a" "b?") found)) := by
  refine ⟨fun h => ?_, fun h => ?_, fun h => ?_⟩
  · rcases h 0 status false _ rfl with hpanicked | ⟨-, hmem⟩
    · cases hpanicked
    · have hresponse := congrArg Prod.snd (List.mem_singleton.mp hmem)
      have hheader := congrFun (congrArg Response.header hresponse) "Content-Type"
      cases hheader
  · rcases h 1 status false _ rfl with hpanicked | ⟨hok, -⟩
    · cases hpanicked
    · cases hok
  · rcases h 1 (asking "/a" "b?") false _ rfl with hpanicked | ⟨-, hmem⟩
    · cases hpanicked
    · have hparts := congrArg Prod.fst (List.mem_singleton.mp hmem)
      exact absurd hparts (by decide)

end Coalesce

end Ggid.Gateway
