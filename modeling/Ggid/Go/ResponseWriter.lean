import Ggid.Go.Bytes

/-!
# Response writers

What a handler does to an `http.ResponseWriter`, operation by operation, and the response that
comes of it. The first status that is not informational is sent with the header as it stands; what
is set later is not part of the response.
-/

namespace Ggid.Go

/-- A header by canonical name; a name without values is not in it. -/
abbrev ResponseHeader := String → List String

/-- What a handler does next. -/
inductive WriterOp where
  | setHeader (name : String) (values : List String)
  | writeHeader (code : Int)
  | write (data : Bytes)
  | panic
  deriving DecidableEq

/-- What a client gets. -/
structure Response where
  status : Int
  header : ResponseHeader
  body   : Bytes

/-- A writer: the header map, the status and the header that were sent, and the body. -/
structure Writer where
  header   : ResponseHeader
  sent     : Option (Int × ResponseHeader)
  body     : Bytes
  panicked : Bool

/-- 1xx, less `101 Switching Protocols`. -/
def informational (code : Int) : Bool :=
  decide (100 ≤ code) && decide (code ≤ 199) && decide (code ≠ 101)

/-- `bodyAllowedForStatus`. -/
def bodyAllowed (status : Int) : Bool :=
  !(decide (100 ≤ status) && decide (status ≤ 199)) && decide (status ≠ 204) &&
    decide (status ≠ 304)

namespace Writer

/-- The writer of a request that just came in. -/
def new : Writer := ⟨fun _ => [], none, [], false⟩

/-- What is sent, or would be if the handler ended here. -/
def sending (w : Writer) : Int × ResponseHeader := w.sent.getD (200, w.header)

/-- `WriteHeader`: a status that is not three digits makes it panic. -/
def writeHeader (code : Int) (w : Writer) : Writer :=
  if w.sent.isSome = true then w
  else if code < 100 ∨ 999 < code then { w with panicked := true }
  else if informational code = true then w
  else { w with sent := some (code, w.header) }

/-- `Write`: the status is 200 if none was sent. -/
def write (data : Bytes) (w : Writer) : Writer :=
  { w with
    sent := some w.sending
    body := if bodyAllowed w.sending.1 = true then w.body ++ data else w.body }

/-- One operation; none follows a panic. -/
def serve (w : Writer) (op : WriterOp) : Writer :=
  if w.panicked = true then w
  else
    match op with
    | .setHeader name values => { w with header := Function.update w.header name values }
    | .writeHeader code => w.writeHeader code
    | .write data => w.write data
    | .panic => { w with panicked := true }

/-- The response, when the handler has ended. -/
def finish (w : Writer) : Response := ⟨w.sending.1, w.sending.2, w.body⟩

/-- A handler on a writer of its own. -/
def plain (run : List WriterOp) : Writer := run.foldl serve new

end Writer

/-- The status the client sees of a response that begins with this one. -/
def sentCode (code : Int) : Int := if informational code = true then 200 else code

/-- The last status that was passed to `WriteHeader`; 200 without one. -/
def lastCode (run : List WriterOp) : Int :=
  run.foldl (fun code op =>
    match op with
    | .writeHeader code' => code'
    | _ => code) 200

/-- The handler ended; the status sent is the last one it set, and it left the header alone
afterwards. -/
def Repeats (run : List WriterOp) : Prop :=
  (Writer.plain run).panicked = false ∧
    sentCode (lastCode run) = (Writer.plain run).finish.status ∧
    (Writer.plain run).header = (Writer.plain run).finish.header

-- ---------------------------------------------------------------------------
-- Operations
-- ---------------------------------------------------------------------------

namespace Writer

variable {w : Writer}

theorem sending_of_sent {s : Int × ResponseHeader} (h : w.sent = some s) : w.sending = s := by
  rw [sending, h, Option.getD_some]

theorem sending_of_unsent (h : w.sent = none) : w.sending = (200, w.header) := by
  rw [sending, h, Option.getD_none]

theorem sending_write (w : Writer) (data : Bytes) : (w.write data).sending = w.sending := rfl

/-- What was sent has three digits. -/
def Valid (w : Writer) : Prop := ∀ s ∈ w.sent, 100 ≤ s.1 ∧ s.1 ≤ 999

theorem valid_sending (h : w.Valid) : 100 ≤ w.sending.1 ∧ w.sending.1 ≤ 999 := by
  cases hsent : w.sent with
  | none =>
    rw [sending_of_unsent hsent]
    show 100 ≤ (200 : Int) ∧ (200 : Int) ≤ 999
    omega
  | some s =>
    rw [sending_of_sent hsent]
    exact h s hsent

theorem serve_valid (h : w.Valid) (op : WriterOp) : (w.serve op).Valid := by
  unfold serve
  split
  · exact h
  · cases op with
    | setHeader name values => exact h
    | writeHeader code =>
      dsimp only [writeHeader]
      split_ifs with _ hcode
      · exact h
      · exact h
      · exact h
      · rintro s ⟨⟩
        exact ⟨not_lt.mp (not_or.mp hcode).1, not_lt.mp (not_or.mp hcode).2⟩
    | write data =>
      rintro s ⟨⟩
      exact valid_sending h
    | panic => exact h

theorem plain_valid (run : List WriterOp) : (plain run).Valid := by
  have hrun : ∀ w : Writer, w.Valid → (run.foldl serve w).Valid := by
    induction run with
    | nil => exact fun _ h => h
    | cons op run ih => exact fun w h => ih _ (serve_valid h op)
  exact hrun new fun s hs => by cases hs

end Writer

end Ggid.Go
