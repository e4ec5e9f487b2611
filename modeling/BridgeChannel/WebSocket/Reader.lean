/-
Reading the stream of a connection.

The reader looks at its handler before it takes each item of the stream, and once more in the end.
As long as the handler exists, a text is a message to it, an error is reported to it and ends the
reading, and all other frames are silent. Every stream comes to an end, which is reported as one
close: with the status of the last close frame, or as a lost connection. A handler that is gone
hears nothing, and the reading ends there.

From the first close frame on, and in any case before the close is reported, the session is no
longer open.

Main definitions:

* `Reader`, `Reader.advance` — the reader of a connection, and one item;
* `Reader.hasClosed` — whether the reader has put an end to the session;
* `Reader.run` — a whole stream.
-/
import BridgeChannel.Transport.Signal
import BridgeChannel.WebSocket.Frame

set_option autoImplicit false

namespace BridgeChannel.WebSocket

/-- How far a reader is. -/
inductive Phase where
  /-- It waits for the next item. -/
  | reading
  /-- It has reported an error, and has the close left to report. -/
  | ending
  | finished
  deriving DecidableEq, Repr

/-- The reader of a connection. -/
structure Reader where
  phase : Phase := .reading
  /-- The status of the last close frame. -/
  status : Option CloseStatus := none
  deriving DecidableEq, Repr, Inhabited

namespace Reader

/-- Whether the reader has put an end to the session. -/
def hasClosed (r : Reader) : Bool := r.status.isSome || r.phase == .finished

/-- What the reader reports as the close. -/
def outcome (r : Reader) : CloseStatus := r.status.getD .lost

/-- Ends the reading: the close is reported if the handler exists. -/
def finish (alive : Bool) (r : Reader) : Reader × Option Signal :=
  ({ r with phase := .finished },
    if alive then some (.closed r.outcome.code r.outcome.reason) else none)

/-- Takes a frame. -/
def take (frame : Frame) (r : Reader) : Reader × Option Signal :=
  match frame with
  | .text content => (r, some (.message content))
  | .close status => ({ r with status := some (status.getD .missing) }, none)
  | .binary _ | .ping _ | .pong _ | .raw _ => (r, none)

/-- Takes the next item of the stream, or its end. A reader that has reported an error reports the
close instead, and one that has finished does nothing. -/
def advance (alive : Bool) (item : Option StreamItem) (r : Reader) : Reader × Option Signal :=
  match r.phase, item with
  | .finished, _ => (r, none)
  | .ending, _ | .reading, none => r.finish alive
  | .reading, some item =>
    if alive then
      match item with
      | .ok frame => r.take frame
      | .error e => ({ r with phase := .ending }, some (.failed (.webSocket e)))
    else ({ r with phase := .finished }, none)

/-- Takes items; whether the handler exists can be told for each look at it. -/
def runFrom (alive : Nat → Bool) : Nat → Reader → List (Option StreamItem) → Reader × List Signal
  | _, r, [] => (r, [])
  | look, r, item :: rest =>
    let (r, signal) := r.advance (alive look) item
    let (r, signals) := runFrom alive (look + 1) r rest
    (r, signal.toList ++ signals)

/-- Reads a stream to its end: what the handler is called with, in order. -/
def run (alive : Nat → Bool) (items : List StreamItem) : Reader × List Signal :=
  runFrom alive 0 {} (items.map some ++ [none])

/-! ### The end of the reading -/

@[simp] theorem advance_finished {alive : Bool} {item : Option StreamItem} {r : Reader}
    (h : r.phase = .finished) : r.advance alive item = (r, none) := by
  simp [advance, h]

/-- At its end, a stream leaves nothing to read. -/
theorem phase_advance_none (alive : Bool) (r : Reader) :
    (r.advance alive none).1.phase = .finished := by
  cases h : r.phase <;> simp [advance, finish, h]

end Reader

end BridgeChannel.WebSocket
