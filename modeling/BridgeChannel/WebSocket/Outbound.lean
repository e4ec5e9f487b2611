/-
What goes out on a connection.

A session puts texts into a queue, and a close frame when it is closed; a writer takes them out and
writes them. The session is open until somebody marks it closed: itself when it is closed, or the
reader of the connection. The writer ends when it has written the close frame, or when a write
fails; what is still in the queue then is lost, and the session counts as closed.

Main definitions:

* `Outbound` — the session, its queue, and what was written;
* `Outbound.send`, `Outbound.close`, `Outbound.mark`, `Outbound.write` — what can happen to it;
* `Outbound.flush` — the writer catches up;
* `Outbound.Act`, `Outbound.run` — histories of calls, marks and writes.

Main result: `isOpen_run` — a session that is not open stays so.
-/
import BridgeChannel.WebSocket.Frame

set_option autoImplicit false

namespace BridgeChannel.WebSocket

/-- What this side sends; its close frames all have the same status, `CloseStatus.normal`. -/
inductive Outgoing where
  | text (content : String)
  | close
  deriving DecidableEq, Repr

/-- The outgoing half of a connection. -/
structure Outbound where
  /-- Whether nobody has marked the session as closed. -/
  isUnmarked : Bool := true
  /-- Whether the writer still takes from the queue. -/
  isWriting : Bool := true
  /-- What is still to be written, in order. -/
  queue : List Outgoing := []
  /-- What was written, in order. -/
  written : List Outgoing := []
  deriving DecidableEq, Repr, Inhabited

namespace Outbound

/-- Whether the session is open. -/
def isOpen (o : Outbound) : Bool := o.isUnmarked && o.isWriting

/-- Puts something into the queue, which nobody takes from once the writer has ended. -/
def enqueue (m : Outgoing) (o : Outbound) : Outbound × Except TransportError Unit :=
  if o.isWriting then ({ o with queue := o.queue ++ [m] }, .ok ()) else (o, .error .closed)

/-- Sends a text, if the session is open. -/
def send (content : String) (o : Outbound) : Outbound × Except TransportError Unit :=
  if o.isOpen then o.enqueue (.text content) else (o, .error .closed)

/-- Marks the session as closed. -/
def mark (o : Outbound) : Outbound := { o with isUnmarked := false }

/-- Closes the session; nothing happens if it was marked as closed already. -/
def close (o : Outbound) : Outbound × Except TransportError Unit :=
  if o.isUnmarked then o.mark.enqueue .close else (o, .ok ())

/-- The writer ends, and with it the queue. -/
def endWriting (o : Outbound) : Outbound := { o with isWriting := false, queue := [] }

/-- The writer takes the next thing from the queue and writes it, which may fail. -/
def write (succeeds : Bool) (o : Outbound) : Outbound :=
  match o.queue with
  | [] => o
  | m :: rest =>
    if succeeds then
      let o := { o with queue := rest, written := o.written ++ [m] }
      if m = .close then o.endWriting else o
    else o.endWriting

/-- The writer catches up with the queue. -/
def flush (o : Outbound) : Outbound := o.queue.foldl (fun o _ => o.write true) o

/-! ### A session that is not open stays so -/

theorem isOpen_enqueue (m : Outgoing) (o : Outbound) : (o.enqueue m).1.isOpen = o.isOpen := by
  unfold enqueue
  split <;> rfl

theorem isOpen_send (content : String) (o : Outbound) : (o.send content).1.isOpen = o.isOpen := by
  unfold send
  split
  · exact isOpen_enqueue _ o
  · rfl

@[simp] theorem isOpen_mark (o : Outbound) : o.mark.isOpen = false := rfl

theorem isOpen_close (o : Outbound) : o.close.1.isOpen = false := by
  unfold close
  split
  · rw [isOpen_enqueue, isOpen_mark]
  next marked => simp [isOpen, marked]

@[simp] theorem isOpen_endWriting (o : Outbound) : o.endWriting.isOpen = false := by
  simp [isOpen, endWriting]

theorem isOpen_write {succeeds : Bool} {o : Outbound} (h : o.isOpen = false) :
    (o.write succeeds).isOpen = false := by
  unfold write
  split
  · exact h
  · split
    · dsimp only
      split
      · exact isOpen_endWriting _
      · exact h
    · exact isOpen_endWriting o

/-! ### Histories -/

/-- Something that happens to the outgoing half of a connection. -/
inductive Act where
  | send (content : String)
  | close
  /-- The reader marks the session as closed. -/
  | mark
  | write (succeeds : Bool)
  deriving DecidableEq, Repr

/-- What happens, and its result if it is a call to the session. -/
def act (a : Act) (o : Outbound) : Outbound × Option (Except TransportError Unit) :=
  match a with
  | .send content => ((o.send content).1, some (o.send content).2)
  | .close => (o.close.1, some o.close.2)
  | .mark => (o.mark, none)
  | .write succeeds => (o.write succeeds, none)

/-- Several things that happen in order, with their results. -/
def run : List Act → Outbound → Outbound × List (Option (Except TransportError Unit))
  | [], o => (o, [])
  | a :: rest, o =>
    let (o, result) := o.act a
    let (o, results) := run rest o
    (o, result :: results)

/-- Whatever happens to it, a session that is not open stays so. -/
theorem isOpen_act {o : Outbound} (a : Act) (h : o.isOpen = false) :
    (o.act a).1.isOpen = false := by
  cases a with
  | send content => exact (isOpen_send content o).trans h
  | close => exact isOpen_close o
  | mark => exact isOpen_mark o
  | write succeeds => exact isOpen_write h

/-- No history opens a session that is not open. -/
theorem isOpen_run {o : Outbound} (acts : List Act) (h : o.isOpen = false) :
    (run acts o).1.isOpen = false := by
  induction acts generalizing o with
  | nil => exact h
  | cons a rest ih => exact ih (isOpen_act a h)

end Outbound

end BridgeChannel.WebSocket
