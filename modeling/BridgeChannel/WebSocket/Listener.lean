/-
A handler that takes note of everything, on a connection of its own.

A listener opens a connection and notes what its handler is called with. To the opening of the
session and to chosen texts it reacts: it sends, closes, or asks whether the session is open. Its
handler may be gone before the connection is opened, or right after that.

Main definitions:

* `Listener.Presence` — how long the handler exists;
* `Listener.Reaction`, `Listener.Note` — what a listener does, and what it notes;
* `Listener.listen` — a connection from beginning to end.
-/
import BridgeChannel.Bridge.Conversation
import BridgeChannel.WebSocket.Engine
import BridgeChannel.WebSocket.Reader

set_option autoImplicit false

namespace BridgeChannel.WebSocket

namespace Listener

/-- How long the handler of a listener exists. -/
inductive Presence where
  | throughout
  /-- It is gone before the connection is opened. -/
  | never
  /-- It is gone once the connection is open. -/
  | atOpening
  deriving DecidableEq, Repr

/-- What a listener reacts to. -/
inductive Occasion where
  | opened
  | text (content : String)
  deriving DecidableEq, Repr

/-- What a listener does in reaction. -/
inductive Reaction where
  | send (content : String)
  | close
  | query
  deriving DecidableEq, Repr

/-- What a listener notes. -/
inductive Note where
  /-- The session was handed over; it is open or not. -/
  | opened (isOpen : Bool)
  | heard (content : String)
  | failed (error : TransportError)
  | closed (status : CloseStatus)
  /-- Something was sent, with this result. -/
  | sent (result : Except TransportError Unit)
  /-- The session was closed, with this result. -/
  | closing (result : Except TransportError Unit)
  /-- The session is open or not. -/
  | state (isOpen : Bool)

end Listener

open Listener

/-- A listener on its connection. -/
structure Listener where
  reactions : List (Occasion × Reaction)
  presence : Presence := .throughout
  outbound : Outbound := {}
  reader : Reader := {}
  /-- The notes, the last first. -/
  notes : List Note := []

namespace Listener

def note (n : Note) (l : Listener) : Listener := { l with notes := n :: l.notes }

/-- Does one thing. -/
def react (r : Reaction) (l : Listener) : Listener :=
  match r with
  | .send content =>
    let (outbound, result) := l.outbound.send content
    { l with outbound }.note (.sent result)
  | .close =>
    let (outbound, result) := l.outbound.close
    { l with outbound }.note (.closing result)
  | .query => l.note (.state l.outbound.isOpen)

/-- Does everything that an occasion calls for. -/
def answer (o : Occasion) (l : Listener) : Listener :=
  (l.reactions.filter fun r => r.1 == o).foldl (fun l r => l.react r.2) l

/-- The handler is called. -/
def hear (s : Signal) (l : Listener) : Listener :=
  match s with
  | .opened => (l.note (.opened l.outbound.isOpen)).answer .opened
  | .message content => (l.note (.heard content)).answer (.text content)
  | .failed e => l.note (.failed e)
  | .closed code reason => l.note (.closed ⟨code, reason⟩)

/-- The writer catches up. -/
def flush (l : Listener) : Listener := { l with outbound := l.outbound.flush }

/-- The connection opens. -/
def start (l : Listener) : Listener :=
  (if l.presence = .never then l else l.hear .opened).flush

/-- The stream yields an item, or ends. -/
def take (item : Option StreamItem) (l : Listener) : Listener :=
  let (reader, signal) := l.reader.advance (l.presence = .throughout) item
  let outbound := if reader.hasClosed then l.outbound.mark else l.outbound
  let l := { l with reader, outbound }
  (match signal with
    | some s => l.hear s
    | none => l).flush

/-- A listener, as the partner of a bridge. -/
def asPartner : Bridge.Partner Listener where
  hear := take
  sent l := l.outbound.written

/-- What is left of a connection that is over: whether its session is open, and what sending and
closing come to. -/
structure Remains where
  isOpen : Bool
  send : Except TransportError Unit
  close : Except TransportError Unit

/-- What came of a connection. -/
structure Record where
  /-- What is left of the connection, or why it was not opened. -/
  connection : Except TransportError Remains
  notes : List Note
  /-- What the bridge read. -/
  received : List Outgoing
  /-- The results of stopping the engine, twice. -/
  stops : List (Except TransportError Unit)
  /-- What a connection comes to after that. -/
  afterStop : Except TransportError Unit

/-- Stops an engine twice and tries to connect once more. -/
def conclude (server : Bridge.Server) (limit : Duration) (e : Engine)
    (connection : Except TransportError Remains) (notes : List Note) (received : List Outgoing) :
    Record :=
  let (e, first) := e.stop
  let (e, second) := e.stop
  { connection, notes, received, stops := [first, second],
    afterStop := (e.connect server limit).map fun _ => () }

/-- Opens a connection and listens until it is over. -/
def listen (l : Listener) (server : Bridge.Server) (limit : Duration) : Record :=
  let e : Engine := {}
  match e.connect server limit with
  | .error cause => conclude server limit e (.error cause) [] []
  | .ok turns =>
    let (l, received) := Bridge.converse asPartner turns 0 l.start
    let remains : Remains :=
      ⟨l.outbound.isOpen, (l.outbound.send "").2, (l.outbound.send "").1.close.2⟩
    conclude server limit e (.ok remains) l.notes.reverse received

end Listener

end BridgeChannel.WebSocket
