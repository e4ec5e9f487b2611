/-
Who answers at an address.

Main definitions:

* `Bridge.Turn` — what a bridge does next once a connection is open;
* `Bridge.Server`, `Bridge.Server.answer` — how an attempt to connect is answered;
* `Bridge.Network` — who can be reached, and `Bridge.isolated`, where nobody can.
-/
import BridgeChannel.WebSocket.Frame

set_option autoImplicit false

namespace BridgeChannel.Bridge

open WebSocket

/-- What a bridge does next. -/
inductive Turn where
  | text (content : String)
  | binary (data : List UInt8)
  | ping (data : List UInt8)
  | pong (data : List UInt8)
  /-- Sends one text in several frames. -/
  | fragments (parts : List String)
  /-- Sends a text frame that does not hold text. -/
  | badText
  /-- Reads a number of frames. -/
  | expect (count : Nat)
  /-- Closes, and reads to the end. -/
  | close (status : Option CloseStatus)
  /-- Reads to the end, and answers the close frame of the other side. -/
  | awaitClose
  /-- Goes away. -/
  | drop
  deriving DecidableEq

/-- How an attempt to connect is answered. -/
inductive Server where
  /-- Nobody is there. -/
  | absent
  /-- The opening handshake is refused. -/
  | rejecting
  /-- There is no answer at all. -/
  | silent
  /-- The connection opens, and the bridge does the given things. -/
  | accepting (turns : List Turn)
  deriving DecidableEq

/-- What an attempt to connect comes to, if it may take no longer than the limit. -/
def Server.answer (limit : Duration) : Server → Except TransportError (List Turn)
  | absent | rejecting => .error (.webSocket .notOpened)
  | silent => .error (.timeout limit)
  | accepting turns => .ok turns

/-- Who answers at each address. -/
abbrev Network := String → Server

/-- A network with nobody on it. -/
def isolated : Network := fun _ => .absent

/-- A network with one server on it. -/
def only (address : String) (server : Server) : Network :=
  fun a => if a = address then server else .absent

end BridgeChannel.Bridge
