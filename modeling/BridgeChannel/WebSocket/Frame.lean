/-
What the two sides of a WebSocket send each other.

Main definitions:

* `CloseStatus` — a status code with a reason, and the statuses that have a fixed meaning;
* `Frame` — what the other side sends;
* `StreamItem` — a frame, or the error that ends the stream.
-/
import BridgeChannel.Transport.Error

set_option autoImplicit false

namespace BridgeChannel.WebSocket

/-- Why a connection was closed. -/
structure CloseStatus where
  code : UInt16
  reason : String
  deriving DecidableEq, Repr

namespace CloseStatus

/-- A side that closes because it is done. -/
def normal : CloseStatus := ⟨1000, ""⟩

/-- A close frame that gives no status. -/
def missing : CloseStatus := ⟨1005, ""⟩

/-- A connection that ended without a close frame. -/
def lost : CloseStatus := ⟨1006, "connection lost"⟩

end CloseStatus

/-- What the other side sends. The fragments of a text arrive as one text. -/
inductive Frame where
  | text (content : String)
  | binary (data : List UInt8)
  | ping (data : List UInt8)
  | pong (data : List UInt8)
  | raw (data : List UInt8)
  | close (status : Option CloseStatus)
  deriving DecidableEq

/-- What the stream of a connection yields; nothing follows an error. -/
abbrev StreamItem := Except WebSocketError Frame

end BridgeChannel.WebSocket
