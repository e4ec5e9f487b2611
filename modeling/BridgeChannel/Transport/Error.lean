/-
What goes wrong in a transport.

Main definitions:

* `WebSocketError` — errors of the protocol below a channel;
* `TransportError` — errors that a transport reports to its channel;
* `TransportError.message`, `TransportError.source?` — the wording, and that of the cause below.
-/
import BridgeChannel.Channel.Duration

set_option autoImplicit false

namespace BridgeChannel

/-- An error of the WebSocket protocol. -/
inductive WebSocketError where
  /-- The closing handshake is over. -/
  | connectionClosed
  /-- Something was tried after the closing handshake. -/
  | alreadyClosed
  /-- The operating system refused an operation. -/
  | io (detail : String)
  /-- The stream ended without a closing handshake. -/
  | resetWithoutClosing
  /-- A text frame does not hold text. -/
  | invalidText
  /-- The opening handshake did not take place. -/
  | notOpened
  deriving DecidableEq, Repr

namespace WebSocketError

def message : WebSocketError → String
  | connectionClosed => "Connection closed normally"
  | alreadyClosed => "Trying to work with closed connection"
  | io detail => "IO error: " ++ detail
  | resetWithoutClosing =>
    "WebSocket protocol error: Connection reset without closing handshake"
  | invalidText => "UTF-8 encoding error"
  | notOpened => "opening handshake failed"

end WebSocketError

/-- An error that a transport reports. -/
inductive TransportError where
  /-- The engine could not be started. -/
  | start (detail : String)
  /-- The engine has been stopped already. -/
  | stopped
  /-- The session is no longer open. -/
  | closed
  /-- The other side did not accept the connection in time. -/
  | timeout (limit : Duration)
  | webSocket (error : WebSocketError)
  deriving DecidableEq, Repr

namespace TransportError

def message : TransportError → String
  | start detail => "failed to start transport engine: " ++ detail
  | stopped => "transport engine is stopped"
  | closed => "session is closed"
  | timeout limit => "connection not established within " ++ limit.text
  | webSocket error => "websocket error: " ++ error.message

/-- The wording of the error below this one, where there is one. -/
def source? : TransportError → Option String
  | start detail => some detail
  | webSocket error => some error.message
  | stopped | closed | timeout _ => none

end TransportError

end BridgeChannel
