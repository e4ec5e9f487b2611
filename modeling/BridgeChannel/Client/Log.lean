/-
The log lines of a client.

Main definitions:

* `Level` — how important a line is;
* `LogLine`, `LogLine.level`, `LogLine.text` — what there is to say, and the wording.
-/
import BridgeChannel.Channel.State
import BridgeChannel.Message.Error
import BridgeChannel.Transport.Error

set_option autoImplicit false

namespace BridgeChannel

/-- How important a log line is. -/
inductive Level where
  | error
  | warn
  | info
  | debug
  deriving DecidableEq, Repr

def Level.name : Level → String
  | error => "ERROR"
  | warn => "WARN"
  | info => "INFO"
  | debug => "DEBUG"

/-- What a client has to say. -/
inductive LogLine where
  /-- There is no address to connect to. -/
  | noAddress
  /-- The channel is in use already. -/
  | cannotConnect (state : ConnectionState)
  | connecting (address : String)
  /-- The transport could not be created. -/
  | startFailed (error : TransportError)
  /-- The transport could not be opened. -/
  | connectFailed (error : TransportError)
  /-- The channel was closed before the attempt was over. -/
  | closedWhileConnecting
  | connected
  | disconnected
  | sessionCloseFailed (error : TransportError)
  | stopFailed (error : TransportError)
  /-- A message was to be sent before the channel was ready. -/
  | cannotSend (className : String) (state : ConnectionState)
  /-- A message was to be sent without an open session. -/
  | noSession
  | encodeFailed (className : String) (error : FrameError)
  | sending (frame : String)
  | sendFailed (error : TransportError)
  | opened
  | received (frame : String)
  | classMissing (frame : String)
  | unreadable (error : FrameError)
  | closed (code : UInt16) (reason : String)
  | transportFailed (error : TransportError)
  | greeted
  | nowReady
  | videoDeclined
  | endpointMessage (sender : Option String)
  | speaker (endpoint : String)
  | connectivity (endpoint : String) (active : Bool)
  | unhandled (className : String)
  /-- A message came before the channel was ready. -/
  | untimely (className : String) (state : ConnectionState)
  /-- A signal came from a connection that is not the latest. -/
  | stale (generation latest : UInt64)
  deriving DecidableEq

namespace LogLine

def level : LogLine → Level
  | startFailed _ | connectFailed _ | encodeFailed _ _ | sendFailed _ | unreadable _
  | transportFailed _ => .error
  | noAddress | cannotConnect _ | closedWhileConnecting | sessionCloseFailed _ | stopFailed _
  | cannotSend _ _ | noSession | classMissing _ => .warn
  | connecting _ | connected | disconnected | opened | closed _ _ | greeted | nowReady
  | videoDeclined => .info
  | sending _ | received _ | endpointMessage _ | speaker _ | connectivity _ _ | unhandled _
  | untimely _ _ | stale _ _ => .debug

/-- A value that may be absent. -/
def optional : Option String → String
  | some s => "Some(" ++ Text.quoted s ++ ")"
  | none => "None"

def text : LogLine → String
  | noAddress => "No Colibri WebSocket URL provided, cannot connect"
  | cannotConnect state => "Cannot connect while the channel is " ++ state.name
  | connecting address => "Connecting to Colibri WebSocket: " ++ address
  | startFailed e => "Failed to start Colibri WebSocket transport: " ++ e.message
  | connectFailed e => "Failed to connect to Colibri WebSocket: " ++ e.message
  | closedWhileConnecting => "Channel closed while connecting, dropping the connection"
  | connected => "Colibri WebSocket connected successfully"
  | disconnected => "Colibri WebSocket disconnected"
  | sessionCloseFailed e => "Error closing WebSocket session: " ++ e.message
  | stopFailed e => "Error stopping WebSocket client: " ++ e.message
  | cannotSend className state =>
    "Cannot send " ++ className ++ " while the channel is " ++ state.name
  | noSession => "Cannot send message - WebSocket not connected"
  | encodeFailed className e => "Failed to encode " ++ className ++ ": " ++ e.message
  | sending frame => "Sending Colibri message: " ++ frame
  | sendFailed e => "Failed to send Colibri message: " ++ e.message
  | opened => "Colibri WebSocket onConnect"
  | received frame => "Colibri WebSocket received: " ++ frame
  | classMissing frame => "Received message without colibriClass: " ++ frame
  | unreadable e => "Failed to parse Colibri WebSocket message: " ++ e.message
  | closed code reason =>
    "Colibri WebSocket closed: " ++ toString code.toNat ++ " - " ++ reason
  | transportFailed e => "Colibri WebSocket error: " ++ e.message
  | greeted => "Received ServerHello from JVB"
  | nowReady => "Colibri channel is now ready"
  | videoDeclined => "Sent ReceiverVideoConstraints (lastN=0)"
  | endpointMessage sender => "Received EndpointMessage from " ++ optional sender
  | speaker endpoint => "Dominant speaker changed to: " ++ endpoint
  | connectivity endpoint active =>
    "Endpoint " ++ endpoint ++ " connectivity: " ++ toString active
  | unhandled className => "Unhandled colibriClass: " ++ className
  | untimely className state => "Dropping " ++ className ++ " received while " ++ state.name
  | stale generation latest =>
    "Dropping event of connection " ++ toString generation.toNat ++ " (current is " ++
      toString latest.toNat ++ ")"

end LogLine

end BridgeChannel
