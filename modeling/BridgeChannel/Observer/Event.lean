/-
What the observers of a channel are told.

Main definitions:

* `Event` — the news of a channel;
* `Event.Kind`, `Event.kind` — news without its details.
-/
import BridgeChannel.Message.Basic

set_option autoImplicit false

namespace BridgeChannel

/-- The news of a channel. -/
inductive Event where
  /-- The greeting was answered and the channel is ready. -/
  | connected
  /-- The transport closed, with a status code and a reason. -/
  | disconnected (code : UInt16) (reason : String)
  /-- Another participant sent something. -/
  | endpointMessage (message : EndpointMessage)
  /-- Another participant speaks. -/
  | speaker (endpoint : String)
  /-- A participant was lost, or came back. -/
  | connectivity (endpoint : String) (active : Bool)

namespace Event

/-- The kinds of news. -/
inductive Kind where
  | connected
  | disconnected
  | endpointMessage
  | speaker
  | connectivity
  deriving DecidableEq, Repr

def kind : Event → Kind
  | connected => .connected
  | disconnected _ _ => .disconnected
  | endpointMessage _ => .endpointMessage
  | speaker _ => .speaker
  | connectivity _ _ => .connectivity

end Event

end BridgeChannel
