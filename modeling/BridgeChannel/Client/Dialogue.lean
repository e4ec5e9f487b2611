/-
A client that talks to a bridge.

A client with one observer connects once. If that succeeds, the bridge does its turns; each thing
that it sends is handled before the next. The connection is over when its close has been reported.

Main definitions:

* `Bridge.Server.attempt` — an attempt to connect, as the server answers it;
* `Dialogue`, `Dialogue.hold` — what came of it, and the whole of it.
-/
import BridgeChannel.Bridge.Conversation
import BridgeChannel.Client.Script

set_option autoImplicit false

namespace BridgeChannel

open WebSocket (Outgoing StreamItem)

/-- How the network answers an attempt to connect to a server. -/
def Bridge.Server.attempt (limit : Duration) (server : Bridge.Server) : Attempt :=
  match server.answer limit with
  | .ok _ => {}
  | .error e => { announced := false, connectError := some e }

/-- What goes out on a connection when something occurs. -/
def Occurrence.outgoing? (connection : Nat) : Occurrence → Option Outgoing
  | .frame n content => if n = connection then some (.text content) else none
  | .closed n => if n = connection then some .close else none
  | _ => none

/-- What came of a dialogue. -/
structure Dialogue where
  /-- Whether the client connected. -/
  success : Bool
  /-- The state of the channel once the attempt was over. -/
  opened : ConnectionState
  /-- The state of the channel in the end. -/
  state : ConnectionState
  /-- Whether the channel was connected in the end. -/
  isConnected : Bool
  /-- What happened, in order. -/
  account : List Occurrence
  /-- What the bridge read. -/
  received : List Outgoing

namespace Dialogue

/-- A client, as the partner of a bridge that it is connected to. -/
def asPartner (depth : Nat) (connection : Nat) : Bridge.Partner Scene where
  hear item s := (s.perform depth (.stream (some connection) item)).1
  sent s := s.account.reverse.filterMap (Occurrence.outgoing? connection)

/-- Connects a client with an observer, and lets the bridge do its turns. -/
def hold (config : Config) (network : Bridge.Network) (observer : String)
    (reactions : List (Event.Kind × Step)) : Dialogue :=
  let server := network config.address
  let turns := (server.answer config.connectTimeout).toOption.getD []
  -- A turn makes for one piece of news at most, and so does the end.
  let present := Step.observe observer reactions (turns.length + 2)
  let depth := present.cost + 1
  let s := (Scene.start config).perform depth present |>.1
  let (s, success) := s.connect (server.attempt config.connectTimeout) Scene.quietly
  let opened := s.client.state
  let (s, received) :=
    if success then Bridge.converse (asPartner depth 0) turns 0 s else (s, [])
  { success, opened, state := s.client.state, isConnected := s.isConnected
    account := s.account.reverse, received }

end Dialogue

end BridgeChannel
