/-
What may happen to a client, as data.

A script is a list of steps. The application asks the client for something, the handler of a
connection is called, the stream of a connection yields something, or somebody changes what keeps
observers and connections alive. Steps nest: some run while an attempt to connect is under way,
others as the reaction of an observer.

Main definitions:

* `Attempt` — how the network answers an attempt to connect, and the connection after it;
* `Moment` — the points of an attempt at which other things may happen;
* `Step` — one thing that happens;
* `Step.cost` — an upper bound on the steps that one step can lead to.
-/
import BridgeChannel.Observer.Event
import BridgeChannel.Transport.Signal
import BridgeChannel.WebSocket.Frame

set_option autoImplicit false

namespace BridgeChannel

/-- How the network answers an attempt to connect, and how the connection behaves after it. -/
structure Attempt where
  /-- The transport cannot be created. -/
  createError : Option TransportError := none
  /-- Whether the session is open at first. -/
  sessionOpen : Bool := true
  /-- Whether the transport hands the session over before it returns. -/
  announced : Bool := true
  /-- The transport cannot be opened. -/
  connectError : Option TransportError := none
  /-- No frame can be sent. -/
  sendError : Option TransportError := none
  /-- The session cannot be closed. -/
  closeError : Option TransportError := none
  /-- The session stays open when it is closed. -/
  closeKeepsOpen : Bool := false
  /-- The transport cannot be stopped. -/
  stopError : Option TransportError := none
  deriving DecidableEq, Inhabited

/-- The points of an attempt to connect at which other things may happen. -/
inductive Moment where
  /-- While the session that an earlier connection left behind is being closed. -/
  | closing
  /-- While the transport that an earlier connection left behind is being stopped. -/
  | stopping
  /-- While the new transport is being created. -/
  | creating
  /-- While the new transport is being opened, after it has handed its session over. -/
  | opening
  deriving DecidableEq, Repr

/-- One thing that happens. A connection that is not named is the latest one. -/
inductive Step where
  | connect (attempt : Attempt) (during : List (Moment × Step))
  | disconnect
  | send (message : Message)
  /-- Nothing happens; the state is looked at. -/
  | query
  | clearObservers
  /-- A new observer takes the given name and is registered. It reacts to news, a number of times in
  all. -/
  | observe (name : String) (reactions : List (Event.Kind × Step)) (times : Nat)
  /-- The observer of a name is registered once more. -/
  | addAgain (name : String)
  /-- The owner of an observer lets go. -/
  | dropObserver (name : String)
  /-- The handler of a connection is called. -/
  | signal (connection : Option Nat) (signal : Signal)
  /-- The stream of a connection yields an item, or ends. -/
  | stream (connection : Option Nat) (item : Option WebSocket.StreamItem)
  /-- The session of a connection opens or closes by itself. -/
  | setOpen (connection : Option Nat) (isOpen : Bool)
  /-- Somebody keeps the handler of a connection alive. -/
  | hold (connection : Option Nat)
  /-- Whoever kept the handler of a connection alive lets go. -/
  | release (connection : Option Nat)

namespace Step

/-- What a step is called. -/
def name : Step → String
  | connect _ _ => "connect"
  | disconnect => "disconnect"
  | send _ => "send"
  | query => "query"
  | clearObservers => "clear_observers"
  | observe _ _ _ => "observe"
  | addAgain _ => "add_again"
  | dropObserver _ => "drop_observer"
  | signal _ .opened => "open"
  | signal _ (.message _) => "message"
  | signal _ (.closed _ _) => "close"
  | signal _ (.failed _) => "error"
  | stream _ _ => "stream"
  | setOpen _ _ => "set_open"
  | hold _ => "hold"
  | release _ => "release"

mutual

/-- An upper bound on the steps that performing a step leads to, itself included: those inside an
attempt run once, and the reactions of an observer as often as it reacts. -/
def cost : Step → Nat
  | connect _ during => 1 + costDuring during
  | observe _ reactions times => 1 + times * costReactions reactions
  | _ => 1

def costDuring : List (Moment × Step) → Nat
  | [] => 0
  | (_, s) :: rest => s.cost + costDuring rest

def costReactions : List (Event.Kind × Step) → Nat
  | [] => 0
  | (_, s) :: rest => s.cost + costReactions rest

end

end Step

/-- The steps of one label, in order. -/
def labelled {κ : Type} [DecidableEq κ] (k : κ) (steps : List (κ × Step)) : List Step :=
  (steps.filter fun s => s.1 == k).map Prod.snd

end BridgeChannel
