/-
A client and everything around it.

A scene holds the client, the connections that transports have made for it, the observers, and an
account of what happened. Connections are numbered in the order in which their transports were
created; the session, the transport and the handler of a connection go by its number.

The handler of a connection forwards signals to the client. The client owns the handler of its
latest connection only; others live as long as somebody holds them, or one of their calls is
running.

Main definitions:

* `Connection`, `Client`, `Observer` — the parties;
* `Occurrence` — what an account can tell;
* `Scene` — all of it, with the operations on its parts;
* `Scene.isAlive` — whether the handler of a connection exists;
* `Scene.isConnected` — whether the channel is ready and its session open.
-/
import BridgeChannel.Channel.Config
import BridgeChannel.Client.Log
import BridgeChannel.Client.Step
import BridgeChannel.Observer.Roster
import BridgeChannel.WebSocket.Reader

set_option autoImplicit false

namespace BridgeChannel

/-- A connection as its transport knows it. -/
structure Connection where
  /-- How the network behaves. -/
  conduct : Attempt
  /-- The generation of the handler. -/
  generation : UInt64 := 0
  /-- Whether the session is open. -/
  isOpen : Bool := false
  /-- Whether the client was asked to disconnect while the handler was its latest. -/
  released : Bool := false
  /-- Whether somebody keeps the handler. -/
  held : Bool := false
  /-- How many calls of the handler, or attempts to connect it, are running. -/
  running : Nat := 0
  /-- The reader of the stream, if there is one. -/
  reader : WebSocket.Reader := {}
  deriving Inhabited

/-- A client: its settings, its state, and what it holds of its connections. -/
structure Client where
  config : Config
  state : ConnectionState := .disconnected
  /-- The connection whose session the client holds. -/
  session : Option Nat := none
  /-- The connection whose transport the client holds. -/
  transport : Option Nat := none
  /-- The generation of the latest connection. -/
  generation : UInt64 := 0
  /-- The connection whose handler the client owns. -/
  handler : Option Nat := none
  deriving Inhabited

/-- An observer: its name, its reactions, and how often it still reacts. -/
structure Observer where
  name : String
  reactions : List (Event.Kind × Step) := []
  remaining : Nat := 0
  deriving Inhabited

/-- What came of a step. -/
inductive Outcome where
  | done
  /-- Whether a connection was made. -/
  | connected (success : Bool)
  /-- The client is gone. -/
  | noClient
  /-- There is no such connection. -/
  | noConnection
  /-- The handler of the connection is gone. -/
  | cutOff
  /-- Nobody held the handler. -/
  | notHeld
  /-- There is no such observer. -/
  | noObserver
  /-- The step is nested deeper than steps are performed. -/
  | exhausted
  deriving DecidableEq, Repr

/-- What an account can tell. -/
inductive Occurrence where
  | log (line : LogLine)
  | created (connection : Nat)
  | createFailed
  | opened (connection : Nat) (address : String) (timeout : Duration)
  | frame (connection : Nat) (text : String)
  | closed (connection : Nat)
  | stopped (connection : Nat)
  | told (observer : String) (event : Event)
  | began (step : String)
  | ended (step : String) (outcome : Outcome) (state : Option ConnectionState)
      (isConnected : Option Bool)

/-- A client and everything around it. -/
structure Scene where
  client : Client
  /-- Whether the client is gone. -/
  gone : Bool := false
  network : List Connection := []
  roster : Roster Observer := {}
  /-- What happened, the last first. -/
  account : List Occurrence := []
  /-- What the handlers of connections were called with, the last first. -/
  calls : List (Nat × Signal) := []
  /-- What the sessions of connections were asked to send, the last first. -/
  sends : List (Nat × String) := []
  /-- What the application asked to send, the last first. -/
  requests : List Message := []
  deriving Inhabited

instance : HasRoster Scene Observer := ⟨Scene.roster, fun s r => { s with roster := r }⟩

namespace Scene

/-- The scene of a client that nothing has happened to. -/
def start (config : Config) : Scene := { client := { config } }

/-! ### The account -/

def note (o : Occurrence) (s : Scene) : Scene := { s with account := o :: s.account }

def log (line : LogLine) (s : Scene) : Scene := s.note (.log line)

/-- The handler of a connection is called. -/
def called (n : Nat) (signal : Signal) (s : Scene) : Scene :=
  { s with calls := (n, signal) :: s.calls }

/-- The session of a connection is asked to send a frame. -/
def submitted (n : Nat) (frame : String) (s : Scene) : Scene :=
  { s with sends := (n, frame) :: s.sends }

/-- The application asks to send a message. -/
def requested (m : Message) (s : Scene) : Scene := { s with requests := m :: s.requests }

/-! ### The client -/

/-- Tries a transition of the state. -/
def move (t : Transition) (s : Scene) : Scene :=
  { s with client := { s.client with state := s.client.state.after t } }

def setSession (n : Option Nat) (s : Scene) : Scene :=
  { s with client := { s.client with session := n } }

def setTransport (n : Option Nat) (s : Scene) : Scene :=
  { s with client := { s.client with transport := n } }

def setHandler (n : Option Nat) (s : Scene) : Scene :=
  { s with client := { s.client with handler := n } }

/-! ### Connections -/

/-- Changes a connection. -/
def update (n : Nat) (f : Connection → Connection) (s : Scene) : Scene :=
  { s with network := s.network.modify n f }

/-- Whether the session of a connection is open. -/
def isOpen (s : Scene) (n : Nat) : Bool := (s.network[n]?.map Connection.isOpen).getD false

/-- Whether the client was asked to disconnect while a connection was its latest. -/
def isReleased (s : Scene) (n : Nat) : Bool := (s.network[n]?.map Connection.released).getD false

/-- How the network behaves on a connection. -/
def conduct (s : Scene) (n : Nat) : Attempt := (s.network[n]?.map Connection.conduct).getD {}

/-- Whether the handler of a connection exists. -/
def isAlive (s : Scene) (n : Nat) : Bool :=
  s.client.handler == some n ||
    (s.network[n]?.map fun c => c.held || 0 < c.running).getD false

/-- Does something while a call of the handler of a connection runs. -/
def engaged (s : Scene) (n : Nat) (act : Scene → Scene) : Scene :=
  (act (s.update n fun c => { c with running := c.running + 1 })).update n
    fun c => { c with running := c.running - 1 }

/-! ### Questions to the client -/

/-- The connection whose session the client holds, if that session is open. -/
def openSession? (s : Scene) : Option Nat := s.client.session.filter s.isOpen

/-- Whether the channel is ready and its session open. -/
def isConnected (s : Scene) : Bool := s.client.state.isReady && s.openSession?.isSome

/-- The state of the channel, while there is a client. -/
def state? (s : Scene) : Option ConnectionState := if s.gone then none else some s.client.state

/-- Whether the channel is connected, while there is a client. -/
def connected? (s : Scene) : Option Bool := if s.gone then none else some s.isConnected

/-! ### What each operation leaves alone -/

@[simp] theorem client_note (o : Occurrence) (s : Scene) : (s.note o).client = s.client := rfl
@[simp] theorem client_log (l : LogLine) (s : Scene) : (s.log l).client = s.client := rfl
@[simp] theorem client_called (n : Nat) (signal : Signal) (s : Scene) :
    (s.called n signal).client = s.client := rfl
@[simp] theorem network_note (o : Occurrence) (s : Scene) : (s.note o).network = s.network := rfl
@[simp] theorem network_move (t : Transition) (s : Scene) : (s.move t).network = s.network := rfl
@[simp] theorem client_update (n : Nat) (f : Connection → Connection) (s : Scene) :
    (s.update n f).client = s.client := rfl
@[simp] theorem state_move (t : Transition) (s : Scene) :
    (s.move t).client.state = s.client.state.after t := rfl

end Scene

end BridgeChannel
