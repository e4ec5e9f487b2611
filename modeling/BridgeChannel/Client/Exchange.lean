/-
Sending and receiving on a channel.

A frame goes out if the client holds an open session. The application's messages go out only once
the channel is ready. A greeting of the bridge is answered in any state: the client says hello, is
ready, tells its observers, and declines video. The messages that are passed on to observers count
only once the channel is ready; all other messages are ignored.

A signal counts if it comes through the handler of the latest connection. Where a connection has a
stream, its signals are what the reader makes of it.

Main definitions:

* `Scene.sendFrame`, `Scene.sendMessage`;
* `Scene.greet`, `Scene.dispatch`, `Scene.receive` — messages of the bridge;
* `Scene.deliver` — a signal;
* `Scene.read` — an item of a stream.
-/
import BridgeChannel.Client.Lifecycle
import BridgeChannel.Message.Codec

set_option autoImplicit false

namespace BridgeChannel.Scene

/-! ### Sending -/

/-- Writes a message if the client holds an open session. -/
def sendFrame (m : Message) (s : Scene) : Scene :=
  match s.openSession? with
  | none => s.log .noSession
  | some n =>
    match m.encode with
    | .error e => s.log (.encodeFailed m.className e)
    | .ok frame =>
      let s := (s.log (.sending frame)).submitted n frame
      match (s.conduct n).sendError with
      | some e => s.log (.sendFailed e)
      | none => s.note (.frame n frame)

/-- Sends a message of the application, which has to wait until the channel is ready. -/
def sendMessage (m : Message) (s : Scene) : Scene :=
  if s.client.state.isReady then s.sendFrame m
  else s.log (.cannotSend m.className s.client.state)

@[simp] theorem client_sendFrame (m : Message) (s : Scene) : (s.sendFrame m).client = s.client := by
  unfold sendFrame
  split
  · rfl
  · split
    · rfl
    · simp only
      split <;> rfl

@[simp] theorem client_sendMessage (m : Message) (s : Scene) :
    (s.sendMessage m).client = s.client := by
  unfold sendMessage
  split
  · simp
  · rfl

/-! ### Receiving -/

/-- What an observer does with a piece of news. -/
abbrev Reaction := Nat → Event → Scene → Scene

/-- Tells the registered observers a piece of news. -/
def tell (react : Reaction) (event : Event) (s : Scene) : Scene :=
  notify (fun n s => react n event s) s

/-- Answers the greeting of the bridge. -/
def greet (react : Reaction) (s : Scene) : Scene :=
  let s := (s.log .greeted).sendFrame .clientHello
  let s := (s.move .handshakeCompleted).log .nowReady
  let s := s.tell react .connected
  (s.sendMessage .noVideo).log .videoDeclined

/-- Passes a message on to the observers, if the channel is ready. -/
def pass (react : Reaction) (c : MessageClass) (line : LogLine) (event : Event) (s : Scene) :
    Scene :=
  if s.client.state.isReady then (s.log line).tell react event
  else s.log (.untimely c.name s.client.state)

/-- Does what a message of the bridge asks for. -/
def dispatch (react : Reaction) (m : Message) (s : Scene) : Scene :=
  match m with
  | .serverHello _ => s.greet react
  | .endpointMessage e =>
    s.pass react .endpointMessage (.endpointMessage e.sender) (.endpointMessage e)
  | .dominantSpeaker endpoint _ =>
    s.pass react .dominantSpeaker (.speaker endpoint) (.speaker endpoint)
  | .connectivity endpoint active =>
    s.pass react .connectivity (.connectivity endpoint active) (.connectivity endpoint active)
  | .senderVideoConstraints _ => s
  | .clientHello | .receiverVideoConstraints _ _ | .unknown _ _ => s.log (.unhandled m.className)

/-- Takes a frame of the bridge. -/
def receive (react : Reaction) (frame : String) (s : Scene) : Scene :=
  let s := s.log (.received frame)
  match Message.decode frame with
  | .ok m => s.dispatch react m
  | .error .missingClass => s.log (.classMissing frame)
  | .error e => s.log (.unreadable e)

/-- Hears that the transport closed. -/
def hearClose (react : Reaction) (code : UInt16) (reason : String) (s : Scene) : Scene :=
  ((s.log (.closed code reason)).move .closed).tell react (.disconnected code reason)

/-- Does what a signal of the latest connection, the `n`-th, asks for. -/
def obey (react : Reaction) (n : Nat) (signal : Signal) (s : Scene) : Scene :=
  match signal with
  | .opened => s.accept n
  | .message frame => s.receive react frame
  | .closed code reason => s.hearClose react code reason
  | .failed e => s.log (.transportFailed e)

/-- The handler of the `n`-th connection is called, which counts if that is the latest one. -/
def deliver (react : Reaction) (n : Nat) (signal : Signal) (s : Scene) : Scene :=
  let s := s.called n signal
  if s.gone then s
  else
    match s.network[n]? with
    | none => s
    | some c =>
      if c.generation = s.client.generation then s.obey react n signal
      else s.log (.stale c.generation s.client.generation)

/-- Handing over a session is one of the signals. -/
theorem deliver_opened (react : Reaction) (n : Nat) (s : Scene) :
    s.deliver react n .opened = s.announce n := rfl

/-- A signal of a connection that is not the latest one leaves nothing but a log line. -/
theorem deliver_stale {react : Reaction} {n : Nat} {signal : Signal} {s : Scene} {c : Connection}
    (here : s.gone = false) (known : s.network[n]? = some c)
    (old : c.generation ≠ s.client.generation) :
    s.deliver react n signal =
      (s.called n signal).log (.stale c.generation s.client.generation) := by
  simp [deliver, called, here, known, old]

/-- Without a client, nothing comes of a signal. -/
theorem deliver_of_gone {react : Reaction} {n : Nat} {signal : Signal} {s : Scene}
    (gone : s.gone = true) : s.deliver react n signal = s.called n signal := by
  simp [deliver, called, gone]

/-! ### Streams -/

/-- The reader of a connection takes an item of its stream, and calls the handler. A connection that
could not be opened has no stream. -/
def read (react : Reaction) (n : Nat) (item : Option WebSocket.StreamItem) (s : Scene) : Scene :=
  match s.network[n]? with
  | none => s
  | some c =>
    if c.conduct.connectError.isSome then s
    else
      let (reader, signal) := c.reader.advance (s.isAlive n) item
      let s := s.update n fun c => { c with reader, isOpen := c.isOpen && !reader.hasClosed }
      match signal with
      | some signal => s.engaged n (deliver react n signal)
      | none => s

end BridgeChannel.Scene
