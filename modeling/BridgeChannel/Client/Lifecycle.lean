/-
Opening and closing a channel.

Connecting is refused without an address, and while the channel is in use. Otherwise what an earlier
connection left behind is torn down, a transport is created, a handler with a new generation becomes
the latest one, and the transport is opened with it. An attempt fails if the transport cannot be
created or opened, or if the channel was closed before the attempt was over.

Disconnecting is possible at any time, any number of times.

Main definitions:

* `Scene.teardown` — closes the session and stops the transport that the client holds;
* `Scene.accept` — hears of an open session;
* `Scene.connect`, `Scene.disconnect`, `Scene.dropClient`.

Main results: `client_teardown_quietly`, `client_disconnect`.
-/
import BridgeChannel.Client.Scene

set_option autoImplicit false

namespace BridgeChannel.Scene

/-- What else happens at the points of an attempt. -/
abbrev Interludes := Moment → Scene → Scene

/-- Nothing else happens. -/
def quietly : Interludes := fun _ s => s

/-! ### Closing -/

/-- Closes the session of a connection. -/
def closeSession (between : Interludes) (n : Nat) (s : Scene) : Scene :=
  let s := between .closing (s.note (.closed n))
  match (s.conduct n).closeError with
  | some e => s.log (.sessionCloseFailed e)
  | none =>
    if (s.conduct n).closeKeepsOpen then s else s.update n fun c => { c with isOpen := false }

/-- Stops the transport of a connection. -/
def stopTransport (between : Interludes) (n : Nat) (s : Scene) : Scene :=
  let s := between .stopping (s.note (.stopped n))
  match (s.conduct n).stopError with
  | some e => s.log (.stopFailed e)
  | none => s

/-- Lets go of the session, which is closed if it is open. -/
def dropSession (between : Interludes) (s : Scene) : Scene :=
  match s.client.session with
  | none => s
  | some n =>
    if s.isOpen n then closeSession between n (s.setSession none) else s.setSession none

/-- Lets go of the transport, which is stopped. -/
def dropTransport (between : Interludes) (s : Scene) : Scene :=
  match s.client.transport with
  | none => s
  | some n => stopTransport between n (s.setTransport none)

/-- Closes the session and stops the transport that the client holds. -/
def teardown (between : Interludes) (s : Scene) : Scene :=
  dropTransport between (dropSession between s)

/-- Closes the channel. -/
def disconnect (s : Scene) : Scene :=
  let s := s.move .closed
  let s := match s.client.handler with
    | some n => s.update n fun c => { c with released := true }
    | none => s
  (s.teardown quietly).log .disconnected

/-! ### Opening -/

/-- Hears of the open session of a connection. -/
def accept (n : Nat) (s : Scene) : Scene :=
  ((s.log .opened).setSession (some n)).move .transportOpened

/-- Hands the open session of a connection over, which counts if it is the latest connection. -/
def announce (n : Nat) (s : Scene) : Scene :=
  let s := s.called n .opened
  if s.gone then s
  else
    match s.network[n]? with
    | none => s
    | some c =>
      if c.generation = s.client.generation then s.accept n
      else s.log (.stale c.generation s.client.generation)

/-- Makes the handler of a connection the latest one. -/
def install (n : Nat) (s : Scene) : Scene :=
  let generation := s.client.generation + 1
  { s with client := { s.client with generation, handler := some n } }.update n
    fun c => { c with generation }

/-- Opens the transport of a connection: it may hand its session over, and other things may happen
before it returns. -/
def openTransport (plan : Attempt) (between : Interludes) (n : Nat) (s : Scene) : Scene :=
  let s := s.note (.opened n s.client.config.address s.client.config.connectTimeout)
  let s := s.update n fun c => { c with isOpen := plan.sessionOpen }
  between .opening (if plan.announced then s.announce n else s)

/-- The end of an attempt whose transport could not be opened. -/
def giveUp (e : TransportError) (n : Nat) (s : Scene) : Scene :=
  (((s.log (.connectFailed e)).stopTransport quietly n).setHandler none).move .connectFailed

/-- The end of an attempt whose transport is open: the channel may have been closed meanwhile. -/
def settle (n : Nat) (s : Scene) : Scene × Bool :=
  let s := ((s.setSession (some n)).setTransport (some n)).move .transportOpened
  if s.isReleased n || s.client.state == .closed then
    (((s.log .closedWhileConnecting).move .closed).teardown quietly, false)
  else (s.log .connected, true)

/-- The rest of an attempt, once its transport is created and is the `n`-th. -/
def establish (plan : Attempt) (between : Interludes) (n : Nat) (s : Scene) : Scene × Bool :=
  let s := (s.install n).update n fun c => { c with running := c.running + 1 }
  let s := s.openTransport plan between n
  let (s, success) := match plan.connectError with
    | some e => (s.giveUp e n, false)
    | none => s.settle n
  (s.update n fun c => { c with running := c.running - 1 }, success)

/-- Creates the transport of an attempt, and goes on with it. -/
def attempt (plan : Attempt) (between : Interludes) (s : Scene) : Scene × Bool :=
  let s := between .creating (s.log (.connecting s.client.config.address))
  match plan.createError with
  | some e => (((s.note .createFailed).log (.startFailed e)).move .connectFailed, false)
  | none =>
    let n := s.network.length
    let s := { s with network := s.network ++ [({ conduct := plan } : Connection)] }
    establish plan between n (s.note (.created n))

/-- Opens the channel, and answers whether that succeeded. -/
def connect (plan : Attempt) (between : Interludes) (s : Scene) : Scene × Bool :=
  if s.client.config.hasAddress then
    match Transition.target .beginConnect s.client.state with
    | some _ => attempt plan between ((s.move .beginConnect).teardown between)
    | none => (s.log (.cannotConnect s.client.state), false)
  else (s.log .noAddress, false)

/-- The client goes away; what it still holds is closed first. -/
def dropClient (s : Scene) : Scene :=
  let s := if s.client.transport.isSome || s.client.session.isSome then s.disconnect else s
  { s with gone := true }.setHandler none

/-! ### What closing leaves behind -/

@[simp] theorem client_closeSession_quietly (n : Nat) (s : Scene) :
    (closeSession quietly n s).client = s.client := by
  unfold closeSession
  dsimp only
  split
  · rfl
  · split <;> rfl

@[simp] theorem client_stopTransport_quietly (n : Nat) (s : Scene) :
    (stopTransport quietly n s).client = s.client := by
  unfold stopTransport
  dsimp only
  split <;> rfl

theorem client_dropSession_quietly (s : Scene) :
    (dropSession quietly s).client = { s.client with session := none } := by
  unfold dropSession
  split
  next h => rw [← h]
  next => split <;> simp [setSession]

theorem client_dropTransport_quietly (s : Scene) :
    (dropTransport quietly s).client = { s.client with transport := none } := by
  unfold dropTransport
  split
  next h => rw [← h]
  next => simp [setTransport]

/-- Tearing down leaves the client without a session and without a transport, and changes nothing
else of it. -/
theorem client_teardown_quietly (s : Scene) :
    (s.teardown quietly).client = { s.client with session := none, transport := none } := by
  simp [teardown, client_dropTransport_quietly, client_dropSession_quietly]

/-- A channel that was disconnected is closed and holds nothing. -/
theorem client_disconnect (s : Scene) :
    s.disconnect.client =
      { s.client with state := .closed, session := none, transport := none } := by
  unfold disconnect
  simp only [client_log, client_teardown_quietly]
  split <;> rfl

end BridgeChannel.Scene
