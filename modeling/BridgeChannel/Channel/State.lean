/-
The life of a channel.

A channel moves `disconnected → connecting → handshake-pending → ready` and ends in `closed`. Each
transition names the states that it accepts; from any other state it is refused and nothing changes.

Main definitions:

* `ConnectionState`, `Transition` — the states and the moves between them;
* `Transition.target` — the state that a move leads to, if it is accepted;
* `ConnectionState.after` — the state once a move has been tried;
* `ConnectionState.transition` — the previous state of an accepted move, or the state that refused.
-/

set_option autoImplicit false

namespace BridgeChannel

/-- Where a channel stands. -/
inductive ConnectionState where
  /-- Nothing started yet. -/
  | disconnected
  /-- A transport is being opened. -/
  | connecting
  /-- The transport is open and the bridge has not greeted yet. -/
  | handshakePending
  /-- The greeting was answered; application messages may flow. -/
  | ready
  /-- Closed here or by the bridge. -/
  | closed
  deriving DecidableEq, Repr, Inhabited

namespace ConnectionState

/-- The name that log lines use. -/
def name : ConnectionState → String
  | disconnected => "disconnected"
  | connecting => "connecting"
  | handshakePending => "handshake-pending"
  | ready => "ready"
  | closed => "closed"

/-- The place of a state in the order of a channel's life. -/
def rank : ConnectionState → Nat
  | disconnected => 0
  | connecting => 1
  | handshakePending => 2
  | ready => 3
  | closed => 4

/-- Whether application messages may flow. -/
def isReady (s : ConnectionState) : Bool := s == ready

@[simp] theorem isReady_iff (s : ConnectionState) : s.isReady = true ↔ s = ready := by
  cases s <;> decide

end ConnectionState

/-- A move that the client or its transport makes. -/
inductive Transition where
  /-- A connection is asked for. -/
  | beginConnect
  /-- The transport reported an open session. -/
  | transportOpened
  /-- Opening the transport failed. -/
  | connectFailed
  /-- A greeting was answered. -/
  | handshakeCompleted
  /-- The channel was closed by either side. -/
  | closed
  deriving DecidableEq, Repr

open ConnectionState in
/-- The state that a move leads to, where it is accepted. A channel may be opened when it is fresh
or closed; a greeting and a close are accepted everywhere. -/
def Transition.target : Transition → ConnectionState → Option ConnectionState
  | beginConnect, .disconnected => some .connecting
  | beginConnect, .closed => some .connecting
  | beginConnect, _ => none
  | transportOpened, .connecting => some .handshakePending
  | transportOpened, _ => none
  | connectFailed, .connecting => some .disconnected
  | connectFailed, _ => none
  | handshakeCompleted, _ => some .ready
  | .closed, _ => some .closed

namespace ConnectionState

/-- The state after a move was tried: a refused move changes nothing. -/
def after (s : ConnectionState) (t : Transition) : ConnectionState := (t.target s).getD s

/-- What a move answers: the state it left, or the state that refused it. -/
def transition (s : ConnectionState) (t : Transition) : Except ConnectionState ConnectionState :=
  if (t.target s).isSome then .ok s else .error s

@[simp] theorem after_closed (s : ConnectionState) : s.after .closed = closed := rfl

@[simp] theorem after_handshakeCompleted (s : ConnectionState) :
    s.after .handshakeCompleted = ready := rfl

end ConnectionState

end BridgeChannel
