/-
The engine of a transport.

An engine opens connections until it is stopped, which can be done any number of times.

Main definitions:

* `Engine`, `Engine.connect`, `Engine.stop`.
-/
import BridgeChannel.Bridge.Server

set_option autoImplicit false

namespace BridgeChannel.WebSocket

/-- The engine of a transport. -/
structure Engine where
  isRunning : Bool := true
  deriving DecidableEq, Repr, Inhabited

namespace Engine

/-- Opens a connection to a server: the bridge's turns follow. -/
def connect (server : Bridge.Server) (limit : Duration) (e : Engine) :
    Except TransportError (List Bridge.Turn) :=
  if e.isRunning then server.answer limit else .error .stopped

/-- Stops the engine; this always succeeds. -/
def stop (_ : Engine) : Engine × Except TransportError Unit := ({ isRunning := false }, .ok ())

end Engine

end BridgeChannel.WebSocket
