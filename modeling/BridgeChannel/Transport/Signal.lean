/-
What a transport reports on a connection.

Main definitions:

* `Signal` — the reports; a handler is called with each of them.
-/
import BridgeChannel.Transport.Error

set_option autoImplicit false

namespace BridgeChannel

/-- What a transport reports on a connection. -/
inductive Signal where
  /-- The session of the connection is handed over. -/
  | opened
  | message (frame : String)
  | closed (code : UInt16) (reason : String)
  | failed (error : TransportError)
  deriving DecidableEq

end BridgeChannel
