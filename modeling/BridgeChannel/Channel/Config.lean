/-
Settings of one channel.

Main definitions:

* `Config` — where to connect, as whom, and for how long to wait;
* `Config.hasAddress` — whether an attempt can be made at all.
-/
import BridgeChannel.Channel.Duration
import BridgeChannel.Text.Blank

set_option autoImplicit false

namespace BridgeChannel

/-- How long opening a connection may take, unless a channel says otherwise. -/
def defaultConnectTimeout : Duration := .ofSeconds 10

/-- How long a stopping transport waits for the close handshake, unless a channel says otherwise. -/
def defaultCloseGrace : Duration := .ofSeconds 2

/-- Settings of one channel. The endpoint is for callers and for logging; no message of the
handshake carries it. -/
structure Config where
  address : String
  endpoint : String
  connectTimeout : Duration := defaultConnectTimeout
  closeGrace : Duration := defaultCloseGrace
  deriving DecidableEq, Repr, Inhabited

namespace Config

/-- Whether there is an address to connect to: a blank one is none. -/
def hasAddress (c : Config) : Bool := !Text.isBlankText c.address

end Config

end BridgeChannel
