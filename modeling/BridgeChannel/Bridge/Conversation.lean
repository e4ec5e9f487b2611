/-
A bridge and its partner, turn by turn.

Each turn is over before the next one begins: what the bridge sends is heard, and what its partner
sends in answer is there to be read. When a bridge has nothing left to do, it goes away.

Main definitions:

* `Bridge.Partner` — the other side, seen from the bridge;
* `Bridge.converse` — all turns of a bridge.
-/
import BridgeChannel.Bridge.Server
import BridgeChannel.WebSocket.Outbound

set_option autoImplicit false

namespace BridgeChannel.Bridge

open WebSocket

/-- The other side of a connection: how it hears an item of its stream, or the end of it, and all
that it has sent so far. -/
structure Partner (σ : Type) where
  hear : Option StreamItem → σ → σ
  sent : σ → List Outgoing

namespace Partner

variable {σ : Type} (p : Partner σ)

/-- The stream ends with an item. -/
def hearLast (item : StreamItem) (s : σ) : σ := p.hear none (p.hear (some item) s)

/-- The stream ends without a close frame. -/
def lose (s : σ) : σ := p.hearLast (.error .resetWithoutClosing) s

end Partner

variable {σ : Type} (p : Partner σ)

/-- Does all turns of a bridge that has read some of what its partner sent. Gives how the partner is
left, and what the bridge read in the turns that are there to read. -/
def converse : List Turn → Nat → σ → σ × List Outgoing
  | [], _, s | .drop :: _, _, s => (p.lose s, [])
  | .text content :: rest, n, s => converse rest n (p.hear (some (.ok (.text content))) s)
  | .binary data :: rest, n, s => converse rest n (p.hear (some (.ok (.binary data))) s)
  | .ping data :: rest, n, s => converse rest n (p.hear (some (.ok (.ping data))) s)
  | .pong data :: rest, n, s => converse rest n (p.hear (some (.ok (.pong data))) s)
  | .fragments parts :: rest, n, s =>
    converse rest n (p.hear (some (.ok (.text (String.join parts)))) s)
  | .badText :: _, _, s => (p.hearLast (.error .invalidText) s, [])
  | .expect count :: rest, n, s =>
    let read := ((p.sent s).drop n).take count
    let (s, later) := converse rest (n + read.length) s
    (s, read ++ later)
  | .close status :: _, _, s => (p.hearLast (.ok (.close status)) s, [])
  | .awaitClose :: _, n, s =>
    let read := (p.sent s).drop n
    if .close ∈ read then (p.hearLast (.ok (.close (some .normal))) s, read)
    else (p.lose s, read)

end BridgeChannel.Bridge
