/-
Running a command line.

The program connects once, prints a line for every piece of news of the channel, and ends when the
channel closes. It fails if it cannot connect. The lines can be silenced by the environment.

Main definitions:

* `CommandLine.lineOf?` — the line for a piece of news;
* `CommandLine.closingLine` — the last line;
* `CommandLine.attend` — a channel from beginning to end;
* `CommandLine.Result`, `CommandLine.run` — what a command line comes to.
-/
import BridgeChannel.Client.Dialogue
import BridgeChannel.CommandLine.Arguments

set_option autoImplicit false

namespace BridgeChannel.CommandLine

open Bridge (Network)
open WebSocket (CloseStatus Outgoing)

/-! ### Lines -/

/-- The line for a piece of news; that the channel closed is told by the last line. -/
def lineOf? : Event → Option String
  | .connected => some "Channel ready"
  | .disconnected _ _ => none
  | .endpointMessage e =>
    some ("Endpoint message from " ++ e.sender.getD "<bridge>" ++ ": " ++ (Json.obj e.payload).text)
  | .speaker endpoint => some ("Dominant speaker: " ++ endpoint)
  | .connectivity endpoint active =>
    some ("Endpoint " ++ endpoint ++ " active: " ++ toString active)

/-- The last line. -/
def closingLine (status : CloseStatus) : String :=
  "Channel closed (" ++ toString status.code.toNat ++ " - " ++ status.reason ++ "), exiting"

/-- The news before the channel closed, and how it closed. -/
def untilClosed : List Event → List Event × Option CloseStatus
  | [] => ([], none)
  | .disconnected code reason :: _ => ([], some ⟨code, reason⟩)
  | event :: rest => (event :: (untilClosed rest).1, (untilClosed rest).2)

/-! ### Results -/

/-- What a command line comes to. -/
structure Result where
  exitCode : UInt32
  /-- The lines about the channel. -/
  lines : List String := []
  /-- What the bridge read. -/
  received : List Outgoing := []
  deriving DecidableEq

/-- Connects, and follows the channel until it closes. -/
def attend (config : Config) (network : Network) : Result :=
  let dialogue := Dialogue.hold config network "" []
  if dialogue.success then
    let news := dialogue.account.filterMap fun
      | .told _ event => some event
      | _ => none
    let (before, status) := untilClosed news
    { exitCode := 0, lines := before.filterMap lineOf? ++ (status.map closingLine).toList
      received := dialogue.received }
  else { exitCode := 1 }

/-- Whether the lines are shown, given the least level of the lines that are wanted. -/
def showsLines (level : Option String) : Bool :=
  match level.map String.toLower with
  | some "off" | some "error" | some "warn" => false
  | _ => true

/-- The version line. -/
def versionLine : String := "colibri-ws 0.1.0"

/-- The variable of the environment that sets the least level of log lines. -/
def levelVariable : String := "RUST_LOG"

/-- Runs a command line: what goes to the standard output is the version line, or the lines about
the channel. -/
def run (environment : String → Option String) (network : Network) (arguments : List String) :
    Except Misuse (Request × Result) := do
  let request ← parse environment arguments
  match request with
  | .help | .version => return (request, { exitCode := 0 })
  | .connect config _ =>
    let result := attend config network
    if showsLines (environment levelVariable) then return (request, result)
    else return (request, { result with lines := [] })

/-! ### What the lines say -/

end BridgeChannel.CommandLine
