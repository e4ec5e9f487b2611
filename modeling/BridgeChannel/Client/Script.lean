/-
Scripts on a client.

A script is performed step by step. Some steps lead to others: those that run while an attempt to
connect is under way, and those that an observer reacts with. What a step leads to is performed in
its midst, and the account tells where each nested step begins and ends.

An observer takes note of every piece of news. It reacts as long as it has reactions left; a piece
of news that it has no reaction to uses none up.

Main definitions:

* `Scene.take` — one step, given how nested steps are performed;
* `Scene.perform` — a step with everything that it leads to;
* `Command` — a step, or the end of the client;
* `Script.run` — the reports on all commands of a script.
-/
import BridgeChannel.Client.Exchange

set_option autoImplicit false

namespace BridgeChannel

namespace Scene

/-! ### Nested steps -/

/-- A way to perform steps. -/
abbrev Performance := Step → Scene → Scene × Outcome

/-- Performs a nested step; the account tells where it begins and ends. -/
def nest (act : Performance) (step : Step) (s : Scene) : Scene :=
  let (s, outcome) := act step (s.note (.began step.name))
  s.note (.ended step.name outcome s.state? s.connected?)

/-- Performs nested steps in order. -/
def nestAll (act : Performance) (steps : List Step) (s : Scene) : Scene :=
  steps.foldl (fun s step => s.nest act step) s

/-- An observer takes note of a piece of news, and reacts if it has a reaction left. -/
def react (act : Performance) : Reaction := fun n event s =>
  match s.roster.everyone[n]? with
  | none => s
  | some o =>
    let s := s.note (.told o.name event)
    let steps := labelled event.kind o.reactions
    if steps.isEmpty || o.remaining = 0 then s
    else
      let spend (o : Observer) : Observer := { o with remaining := o.remaining - 1 }
      nestAll act steps { s with roster := s.roster.update n spend }

/-- The steps that run during an attempt to connect. -/
def interludes (act : Performance) (during : List (Moment × Step)) : Interludes :=
  fun m => nestAll act (labelled m during)

/-! ### One step -/

/-- Does what only a client can do. -/
def asClient (act : Scene → Scene × Outcome) (s : Scene) : Scene × Outcome :=
  if s.gone then (s, .noClient) else act s

/-- Does something that always succeeds. -/
def simply (act : Scene → Scene) (s : Scene) : Scene × Outcome := (act s, .done)

/-- The connection that a step means: the latest one, if it names none. -/
def meant? (connection : Option Nat) (s : Scene) : Option Nat :=
  let n := connection.getD (s.network.length - 1)
  if n < s.network.length then some n else none

/-- Does something with the connection that a step means. -/
def atConnection (connection : Option Nat) (act : Nat → Scene → Scene × Outcome) (s : Scene) :
    Scene × Outcome :=
  match s.meant? connection with
  | some n => act n s
  | none => (s, .noConnection)

/-- Does something with the handler of the connection that a step means. -/
def atHandler (connection : Option Nat) (act : Nat → Scene → Scene) (s : Scene) : Scene × Outcome :=
  s.atConnection connection fun n s =>
    if s.isAlive n then s.simply (act n) else (s, .cutOff)

/-- A new observer takes a name and is registered. -/
def welcome (o : Observer) (s : Scene) : Scene :=
  let n := s.roster.next
  { s with roster := ((s.roster.create o).own o.name n).register n }

/-- Performs a step, given how the steps that it leads to are performed. -/
def take (act : Performance) : Performance
  | .connect plan during, s => s.asClient fun s =>
    let (s, success) := s.connect plan (interludes act during)
    (s, .connected success)
  | .disconnect, s => s.asClient (simply disconnect)
  | .send message, s => s.asClient (simply fun s => (s.requested message).sendMessage message)
  | .query, s => (s, .done)
  | .clearObservers, s => s.asClient (simply fun s => { s with roster := s.roster.clear })
  | .observe name reactions times, s =>
    s.asClient (simply (welcome { name, reactions, remaining := times }))
  | .addAgain name, s => s.asClient fun s =>
    match s.roster.owned? name with
    | some n => ({ s with roster := s.roster.register n }, .done)
    | none => (s, .noObserver)
  | .dropObserver name, s =>
    match s.roster.owned? name with
    | some _ => ({ s with roster := s.roster.release name }, .done)
    | none => (s, .noObserver)
  | .signal connection signal, s =>
    s.atHandler connection fun n s => s.engaged n (deliver (react act) n signal)
  | .stream connection item, s =>
    s.atConnection connection fun n => simply (read (react act) n item)
  | .setOpen connection isOpen, s =>
    s.atConnection connection fun n => simply fun s => s.update n fun c => { c with isOpen }
  | .hold connection, s =>
    s.atHandler connection fun n s => s.update n fun c => { c with held := true }
  | .release connection, s => s.atConnection connection fun n s =>
    if (s.network[n]?.map Connection.held).getD false then
      s.simply fun s => s.update n fun c => { c with held := false }
    else (s, .notHeld)

/-- Performs a step, with steps nested in it down to a depth. -/
def perform : Nat → Performance
  | 0 => fun _ s => (s, .exhausted)
  | depth + 1 => take (perform depth)

/-! ### What a client that is gone still does -/

/-- Nothing can be asked of a client that is gone. -/
theorem asClient_of_gone {act : Scene → Scene × Outcome} {s : Scene} (gone : s.gone = true) :
    s.asClient act = (s, .noClient) := by
  simp [asClient, gone]

end Scene

/-! ### Scripts -/

/-- What a script asks for. -/
inductive Command where
  | step (step : Step)
  /-- The client goes away. -/
  | dropClient

namespace Command

/-- An upper bound on the steps that performing a command leads to. -/
def cost : Command → Nat
  | step s => s.cost
  | dropClient => 0

/-- Performs a command. -/
def perform (depth : Nat) : Command → Scene → Scene × Outcome
  | step s => Scene.perform depth s
  | dropClient => Scene.asClient (Scene.simply Scene.dropClient)

end Command

/-- What a script reports on a command. -/
structure Report where
  outcome : Outcome
  /-- The state of the channel after the command. -/
  state : Option ConnectionState
  /-- Whether the channel was connected after the command. -/
  isConnected : Option Bool
  /-- What happened, in order. -/
  account : List Occurrence

/-- What is asked of a client, in order. -/
abbrev Script := List Command

namespace Script

/-- Performs a command and reports on it. -/
def report (depth : Nat) (command : Command) (s : Scene) : Scene × Report :=
  let (s, outcome) := command.perform depth { s with account := [] }
  (s, { outcome, state := s.state?, isConnected := s.connected?, account := s.account.reverse })

/-- Performs a script. -/
def runFrom (depth : Nat) : Script → Scene → List Report
  | [], _ => []
  | command :: rest, s =>
    let (s, r) := report depth command s
    r :: runFrom depth rest s

/-- An upper bound on the steps that a script leads to, and so on the depth of their nesting. -/
def cost : Script → Nat
  | [] => 0
  | command :: rest => command.cost + cost rest

/-- The reports on a script for a new client. -/
def run (config : Config) (script : Script) : List Report :=
  runFrom (script.cost + 1) script (.start config)

end Script

end BridgeChannel
