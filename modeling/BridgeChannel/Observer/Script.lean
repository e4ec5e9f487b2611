/-
Scripts on a roster of observers that only take note of what they are told.

These observers listen to `connected` and `disconnected` and to nothing else.

Main definitions:

* `Audience` — a roster, and the calls that were made;
* `Audience.Step`, `Audience.perform` — one step of a script;
* `Audience.run` — the calls of each step.
-/
import BridgeChannel.Observer.Event
import BridgeChannel.Observer.Roster

set_option autoImplicit false

namespace BridgeChannel

/-- Observers with a name and nothing else, and the calls to them, the last one first. -/
structure Audience where
  roster : Roster String := {}
  calls : List (String × Event) := []
  deriving Inhabited

instance : HasRoster Audience String := ⟨Audience.roster, fun s r => { s with roster := r }⟩

namespace Audience

/-- A step of a script. -/
inductive Step where
  /-- Registers the observer of a name, which comes into being if it is not alive. -/
  | add (name : String)
  /-- The owner of a name lets go. -/
  | drop (name : String)
  | clear
  /-- Tells everyone. -/
  | tell (event : Event)
  /-- Tells everyone that the channel is ready, and registers a new observer before each call; it
  takes the given name in the end. -/
  | addWhileTelling (name : String)

/-- Whether these observers take note of a kind of news. -/
def listensTo : Event.Kind → Bool
  | .connected | .disconnected => true
  | _ => false

/-- Takes note of a call. -/
def record (event : Event) (n : Nat) (s : Audience) : Audience :=
  match s.roster.everyone[n]? with
  | some name => if listensTo event.kind then { s with calls := (name, event) :: s.calls } else s
  | none => s

open HasRoster in
/-- Performs a step. -/
def perform (s : Audience) : Step → Audience
  | .add name =>
    match s.roster.owned? name with
    | some n => modify (Roster.register n) s
    | none =>
      let n := s.roster.next
      modify (fun r => ((r.create name).own name n).register n) s
  | .drop name => modify (Roster.release name) s
  | .clear => modify Roster.clear s
  | .tell event => notify (record event) s
  | .addWhileTelling name =>
    let n := s.roster.next
    let s := modify (fun r => (r.create name).keep [n]) s
    let s := notify (fun m s => record .connected m (modify (Roster.register n) s)) s
    modify (fun r => (r.own name n).letGo n) s

/-- The calls that each step of a script makes. -/
def run (steps : List Step) : List (List (String × Event)) :=
  (steps.foldl (fun (before : Audience × List (List (String × Event))) step =>
    let s := perform { before.1 with calls := [] } step
    (s, s.calls.reverse :: before.2)) ({}, [])).2.reverse

end Audience

end BridgeChannel
