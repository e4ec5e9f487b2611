/-
**Earlier connections cannot interfere.**

A signal of a connection that is not the latest one is dropped, and the client takes note of it; so
a run is compared with the run in which no such signal takes place.  Whether a signal counts is
decided when it is delivered, by the generation of its handler: a handler may be the latest one at
one time and outdated at another, and a step may be nested in others, so that what is left out is
not a part of the script, but a part of its performance.

The two runs are alike after every step, at any depth of nesting: they differ in the log lines on
what was dropped, and in nothing else.

Main definitions:

* `Scene.isLatest` — whether a handler has the latest generation;
* `Scene.takeLatest`, `Scene.performLatest` — steps in which a handler is called only if it is the
  latest one;
* `Script.course` — the reports on a script, with the scene after each command;
* `Report.SameBut` — two reports that differ in what was not kept of their accounts.

Main results:

* `alike_engaged_outdated` — a signal that is dropped leaves no trace but a log line;
* `alikeActs_performLatest` — **every step, with and without the signals of earlier connections**;
* `outdated_harmless` — **whole runs**.
-/
import BridgeChannel.Proofs.Client.Alike
import BridgeChannel.Proofs.Client.Reachable
import BridgeChannel.Proofs.Client.Steady

set_option autoImplicit false

namespace BridgeChannel

/-- Whether an occurrence tells that a signal was dropped because a later connection is the latest
one. -/
def Occurrence.tellsOfDrop : Occurrence → Bool
  | log (.stale _ _) => true
  | _ => false

/-- All that an account tells, but for signals that were dropped. -/
def Occurrence.otherThanDrop (o : Occurrence) : Bool := !o.tellsOfDrop

namespace Scene

/-! ### Steps without the signals of earlier connections -/

/-- Whether the handler of a connection has the latest generation. -/
def isLatest (s : Scene) (n : Nat) : Bool :=
  s.network[n]?.map Connection.generation == some s.client.generation

/-- Calls the handler of a connection, if it is the latest one. -/
def deliverLatest (react : Reaction) (n : Nat) (signal : Signal) (s : Scene) : Scene :=
  if s.isLatest n then s.engaged n (deliver react n signal) else s

/-- The reader of a connection takes an item, and calls the handler if that is the latest one. -/
def readLatest (react : Reaction) (n : Nat) (item : Option WebSocket.StreamItem) (s : Scene) :
    Scene :=
  match s.network[n]? with
  | none => s
  | some c =>
    if c.conduct.connectError.isSome then s
    else
      let (reader, signal) := c.reader.advance (s.isAlive n) item
      let s := s.update n fun c => { c with reader, isOpen := c.isOpen && !reader.hasClosed }
      match signal with
      | some signal => s.deliverLatest react n signal
      | none => s

/-- Performs a step, but for the signals of connections that are not the latest one: these do not
take place. -/
def takeLatest (act : Performance) : Performance
  | .signal connection signal, s => s.atHandler connection (deliverLatest (react act) · signal)
  | .stream connection item, s =>
    s.atConnection connection fun n => simply (readLatest (react act) n item)
  | step, s => take act step s

/-- Performs a step and all that is nested in it, but for the signals of connections that are not
the latest one when they are delivered. -/
def performLatest : Nat → Performance
  | 0 => fun _ s => (s, .exhausted)
  | depth + 1 => takeLatest (performLatest depth)

/-! ### What is dropped -/

/-- A signal that is dropped leaves no trace but a log line. -/
theorem alike_engaged_outdated {react : Reaction} {n : Nat} {signal : Signal} {s : Scene}
    (outdated : s.isLatest n = false) :
    Alike Occurrence.otherThanDrop (s.engaged n (deliver react n signal)) s := by
  refine .engaged_self (.deliver_deaf (fun _ _ => rfl) ?_)
  rw [(Steady.update .entered n s).listensTo, listensTo]
  simpa [isLatest] using fun _ => outdated

/-- Handlers that are called outright, or only if they are the latest ones, keep scenes alike. -/
theorem akinCalls_deliverLatest :
    AkinCalls (.kept Occurrence.otherThanDrop) outright deliverLatest := by
  intro react react' reactions n signal s t h
  unfold deliverLatest
  split
  · exact akinCalls_outright reactions n signal h
  next outdated =>
    have outdated' : s.isLatest n = false := by
      rw [Bool.not_eq_true] at outdated
      rw [← outdated, isLatest, isLatest, h.network, h.client]
    exact ((alike_engaged_outdated outdated').trans h.alike).akin

/-- Steps without the signals of earlier connections call handlers in this way. -/
theorem performBy_deliverLatest (depth : Nat) :
    performBy deliverLatest depth = performLatest depth := by
  induction depth with
  | zero => rfl
  | succ depth ih =>
      rw [performBy, ih]
      funext step s
      cases step <;> rfl

/-- **Scenes that are alike stay so, step by step, if the signals of earlier connections are left
out of one of two runs**, at any depth of nesting. -/
theorem alikeActs_performLatest (depth : Nat) :
    AlikeActs Occurrence.otherThanDrop (perform depth) (performLatest depth) := by
  intro step s t h
  rw [← performBy_outright, ← performBy_deliverLatest]
  exact (akinActs_performBy akinCalls_deliverLatest depth step h.akin).alike

end Scene

/-! ### Whole runs -/

/-- Performs a command, given how its steps are performed. -/
def Command.performWith (act : Scene.Performance) : Command → Scene → Scene × Outcome
  | step s => act s
  | dropClient => Scene.asClient (Scene.simply Scene.dropClient)

/-- The reports on a script, each with the scene after it, given how steps are performed. -/
def Script.course (act : Scene.Performance) : Script → Scene → List (Report × Scene)
  | [], _ => []
  | command :: rest, s =>
    let (s, outcome) := command.performWith act { s with account := [] }
    ({ outcome, state := s.state?, isConnected := s.connected?, account := s.account.reverse },
      s) ::
      course act rest s

/-- The reports in the course of a script are those of its run. -/
theorem Script.map_course (depth : Nat) (script : Script) (s : Scene) :
    (script.course (Scene.perform depth) s).map Prod.fst = script.runFrom depth s := by
  induction script generalizing s with
  | nil => rfl
  | cons command rest ih =>
      have same : command.performWith (Scene.perform depth) = command.perform depth := by
        cases command <;> rfl
      simp only [course, runFrom, report, List.map_cons, ih, same]

/-- Two reports that agree in everything but the part of their accounts that is not kept. -/
structure Report.SameBut (keep : Occurrence → Bool) (r r' : Report) : Prop where
  outcome : r.outcome = r'.outcome
  state : r.state = r'.state
  isConnected : r.isConnected = r'.isConnected
  account : r.account.filter keep = r'.account.filter keep

namespace Scene

variable {keep : Occurrence → Bool} {act act' : Performance}

theorem AkinActs.performWith {margin : Margin} (acts : AkinActs margin act act') (command : Command)
    {s t : Scene} (h : Akin margin s t) :
    AkinResults margin (command.performWith act s) (command.performWith act' t) := by
  cases command with
  | step step => exact acts step h
  | dropClient => exact h.asClient fun h => h.dropClient.simply

theorem AlikeActs.performWith (acts : AlikeActs keep act act') (command : Command) {s t : Scene}
    (h : Alike keep s t) :
    AlikeResults keep (command.performWith act s) (command.performWith act' t) :=
  (acts.akin.performWith command h.akin).alike

/-- **What keeps scenes alike in every step makes for the same reports on a whole script.** -/
theorem AlikeActs.course (acts : AlikeActs keep act act') (script : Script) {s t : Scene}
    (h : Alike keep s t) :
    List.Forall₂ (fun r r' => r.1.SameBut keep r'.1 ∧ Alike keep r.2 r'.2)
      (script.course act s) (script.course act' t) := by
  induction script generalizing s t with
  | nil => exact .nil
  | cons command rest ih =>
      have forgotten : Alike keep { s with account := [] } { t with account := [] } :=
        ⟨h.client, h.gone, h.network, h.roster, h.sends, h.requests, rfl⟩
      obtain ⟨later, outcome⟩ := acts.performWith command forgotten
      refine .cons ⟨⟨outcome, later.state?, later.connected?, ?_⟩, later⟩ (ih later)
      rw [List.filter_reverse, List.filter_reverse]
      exact congrArg List.reverse later.account

end Scene

/-- The scenes in the course of a script can be reached. -/
theorem Reachable.of_course {config : Config} {depth : Nat} {script : Script} {s : Scene}
    (reachable : Reachable config s) :
    ∀ r ∈ script.course (Scene.perform depth) s, Reachable config r.2 := by
  induction script generalizing s with
  | nil => exact fun r hr => absurd hr (List.not_mem_nil)
  | cons command rest ih =>
      have same : command.performWith (Scene.perform depth) = command.perform depth := by
        cases command <;> rfl
      have next := Reachable.performed reachable depth command
      rw [← same] at next
      intro r hr
      rcases List.mem_cons.1 hr with rfl | hr
      · exact next
      · exact ih next r hr

namespace Scene

/-- **No two connections share a generation**, as long as the numbers have not come full circle. -/
theorem Numbered.injective {s : Scene} (numbered : s.Numbered) (few : s.network.length < 2 ^ 64)
    {i j : Nat} {c d : Connection} (hc : s.network[i]? = some c) (hd : s.network[j]? = some d)
    (same : c.generation = d.generation) : i = j := by
  have low := (List.getElem?_eq_some_iff.1 hc).1
  have high := (List.getElem?_eq_some_iff.1 hd).1
  have size : UInt64.size = 2 ^ 64 := rfl
  have equal := congrArg UInt64.toNat same
  rw [numbered.each i c hc, numbered.each j d hd, UInt64.toNat_ofNat_of_lt' (by omega),
    UInt64.toNat_ofNat_of_lt' (by omega)] at equal
  omega

/-- **Earlier connections cannot interfere.**  In every run, leaving out the signals of connections
that are not the latest one when they are delivered makes no difference to any report or scene but
for the log lines on what was dropped, and none to a step that is nested in others; and no two
connections share a generation, if they are fewer than `2^64`. -/
theorem outdated_harmless (config : Config) (script : Script) (depth : Nat) :
    (script.course (perform depth) (.start config)).map Prod.fst =
      script.runFrom depth (.start config) ∧
    List.Forall₂
      (fun r r' => r.1.SameBut Occurrence.otherThanDrop r'.1 ∧
        Alike Occurrence.otherThanDrop r.2 r'.2)
      (script.course (perform depth) (.start config))
      (script.course (performLatest depth) (.start config)) ∧
    (∀ nested step s t, Alike Occurrence.otherThanDrop s t →
      AlikeResults Occurrence.otherThanDrop (s.perform nested step) (t.performLatest nested step)) ∧
    ∀ r ∈ script.course (perform depth) (.start config), r.2.network.length < 2 ^ 64 →
      ∀ (i j : Nat) c d, r.2.network[i]? = some c → r.2.network[j]? = some d →
        c.generation = d.generation → i = j := by
  refine ⟨script.map_course depth _, (alikeActs_performLatest depth).course script (.refl _),
    fun nested step s t h => alikeActs_performLatest nested step h, ?_⟩
  intro r hr few i j c d hc hd same
  have reachable : Reachable config r.2 := Reachable.start.of_course r hr
  exact reachable.numbered.injective few hc hd same

/-- A connection is kept after it was closed and replaced, and greets once more: the greeting is
dropped, and the run is the same without it. -/
theorem outdated_harmless_late_greeting :
    let config : Config := ⟨"wss://bridge/channel", "a", .ofSeconds 10, .ofSeconds 2⟩
    let script : Script := [.step (.connect {} []), .step (.hold none),
      .step (.signal none (.closed 1000 "")), .step (.connect {} []),
      .step (.signal (some 0) (.message "\x7b\"colibriClass\":\"ServerHello\"\x7d"))]
    ((script.course (perform 2) (.start config)).any fun r =>
      r.1.account.any Occurrence.tellsOfDrop) = true ∧
    List.Forall₂
      (fun r r' => r.1.SameBut Occurrence.otherThanDrop r'.1 ∧
        Alike Occurrence.otherThanDrop r.2 r'.2)
      (script.course (perform 2) (.start config))
      (script.course (performLatest 2) (.start config)) ∧
    ((script.course (performLatest 2) (.start config)).any fun r =>
      r.1.account.any Occurrence.tellsOfDrop) = false := by
  intro config script
  exact ⟨by decide +kernel, (outdated_harmless config script 2).2.1, by decide +kernel⟩

end Scene

end BridgeChannel
