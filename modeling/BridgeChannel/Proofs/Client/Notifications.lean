/-
**Observers see the history of the channel.**

A run is looked at as a course: handlers are called one after the other, and between two calls no
handler is called and nobody is told anything.  Each call is kept together with the scene in which
it takes place, so that it can be told whether the client listens to that handler, and in which
state the channel is.  The news in these calls, in their order, is what an observer is told, as
often as it is registered; and it is told in a state that fits.

Main definitions:

* `Delivery`, `Delivery.news` — a call of a handler in its scene, and the news in it;
* `Scene.Course` — the deliveries between two scenes, with what happens between them;
* `Step.isCivil` — steps, with all that is nested in them, that leave an observer registered as it
  is, and bring about none that calls back;
* `Script.Chronicle` — the deliveries of a whole script.

Main results:

* `Course.told` — what the deliveries of a course make an observer be told;
* `unfolds_perform` — **every civil step has a course, at any depth of nesting**;
* `told_as_heard` — **an observer is told the news in what was delivered, and nothing else**.
-/
import BridgeChannel.Proofs.Client.Ownership

set_option autoImplicit false

namespace BridgeChannel

/-! ### Courses -/

/-- A call of the handler of a connection, and the scene in which it takes place. -/
structure Delivery where
  scene : Scene
  connection : Nat
  signal : Signal

namespace Delivery

/-- The call as the scene takes note of it. -/
def call (d : Delivery) : Nat × Signal := (d.connection, d.signal)

/-- The news in a call, if the client listens to the handler. -/
def news (d : Delivery) : Option Event :=
  if d.scene.listensTo d.connection then d.signal.news d.scene.client.state else none

/-- Whether observers are told of a delivery in a fitting state only: it would not make a difference
if they did something else in any other state. -/
def Fits (d : Delivery) : Prop := ∀ depth other,
  d.scene.deliver (Scene.fitting (Scene.react (Scene.perform depth)) other) d.connection d.signal =
    d.scene.deliver (Scene.react (Scene.perform depth)) d.connection d.signal

end Delivery

/-- The news in some deliveries, in order and each of them a number of times. -/
def newsOf (k : Nat) (history : List Delivery) : List Event :=
  history.flatMap fun d => d.news.elim [] (List.replicate k)

namespace Scene

/-- The deliveries that take place from a scene on, up to another one.  What happens in between
spares the observer of a name. -/
inductive Course (name : String) (s : Scene) : List Delivery → Scene → Prop
  | start : Course name s [] s
  | aside {history : List Delivery} {t u : Scene} (earlier : Course name s history t)
      (change : Aside name t u) : Course name s history u
  | delivery {history : List Delivery} {t : Scene} (earlier : Course name s history t)
      (depth n : Nat) (signal : Signal) :
      Course name s (history ++ [⟨t, n, signal⟩]) (t.deliver (react (perform depth)) n signal)

namespace Course

variable {name : String} {s t u : Scene} {history history' : List Delivery}

theorem append (h : Course name s history t) (h' : Course name t history' u) :
    Course name s (history ++ history') u := by
  induction h' with
  | start => simpa using h
  | aside _ change ih => exact ih.aside change
  | delivery _ depth n signal ih =>
      rw [← List.append_assoc]
      exact ih.delivery depth n signal

theorem grows (h : Course name s history t) : Grows s t := by
  induction h with
  | start => exact .refl s
  | aside _ change ih => exact ih.trans (Told.aside change).toGrows
  | delivery _ depth n signal ih => exact ih.trans (grows_deliver depth n signal _)

/-- **The deliveries of a course make an attended observer be told the news in them.** -/
theorem told {i k : Nat} (h : Course name s history t) (attended : s.roster.Attended name i k) :
    Told name (newsOf k history) (history.map Delivery.call) s t := by
  induction h with
  | start => exact .refl s
  | aside _ change ih => simpa using ih.trans (.aside change)
  | @delivery history t _ depth n signal ih =>
      have delivered := told_deliver depth (ih.attended i k attended) n signal
      have news : newsOf k (history ++ [⟨t, n, signal⟩]) = newsOf k history ++
          if t.listensTo n then (signal.news t.client.state).elim [] (List.replicate k)
          else [] := by
        cases listens : t.listensTo n <;> simp [newsOf, Delivery.news, listens]
      rw [news, List.map_append]
      exact ih.trans delivered

/-- Nobody is told of a delivery in a state that does not fit. -/
theorem fits {i k : Nat} (h : Course name s history t) (attended : s.roster.Attended name i k) :
    ∀ d ∈ history, d.Fits := by
  induction h with
  | start => exact fun d hd => absurd hd (by simp)
  | aside _ _ ih => exact ih
  | delivery earlier _ n signal ih =>
      intro d hd
      rcases List.mem_append.1 hd with hd | hd
      · exact ih d hd
      · rw [List.mem_singleton.1 hd]
        exact fun depth other =>
          deliver_fitting depth ((earlier.told attended).attended i k attended) n signal other

end Course

/-- One scene leads to another by a course. -/
def Unfolds (name : String) (s t : Scene) : Prop := ∃ history, Course name s history t

namespace Unfolds

variable {name : String} {s t u : Scene}

theorem refl (s : Scene) : Unfolds name s s := ⟨[], .start⟩

theorem trans (h : Unfolds name s t) (h' : Unfolds name t u) : Unfolds name s u := by
  obtain ⟨history, h⟩ := h
  obtain ⟨history', h'⟩ := h'
  exact ⟨history ++ history', h.append h'⟩

theorem aside (change : Aside name s t) : Unfolds name s t := ⟨[], .aside .start change⟩

theorem asides (changes : Asides name s t) : Unfolds name s t := by
  induction changes with
  | refl => exact refl s
  | tail _ change ih => exact ih.trans (aside change)

theorem deliver (depth n : Nat) (signal : Signal) (s : Scene) :
    Unfolds name s (s.deliver (react (perform depth)) n signal) :=
  ⟨_, .delivery .start depth n signal⟩

theorem engaged (depth n : Nat) (signal : Signal) (s : Scene) :
    Unfolds name s (s.engaged n (Scene.deliver (react (perform depth)) n signal)) :=
  ((aside (.update s n _)).trans (deliver depth n signal _)).trans (aside (.update _ n _))

theorem read (depth n : Nat) (item : Option WebSocket.StreamItem) (s : Scene) :
    Unfolds name s (s.read (react (perform depth)) n item) := by
  unfold Scene.read
  split
  · exact refl s
  · split
    · exact refl s
    · dsimp only
      split
      · exact (aside (.update s n _)).trans (engaged depth n _ _)
      · exact aside (.update s n _)

end Unfolds

/-- Attempts to connect unfold, if what happens in their midst does. -/
theorem phased_unfolds (name : String) : Phased (Unfolds name) where
  refl := .refl
  trans := .trans
  longer h := h.choose_spec.grows.network
  note untold _ s := .aside (.note s untold)
  close _ := .aside (.note _ rfl)
  update n f s _ := .aside (.update s n f)
  move transition s := .aside (.move s transition)
  setSession n s := .aside (.setSession s n)
  leaveTransport s := .aside (.setTransport s none)
  leaveHandler s := .aside (.setHandler s none)
  launched plan s := .aside (.launched s plan)
  takeTransport h _ _ := h.trans (.aside (.setTransport _ _))
  announce n s := deliver_opened (react (perform 0)) n s ▸ .deliver 0 n .opened s

end Scene

/-! ### Civil steps -/

namespace Step

mutual

/-- Whether a step, with all that is nested in it, leaves the observer of a name registered as it
is, and brings about no observer that calls back. -/
def isCivil (name : String) : Step → Bool
  | connect _ during => areCivil name during
  | clearObservers => false
  | observe other reactions _ =>
    other != name && reactions.all fun reaction => reaction.2.isOutside name
  | addAgain other => other != name
  | dropObserver other => other != name
  | _ => true

def areCivil (name : String) : List (Moment × Step) → Bool
  | [] => true
  | (_, step) :: rest => step.isCivil name && areCivil name rest

end

theorem isCivil_of_mem {name : String} {during : List (Moment × Step)}
    (civil : areCivil name during = true) : ∀ d ∈ during, d.2.isCivil name = true := by
  induction during with
  | nil => exact fun d hd => absurd hd (by simp)
  | cons first rest ih =>
      obtain ⟨civil, others⟩ := Bool.and_eq_true_iff.1 civil
      intro d hd
      rcases List.mem_cons.1 hd with rfl | hd
      · exact civil
      · exact ih others d hd

end Step

/-- Whether a command leaves the observer of a name registered as it is. -/
def Command.isCivil (name : String) : Command → Bool
  | .step s => s.isCivil name
  | .dropClient => true

namespace Scene

section Steps

variable {name : String}

theorem unfolds_nestAll {depth : Nat}
    (nested : ∀ {step : Step}, step.isCivil name = true →
      ∀ s, Unfolds name s (s.perform depth step).1)
    {steps : List Step} (civil : ∀ step ∈ steps, step.isCivil name = true) (s : Scene) :
    Unfolds name s (s.nestAll (perform depth) steps) := by
  induction steps generalizing s with
  | nil => exact .refl s
  | cons step steps ih =>
      have first : Unfolds name s (s.nest (perform depth) step) :=
        ((Unfolds.aside (.note s rfl)).trans (nested (civil step List.mem_cons_self) _)).trans
          (.aside (.note _ rfl))
      exact first.trans (ih (fun step h => civil step (List.mem_cons_of_mem _ h)) _)

/-- **Every civil step has a course, with all that is nested in it.** -/
theorem unfolds_perform (depth : Nat) {step : Step} (civil : step.isCivil name = true) (s : Scene) :
    Unfolds name s (s.perform depth step).1 := by
  induction depth generalizing step s with
  | zero => exact .refl s
  | succ depth ih =>
      rcases take_cases (perform depth) step s with same | effect
      · rw [perform, same]
        exact .refl s
      · rw [perform]
        generalize (take (perform depth) step s).1 = t at effect
        cases effect with
        | connect plan during =>
            have civil : Step.areCivil name during = true := by simpa [Step.isCivil] using civil
            refine (phased_unfolds name).connect (fun m s => unfolds_nestAll ih ?_ s) plan s
            intro step hstep
            obtain ⟨d, hd, rfl⟩ := List.mem_map.1 hstep
            exact Step.isCivil_of_mem civil d (List.mem_filter.1 hd).1
        | disconnect => exact (phased_unfolds name).disconnect s
        | send message =>
            have asked : Asides name s (s.requested message) := .single (.requested s message)
            exact .asides (asked.trans (Asides.sendMessage message _))
        | clearObservers => exact absurd civil (by simp [Step.isCivil])
        | observe other reactions times =>
            obtain ⟨different, calm⟩ : other ≠ name ∧
                ∀ reaction ∈ reactions, reaction.2.isOutside name = true := by
              simpa [Step.isCivil] using civil
            exact .aside (.withRoster s fun _ _ h => h.welcome different calm)
        | @addAgain other n owned =>
            have different : other ≠ name := by simpa [Step.isCivil] using civil
            exact .aside (.withRoster s fun _ _ h => h.register different owned)
        | dropObserver other =>
            have different : other ≠ name := by simpa [Step.isCivil] using civil
            exact .aside (.withRoster s fun _ _ h => h.release different)
        | signal connection n signal => exact .engaged depth n signal s
        | stream connection n item => exact .read depth n item s
        | _ => exact .aside (.update s _ _)

theorem unfolds_command (depth : Nat) {command : Command} (civil : command.isCivil name = true)
    (s : Scene) : Unfolds name s (command.perform depth s).1 := by
  cases command with
  | step step => exact unfolds_perform depth civil s
  | dropClient =>
      simp only [Command.perform, asClient]
      split
      · exact .refl s
      · exact (phased_unfolds name).dropClient (fun s => .aside (.gone s)) s

end Steps

end Scene

/-! ### Scripts -/

/-- The deliveries that take place when a script is performed from a scene on, and the scene that it
leads to.  The account starts anew with every command. -/
inductive Script.Chronicle (name : String) (depth : Nat) :
    Script → Scene → List Delivery → Scene → Prop
  | done (s : Scene) : Chronicle name depth [] s [] s
  | command {command : Command} {rest : Script} {s t : Scene} {history later : List Delivery}
      (course : Scene.Course name { s with account := [] } history
        (command.perform depth { s with account := [] }).1)
      (others : Chronicle name depth rest (command.perform depth { s with account := [] }).1
        later t) :
      Chronicle name depth (command :: rest) s (history ++ later) t

open Scene

theorem Script.exists_chronicle {name : String} (depth : Nat) {script : Script}
    (civil : script.all (Command.isCivil name) = true) (s : Scene) :
    ∃ history t, script.Chronicle name depth s history t := by
  induction script generalizing s with
  | nil => exact ⟨[], s, .done s⟩
  | cons command rest ih =>
      obtain ⟨first, others⟩ : command.isCivil name = true ∧
          rest.all (Command.isCivil name) = true := by
        simpa using civil
      obtain ⟨history, course⟩ := unfolds_command depth first { s with account := [] }
      obtain ⟨later, t, chronicle⟩ := ih others _
      exact ⟨history ++ later, t, .command course chronicle⟩

theorem Script.Chronicle.told {name : String} {depth i k : Nat} {script : Script} {s t : Scene}
    {history : List Delivery} (h : script.Chronicle name depth s history t)
    (attended : s.roster.Attended name i k) :
    toldTo name (script.accountOf depth s) = newsOf k history ∧
      t.calls = (history.map Delivery.call).reverse ++ s.calls ∧ ∀ d ∈ history, d.Fits := by
  induction h with
  | done s => exact ⟨rfl, rfl, fun d hd => absurd hd (by simp)⟩
  | @command command rest s t history later course _ ih =>
      have told := course.told attended
      obtain ⟨others, calls, fits⟩ := ih (told.attended i k attended)
      refine ⟨?_, ?_, fun d hd => ?_⟩
      · rw [Script.accountOf_cons, toldTo_append, told.told, others]
        simp [newsOf]
      · rw [calls, calls_of_grows told.toGrows, told.delivered]
        simp
      · rcases List.mem_append.1 hd with hd | hd
        · exact course.fits attended d hd
        · exact fits d hd

/-- **An observer that is registered `k` times is told the news in every delivery that the client
listens to, `k` times each and in order, and nothing else**, for as long as nobody drops or clears
it, and if observers do not call back.  Every call of a handler is a delivery, and nobody is told
anything in a state that does not fit the news. -/
theorem told_as_heard {config : Config} {s : Scene} (reachable : Reachable config s)
    {name : String} {i k : Nat} (owned : s.roster.owned? name = some i)
    (registered : s.roster.registered.count i = k)
    (calm : ∀ o ∈ s.roster.everyone, ∀ reaction ∈ o.reactions, reaction.2.isOutside name = true)
    (depth : Nat) {script : Script} (civil : script.all (Command.isCivil name) = true) :
    (∃ history t, script.Chronicle name depth s history t) ∧
      ∀ history t, script.Chronicle name depth s history t →
        toldTo name (script.accountOf depth s) = newsOf k history ∧
          s.callsSince t = history.map Delivery.call ∧ ∀ d ∈ history, d.Fits := by
  have attended : s.roster.Attended name i k := registered ▸ reachable.attended owned calm
  refine ⟨Script.exists_chronicle depth civil s, fun history t chronicle => ?_⟩
  obtain ⟨told, calls, fits⟩ := chronicle.told attended
  refine ⟨told, ?_, fits⟩
  rw [callsSince_of_calls _ calls, List.reverse_reverse]

/-- An observer is registered twice before the channel is opened.  It is told twice that the bridge
has greeted, and twice that it has closed; what another participant sends comes too early, and is
not told. -/
theorem told_as_heard_registered_twice :
    let config : Config := ⟨"wss://bridge/channel", "a", .ofSeconds 10, .ofSeconds 2⟩
    let unregistered := ((Command.step (.observe "a" [] 0)).perform 1 (.start config)).1
    let s := ((Command.step (.addAgain "a")).perform 1 { unregistered with account := [] }).1
    let script : Script := [.step (.connect {} []),
      .step (.signal none (.message "\x7b\"colibriClass\":\"EndpointMessage\"\x7d")),
      .step (.signal none (.message "\x7b\"colibriClass\":\"ServerHello\"\x7d")),
      .step (.signal none (.closed 1000 ""))]
    (Reachable config s ∧ s.roster.owned? "a" = some 0 ∧ s.roster.registered.count 0 = 2 ∧
      (∀ o ∈ s.roster.everyone, ∀ reaction ∈ o.reactions, reaction.2.isOutside "a" = true) ∧
      script.all (Command.isCivil "a") = true) ∧
    (toldTo "a" (script.accountOf 1 s)).map Event.kind =
      [.connected, .connected, .disconnected, .disconnected] ∧
    ∃ history t, script.Chronicle "a" 1 s history t ∧
      toldTo "a" (script.accountOf 1 s) = newsOf 2 history := by
  intro config unregistered s script
  have reachable : Reachable config s :=
    .performed (.performed .start 1 (.step (.observe "a" [] 0))) 1 (.step (.addAgain "a"))
  have owned : s.roster.owned? "a" = some 0 := by decide +kernel
  have registered : s.roster.registered.count 0 = 2 := by decide +kernel
  have calm : ∀ o ∈ s.roster.everyone, ∀ reaction ∈ o.reactions,
      reaction.2.isOutside "a" = true := by
    intro o ho
    obtain rfl : o = { name := "a" } := List.mem_singleton.1 ho
    exact fun reaction h => absurd h (by simp)
  have civil : script.all (Command.isCivil "a") = true := by decide +kernel
  obtain ⟨⟨history, t, chronicle⟩, told⟩ := told_as_heard reachable owned registered calm 1 civil
  exact ⟨⟨reachable, owned, registered, calm, civil⟩, by decide +kernel,
    history, t, chronicle, (told history t chronicle).1⟩

end BridgeChannel
