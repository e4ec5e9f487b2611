/-
**Attempts to connect that do not overlap.**

An attempt overlaps another one if it starts in the midst of it: while what was left behind is being
torn down, while the factory is asked, or while the transport is being opened.  Leaving such
attempts out makes for a second way to perform steps.  A run is without overlapping attempts if it
is the same in both ways.

In such a run, what holds across everything but attempts to connect holds in the midst of every
attempt.  So a relation between scenes holds across the run if it holds across everything but
attempts, and across each attempt in the midst of which only the former takes place.

Main definitions:

* `Scene.starts` — whether a step is an attempt to connect that is not refused;
* `Scene.performApart` — steps without the attempts in the midst of others;
* `Script.Apart` — a script whose attempts do not overlap.

Main results:

* `performApart_busy`, `performApart_idle` — **what holds in the midst of attempts, and across
  them**;
* `Script.Apart.cons`, `Script.Apart.left` — the parts of such a script.
-/
import BridgeChannel.Proofs.Client.Stale

set_option autoImplicit false

namespace BridgeChannel

/-- Whether a step asks the client to connect. -/
def Step.connects : Step → Bool
  | connect _ _ => true
  | _ => false

namespace Scene

/-- Whether a step is an attempt to connect that is not refused. -/
def starts (s : Scene) (step : Step) : Bool :=
  step.connects && !s.gone && s.client.config.hasAddress &&
    (Transition.target .beginConnect s.client.state).isSome

/-- Performs a step and all that is nested in it, but for attempts to connect in the midst of
another attempt: these do not take place.  The flag tells whether an attempt is under way. -/
def performApart : Nat → Bool → Performance
  | 0, _ => fun _ s => (s, .exhausted)
  | depth + 1, busy => fun step s =>
    if busy && s.starts step then (s, .exhausted)
    else take (performApart depth (busy || step.connects)) step s

/-- An attempt that is refused leaves a log line at most. -/
theorem take_of_refused (act : Performance) {plan : Attempt} {during : List (Moment × Step)}
    {s : Scene} (refused : s.starts (.connect plan during) = false) :
    (take act (.connect plan during) s).1 = s ∨
      ∃ line, (Occurrence.log line).Plain ∧ (take act (.connect plan during) s).1 = s.log line := by
  cases gone : s.gone with
  | true =>
      rw [take, asClient_of_gone gone]
      exact .inl rfl
  | false =>
      right
      simp only [take, asClient, gone]
      rcases connect_cases plan (interludes act during) s with hc | hc | ⟨address, startable, -⟩
      · exact ⟨.noAddress, .of_isPlain rfl, by rw [hc]; rfl⟩
      · exact ⟨.cannotConnect s.client.state, .of_isPlain rfl, by rw [hc]; rfl⟩
      · exact absurd refused (by simp [starts, Step.connects, gone, address, startable])

/-! ### In the midst of an attempt -/

section Busy

variable {Q : Scene → Scene → Prop} (h : Restful Q)

include h

theorem Restful.exchanges {act : Performance} (nested : ∀ step s, Q s (s.nest act step))
    {s s' : Scene} (changes : Exchanges act s s') : Q s s' := by
  induction changes with
  | refl => exact h.refl s
  | tail _ change ih => exact h.trans ih (h.exchange nested change)

theorem Restful.nest {act : Performance} (performed : ∀ step s, Q s (act step s).1) (step : Step)
    (s : Scene) : Q s (s.nest act step) :=
  h.trans (h.trans (h.note (.of_isPlain rfl) s) (performed step _)) (h.note (.of_isPlain rfl) _)

theorem Restful.interludes {act : Performance} (performed : ∀ step s, Q s (act step s).1)
    (during : List (Moment × Step)) (m : Moment) (s : Scene) :
    Q s (Scene.interludes act during m s) :=
  h.exchanges (h.nest performed) (Exchanges.nestAll _ s)

/-- A session that is handed over is heard or missed. -/
theorem Restful.announce (n : Nat) (s : Scene) : Q s (s.announce n) := by
  rw [← deliver_opened (react fun _ s => (s, .exhausted))]
  exact h.exchanges (h.nest fun _ s => h.refl s) (Exchanges.deliver n .opened s)

/-- A step that does not ask the client to connect. -/
theorem Restful.other {act : Performance} (performed : ∀ step s, Q s (act step s).1) {step : Step}
    (other : step.connects = false) (s : Scene) : Q s (Scene.take act step s).1 := by
  rcases take_cases act step s with same | effect
  · rw [same]
    exact h.refl s
  · generalize (Scene.take act step s).1 = t at effect
    cases step with
    | connect plan during => exact absurd other (by simp [Step.connects])
    | disconnect =>
        cases effect
        exact h.disconnect s
    | _ => exact h.exchanges (h.nest performed) (.of_effect effect (by simp) (by simp))

/-- A step that asks the client to connect, and is refused. -/
theorem Restful.take {act : Performance} (performed : ∀ step s, Q s (act step s).1) {step : Step}
    {s : Scene} (idle : s.starts step = false) : Q s (Scene.take act step s).1 := by
  cases step with
  | connect plan during =>
      rcases take_of_refused act idle with same | ⟨line, plain, noted⟩
      · rw [same]
        exact h.refl s
      · rw [noted]
        exact h.note plain s
  | _ => exact h.other performed rfl s

/-- **What is restful holds across every step in the midst of an attempt.** -/
theorem performApart_busy (depth : Nat) (step : Step) (s : Scene) :
    Q s (s.performApart depth true step).1 := by
  induction depth generalizing step s with
  | zero => exact h.refl s
  | succ depth ih =>
      unfold performApart
      cases idle : s.starts step with
      | true => exact h.refl s
      | false => exact h.take ih idle

end Busy

/-- In the midst of an attempt, a transport is asked to open. -/
theorem Restful.openTransport {Q : Scene → Scene → Prop} (h : Restful Q) {between : Interludes}
    (hbetween : ∀ m s, Q s (between m s)) (plan : Attempt) (n : Nat) (s : Scene) :
    Q s (s.openTransport plan between n) := by
  have asked := h.note
    (o := .opened n s.client.config.address s.client.config.connectTimeout) (.of_isPlain rfl) s
  have opened := h.trans asked
    (h.update n _ (.isOpen plan.sessionOpen))
  refine h.trans opened (h.trans ?_ (hbetween .opening _))
  split
  · exact h.announce n _
  · exact h.refl _

/-- **What is restful, and holds across every attempt in the midst of which something else holds,
holds across every step.** -/
theorem performApart_idle {P Q : Scene → Scene → Prop} (hP : Restful P) (hQ : Restful Q)
    (connect : ∀ {between : Interludes}, (∀ m s, Q s (between m s)) → ∀ plan {s : Scene},
      s.gone = false → P s (s.connect plan between).1)
    (depth : Nat) (step : Step) (s : Scene) : P s (s.performApart depth false step).1 := by
  induction depth generalizing step s with
  | zero => exact hP.refl s
  | succ depth ih =>
      have other : ∀ {step : Step}, step.connects = false →
          P s (s.performApart (depth + 1) false step).1 := by
        intro step other
        have taken : s.performApart (depth + 1) false step =
            take (performApart depth false) step s := by
          simp [performApart, other]
        rw [taken]
        exact hP.other ih other s
      cases step with
      | connect plan during =>
          cases gone : s.gone with
          | true =>
              have nothing : (s.performApart (depth + 1) false (.connect plan during)).1 = s := by
                simp [performApart, take, asClient, gone]
              rw [nothing]
              exact hP.refl s
          | false =>
              have attempt : (s.performApart (depth + 1) false (.connect plan during)).1 =
                  (s.connect plan (interludes (performApart depth true) during)).1 := by
                simp [performApart, take, asClient, gone, Step.connects]
              rw [attempt]
              exact connect (hQ.interludes (performApart_busy hQ depth) during) plan gone
      | _ => exact other rfl

end Scene

/-! ### Runs -/

namespace Script

/-- The scene that a script leads to. -/
def leads (depth : Nat) (script : Script) (s : Scene) : Scene :=
  script.foldl (fun s command => (command.perform depth { s with account := [] }).1) s

/-- The beginning of a script has the beginning of its course. -/
theorem take_course (act : Scene.Performance) (before after : Script) (s : Scene) :
    ((before ++ after).course act s).take before.length = before.course act s := by
  induction before generalizing s with
  | nil => rfl
  | cons command before ih => simp only [List.cons_append, List.length_cons, course,
      List.take_succ_cons, ih]

/-- A script whose attempts to connect do not overlap: leaving out those in the midst of others
makes no difference to any report or scene. -/
def Apart (depth : Nat) (script : Script) (s : Scene) : Prop :=
  script.course (Scene.performApart depth false) s = script.course (Scene.perform depth) s

namespace Apart

variable {depth : Nat} {command : Command} {rest : Script} {s : Scene}

/-- The first command of a script, and the others. -/
theorem cons (h : Apart depth (command :: rest) s) :
    (command.performWith (Scene.performApart depth false) { s with account := [] }).1 =
        (command.perform depth { s with account := [] }).1 ∧
      Apart depth rest (command.perform depth { s with account := [] }).1 := by
  have same : command.performWith (Scene.perform depth) = command.perform depth := by
    cases command <;> rfl
  simp only [Apart, course, List.cons.injEq, Prod.mk.injEq, same] at h
  obtain ⟨⟨-, first⟩, others⟩ := h
  rw [first] at others
  exact ⟨first, others⟩

/-- The beginning of a script. -/
theorem left {before after : Script} (h : Apart depth (before ++ after) s) :
    Apart depth before s := by
  rw [Apart, ← take_course _ before after, ← take_course _ before after, h]

end Apart

end Script

end BridgeChannel
