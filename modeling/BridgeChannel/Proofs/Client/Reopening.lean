/-
**Opening a channel again after it was disconnected.**

A channel that was disconnected is closed, and a closed channel may be opened again.  But the
handler of its connection stays the latest one until then, so that what the bridge still says is
heard, and a greeting is answered in every state.  A greeting that comes late makes the channel
ready once more, and a ready channel refuses to be opened; only another close, by either side, takes
this back.

Main definitions:

* `Scene.performAll` — steps one after the other.

Main results:

* `asks_connect` — an attempt that is not refused asks the factory;
* `reopened_iff` — **the next attempt asks the factory exactly if every greeting that was heard
  since the channel was disconnected was followed by a close**, and is refused as ready otherwise.
-/
import BridgeChannel.Proofs.Client.Connecting

set_option autoImplicit false

namespace BridgeChannel

/-- From a closed channel, turns lead to a closed or a ready one. -/
theorem Turn.effects_closed_cases (turns : List Turn) :
    effects .closed turns = .closed ∨ effects .closed turns = .ready := by
  induction turns using List.reverseRecOn with
  | nil => exact Or.inl rfl
  | append_singleton turns turn ih =>
      rw [effects_concat]
      rcases effect_cases turn with ⟨-, -, h⟩ | ⟨-, -, h⟩ | ⟨-, -, h⟩
      · exact Or.inl (h _)
      · exact Or.inr (h _)
      · -- completing an opening makes no difference to a closed or a ready channel
        rcases h (effects .closed turns) with h | h
        · rw [h]
          exact ih
        · rw [h]
          rcases ih with ih | ih
          · left
            rw [ih]
            rfl
          · right
            rw [ih]
            rfl

namespace Scene

/-! ### Steps one after the other -/

/-- Performs steps one after the other. -/
def performAll (depth : Nat) (steps : List Step) (s : Scene) : Scene :=
  steps.foldl (fun s step => (s.perform depth step).1) s

theorem Inherited.performAll {R : Scene → Scene → Prop} (h : Inherited R) (depth : Nat)
    (steps : List Step) (s : Scene) : R s (s.performAll depth steps) := by
  induction steps generalizing s with
  | nil => exact h.refl s
  | cons step steps ih =>
      have first := h.perform depth step s
      exact h.trans first (ih _)

/-! ### Asking the factory -/

/-- An attempt that is not refused asks the factory. -/
theorem asks_connect {between : Interludes} (hbetween : ∀ m s, Grows s (between m s))
    (plan : Attempt) {s : Scene} (address : s.client.config.hasAddress = true)
    (idle : (Transition.target .beginConnect s.client.state).isSome) :
    ∃ o ∈ s.since (s.connect plan between).1, o.asks = true := by
  have clear := respected_grows.phased.cleared hbetween s
  cases created : plan.createError with
  | some e =>
      have asked := Grows.note .createFailed (s.cleared between)
      have rest : Grows ((s.cleared between).note .createFailed) (s.connect plan between).1 := by
        rw [connect_eq_of_createError between address idle created]
        exact (Grows.note _ _).trans (respected_grows.move _ _)
      refine ⟨.createFailed, ?_, rfl⟩
      refine mem_since_of_earlier (clear.trans asked) rest (mem_since_of_later clear asked ?_)
      rw [since_note]
      exact List.mem_singleton_self _
  | none =>
      have asked : Grows (s.cleared between) ((s.cleared between).launched plan) :=
        respected_grows.launched plan _
      have told : (s.cleared between).since ((s.cleared between).launched plan) =
          [.created (s.cleared between).network.length] := since_of_account [_] rfl
      have opened := respected_grows.phased.openTransport hbetween plan
        (s.cleared between).network.length ((s.cleared between).launched plan)
      have rest : Grows ((s.cleared between).launched plan) (s.connect plan between).1 := by
        rw [connect_eq_of_created between address idle created]
        exact opened.trans (grows_concluded plan _ _)
      refine ⟨.created (s.cleared between).network.length, ?_, rfl⟩
      refine mem_since_of_earlier (clear.trans asked) rest (mem_since_of_later clear asked ?_)
      rw [told]
      exact List.mem_singleton_self _

/-! ### After disconnecting -/

/-- **The next attempt after a disconnect asks the factory exactly if every greeting that was heard
since is followed by a close**, which the client hears or brings about; otherwise the channel is
ready, and the attempt is refused for that reason.  What was heard since is what the handlers that
the client listens to were called with, in order. -/
theorem reopened_iff (depth : Nat) {s : Scene} {steps : List Step} (here : s.gone = false)
    (address : s.client.config.hasAddress = true)
    (alone : NoneAccepted (s.disconnect.since (s.disconnect.performAll depth steps)))
    (plan : Attempt) (during : List (Moment × Step)) :
    let after := s.disconnect.performAll depth steps
    let happened := turns (s.disconnect.since after)
    s.perform (depth + 1) .disconnect = (s.disconnect, .done) ∧
      happened.filterMap Turn.signal? = after.heard (s.disconnect.callsSince after) ∧
      ((∃ o ∈ after.since (after.perform (depth + 1) (.connect plan during)).1, o.asks = true) ↔
        EachFollowed Turn.greets Turn.closes happened) ∧
      (¬EachFollowed Turn.greets Turn.closes happened →
        after.client.state = .ready ∧
          after.perform (depth + 1) (.connect plan during) =
            (after.log (.cannotConnect .ready), .connected false)) := by
  intro after happened
  have steady : Steady s.disconnect after :=
    (Undisturbed.inherited.performAll depth steps s.disconnect).holds alone
  have present : after.gone = false := by
    rw [steady.gone, (steady_disconnect s).gone]
    exact here
  have known : after.client.config.hasAddress = true := by
    rw [steady.config, client_disconnect]
    exact address
  have state : after.client.state = Turn.effects .closed happened := by
    rw [steady.state, client_disconnect]
  have performed := perform_connect present depth plan during
  have ready : ¬EachFollowed Turn.greets Turn.closes happened ↔ after.client.state = .ready := by
    have fresh : ConnectionState.closed ≠ .ready := by decide
    rw [state, ← Turn.effects_ne_ready_iff fresh, not_not]
  have refused : after.client.state = .ready →
      after.connect plan (interludes (perform depth) during) =
        (after.log (.cannotConnect .ready), false) := by
    intro h
    simp [connect, known, h, Transition.target]
  -- a ready channel refuses, and from any other state that it can be in it asks
  refine ⟨perform_disconnect here depth, ?_, ⟨?_, ?_⟩, ?_⟩
  · rw [heard_congr steady.listensTo]
    exact steady.heard
  · rintro ⟨o, ho, asks⟩
    by_contra late
    rw [performed, refused (ready.1 late)] at ho
    have line : after.since (after.log (.cannotConnect .ready)) =
        [.log (.cannotConnect .ready)] := since_note _ _
    rw [line, List.mem_singleton] at ho
    rw [ho] at asks
    exact absurd asks (by simp [Occurrence.asks])
  · intro settled
    have closed : after.client.state = .closed := by
      rcases Turn.effects_closed_cases happened with h | h
      · rw [state, h]
      · exact absurd settled (ready.2 (by rw [state, h]))
    rw [performed]
    refine asks_connect (fun m s => ?_) plan known (by rw [closed]; rfl)
    exact respected_grows.inherited.interludes depth during m s
  · intro late
    refine ⟨ready.1 late, ?_⟩
    rw [performed, refused (ready.1 late)]

/-- A channel is opened and disconnected, the bridge greets late and then closes: every greeting is
followed by a close, and the next attempt asks the factory. -/
theorem reopened_iff_greeting_closed :
    let s := ((Scene.start ⟨"wss://bridge/channel", "a", .ofSeconds 10, .ofSeconds 2⟩).perform 2
      (.connect {} [])).1
    let steps := [Step.signal none (.message "\x7b\"colibriClass\":\"ServerHello\"\x7d"),
      Step.signal none (.closed 1000 "")]
    let after := s.disconnect.performAll 2 steps
    (s.gone = false ∧ s.client.config.hasAddress = true ∧
      NoneAccepted (s.disconnect.since after)) ∧
    ((∃ o ∈ after.since (after.perform 2 (.connect {} [])).1, o.asks = true) ↔
      EachFollowed Turn.greets Turn.closes (turns (s.disconnect.since after))) := by
  intro s steps after
  have here : s.gone = false := by decide +kernel
  have address : s.client.config.hasAddress = true := by decide +kernel
  have alone : NoneAccepted (s.disconnect.since after) := by
    unfold NoneAccepted
    decide +kernel
  -- an attempt during which nothing runs does not depend on the depth
  have nothing : ∀ act : Performance, interludes act [] = fun _ s => s := fun act => rfl
  have same : ∀ s : Scene, s.perform 2 (.connect {} []) = s.perform 3 (.connect {} []) := by
    intro s
    change take (perform 1) (.connect {} []) s = take (perform 2) (.connect {} []) s
    rw [take, take, nothing, nothing]
  have iff := (reopened_iff 2 here address alone {} []).2.2.1
  rw [← same] at iff
  exact ⟨⟨here, address, alone⟩, iff⟩

/-- **A channel that was disconnected cannot always be opened again**: once the bridge has greeted
late, the next attempt does not ask the factory. -/
theorem not_reopened_after_greeting :
    let s := ((Scene.start ⟨"wss://bridge/channel", "a", .ofSeconds 10, .ofSeconds 2⟩).perform 2
      (.connect {} [])).1
    let greeting := Signal.message "\x7b\"colibriClass\":\"ServerHello\"\x7d"
    let after := ((s.perform 2 .disconnect).1.perform 2 (.signal (some 0) greeting)).1
    s.gone = false ∧ s.client.config.hasAddress = true ∧
      ¬∃ o ∈ after.since (after.perform 2 (.connect {} [])).1, o.asks = true := by
  decide +kernel

end Scene

end BridgeChannel
