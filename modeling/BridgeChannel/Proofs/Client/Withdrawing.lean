/-
**Disconnecting before there is a connection.**

Between the beginning of an attempt and the launch of its connection, the latest handler is still
that of an earlier connection, or there is none.  A disconnect at that time marks that earlier
connection as released.  Nothing but the state then remembers that the attempt was withdrawn, and a
greeting of the new connection takes this back: the attempt succeeds, and the channel is ready.

Main results:

* `withdrawn_iff` — **an attempt that was withdrawn before its connection was launched fails exactly
  if it is withdrawn once more, or some close is not followed by a greeting**.
-/
import BridgeChannel.Proofs.Client.Meanwhile
import BridgeChannel.Proofs.Client.Overlapping

set_option autoImplicit false

namespace BridgeChannel

namespace Turn

/-- A close that every greeting has been followed by, and that is followed by a greeting itself,
leaves a channel that is ready. -/
theorem any_greets_of_answered {turns : List Turn} (answered : EachFollowed closes greets turns)
    (withdrawn : disconnected ∈ turns) : turns.any greets = true := by
  obtain ⟨before, after, rfl⟩ := List.append_of_mem withdrawn
  obtain ⟨turn, later, greets⟩ := answered before disconnected after rfl rfl
  exact List.any_eq_true.2 ⟨turn, by simp [later], greets⟩

end Turn

namespace Scene

/-- **An attempt that was withdrawn before its connection was launched**, and whose transport then
opens.  It fails exactly if it is withdrawn once more while the transport is being opened, or some
close since its beginning, such as the disconnect that withdrew it, is not followed by a greeting.
If it fails, the channel is closed, nothing is held and the new transport has been stopped once; if
it succeeds, the channel is ready and holds the new connection. -/
theorem withdrawn_iff (depth : Nat) {s : Scene} {plan : Attempt} {during : List (Moment × Step)}
    (here : s.gone = false) (address : s.client.config.hasAddress = true)
    (idle : s.client.state = .disconnected ∨ s.client.state = .closed)
    (created : plan.createError = none) (opens : plan.connectError = none)
    (withdrawn : Turn.disconnected ∈
      turns (s.since (s.cleared (interludes (perform depth) during))))
    (alone : (s.since (s.perform (depth + 1) (.connect plan during)).1).countP
      Occurrence.accepts ≤ 1) :
    let before := s.underway depth plan during
    let after := s.answering depth plan during
    let s' := (s.perform (depth + 1) (.connect plan during)).1
    let n := s.network.length
    ∃ success, (s.perform (depth + 1) (.connect plan during)).2 = .connected success ∧
      (success = false ↔
        Turn.disconnected ∈ turns (before.since after) ∨
          ¬EachFollowed Turn.closes Turn.greets (turns (s.since after))) ∧
      (turns (s.since after)).filterMap Turn.signal? =
        s.heard (s.callsSince before) ++ after.heard (before.callsSince after) ∧
      s'.client.state = (if success then .ready else .closed) ∧
      s'.client.session = (if success then some n else none) ∧
      s'.client.transport = (if success then some n else none) ∧
      (before.since s').countP (Occurrence.stops n) = if success then 0 else 1 := by
  intro before after s' n
  have performed := perform_connect here depth plan during
  have ended : s' = (s.connect plan (interludes (perform depth) during)).1 :=
    congrArg Prod.fst performed
  rw [performed] at alone
  obtain ⟨connected, alone⟩ := connect_eq_concluded address idle created alone
  rw [concluded_of_open opens] at connected
  obtain ⟨empty, latest, length, unreleased⟩ := client_underway alone
  have there : n < before.network.length := Nat.lt_of_lt_of_eq (Nat.lt_succ_self n) length.symm
  have steady : Steady before after := steady_answering alone
  have state : after.client.state = Turn.effects .connecting (turns (s.since after)) :=
    state_answering alone idle
  have decided : (after.settle n).2 = true ↔
      Turn.disconnected ∉ turns (before.since after) ∧
        EachFollowed Turn.closes Turn.greets (turns (s.since after)) := by
    rw [success_settle_iff steady latest there unreleased, state,
      Turn.effects_ne_closed_iff (by decide)]
  have earlier : Turn.disconnected ∈ turns (s.since after) := by
    rw [turns_answering]
    exact List.mem_append_left _ withdrawn
  obtain ⟨stops, -⟩ := settle_tells n after
  have stopped : (before.since s').countP (Occurrence.stops n) =
      if (after.settle n).2 then 0 else 1 := by
    have account : before.since s' = before.since (after.settle n).1 := by
      rw [ended, connected]
      rfl
    rw [account, since_trans steady.toGrows (grows_settle n after), List.countP_append,
      steady.unstopped empty, stops, Nat.zero_add]
  have client : s'.client = (after.settle n).1.client := by
    rw [ended, connected]
    rfl
  refine ⟨(after.settle n).2, by rw [performed, connected], ?_, heard_answering alone, ?_, ?_, ?_,
    stopped⟩
  · rw [← Bool.not_eq_true, decided, not_and_or, not_not]
  all_goals
    rw [client]
    cases success : (after.settle n).2 with
    | false =>
        rw [client_settle_of_failure success]
        rfl
    | true => ?_
  · -- the disconnect was answered by a greeting, without which the channel would be closed
    obtain ⟨-, answered⟩ := decided.1 success
    rw [client_settle_of_success success]
    dsimp only
    rw [state, Turn.effects_of_answered answered, Turn.any_greets_of_answered answered earlier]
    rfl
  all_goals
    rw [client_settle_of_success success]
    rfl

/-- Somebody disconnects while the factory is asked, and nobody greets: the attempt fails. -/
theorem withdrawn_iff_ungreeted :
    let s := Scene.start ⟨"wss://bridge/channel", "a", .ofSeconds 10, .ofSeconds 2⟩
    let during := [(Moment.creating, Step.disconnect),
      (Moment.opening, Step.signal none (.message "\x7b\"colibriClass\":\"EndpointMessage\"\x7d"))]
    let after := s.answering 1 {} during
    let s' := (s.perform 2 (.connect {} during)).1
    (s.gone = false ∧ s.client.config.hasAddress = true ∧ s.client.state = .disconnected ∧
      Turn.disconnected ∈ turns (s.since (s.cleared (interludes (perform 1) during))) ∧
      (s.since s').countP Occurrence.accepts ≤ 1) ∧
    (s.perform 2 (.connect {} during)).2 = .connected false ∧ s'.client.state = .closed ∧
      ¬EachFollowed Turn.closes Turn.greets (turns (s.since after)) := by
  intro s during after s'
  have here : s.gone = false := rfl
  have address : s.client.config.hasAddress = true := by decide +kernel
  have idle : s.client.state = .disconnected := rfl
  have withdrawn : Turn.disconnected ∈
      turns (s.since (s.cleared (interludes (perform 1) during))) := by decide +kernel
  have alone : (s.since s').countP Occurrence.accepts ≤ 1 := by decide +kernel
  have failed : (s.perform 2 (.connect {} during)).2 = .connected false := by decide +kernel
  have once : Turn.disconnected ∉ turns ((s.underway 1 {} during).since after) := by
    decide +kernel
  obtain ⟨success, performed, iff, -, state, -⟩ :=
    withdrawn_iff 1 here address (.inl idle) rfl rfl withdrawn alone
  obtain rfl : false = success := by
    rw [failed] at performed
    exact Outcome.connected.inj performed
  exact ⟨⟨here, address, idle, withdrawn, alone⟩, failed, state,
    (iff.1 rfl).resolve_left once⟩

/-- **An attempt that was withdrawn may succeed all the same**: somebody disconnects while the
factory is asked, and the bridge greets while the transport is being opened. -/
theorem withdrawn_succeeds_after_greeting :
    let s := Scene.start ⟨"wss://bridge/channel", "a", .ofSeconds 10, .ofSeconds 2⟩
    let greeting := Signal.message "\x7b\"colibriClass\":\"ServerHello\"\x7d"
    let during := [(Moment.creating, Step.disconnect), (Moment.opening, Step.signal none greeting)]
    let s' := (s.perform 2 (.connect {} during)).1
    (s.gone = false ∧ s.client.config.hasAddress = true ∧ s.client.state = .disconnected ∧
      Turn.disconnected ∈ turns (s.since (s.cleared (interludes (perform 1) during))) ∧
      (s.since s').countP Occurrence.accepts ≤ 1) ∧
    (s.perform 2 (.connect {} during)).2 = .connected true ∧
    s'.client.state = .ready ∧ s'.client.session = some 0 ∧ s'.client.transport = some 0 ∧
    (s.since s').countP (Occurrence.stops 0) = 0 := by
  decide +kernel

end Scene

end BridgeChannel
