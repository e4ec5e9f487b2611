/-
**What a failed attempt leaves behind.**

An attempt fails if no transport can be created, or if the transport cannot be opened.  In the first
case nothing is left behind.  In the second case the transport is stopped and let go of, but the
session that it has handed over stays in its slot, and a state that has moved on from connecting
stays as it is: the channel is then neither disconnected nor closed, and the next attempt is
refused.  Only a disconnect takes the session back, and only a close takes a greeting back.

Main definitions:

* `Turn.opens`, `Turn.disconnects` — turns that fill the slot of the session, and that empty it;
* `Turn.holdings` — whether the slot of the session is filled after some turns;
* `Scene.Holding` — the slot of the session follows the turns;
* `Scene.Vacated` — a client that holds nothing and is not refused.

Main results:

* `holdings_eq_false_iff`, `effects_of_withdrawn` — what some turns leave behind;
* `unwinding_holding` — **the slot of the session follows the turns in every step that does not
  connect**, and while an attempt begins;
* `vacated_iff` — **a failed attempt leaves nothing behind exactly if every session that was handed
  over was followed by a disconnect, and every greeting by a close**.
-/
import BridgeChannel.Proofs.Client.Meanwhile
import BridgeChannel.Proofs.Client.Overlapping
import BridgeChannel.Proofs.Client.Reopening

set_option autoImplicit false

namespace BridgeChannel

/-! ### What turns leave behind -/

namespace Turn

/-- Whether the client was handed a session. -/
def opens : Turn → Bool
  | heard .opened => true
  | _ => false

/-- Whether the client was asked to disconnect. -/
def disconnects : Turn → Bool
  | disconnected => true
  | _ => false

/-- Whether the client holds a session after a turn. -/
def holding (held : Bool) (turn : Turn) : Bool :=
  if turn.disconnects then false else held || turn.opens

/-- Whether the client holds a session after a list of turns. -/
def holdings (held : Bool) (turns : List Turn) : Bool := turns.foldl holding held

theorem holdings_append (held : Bool) (before after : List Turn) :
    holdings held (before ++ after) = holdings (holdings held before) after := by
  simp [holdings, List.foldl_append]

/-- **A client that held no session holds none after a list of turns exactly if every session that
was handed over was followed by a disconnect.** -/
theorem holdings_eq_false_iff (turns : List Turn) :
    holdings false turns = false ↔ EachFollowed opens disconnects turns := by
  -- from the end, for the last turn that opens or disconnects decides
  induction turns using List.reverseRecOn with
  | nil => exact ⟨fun _ => eachFollowed_nil, fun _ => rfl⟩
  | append_singleton turns turn ih =>
      rw [holdings_append, eachFollowed_concat, ← ih]
      cases turn with
      | disconnected => simp [holdings, holding, disconnects, opens]
      | heard signal => cases signal <;> simp [holdings, holding, disconnects, opens]

theorem closes_of_disconnects {turn : Turn} (h : turn.disconnects = true) : turn.closes = true := by
  cases turn with
  | heard signal => exact absurd h (by simp [disconnects])
  | disconnected => rfl

/-- A turn that neither closes nor greets nor opens leaves the state as it is. -/
theorem effect_of_plain {turn : Turn} (closes : turn.closes = false) (greets : turn.greets = false)
    (opens : turn.opens = false) (state : ConnectionState) : turn.effect state = state := by
  cases turn with
  | disconnected => exact absurd closes (by simp [Turn.closes])
  | heard signal =>
      cases signal with
      | opened => exact absurd opens (by simp [Turn.opens])
      | closed code reason => exact absurd closes (by simp [Turn.closes, Signal.closes])
      | failed e => rfl
      | message frame =>
          have other : (Signal.message frame).greets = false := greets
          simp [effect, Signal.effect, other]

/-- If every session was followed by a disconnect and every greeting by a close, the channel is
still connecting, or it was closed. -/
theorem effects_of_withdrawn {turns : List Turn} (withdrawn : EachFollowed opens disconnects turns)
    (answered : EachFollowed greets closes turns) :
    effects .connecting turns = if turns.any closes then .closed else .connecting := by
  induction turns using List.reverseRecOn with
  | nil => rfl
  | append_singleton turns turn ih =>
      obtain ⟨unopened, withdrawn⟩ := eachFollowed_concat.1 withdrawn
      obtain ⟨ungreeted, answered⟩ := eachFollowed_concat.1 answered
      rw [effects_concat, List.any_append]
      cases closed : turn.closes with
      | true =>
          rcases effect_cases turn with ⟨-, -, h⟩ | ⟨open_, -, -⟩ | ⟨open_, -, -⟩
          · simp [h, closed]
          · rw [open_] at closed
            exact absurd closed (by simp)
          · rw [open_] at closed
            exact absurd closed (by simp)
      | false =>
          -- a turn that does not close does not disconnect either, and leaves it to earlier ones
          have kept : turn.disconnects = false := by
            rw [← Bool.not_eq_true]
            intro h
            rw [closes_of_disconnects h] at closed
            exact absurd closed (by simp)
          have earlier := ih (withdrawn.resolve_left (by simp [kept]))
            (answered.resolve_left (by simp [closed]))
          rw [effect_of_plain closed ungreeted unopened, earlier]
          simp [closed]

end Turn

namespace Scene

/-! ### The slot of the session -/

/-- Between two scenes, the slot of the session followed the turns. -/
structure Holding (s t : Scene) : Prop extends Grows s t where
  session : t.client.session.isSome =
    Turn.holdings s.client.session.isSome (turns (s.since t))

namespace Holding

theorem trans {s t u : Scene} (h : Holding s t) (h' : Holding t u) : Holding s u where
  toGrows := h.toGrows.trans h'.toGrows
  session := by
    rw [since_trans h.toGrows h'.toGrows, turns_append, Turn.holdings_append, ← h.session,
      h'.session]

/-- What is no turn and leaves the slot of the session alone. -/
theorem of_silent {s t : Scene} (grows : Grows s t) (silent : turns (s.since t) = [])
    (session : t.client.session = s.client.session) : Holding s t :=
  ⟨grows, by rw [silent, session]; rfl⟩

/-- A signal that is heard fills the slot if it hands a session over. -/
theorem hear (n : Nat) (signal : Signal) (s : Scene) : Holding s (s.hear n signal) where
  toGrows := respected_grows.hear n signal s
  session := by
    have told : s.since (s.hear n signal) = [.log signal.line] :=
      since_of_account [_] (account_hear n signal s)
    rw [told, turns_singleton (Occurrence.turn?_line signal)]
    cases signal with
    | message frame =>
        unfold Scene.hear
        dsimp only
        split <;> simp [Turn.holdings, Turn.holding, Turn.disconnects, Turn.opens, move, log, note,
          called]
    | _ => simp [Scene.hear, Turn.holdings, Turn.holding, Turn.disconnects, Turn.opens, move, log,
        note, called, setSession]

/-- Disconnecting empties the slot. -/
theorem disconnect (s : Scene) : Holding s s.disconnect where
  toGrows := respected_grows.phased.disconnect s
  session := by
    rw [turns_disconnect, client_disconnect]
    rfl

end Holding

/-- **The slot of the session follows the turns, whatever happens but attempts to connect.** -/
theorem unwinding_holding : Unwinding Holding where
  refl s := .of_silent (Grows.refl s) (turns_since_of_account rfl) rfl
  trans := .trans
  note plain s :=
    .of_silent (Grows.note _ s) (by rw [since_note, turns_silent plain.toSilent]) rfl
  submitted n frame s :=
    .of_silent (respected_grows.submitted n frame s) (turns_since_of_account rfl) rfl
  requested m s := .of_silent (respected_grows.requested m s) (turns_since_of_account rfl) rfl
  withRoster s r := .of_silent (respected_grows.withRoster s r) (turns_since_of_account rfl) rfl
  update n _ s mild :=
    .of_silent (respected_grows.update n s mild.generation) (turns_since_of_account rfl) rfl
  missed _ signal := .of_silent (Grows.called _ signal _) (turns_since_of_account rfl) rfl
  heard _ signal := .hear _ signal _
  disconnect := .disconnect
  close n s := .of_silent (Grows.note _ s) (by rw [since_note]; rfl) rfl
  letGo {n s} _ :=
    .of_silent ((respected_grows.leaveTransport s).trans (Grows.note _ _))
      (by rw [since_of_account [.stopped n] rfl]; rfl) rfl
  connecting address s := .of_silent (Grows.note _ s) (by rw [log, since_note]; rfl) rfl

/-- From the beginning of an attempt on, the slot is a matter of the turns. -/
theorem session_cleared {depth : Nat} {during : List (Moment × Step)} {s : Scene}
    (alone : (s.since (s.cleared (interludes (perform depth) during))).countP Occurrence.accepts
      ≤ 1) :
    (s.cleared (interludes (perform depth) during)).client.session.isSome =
      Turn.holdings false
        (turns (s.since (s.cleared (interludes (perform depth) during)))) := by
  have barred := Barring.inherited unwinding_holding.toRestful
  rw [(unwinding_holding.cleared (barred.interludes depth during) alone).session]
  rfl

theorem session_answering {depth : Nat} {plan : Attempt} {during : List (Moment × Step)} {s : Scene}
    (alone : (s.since (s.answering depth plan during)).countP Occurrence.accepts ≤ 1) :
    (s.answering depth plan during).client.session.isSome =
      Turn.holdings false (turns (s.since (s.answering depth plan during))) := by
  obtain ⟨first, second⟩ := alone_answering alone
  have barred := Barring.inherited unwinding_holding.toRestful
  have opened := ((barred.answering depth plan during s).holds second).session
  have launched : (s.underway depth plan during).client.session =
      (s.cleared (interludes (perform depth) during)).client.session := rfl
  rw [turns_answering, Turn.holdings_append, opened, launched, session_cleared first]

/-! ### After a failure -/

/-- An attempt that is given up takes no turn, and its transport is stopped once. -/
theorem turns_giveUp (e : TransportError) (n : Nat) (s : Scene) :
    turns (s.since (s.giveUp e n)) = [] ∧
      (s.since (s.giveUp e n)).countP (Occurrence.stops n) = 1 := by
  unfold giveUp stopTransport
  dsimp only [quietly]
  split
  next e' _ =>
    rw [since_of_account [.log (.stopFailed e'), .stopped n, .log (.connectFailed e)] rfl]
    exact ⟨rfl, by simp [Occurrence.stops]⟩
  · rw [since_of_account [.stopped n, .log (.connectFailed e)] rfl]
    exact ⟨rfl, by simp [Occurrence.stops]⟩

/-- The client holds nothing, its channel is disconnected, or closed if it was closed meanwhile, and
the next attempt asks the factory. -/
structure Vacated (closed : Bool) (s : Scene) : Prop where
  session : s.client.session = none
  transport : s.client.transport = none
  state : s.client.state = if closed then .closed else .disconnected
  next : ∀ depth plan during,
    ∃ o ∈ s.since (s.perform (depth + 1) (.connect plan during)).1, o.asks = true

/-- How an attempt fails, as a matter of the turns since it began. -/
structure Failed (happened : List Turn) (s : Scene) : Prop where
  here : s.gone = false
  address : s.client.config.hasAddress = true
  session : s.client.session.isSome = Turn.holdings false happened
  transport : s.client.transport = none
  state : s.client.state = (Turn.effects .connecting happened).after .connectFailed

/-- **A failed attempt leaves nothing behind exactly if every session that the client was handed was
followed by a disconnect, and every greeting by a close.** -/
theorem Failed.vacated {happened : List Turn} {s : Scene} (h : Failed happened s) :
    Vacated (happened.any Turn.closes) s ↔
      EachFollowed Turn.opens Turn.disconnects happened ∧
        EachFollowed Turn.greets Turn.closes happened := by
  constructor
  · intro vacated
    constructor
    · rw [← Turn.holdings_eq_false_iff, ← h.session, vacated.session]
      rfl
    · -- a channel that stayed ready would be neither disconnected nor closed
      have fresh : ConnectionState.connecting ≠ .ready := by decide
      rw [← Turn.effects_ne_ready_iff fresh]
      intro ready
      have stayed := h.state
      rw [ready, vacated.state] at stayed
      cases closed : happened.any Turn.closes <;>
        · rw [closed] at stayed
          exact absurd stayed (by decide)
  · rintro ⟨withdrawn, answered⟩
    have state : s.client.state =
        if happened.any Turn.closes then .closed else .disconnected := by
      rw [h.state, Turn.effects_of_withdrawn withdrawn answered]
      cases happened.any Turn.closes <;> rfl
    refine ⟨?_, h.transport, state, fun depth plan during => ?_⟩
    · rw [← Option.isNone_iff_eq_none, ← Option.not_isSome, h.session,
        (Turn.holdings_eq_false_iff happened).2 withdrawn]
      rfl
    · -- from a channel that is disconnected or closed, the next attempt asks the factory
      rw [perform_connect h.here]
      refine asks_connect (respected_grows.inherited.interludes depth during) plan h.address ?_
      rw [state]
      cases happened.any Turn.closes <;> rfl

section Failure

variable {depth : Nat} {plan : Attempt} {during : List (Moment × Step)} {s : Scene}
  {e : TransportError}

/-- The factory has no transport to offer. -/
theorem failed_of_createError (here : s.gone = false) (address : s.client.config.hasAddress = true)
    (idle : s.client.state = .disconnected ∨ s.client.state = .closed)
    (failed : plan.createError = some e)
    (alone : (s.since (s.connect plan (interludes (perform depth) during)).1).countP
      Occurrence.accepts ≤ 1) :
    (s.connect plan (interludes (perform depth) during)).2 = false ∧
      Failed (turns (s.since (s.connect plan (interludes (perform depth) during)).1))
        (s.connect plan (interludes (perform depth) during)).1 := by
  rw [connect_eq_of_createError _ address (target_beginConnect_of_idle idle) failed] at alone ⊢
  have clear := respected_grows.phased.cleared
    (respected_grows.inherited.interludes depth during) s
  have state := @state_cleared depth during s idle
  have session := @session_cleared depth during s
  have steady := @steady_cleared depth during s
  have empty := @transport_cleared (interludes (perform depth) during)
    ((Barring.inherited unwinding_emptied.toRestful).interludes depth during) s
  generalize s.cleared (interludes (perform depth) during) = t
    at clear state session steady empty alone ⊢
  -- the failure itself is no turn, and no attempt
  have told : t.since (((t.note .createFailed).log (.startFailed e)).move .connectFailed) =
      [.createFailed, .log (.startFailed e)] :=
    since_of_account [.log (.startFailed e), .createFailed] rfl
  have ends : Grows t (((t.note .createFailed).log (.startFailed e)).move .connectFailed) :=
    ((Grows.note _ t).trans (Grows.note _ _)).trans (respected_grows.move _ _)
  rw [since_trans clear ends, told] at alone ⊢
  have own : (s.since t).countP Occurrence.accepts ≤ 1 := by
    simpa [Occurrence.accepts] using alone
  have same : turns (s.since t ++ [.createFailed, .log (.startFailed e)]) =
      turns (s.since t) := by
    rw [turns_append]
    exact List.append_nil _
  rw [same]
  refine ⟨rfl, (steady own).gone.trans here, ?_, session own, empty own, ?_⟩
  · have config : (((t.note .createFailed).log (.startFailed e)).move
        .connectFailed).client.config = t.client.config := rfl
    rw [config, (steady own).config]
    exact address
  · rw [state_move, ← state own]
    rfl

/-- The transport that the factory offers cannot be opened. -/
theorem failed_of_connectError (here : s.gone = false)
    (address : s.client.config.hasAddress = true)
    (idle : s.client.state = .disconnected ∨ s.client.state = .closed)
    (created : plan.createError = none) (failed : plan.connectError = some e)
    (alone : (s.since (s.connect plan (interludes (perform depth) during)).1).countP
      Occurrence.accepts ≤ 1) :
    (s.connect plan (interludes (perform depth) during)).2 = false ∧
      Failed (turns (s.since (s.connect plan (interludes (perform depth) during)).1))
        (s.connect plan (interludes (perform depth) during)).1 ∧
      ((s.underway depth plan during).since
        (s.connect plan (interludes (perform depth) during)).1).countP
          (Occurrence.stops s.network.length) = 1 ∧
      (turns (s.since (s.connect plan (interludes (perform depth) during)).1)).filterMap
          Turn.signal? =
        s.heard (s.callsSince (s.underway depth plan during)) ++
          (s.answering depth plan during).heard
            ((s.underway depth plan during).callsSince (s.answering depth plan during)) := by
  obtain ⟨connected, alone⟩ := connect_eq_concluded address idle created alone
  obtain ⟨empty, -, -, -⟩ := client_underway alone
  obtain ⟨quiet, stopped⟩ := turns_giveUp e s.network.length (s.answering depth plan during)
  have cleared := steady_cleared (alone_answering alone).1
  have steady := steady_answering alone
  have grows : Grows s (s.answering depth plan during) := by
    have grows := respected_grows.inherited.interludes depth during
    exact (respected_grows.phased.cleared grows s).trans
      (respected_grows.phased.answered grows plan _)
  have ends := grows_concluded plan s.network.length (s.answering depth plan during)
  have transport : (s.answering depth plan during).client.transport = none := by
    rcases steady.transport with none_ | same
    · exact none_
    · rw [same, empty]
  -- giving up is no turn, so that the turns are those until the transport answers
  rw [connected, concluded_of_error failed] at *
  have account : (s.answering depth plan during).since
      (((s.answering depth plan during).giveUp e s.network.length).update s.network.length
        fun c => { c with running := c.running - 1 }) =
      (s.answering depth plan during).since
        ((s.answering depth plan during).giveUp e s.network.length) := rfl
  rw [since_trans grows ends, turns_append, account, quiet, List.append_nil]
  refine ⟨rfl, ⟨?_, ?_, ?_, ?_, ?_⟩, ?_, heard_answering alone⟩
  · exact ((untouched_giveUp e _ _).2.trans steady.gone).trans (cleared.gone.trans here)
  · rw [client_update, client_giveUp]
    have launched : (s.underway depth plan during).client.config =
        (s.cleared (interludes (perform depth) during)).client.config := rfl
    dsimp only
    rw [steady.config, launched, cleared.config]
    exact address
  · rw [client_update, client_giveUp]
    exact session_answering alone
  · rw [client_update, client_giveUp]
    exact transport
  · rw [client_update, client_giveUp, state_answering alone idle]
  · rw [since_trans steady.toGrows ends, List.countP_append, account, steady.unstopped empty,
      stopped]

end Failure

/-- **What a failed attempt leaves behind**, whatever happens meanwhile: signals of the new
connection and of earlier ones, messages, disconnecting, observers with their reactions, in any
number and order.  Only attempts to connect that were not refused are left out.

The transport, if there is one, is stopped once and not held.  Nothing else is left exactly if every
session that the client was handed was followed by a disconnect, and every greeting by a close. -/
theorem vacated_iff (depth : Nat) {s : Scene} {plan : Attempt} {during : List (Moment × Step)}
    (here : s.gone = false) (address : s.client.config.hasAddress = true)
    (idle : s.client.state = .disconnected ∨ s.client.state = .closed)
    (fails : plan.createError.isSome ∨ plan.connectError.isSome)
    (alone : (s.since (s.perform (depth + 1) (.connect plan during)).1).countP
      Occurrence.accepts ≤ 1) :
    let before := s.underway depth plan during
    let after := s.answering depth plan during
    let s' := (s.perform (depth + 1) (.connect plan during)).1
    let happened := turns (s.since s')
    (s.perform (depth + 1) (.connect plan during)).2 = .connected false ∧
      s'.client.transport = none ∧
      s'.client.session.isSome = Turn.holdings false happened ∧
      s'.client.state = (Turn.effects .connecting happened).after .connectFailed ∧
      (Vacated (happened.any Turn.closes) s' ↔
        EachFollowed Turn.opens Turn.disconnects happened ∧
          EachFollowed Turn.greets Turn.closes happened) ∧
      (plan.createError = none →
        (before.since s').countP (Occurrence.stops s.network.length) = 1 ∧
        happened.filterMap Turn.signal? =
          s.heard (s.callsSince before) ++ after.heard (before.callsSince after)) := by
  intro before after s' happened
  have connected := perform_connect here depth plan during
  have ended : s' = (s.connect plan (interludes (perform depth) during)).1 :=
    congrArg Prod.fst connected
  rw [connected] at alone ⊢
  cases created : plan.createError with
  | some e =>
      obtain ⟨failure, failed⟩ := failed_of_createError here address idle created alone
      rw [← ended] at failed
      exact ⟨by rw [failure], failed.transport, failed.session, failed.state,
        failed.vacated,
        fun none_ => absurd none_ (by simp)⟩
  | none =>
      obtain ⟨e, refused⟩ : ∃ e, plan.connectError = some e := by
        rw [created] at fails
        exact Option.isSome_iff_exists.1 (fails.resolve_left (by simp))
      obtain ⟨failure, failed, stopped, signals⟩ :=
        failed_of_connectError here address idle created refused alone
      rw [← ended] at failed stopped signals
      exact ⟨by rw [failure], failed.transport, failed.session, failed.state,
        failed.vacated,
        fun _ => ⟨stopped, signals⟩⟩

/-- The transport hands its session over, somebody disconnects, and the transport gives up: nothing
is left behind. -/
theorem vacated_iff_disconnected :
    let s := Scene.start ⟨"wss://bridge/channel", "a", .ofSeconds 10, .ofSeconds 2⟩
    let plan : Attempt := { connectError := some (.timeout (.ofSeconds 10)) }
    let during := [(Moment.opening, Step.disconnect)]
    let s' := (s.perform 2 (.connect plan during)).1
    (s.gone = false ∧ s.client.config.hasAddress = true ∧ s.client.state = .disconnected ∧
      (plan.createError.isSome ∨ plan.connectError.isSome) ∧
      (s.since s').countP Occurrence.accepts ≤ 1) ∧
    turns (s.since s') = [.heard .opened, .disconnected] ∧ Vacated true s' := by
  intro s plan during s'
  have here : s.gone = false := rfl
  have address : s.client.config.hasAddress = true := by decide +kernel
  have idle : s.client.state = .disconnected := rfl
  have fails : plan.createError.isSome ∨ plan.connectError.isSome := .inr rfl
  have alone : (s.since s').countP Occurrence.accepts ≤ 1 := by decide +kernel
  have happened : turns (s.since s') = [.heard .opened, .disconnected] := by decide +kernel
  obtain ⟨-, -, -, -, iff, -⟩ := vacated_iff 1 here address (.inl idle) fails alone
  have vacated : Vacated ((turns (s.since s')).any Turn.closes) s' := by
    refine iff.2 ?_
    rw [happened]
    exact ⟨(Turn.holdings_eq_false_iff _).1 rfl,
      (Turn.effects_ne_ready_iff (by decide) _).1 (by decide : Turn.effects .connecting _ ≠ .ready)⟩
  rw [happened] at vacated
  exact ⟨⟨here, address, idle, fails, alone⟩, happened, vacated⟩

/-- **A failed attempt may leave something behind**: the transport hands its session over and then
gives up.  The session stays in its slot, the channel waits for a greeting, and the next attempt is
refused. -/
theorem not_vacated_after_session :
    let s := Scene.start ⟨"wss://bridge/channel", "a", .ofSeconds 10, .ofSeconds 2⟩
    let plan : Attempt := { connectError := some (.timeout (.ofSeconds 10)) }
    let s' := (s.perform 1 (.connect plan [])).1
    (s.gone = false ∧ s.client.config.hasAddress = true ∧ s.client.state = .disconnected ∧
      (s.since s').countP Occurrence.accepts ≤ 1) ∧
    (s.perform 1 (.connect plan [])).2 = .connected false ∧
    turns (s.since s') = [.heard .opened] ∧
    s'.client.state = .handshakePending ∧ s'.client.session = some 0 ∧
    (s'.perform 1 (.connect {} [])).2 = .connected false ∧
    ¬∃ o ∈ s'.since (s'.perform 1 (.connect {} [])).1, o.asks = true := by
  decide +kernel

end Scene

end BridgeChannel
