/-
**Two attempts to connect that overlap.**

While the transport of one connection is being opened, the channel may be disconnected and opened
again, so that another connection takes over before the first transport answers.  The first attempt
then finishes in a scene that is no longer its own.  It never stops the transport of the other
connection, and whom the client listens to stays the same.  But it lets go of the handler of the
latest connection if its own transport could not be opened, and fills both slots, or empties them,
if its own transport is open.

Main definitions:

* `Scene.Waits` — if a channel is connecting, it has been since an earlier scene.

Main results:

* `not_connecting_of_overtaken` — a channel that was opened again is not connecting any more;
* `spared_iff` — **an attempt that was overtaken leaves the client as it finds it exactly if there
  is nothing left to harm**.
-/
import BridgeChannel.Proofs.Client.Connecting

set_option autoImplicit false

namespace BridgeChannel

/-! ### States that are not connecting -/

namespace ConnectionState

theorem after_transportOpened_ne_connecting (s : ConnectionState) :
    s.after .transportOpened ≠ connecting := by
  cases s <;> decide

theorem after_connectFailed_ne_connecting (s : ConnectionState) :
    s.after .connectFailed ≠ connecting := by
  cases s <;> decide

theorem after_transportOpened_of_ne {s : ConnectionState} (h : s ≠ connecting) :
    s.after .transportOpened = s := by
  cases s with
  | connecting => exact absurd rfl h
  | _ => rfl

theorem after_connectFailed_of_ne {s : ConnectionState} (h : s ≠ connecting) :
    s.after .connectFailed = s := by
  cases s with
  | connecting => exact absurd rfl h
  | _ => rfl

end ConnectionState

/-- No turn makes a channel connecting. -/
theorem Turn.effect_eq_connecting {turn : Turn} {state : ConnectionState}
    (h : turn.effect state = .connecting) : state = .connecting := by
  rcases turn.effect_cases with ⟨-, -, effect⟩ | ⟨-, -, effect⟩ | ⟨-, -, effect⟩
  · rw [effect] at h
    exact absurd h (by decide)
  · rw [effect] at h
    exact absurd h (by decide)
  · rcases effect state with same | opened
    · rw [← same]
      exact h
    · rw [opened] at h
      exact absurd h (ConnectionState.after_transportOpened_ne_connecting state)

namespace Scene

/-! ### What an attempt makes of the answer of its transport -/

theorem client_giveUp (e : TransportError) (n : Nat) (s : Scene) :
    (s.giveUp e n).client =
      { s.client with state := s.client.state.after .connectFailed, handler := none } := by
  have stopped : ((s.log (.connectFailed e)).stopTransport quietly n).client = s.client := by
    rw [client_stopTransport_quietly, client_log]
  rw [giveUp, move, setHandler, stopped]

theorem untouched_giveUp (e : TransportError) (n : Nat) (s : Scene) :
    (s.giveUp e n).network = s.network ∧ (s.giveUp e n).gone = s.gone := by
  unfold giveUp stopTransport
  dsimp only [quietly]
  split <;> exact ⟨rfl, rfl⟩

/-- An attempt that is given up stops its transport. -/
theorem since_giveUp (e : TransportError) (n : Nat) (s : Scene) :
    ∃ rest, OnlyLines rest ∧
      s.since (s.giveUp e n) = .log (.connectFailed e) :: .stopped n :: rest := by
  obtain ⟨rest, lines, told⟩ := since_stopTransport n (s.log (.connectFailed e))
  refine ⟨rest, lines, ?_⟩
  have logged : Grows s (s.log (.connectFailed e)) := Grows.note _ s
  have stopped : Grows (s.log (.connectFailed e))
      ((s.log (.connectFailed e)).stopTransport quietly n) :=
    respected_grows.phased.clearing.stopTransport respected_grows.phased.quietly (Grows.note _ _)
  have line : s.since (s.log (.connectFailed e)) = [.log (.connectFailed e)] := since_note _ _
  have account : s.since (s.giveUp e n) =
      s.since ((s.log (.connectFailed e)).stopTransport quietly n) := rfl
  rw [account, since_trans logged stopped, told, line]
  rfl

theorem concluded_ne_connecting (plan : Attempt) (n : Nat) (s : Scene) :
    (s.concluded plan n).1.client.state ≠ .connecting := by
  unfold concluded
  cases plan.connectError with
  | some e =>
      dsimp only
      rw [client_update, client_giveUp]
      exact ConnectionState.after_connectFailed_ne_connecting _
  | none =>
      dsimp only
      rw [client_update]
      cases success : (s.settle n).2 with
      | true =>
          rw [client_settle_of_success success]
          exact ConnectionState.after_transportOpened_ne_connecting _
      | false =>
          rw [client_settle_of_failure success]
          simp

/-! ### Overtaking -/

/-- If the later scene is connecting, so was the earlier one, and no attempt to connect was accepted
in between. -/
structure Waits (s t : Scene) : Prop extends Grows s t where
  waits : t.client.state = .connecting →
    s.client.state = .connecting ∧ NoneAccepted (s.since t)

namespace Waits

/-- The channel is not connecting afterwards. -/
theorem of_moved {s t : Scene} (grows : Grows s t) (moved : t.client.state ≠ .connecting) :
    Waits s t :=
  ⟨grows, fun h => absurd h moved⟩

/-- The account tells of one occurrence at most, which is no accepted attempt. -/
theorem of_told {s t : Scene} {told : List Occurrence} (grows : Grows s t)
    (since : s.since t = told) (refused : NoneAccepted told)
    (state : t.client.state = .connecting → s.client.state = .connecting) : Waits s t :=
  ⟨grows, fun h => ⟨state h, since ▸ refused⟩⟩

theorem refl (s : Scene) : Waits s s :=
  of_told (Grows.refl s) (since_self s) (fun _ ho => absurd ho (by simp)) id

theorem trans {s t u : Scene} (h : Waits s t) (h' : Waits t u) : Waits s u where
  toGrows := h.toGrows.trans h'.toGrows
  waits connecting := by
    obtain ⟨middle, second⟩ := h'.waits connecting
    obtain ⟨start, first⟩ := h.waits middle
    refine ⟨start, ?_⟩
    rw [since_trans h.toGrows h'.toGrows]
    intro o ho
    rcases List.mem_append.1 ho with ho | ho
    · exact first o ho
    · exact second o ho

theorem note {o : Occurrence} (refused : o.accepts = false) (s : Scene) : Waits s (s.note o) := by
  refine of_told (Grows.note o s) (since_note o s) ?_ id
  intro o' ho'
  rw [List.mem_singleton.1 ho']
  exact refused

/-- Hearing a signal never starts an attempt. -/
theorem hear (n : Nat) (signal : Signal) (s : Scene) : Waits s (s.hear n signal) := by
  obtain ⟨session, hclient⟩ := client_hear n signal s
  have told : s.since (s.hear n signal) = [.log signal.line] :=
    since_of_account [_] (account_hear n signal s)
  refine of_told (respected_grows.hear n signal s) told ?_ ?_
  · intro o ho
    rw [List.mem_singleton.1 ho]
    exact Occurrence.accepts_line signal
  · intro connecting
    rw [hclient] at connecting
    have effect : (Turn.heard signal).effect s.client.state = .connecting := connecting
    exact Turn.effect_eq_connecting effect

theorem exchange {act : Performance} (nested : ∀ step s, Waits s (s.nest act step))
    {s s' : Scene} (change : Exchange act s s') : Waits s s' := by
  -- most changes leave both the account and the client alone
  have silent : ∀ t : Scene, t.account = s.account → t.calls = s.calls →
      s.network.length ≤ t.network.length → t.client = s.client → Waits s t := by
    intro t account calls network client
    refine of_told (Grows.of_eq account calls network) (since_eq_nil account) ?_ ?_
    · intro o ho
      exact absurd ho (by simp)
    · rw [client]
      exact id
  cases change with
  | note plain => exact note plain.accepts s
  | submitted n frame => exact silent _ rfl rfl (Nat.le_refl _) rfl
  | requested m => exact silent _ rfl rfl (Nat.le_refl _) rfl
  | withRoster r => exact silent _ rfl rfl (Nat.le_refl _) rfl
  | update n mild => exact silent _ rfl rfl (by simp [Scene.update]) rfl
  | missed n signal deaf =>
      have told : s.since (s.called n signal) = [] := since_eq_nil rfl
      exact of_told (Grows.called n signal s) told (fun _ ho => absurd ho (by simp)) id
  | heard n signal listens => exact hear n signal s
  | nested step => exact nested step s

/-- An attempt that is not refused is over when it ends. -/
theorem connect {between : Interludes} (hbetween : ∀ m s, Waits s (between m s)) (plan : Attempt)
    (s : Scene) : Waits s (s.connect plan between).1 := by
  have grows := respected_grows.phased.connect (fun m s => (hbetween m s).toGrows) plan s
  rcases connect_cases plan between s with hc | hc | ⟨-, -, ⟨e, -, hc⟩ | ⟨-, hc⟩⟩
  · rw [hc]
    exact note rfl s
  · rw [hc]
    exact note rfl s
  · refine of_moved grows ?_
    rw [hc]
    exact ConnectionState.after_connectFailed_ne_connecting _
  · refine of_moved grows ?_
    rw [hc]
    exact concluded_ne_connecting plan _ _

theorem inherited : Inherited Waits where
  refl := refl
  trans := trans
  note plain s := note plain.accepts s
  exchange nested change := exchange nested change
  disconnect s := by
    refine of_moved (respected_grows.phased.disconnect s) ?_
    rw [client_disconnect]
    simp
  connect := connect

end Waits

/-! ### The end of an attempt that was overtaken -/

/-- The answer of a transport stops no transport of another connection. -/
theorem stopped_not_mem_concluded {n k : Nat} (other : k ≠ n) (plan : Attempt) (s : Scene) :
    Occurrence.stopped k ∉ s.since (s.concluded plan n).1 := by
  have not_line : ∀ {occurrences}, OnlyLines occurrences → Occurrence.stopped k ∉ occurrences :=
    fun lines => lines.not_mem (by simp)
  unfold concluded
  cases plan.connectError with
  | some e =>
      obtain ⟨rest, lines, told⟩ := since_giveUp e n s
      have account :
          s.since ((s.giveUp e n).update n fun c => { c with running := c.running - 1 }) =
            s.since (s.giveUp e n) := rfl
      dsimp only
      rw [account, told]
      simp [other, not_line lines]
  | none =>
      dsimp only
      have account :
          s.since ((s.settle n).1.update n fun c => { c with running := c.running - 1 }) =
            s.since (s.settle n).1 := rfl
      rw [account]
      cases success : (s.settle n).2 with
      | true =>
          rw [since_settle_of_success success]
          simp
      | false =>
          obtain ⟨first, second, hfirst, hsecond, told⟩ := since_forfeited n s
          rw [settle_of_failure success, told]
          cases s.isOpen n <;> simp [other, not_line hfirst, not_line hsecond]

/-- The client listens to whom it listened to. -/
theorem listensTo_concluded (plan : Attempt) (n : Nat) (s : Scene) :
    (s.concluded plan n).1.listensTo = s.listensTo := by
  have freed : ∀ t : Scene,
      (t.update n fun c => { c with running := c.running - 1 }).listensTo = t.listensTo :=
    fun t => (Steady.update .left n t).listensTo
  unfold concluded
  cases plan.connectError with
  | some e =>
      dsimp only
      rw [freed]
      obtain ⟨network, gone⟩ := untouched_giveUp e n s
      refine listensTo_congr gone (by rw [client_giveUp]) fun k => ?_
      rw [network]
  | none =>
      dsimp only
      rw [freed]
      cases success : (s.settle n).2 with
      | true =>
          rw [settle_of_success success]
          rfl
      | false =>
          rw [settle_of_failure success, (Still.teardown _).listensTo]
          rfl

/-- An attempt whose transport could not be opened is given up. -/
theorem concluded_of_error {plan : Attempt} {e : TransportError}
    (failed : plan.connectError = some e) (n : Nat) (s : Scene) :
    s.concluded plan n =
      ((s.giveUp e n).update n fun c => { c with running := c.running - 1 }, false) := by
  unfold concluded
  rw [failed]

/-- An attempt whose transport opens ends as the client settles it. -/
theorem concluded_of_open {plan : Attempt} (opens : plan.connectError = none) (n : Nat)
    (s : Scene) :
    s.concluded plan n =
      ((s.settle n).1.update n fun c => { c with running := c.running - 1 }, (s.settle n).2) := by
  unfold concluded
  rw [opens]

/-- An attempt whose transport could not be opened lets go of the latest handler. -/
theorem client_concluded_of_error {plan : Attempt} {e : TransportError}
    (failed : plan.connectError = some e) (n : Nat) {s : Scene}
    (settled : s.client.state ≠ .connecting) :
    (s.concluded plan n).1.client = { s.client with handler := none } := by
  rw [concluded_of_error failed, client_update, client_giveUp,
    ConnectionState.after_connectFailed_of_ne settled]

/-- An attempt whose transport is open fills both slots, or closes the channel. -/
theorem client_concluded_of_open {plan : Attempt} (opens : plan.connectError = none) (n : Nat)
    {s : Scene} (settled : s.client.state ≠ .connecting) :
    (s.client.state ≠ .closed ∧
        (s.concluded plan n).1.client =
          { s.client with session := some n, transport := some n }) ∨
      (s.concluded plan n).1.client =
        { s.client with state := .closed, session := none, transport := none } := by
  rw [concluded_of_open opens, client_update]
  cases success : (s.settle n).2 with
  | true =>
      left
      refine ⟨((success_settle n s).1 success).2, ?_⟩
      rw [client_settle_of_success success, ConnectionState.after_transportOpened_of_ne settled]
  | false =>
      right
      exact client_settle_of_failure success

/-- In the midst of an attempt, the client does not hold the new transport. -/
theorem transport_answering_ne {depth : Nat} {s : Scene} {plan : Attempt}
    {during : List (Moment × Step)} (placed : s.WellPlaced) :
    (s.answering depth plan during).client.transport ≠
      some (s.cleared (interludes (perform depth) during)).network.length := by
  intro held
  have steps := respected_places.inherited.interludes depth during
  have cleared := placed.of_places (respected_places.phased.cleared steps s)
  have opened := respected_places.inherited.answering depth plan during s
  rcases opened.transport _ held with before | ⟨beyond, -⟩
  · exact Nat.lt_irrefl _ (cleared _ before)
  · -- what is taken on meanwhile belongs to connections after the new one
    rw [underway, length_launched] at beyond
    omega

/-- A channel that was opened again in the midst of an attempt is not connecting any more. -/
theorem not_connecting_of_overtaken {depth : Nat} {s : Scene} {plan : Attempt}
    {during : List (Moment × Step)}
    (overtaken : ∃ o ∈ (s.underway depth plan during).since (s.answering depth plan during),
      o.accepts = true) :
    (s.answering depth plan during).client.state ≠ .connecting := by
  intro connecting
  have waits := Waits.inherited.answering depth plan during s
  exact absurd overtaken (waits.waits connecting).2.not_accepted

/-- **What is left of another connection when an attempt that was overtaken is over.**  If its own
transport could not be opened, the attempt lets go of the latest handler, and of nothing else.  If
its transport is open, the attempt fills both slots with its own connection, or closes the channel
and empties them; the transport that the client held is not stopped, but nobody holds it any
more. -/
theorem spared_iff (depth : Nat) {s : Scene} {plan : Attempt} {during : List (Moment × Step)}
    (placed : s.WellPlaced) (here : s.gone = false)
    (address : s.client.config.hasAddress = true)
    (idle : s.client.state = .disconnected ∨ s.client.state = .closed)
    (created : plan.createError = none)
    (overtaken : ∃ o ∈ (s.underway depth plan during).since (s.answering depth plan during),
      o.accepts = true) :
    let n := (s.cleared (interludes (perform depth) during)).network.length
    let after := s.answering depth plan during
    ∃ s' success, s.perform (depth + 1) (.connect plan during) = (s', .connected success) ∧
      (s'.client = after.client ↔
        if plan.connectError.isSome then after.client.handler = none
        else after.client.session = none ∧ after.client.transport = none ∧
          after.client.state = .closed) ∧
      (plan.connectError.isSome → s'.client = { after.client with handler := none }) ∧
      (plan.connectError = none →
        s'.client = { after.client with session := some n, transport := some n } ∨
          s'.client = { after.client with state := .closed, session := none, transport := none }) ∧
      after.client.transport ≠ some n ∧
      (∀ k, k ≠ n → Occurrence.stopped k ∉ after.since s') ∧
      s'.listensTo = after.listensTo := by
  intro n after
  have settled : after.client.state ≠ .connecting := not_connecting_of_overtaken overtaken
  have foreign : after.client.transport ≠ some n := transport_answering_ne placed
  have concluded : s.connect plan (interludes (perform depth) during) = after.concluded plan n :=
    connect_eq_of_created _ address (target_beginConnect_of_idle idle) created
  refine ⟨(after.concluded plan n).1, (after.concluded plan n).2, ?_, ?_, ?_, ?_, foreign,
    fun k other => stopped_not_mem_concluded other plan after, listensTo_concluded plan n after⟩
  · rw [perform_connect here, concluded]
  · cases opens : plan.connectError with
    | some e =>
        rw [client_concluded_of_error opens n settled, Option.isSome_some, if_pos rfl]
        constructor
        · intro same
          rw [← same]
        · intro free
          rw [← free]
    | none =>
        rw [Option.isSome_none, if_neg (by simp)]
        rcases client_concluded_of_open opens n settled with ⟨open_, kept⟩ | dropped
        · rw [kept]
          constructor
          · -- the slot holds another transport than the client held before
            intro same
            rw [← same] at foreign
            exact absurd rfl foreign
          · rintro ⟨-, -, closed⟩
            exact absurd closed open_
        · rw [dropped]
          constructor
          · intro same
            rw [← same]
            exact ⟨rfl, rfl, rfl⟩
          · rintro ⟨session, transport, closed⟩
            have fields : after.client =
                { after.client with
                  state := after.client.state
                  session := after.client.session
                  transport := after.client.transport } := rfl
            rw [session, transport, closed] at fields
            exact fields.symm
  · intro failed
    obtain ⟨e, he⟩ := Option.isSome_iff_exists.1 failed
    exact client_concluded_of_error he n settled
  · intro opens
    rcases client_concluded_of_open opens n settled with ⟨-, kept⟩ | dropped
    · exact Or.inl kept
    · exact Or.inr dropped

/-- The channel is disconnected and opened again while the transport of the first connection is
being opened, which then fails: the handler of the second connection is let go of. -/
theorem spared_iff_after_timeout :
    let s := Scene.start ⟨"wss://bridge/channel", "a", .ofSeconds 10, .ofSeconds 2⟩
    let plan : Attempt := { connectError := some (.timeout (.ofSeconds 10)) }
    let during := [(Moment.opening, Step.disconnect), (Moment.opening, Step.connect {} [])]
    (s.WellPlaced ∧ s.gone = false ∧ s.client.config.hasAddress = true ∧
      s.client.state = .disconnected ∧ plan.createError = none ∧
      ∃ o ∈ (s.underway 2 plan during).since (s.answering 2 plan during), o.accepts = true) ∧
    ∃ s' success, s.perform 3 (.connect plan during) = (s', .connected success) ∧
      (s'.client = (s.answering 2 plan during).client ↔
        (s.answering 2 plan during).client.handler = none) := by
  intro s plan during
  have reachable : Reachable s.client.config s := .start
  have placed : s.WellPlaced := reachable.wellPlaced
  have here : s.gone = false := rfl
  have created : plan.createError = none := rfl
  have address : s.client.config.hasAddress = true := by decide +kernel
  have overtaken : ∃ o ∈ (s.underway 2 plan during).since (s.answering 2 plan during),
      o.accepts = true := by
    decide +kernel
  have idle : s.client.state = .disconnected ∨ s.client.state = .closed := Or.inl rfl
  obtain ⟨s', success, performed, spared, -⟩ :=
    spared_iff 2 placed here address idle created overtaken
  have failed : plan.connectError.isSome = true := rfl
  rw [if_pos failed] at spared
  exact ⟨⟨placed, here, address, rfl, created, overtaken⟩, s', success, performed, spared⟩

/-- **An attempt that was overtaken harms the connection that overtook it**, whether its own
transport could be opened or not.  In both runs the channel is disconnected and opened again while
the transport of the first connection is being opened, and the client holds the second connection in
every respect.  Then the first transport answers.  If it could not be opened, the second connection
is cut off.  If it could, the channel is closed and the second transport is not held any more,
though nobody has stopped it. -/
theorem overtaken_not_spared :
    let s := Scene.start ⟨"wss://bridge/channel", "a", .ofSeconds 10, .ofSeconds 2⟩
    let greeting := Signal.message "\x7b\"colibriClass\":\"ServerHello\"\x7d"
    let during := [(Moment.opening, Step.disconnect), (Moment.opening, Step.connect {} [])]
    let late : Attempt := { connectError := some (.timeout (.ofSeconds 10)) }
    let after := s.answering 2 late during
    let last := (s.perform 3 (.connect late during)).1
    let after' := s.answering 2 {} during
    let last' := (s.perform 3 (.connect {} during)).1
    (after.client.handler = some 1 ∧ after.client.session = some 1 ∧
      after.client.transport = some 1 ∧ after.client.state = .handshakePending ∧
      last.client.handler = none ∧ (last.perform 2 (.signal (some 1) greeting)).2 = .cutOff) ∧
    after'.client.handler = some 1 ∧ after'.client.session = some 1 ∧
      after'.client.transport = some 1 ∧ after'.client.state = .handshakePending ∧
      last'.client.session = none ∧ last'.client.transport = none ∧ last'.client.state = .closed ∧
      last'.account.any (Occurrence.stops 1) = false := by
  intro s greeting during late after last after' last'
  have second : after.client.handler = some 1 ∧ after.client.session = some 1 ∧
      after.client.transport = some 1 ∧ after.client.state = .handshakePending := by
    decide +kernel
  have cut : last.client.handler = none ∧
      (last.perform 2 (.signal (some 1) greeting)).2 = .cutOff := by
    decide +kernel
  have second' : after'.client.handler = some 1 ∧ after'.client.session = some 1 ∧
      after'.client.transport = some 1 ∧ after'.client.state = .handshakePending := by
    decide +kernel
  have dropped : last'.client.session = none ∧ last'.client.transport = none ∧
      last'.client.state = .closed ∧ last'.account.any (Occurrence.stops 1) = false := by
    decide +kernel
  exact ⟨⟨second.1, second.2.1, second.2.2.1, second.2.2.2, cut⟩, second'.1, second'.2.1,
    second'.2.2.1, second'.2.2.2, dropped⟩

end Scene

end BridgeChannel
