/-
**How an attempt to connect ends.**

While the transport of a new connection is being opened, anything may happen: signals of the new
connection and of older ones, messages that are sent, calls of `disconnect`, observers that come and
go and react.  When the transport answers that it is open, the attempt is decided by the turns that
took place meanwhile.  It succeeds if nobody disconnected and every close that was heard was
followed by a greeting; otherwise what it has opened is closed and stopped again.

Main definitions:

* `Scene.underway`, `Scene.answering` — the scenes in which the transport is asked to open, and in
  which it answers;
* `Scene.Settled` — the end of an attempt, as a matter of what happened between the two.

Main results:

* `settled_settle` — what the client makes of the answer, whatever happened before it;
* `connect_settled` — **the end of an attempt whose transport opens**.
-/
import BridgeChannel.Proofs.Client.Reachable
import BridgeChannel.Proofs.Client.Steady

set_option autoImplicit false

namespace BridgeChannel

/-! ### Turns without a disconnect -/

/-- Without a disconnect, the turns are the signals that were heard. -/
theorem turns_eq_map_heard {turns : List Turn} (kept : Turn.disconnected ∉ turns) :
    turns = (turns.filterMap Turn.signal?).map Turn.heard := by
  induction turns with
  | nil => rfl
  | cons turn turns ih =>
      have rest : Turn.disconnected ∉ turns := fun h => kept (List.mem_cons_of_mem _ h)
      cases turn with
      | heard signal =>
          have signal? : (Turn.heard signal).signal? = some signal := rfl
          rw [List.filterMap_cons_some signal?, List.map_cons, ← ih rest]
      | disconnected => exact absurd List.mem_cons_self kept

theorem any_greets_map_heard (signals : List Signal) :
    (signals.map Turn.heard).any Turn.greets = signals.any Signal.greets := by
  rw [List.any_map]
  rfl

/-- Without a disconnect, it is the signals that have to be followed. -/
theorem eachFollowed_heard {turns : List Turn} (kept : Turn.disconnected ∉ turns) :
    EachFollowed Turn.closes Turn.greets turns ↔
      EachFollowed Signal.closes Signal.greets (turns.filterMap Turn.signal?) := by
  have same : EachFollowed Turn.closes Turn.greets turns ↔
      EachFollowed Turn.closes Turn.greets ((turns.filterMap Turn.signal?).map Turn.heard) := by
    rw [← turns_eq_map_heard kept]
  rw [same]
  exact eachFollowed_map

namespace Scene

/-! ### The start of an attempt -/

/-- The scene in which the transport of a new connection is asked to open, if steps are performed at
the points of the attempt. -/
def underway (depth : Nat) (plan : Attempt) (during : List (Moment × Step)) (s : Scene) : Scene :=
  (s.cleared (interludes (perform depth) during)).launched plan

/-- The scene in which that transport answers. -/
def answering (depth : Nat) (plan : Attempt) (during : List (Moment × Step)) (s : Scene) : Scene :=
  (s.cleared (interludes (perform depth) during)).answered plan (interludes (perform depth) during)

theorem Inherited.answering {R : Scene → Scene → Prop} (h : Inherited R) (depth : Nat)
    (plan : Attempt) (during : List (Moment × Step)) (s : Scene) :
    R (s.underway depth plan during) (s.answering depth plan during) :=
  h.openTransport (h.interludes depth during) plan _ _

/-- What was left behind is torn down before the factory is asked. -/
theorem still_cleared (s : Scene) : Still (s.move .beginConnect) (s.cleared quietly) :=
  (Still.teardown _).trans (Still.note ⟨rfl, fun _ => rfl⟩ _)

theorem client_cleared (s : Scene) :
    (s.cleared quietly).client =
      { s.client with
        state := s.client.state.after .beginConnect, session := none, transport := none } := by
  unfold cleared
  dsimp only [quietly]
  rw [client_log, client_teardown_quietly]
  rfl

theorem length_cleared (s : Scene) : (s.cleared quietly).network.length = s.network.length :=
  (still_cleared s).length

theorem gone_cleared (s : Scene) : (s.cleared quietly).gone = s.gone := (still_cleared s).gone

/-- The new connection is the latest one, and the client holds nothing. -/
theorem client_launched_cleared (plan : Attempt) (s : Scene) :
    ((s.cleared quietly).launched plan).client =
      { s.client with
        state := s.client.state.after .beginConnect
        session := none
        transport := none
        generation := s.client.generation + 1
        handler := some s.network.length } := by
  rw [client_launched, client_cleared, length_cleared]

theorem getElem?_launched_cleared (plan : Attempt) (s : Scene) :
    ((s.cleared quietly).launched plan).network[s.network.length]? =
      some { conduct := plan, generation := s.client.generation + 1, running := 1 } := by
  have launched := getElem?_launched plan (s.cleared quietly)
  rw [length_cleared, client_cleared] at launched
  exact launched

theorem isReleased_launched_cleared (plan : Attempt) (s : Scene) :
    ((s.cleared quietly).launched plan).isReleased s.network.length = false := by
  rw [isReleased, getElem?_launched_cleared]
  rfl

/-- Until the generations come full circle, the client listens to the new connection alone. -/
theorem listensTo_launched_cleared {plan : Attempt} {s : Scene} (here : s.gone = false)
    (numbered : s.Numbered) (few : s.network.length + 1 < 2 ^ 64) (k : Nat) :
    ((s.cleared quietly).launched plan).listensTo k = (k == s.network.length) := by
  have present : ((s.cleared quietly).launched plan).gone = false := (gone_cleared s).trans here
  rw [listensTo, present, client_launched_cleared]
  -- an older connection, the new one, or none at all
  rcases Nat.lt_trichotomy k s.network.length with older | rfl | beyond
  · have earlier : k < (s.cleared quietly).network.length := by rwa [length_cleared]
    have generation : ((s.cleared quietly).launched plan).network[k]?.map Connection.generation =
        s.network[k]?.map Connection.generation := by
      rw [getElem?_launched_of_lt earlier]
      exact (still_cleared s).links k
    have different := numbered.ne_next few s.network[k] (List.getElem_mem older)
    rw [generation, List.getElem?_eq_getElem older]
    simp [different, Nat.ne_of_lt older]
  · rw [getElem?_launched_cleared]
    simp
  · have length : ((s.cleared quietly).launched plan).network.length = s.network.length + 1 := by
      rw [length_launched, length_cleared]
    have absent : ((s.cleared quietly).launched plan).network[k]? = none := by
      rw [List.getElem?_eq_none_iff]
      omega
    rw [absent]
    simp [Nat.ne_of_gt beyond]

/-! ### Steps that are all performed while the transport is being opened -/

theorem interludes_of_opening {act : Performance} {during : List (Moment × Step)}
    (opening : ∀ d ∈ during, d.1 = .opening) {m : Moment} (other : m ≠ .opening) (s : Scene) :
    interludes act during m s = s := by
  have none_ : labelled m during = [] := by
    rw [labelled, List.map_eq_nil_iff, List.filter_eq_nil_iff]
    intro d hd
    rw [opening d hd]
    simpa using other.symm
  rw [interludes, none_]
  rfl

/-- What happens while the transport is being opened makes no difference before. -/
theorem cleared_congr {between between' : Interludes}
    (same : ∀ m, m ≠ .opening → ∀ s, between m s = between' m s) (s : Scene) :
    s.cleared between = s.cleared between' := by
  have closing : between .closing = between' .closing := funext (same .closing (by decide))
  have stopping : between .stopping = between' .stopping := funext (same .stopping (by decide))
  have creating : between .creating = between' .creating := funext (same .creating (by decide))
  have session : dropSession between = dropSession between' := by
    funext s
    unfold dropSession closeSession
    rw [closing]
  have transport : dropTransport between = dropTransport between' := by
    funext s
    unfold dropTransport stopTransport
    rw [stopping]
  unfold cleared teardown
  rw [session, transport, creating]

/-! ### The end of an attempt -/

/-- The end of an attempt whose transport opens: `before` is the scene in which the transport of the
`n`-th connection is asked to open, `after` the one in which it answers, and `s'` the last one. -/
structure Settled (before after : Scene) (n : Nat) (s' : Scene) (success : Bool) : Prop where
  /-- The attempt succeeds if nobody disconnected, and every close was followed by a greeting. -/
  success_iff : success = true ↔
    Turn.disconnected ∉ turns (before.since after) ∧
      EachFollowed Signal.closes Signal.greets (after.heard (before.callsSince after))
  /-- The channel is ready if the bridge has greeted, and pending if it has not. -/
  state : s'.client.state =
    if success then
      if (after.heard (before.callsSince after)).any Signal.greets then .ready
      else .handshakePending
    else .closed
  session : s'.client.session = if success then some n else none
  transport : s'.client.transport = if success then some n else none
  /-- The transport is stopped once if the attempt fails, and not at all if it succeeds. -/
  stops : (before.since s').countP (Occurrence.stops n) = if success then 0 else 1
  /-- The session is closed if the attempt fails and finds it open, and only then. -/
  closes : Occurrence.closed n ∈ after.since s' ↔ success = false ∧ after.isOpen n = true

/-- The new connection fills both slots. -/
def filled (n : Nat) (s : Scene) : Scene :=
  ((s.setSession (some n)).setTransport (some n)).move .transportOpened

/-- The attempt has failed, and what it has opened is about to be torn down. -/
def forfeited (n : Nat) (s : Scene) : Scene :=
  ((s.filled n).log .closedWhileConnecting).move .closed

theorem settle_eq (n : Nat) (s : Scene) :
    s.settle n =
      if s.isReleased n || s.client.state.after .transportOpened == .closed then
        ((s.forfeited n).teardown quietly, false)
      else ((s.filled n).log .connected, true) := rfl

/-- An attempt succeeds unless its connection was released or the channel closed. -/
theorem success_settle (n : Nat) (s : Scene) :
    (s.settle n).2 = true ↔ s.isReleased n = false ∧ s.client.state ≠ .closed := by
  rw [settle_eq, ne_eq, ← ConnectionState.after_transportOpened_eq_closed]
  cases released : s.isReleased n with
  | true => simp
  | false =>
      by_cases closed : s.client.state.after .transportOpened = .closed
      · simp [closed]
      · simp [closed]

theorem settle_of_success {n : Nat} {s : Scene} (success : (s.settle n).2 = true) :
    (s.settle n).1 = (s.filled n).log .connected := by
  rw [settle_eq] at success ⊢
  split at success
  · exact absurd success (by simp)
  next open_ => rw [if_neg open_]

theorem settle_of_failure {n : Nat} {s : Scene} (failure : (s.settle n).2 = false) :
    (s.settle n).1 = (s.forfeited n).teardown quietly := by
  rw [settle_eq] at failure ⊢
  split at failure
  next closed => rw [if_pos closed]
  · exact absurd failure (by simp)

/-- An attempt that fails closes its session, if it is open, and stops its transport. -/
theorem since_forfeited (n : Nat) (s : Scene) :
    ∃ first second, OnlyLines first ∧ OnlyLines second ∧
      s.since ((s.forfeited n).teardown quietly) =
        .log .closedWhileConnecting :: (if s.isOpen n then [.closed n] else []) ++ first ++
          .stopped n :: second := by
  obtain ⟨first, second, hfirst, hsecond, told⟩ := since_teardown (s.forfeited n)
  refine ⟨first, second, hfirst, hsecond, ?_⟩
  have line : s.since (s.forfeited n) = [.log .closedWhileConnecting] :=
    since_of_account [_] rfl
  have grows : Grows s (s.forfeited n) :=
    ⟨List.suffix_cons _ _, List.suffix_refl _, Nat.le_refl _⟩
  have session : (s.forfeited n).openSession?.toList.map Occurrence.closed =
      if s.isOpen n then [.closed n] else [] := by
    have same : (s.forfeited n).openSession? = (some n).filter s.isOpen := rfl
    rw [same, Option.filter_some]
    split <;> rfl
  have transport : (s.forfeited n).client.transport.toList.map Occurrence.stopped =
      [.stopped n] := rfl
  rw [since_trans grows (Still.teardown _).toGrows, line, told, session, transport]
  simp

theorem grows_settle (n : Nat) (s : Scene) : Grows s (s.settle n).1 := by
  cases success : (s.settle n).2 with
  | true =>
      rw [settle_of_success success]
      exact ⟨List.suffix_cons _ _, List.suffix_refl _, Nat.le_refl _⟩
  | false =>
      rw [settle_of_failure success]
      have grows : Grows s (s.forfeited n) :=
        ⟨List.suffix_cons _ _, List.suffix_refl _, Nat.le_refl _⟩
      exact grows.trans (Still.teardown _).toGrows

/-- Whatever the client makes of the answer, nothing is taken back. -/
theorem grows_concluded (plan : Attempt) (n : Nat) (s : Scene) :
    Grows s (s.concluded plan n).1 := by
  unfold concluded
  cases plan.connectError with
  | some e =>
      exact (respected_grows.phased.giveUp e n s).trans (respected_grows.update _ _ fun _ => rfl)
  | none => exact (grows_settle n s).trans (respected_grows.update _ _ fun _ => rfl)

theorem since_settle_of_success {n : Nat} {s : Scene} (success : (s.settle n).2 = true) :
    s.since (s.settle n).1 = [.log .connected] := by
  rw [settle_of_success success]
  exact since_of_account [_] rfl

/-- An attempt that fails late leaves a closed channel behind. -/
theorem client_settle_of_failure {n : Nat} {s : Scene} (failure : (s.settle n).2 = false) :
    (s.settle n).1.client =
      { s.client with state := .closed, session := none, transport := none } := by
  rw [settle_of_failure failure, client_teardown_quietly]
  rfl

/-- An attempt that succeeds keeps its connection. -/
theorem client_settle_of_success {n : Nat} {s : Scene} (success : (s.settle n).2 = true) :
    (s.settle n).1.client =
      { s.client with
        state := s.client.state.after .transportOpened
        session := some n
        transport := some n } := by
  rw [settle_of_success success]
  rfl

theorem countP_stops_of_onlyLines {occurrences : List Occurrence} (h : OnlyLines occurrences)
    (n : Nat) : occurrences.countP (Occurrence.stops n) = 0 := by
  rw [List.countP_eq_zero]
  intro o ho
  obtain ⟨line, rfl⟩ := h o ho
  simp [Occurrence.stops]

/-- What comes of the answer of the transport, besides the state. -/
theorem settle_tells (n : Nat) (s : Scene) :
    (s.since (s.settle n).1).countP (Occurrence.stops n) = (if (s.settle n).2 then 0 else 1) ∧
      (Occurrence.closed n ∈ s.since (s.settle n).1 ↔
        (s.settle n).2 = false ∧ s.isOpen n = true) := by
  cases success : (s.settle n).2 with
  | true =>
      rw [since_settle_of_success success]
      simp [Occurrence.stops]
  | false =>
      obtain ⟨first, second, hfirst, hsecond, told⟩ := since_forfeited n s
      rw [settle_of_failure success, told]
      have unstopped := countP_stops_of_onlyLines hfirst n
      have unstopped' := countP_stops_of_onlyLines hsecond n
      have unclosed : Occurrence.closed n ∉ first := hfirst.not_mem (by simp)
      have unclosed' : Occurrence.closed n ∉ second := hsecond.not_mem (by simp)
      cases s.isOpen n <;>
        simp [Occurrence.stops, unstopped, unstopped', unclosed, unclosed']

/-- An attempt succeeds unless somebody disconnected while its transport was being opened, or the
channel is closed. -/
theorem success_settle_iff {before after : Scene} {n : Nat} (steady : Steady before after)
    (latest : before.client.handler = some n) (there : n < before.network.length)
    (unreleased : before.isReleased n = false) :
    (after.settle n).2 = true ↔
      Turn.disconnected ∉ turns (before.since after) ∧ after.client.state ≠ .closed := by
  have released : after.isReleased n = true ↔ Turn.disconnected ∈ turns (before.since after) := by
    rw [steady.released, unreleased, latest]
    simp [there]
  rw [success_settle, ← released, Bool.not_eq_true]

/-- **What the client makes of the answer of the transport.** -/
theorem settled_settle {before after : Scene} {n : Nat} (steady : Steady before after)
    (latest : before.client.handler = some n) (there : n < before.network.length)
    (unreleased : before.isReleased n = false) (connecting : before.client.state = .connecting)
    (empty : before.client.transport = none) :
    Settled before after n (after.settle n).1 (after.settle n).2 := by
  have signals : after.heard (before.callsSince after) =
      (turns (before.since after)).filterMap Turn.signal? := by
    rw [steady.heard, heard_congr steady.listensTo]
  have state : after.client.state = Turn.effects .connecting (turns (before.since after)) := by
    rw [steady.state, connecting]
  have decided : (after.settle n).2 = true ↔ Turn.disconnected ∉ turns (before.since after) ∧
      EachFollowed Turn.closes Turn.greets (turns (before.since after)) := by
    rw [success_settle_iff steady latest there unreleased, state,
      Turn.effects_ne_closed_iff (by decide)]
  -- before the answer, nobody holds the new transport, so that nobody can have stopped it
  have unstopped := steady.unstopped empty n
  obtain ⟨stops, closes⟩ := settle_tells n after
  refine
    { success_iff := ?_
      state := ?_
      session := ?_
      transport := ?_
      stops := ?_
      closes := closes }
  · rw [decided, signals]
    constructor
    · rintro ⟨kept, answered⟩
      exact ⟨kept, (eachFollowed_heard kept).1 answered⟩
    · rintro ⟨kept, answered⟩
      exact ⟨kept, (eachFollowed_heard kept).2 answered⟩
  · cases success : (after.settle n).2 with
    | true =>
        obtain ⟨kept, answered⟩ := decided.1 success
        have greeted : (turns (before.since after)).any Turn.greets =
            ((turns (before.since after)).filterMap Turn.signal?).any Signal.greets := by
          rw [← any_greets_map_heard, ← turns_eq_map_heard kept]
        rw [client_settle_of_success success]
        dsimp only
        rw [state, Turn.effects_of_answered answered, greeted, signals]
        rfl
    | false =>
        rw [client_settle_of_failure success]
        rfl
  · cases success : (after.settle n).2 with
    | true =>
        rw [client_settle_of_success success]
        rfl
    | false =>
        rw [client_settle_of_failure success]
        rfl
  · cases success : (after.settle n).2 with
    | true =>
        rw [client_settle_of_success success]
        rfl
    | false =>
        rw [client_settle_of_failure success]
        rfl
  · rw [since_trans steady.toGrows (grows_settle n after), List.countP_append, unstopped, stops,
      Nat.zero_add]

/-! ### An attempt to connect -/

/-- **The end of an attempt whose transport opens**, whatever is performed while it is being opened:
signals of the new connection and of older ones, messages, disconnecting, observers with their
reactions, in any number and order.  Only attempts to connect that were not refused are left out.

The last part says whose signals count: in a scene that scripts lead to, as long as generations have
not come full circle, those of the new connection and no others. -/
theorem connect_settled (depth : Nat) {s : Scene} {plan : Attempt} {during : List (Moment × Step)}
    (here : s.gone = false) (address : s.client.config.hasAddress = true)
    (idle : s.client.state = .disconnected ∨ s.client.state = .closed)
    (created : plan.createError = none) (opens : plan.connectError = none)
    (opening : ∀ d ∈ during, d.1 = .opening)
    (alone : NoneAccepted
      ((s.underway depth plan during).since (s.answering depth plan during))) :
    ∃ s' success, s.perform (depth + 1) (.connect plan during) = (s', .connected success) ∧
      Settled (s.underway depth plan during) (s.answering depth plan during) s.network.length
        s' success ∧
      (∀ config, Reachable config s → s.network.length + 1 < 2 ^ 64 → ∀ calls,
        (s.answering depth plan during).heard calls =
          (calls.filter fun call => call.1 == s.network.length).map Prod.snd) := by
  have started : s.client.state.after .beginConnect = .connecting := by
    rcases idle with idle | idle <;> rw [idle] <;> rfl
  have cleared : s.cleared (interludes (perform depth) during) = s.cleared quietly :=
    cleared_congr (fun m other s => interludes_of_opening opening other s) s
  -- nothing is performed before the transport is asked to open
  have before : s.underway depth plan during = (s.cleared quietly).launched plan := by
    rw [underway, cleared]
  have steady := (Undisturbed.inherited.answering depth plan during s).holds alone
  have length : (s.underway depth plan during).network.length = s.network.length + 1 := by
    rw [before, length_launched, length_cleared]
  have client := client_launched_cleared plan s
  rw [← before] at client
  have settled := settled_settle (n := s.network.length) steady (by rw [client]) (by omega)
    (by rw [before]; exact isReleased_launched_cleared plan s)
    (by rw [client]; exact started) (by rw [client])
  have concluded : s.connect plan (interludes (perform depth) during) =
      (s.answering depth plan during).concluded plan s.network.length := by
    rw [connect_eq_of_created _ address (target_beginConnect_of_idle idle) created, answering,
      cleared, length_cleared]
  refine ⟨((s.answering depth plan during).settle s.network.length).1.update s.network.length
      fun c => { c with running := c.running - 1 },
    ((s.answering depth plan during).settle s.network.length).2, ?_, ?_, ?_⟩
  · rw [perform_connect here, concluded]
    simp only [Scene.concluded, opens]
  · -- giving the handler free is no matter of the client or the account
    exact ⟨settled.success_iff, settled.state, settled.session, settled.transport, settled.stops,
      settled.closes⟩
  · intro config reachable few calls
    rw [heard_congr steady.listensTo, heard, before]
    congr 2
    funext call
    exact listensTo_launched_cleared here reachable.numbered few call.1

/-- While the transport is being opened, the bridge closes the connection and then greets; the
attempt succeeds. -/
theorem connect_settled_greeted :
    let s := Scene.start { address := "wss://bridge/channel", endpoint := "a" }
    let during := [(Moment.opening, Step.signal none (.closed 1000 "")),
      (Moment.opening, Step.signal none (.message "\x7b\"colibriClass\":\"ServerHello\"\x7d"))]
    (s.gone = false ∧ s.client.config.hasAddress = true ∧ s.client.state = .disconnected ∧
      (∀ d ∈ during, d.1 = .opening) ∧
      NoneAccepted ((s.underway 1 {} during).since (s.answering 1 {} during))) ∧
    ∃ s' success, s.perform 2 (.connect {} during) = (s', .connected success) ∧
      Settled (s.underway 1 {} during) (s.answering 1 {} during) 0 s' success ∧
      ∀ calls, (s.answering 1 {} during).heard calls =
        (calls.filter fun call => call.1 == 0).map Prod.snd := by
  intro s during
  have here : s.gone = false := rfl
  have address : s.client.config.hasAddress = true := by decide +kernel
  have idle : s.client.state = .disconnected := rfl
  have opening : ∀ d ∈ during, d.1 = .opening := by
    intro d hd
    rcases List.mem_cons.1 hd with rfl | hd
    · rfl
    · rw [List.mem_singleton.1 hd]
  have alone : NoneAccepted ((s.underway 1 {} during).since (s.answering 1 {} during)) := by
    unfold NoneAccepted
    decide +kernel
  have reachable : Reachable s.client.config s := .start
  have few : s.network.length + 1 < 2 ^ 64 := by decide
  obtain ⟨s', success, performed, settled, own⟩ :=
    connect_settled 1 here address (Or.inl idle) rfl rfl opening alone
  exact ⟨⟨here, address, idle, opening, alone⟩, s', success, performed, settled,
    own _ reachable few⟩

end Scene

end BridgeChannel
