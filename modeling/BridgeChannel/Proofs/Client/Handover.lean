/-
**Signals that arrive before a new connection takes over.**

An attempt to connect moves the state first, and installs its handler only after what was left
behind is torn down and the factory has answered.  Until then the handler of the earlier connection
is the latest one, and what comes through it is heard.  Errors and frames other than greetings leave
log lines and nothing else.  Every other signal moves the state: a close makes the new attempt fail,
a greeting makes the channel ready before the new connection has greeted, and a session that is
handed over takes the place of the one that is not there yet.

Main definitions:

* `Turn.idle` — whether a turn leaves a channel that is being opened as it is;
* `Scene.Idles` — a stretch with no other turns;
* `Occurrence.lasting` — what an account tells but for log lines, and for where nested steps begin
  and end.

Main results:

* `alike_late`, `alike_cleared_late` — idle signals make no difference to the new connection;
* `idles_of_connecting` — no others leave the channel connecting;
* `unhindered_iff` — **which signals of earlier connections a new attempt can be told from**;
* `late_signals_hinder` — **a late close and a late greeting, at each point before the takeover**.
-/
import BridgeChannel.Proofs.Client.Alike
import BridgeChannel.Proofs.Client.Overlapping

set_option autoImplicit false

namespace BridgeChannel

/-- Whether a turn leaves a channel that is being opened as it is. -/
def Turn.idle : Turn → Bool
  | .heard (.failed _) => true
  | .heard (.message frame) => !(Signal.message frame).greets
  | _ => false

theorem Turn.effect_connecting_iff (turn : Turn) :
    turn.effect .connecting = .connecting ↔ turn.idle = true := by
  cases turn with
  | disconnected => simp [effect, idle]
  | heard signal =>
      cases signal with
      | message frame =>
          cases h : (Signal.message frame).greets <;> simp [effect, Signal.effect, idle, h]
      | _ => simp [effect, Signal.effect, idle, ConnectionState.after, Transition.target]

/-- A channel stays connecting over idle turns, and over no others. -/
theorem Turn.effects_connecting_iff (turns : List Turn) :
    effects .connecting turns = .connecting ↔ ∀ turn ∈ turns, turn.idle = true := by
  induction turns using List.reverseRecOn with
  | nil => simp [effects]
  | append_singleton turns turn ih =>
      rw [effects_concat]
      constructor
      · intro h
        have before := effect_eq_connecting h
        rw [before, effect_connecting_iff] at h
        intro t ht
        rcases List.mem_append.1 ht with ht | ht
        · exact ih.1 before t ht
        · rw [List.mem_singleton.1 ht]
          exact h
      · intro h
        rw [ih.2 fun t ht => h t (List.mem_append_left _ ht), effect_connecting_iff]
        exact h turn (by simp)

/-- What an account tells but for log lines, and for where nested steps begin and end. -/
def Occurrence.lasting : Occurrence → Bool
  | log _ => false
  | began _ => false
  | ended _ _ _ _ => false
  | _ => true

namespace Scene

/-! ### Idle stretches -/

/-- Between two scenes, there were idle turns only. -/
def Idles (s t : Scene) : Prop := ∀ turn ∈ turns (s.since t), turn.idle = true

namespace Idles

variable {s t u : Scene}

theorem left (h : Idles s u) (first : Grows s t) (second : Grows t u) : Idles s t := by
  intro turn hturn
  refine h turn ?_
  rw [since_trans first second, turns_append]
  exact List.mem_append_left _ hturn

theorem right (h : Idles s u) (first : Grows s t) (second : Grows t u) : Idles t u := by
  intro turn hturn
  refine h turn ?_
  rw [since_trans first second, turns_append]
  exact List.mem_append_right _ hturn

theorem append (h : Idles s t) (h' : Idles t u) (first : Grows s t) (second : Grows t u) :
    Idles s u := by
  intro turn hturn
  rw [since_trans first second, turns_append] at hturn
  rcases List.mem_append.1 hturn with hturn | hturn
  · exact h turn hturn
  · exact h' turn hturn

end Idles

/-! ### Late signals -/

/-- A frame other than a greeting leaves log lines as long as the channel is not ready. -/
theorem alike_receive_idle {react : Reaction} {frame : String} {s : Scene}
    (unready : s.client.state.isReady = false) (other : (Signal.message frame).greets = false) :
    Alike Occurrence.lasting (s.receive react frame) s := by
  have received : Alike Occurrence.lasting (s.log (.received frame)) s := .noted rfl s
  have passed : ∀ c line event,
      Alike Occurrence.lasting ((s.log (.received frame)).pass react c line event) s := by
    intro c line event
    have unready : (s.log (.received frame)).client.state.isReady = false := unready
    rw [pass, unready]
    exact (Alike.noted rfl _).trans received
  unfold receive
  dsimp only
  split
  next m decoded =>
    cases m with
    | serverHello version =>
        rw [Signal.greets_message_iff.2 ⟨version, decoded⟩] at other
        exact absurd other (by simp)
    | endpointMessage e => exact passed _ _ _
    | dominantSpeaker endpoint previous => exact passed _ _ _
    | connectivity endpoint active => exact passed _ _ _
    | senderVideoConstraints constraints => exact received
    | _ => exact (Alike.noted rfl _).trans received
  · exact (Alike.noted rfl _).trans received
  · exact (Alike.noted rfl _).trans received

/-- A signal that is listened to is a turn. -/
theorem heard_mem_turns {depth : Nat} {n : Nat} {signal : Signal} {s : Scene}
    (listens : s.listensTo n = true) :
    .heard signal ∈ turns (s.since (s.deliver (react (perform depth)) n signal)) := by
  have heard : Grows s (s.hear n signal) := respected_grows.hear n signal s
  have rest : Grows (s.hear n signal) ((s.called n signal).obey (react (perform depth)) n signal) :=
    respected_grows.inherited.exchanges (respected_grows.inherited.nest depth)
      (Exchanges.obey n signal s)
  have line : s.since (s.hear n signal) = [.log signal.line] :=
    since_of_account [_] (account_hear n signal s)
  rw [deliver_of_listens listens, since_trans heard rest, turns_append, line,
    turns_singleton (Occurrence.turn?_line signal)]
  exact List.mem_append_left _ (List.mem_singleton_self _)

/-- A late signal that is idle, or that nobody listens to, makes no difference. -/
theorem alike_deliver_idle {depth : Nat} {n : Nat} {signal : Signal} {s : Scene}
    (connecting : s.client.state = .connecting)
    (idle : Idles s (s.deliver (react (perform depth)) n signal)) :
    Alike Occurrence.lasting (s.deliver (react (perform depth)) n signal) s := by
  cases listens : s.listensTo n with
  | false => exact .deliver_deaf (fun _ _ => rfl) listens
  | true =>
      have turn := idle _ (heard_mem_turns listens)
      rw [deliver_of_listens listens]
      have called : Alike Occurrence.lasting (s.called n signal) s := .counted n signal s
      cases signal with
      | opened => exact absurd turn (by simp [Turn.idle])
      | closed code reason => exact absurd turn (by simp [Turn.idle])
      | failed e => exact (Alike.noted rfl _).trans called
      | message frame =>
          have other : (Signal.message frame).greets = false := by simpa [Turn.idle] using turn
          have unready : (s.called n (.message frame)).client.state.isReady = false := by
            rw [client_called, connecting]
            rfl
          exact (alike_receive_idle unready other).trans called

/-- A late signal as a step. -/
theorem alike_perform_late (depth : Nat) {connection : Option Nat} {signal : Signal} {s : Scene}
    (connecting : s.client.state = .connecting)
    (idle : Idles s (s.perform depth (.signal connection signal)).1) :
    Alike Occurrence.lasting (s.perform depth (.signal connection signal)).1 s := by
  cases depth with
  | zero => exact .refl s
  | succ depth =>
      unfold perform take atHandler atConnection at idle ⊢
      dsimp only at idle ⊢
      split at idle
      next n _ =>
        split at idle
        next alive =>
          rw [if_pos alive]
          refine .engaged_self (alike_deliver_idle connecting ?_)
          exact idle
        next dead =>
          rw [if_neg dead]
          exact .refl s
      · exact .refl s

theorem alike_nest_late (depth : Nat) {connection : Option Nat} {signal : Signal} {s : Scene}
    (connecting : s.client.state = .connecting)
    (idle : Idles s (s.nest (perform depth) (.signal connection signal))) :
    Alike Occurrence.lasting (s.nest (perform depth) (.signal connection signal)) s := by
  have began := Grows.note (.began (Step.signal connection signal).name) s
  have performed := respected_grows.inherited.perform depth (.signal connection signal)
    (s.note (.began (Step.signal connection signal).name))
  have ended : Grows _ (s.nest (perform depth) (.signal connection signal)) := Grows.note _
    (perform depth (.signal connection signal)
      (s.note (.began (Step.signal connection signal).name))).1
  have inner := (idle.left (began.trans performed) ended).right began performed
  have same := alike_perform_late depth (s := s.note _) connecting inner
  exact ((Alike.noted rfl _).trans same).trans (.noted rfl s)

/-- Late signals, one after the other. -/
theorem alike_nestAll_late (depth : Nat) {steps : List Step} {s : Scene}
    (late : ∀ step ∈ steps, ∃ connection signal, step = .signal connection signal)
    (connecting : s.client.state = .connecting) (idle : Idles s (s.nestAll (perform depth) steps)) :
    Alike Occurrence.lasting (s.nestAll (perform depth) steps) s := by
  induction steps generalizing s with
  | nil => exact .refl s
  | cons step steps ih =>
      obtain ⟨connection, signal, rfl⟩ := late step List.mem_cons_self
      have first := respected_grows.inherited.nest depth (.signal connection signal) s
      have others := respected_grows.inherited.nestAll (respected_grows.inherited.nest depth) steps
        (s.nest (perform depth) (.signal connection signal))
      have same := alike_nest_late depth connecting (idle.left first others)
      have connecting' : (s.nest (perform depth) (.signal connection signal)).client.state =
          .connecting := by
        rw [same.client, connecting]
      exact (ih (fun step h => late step (List.mem_cons_of_mem _ h)) connecting'
        (idle.right first others)).trans same

/-- Only signals, all of them before the transport of the new connection is asked to open. -/
def OnlyLateSignals (late : List (Moment × Step)) : Prop :=
  ∀ d ∈ late, d.1 ≠ .opening ∧ ∃ connection signal, d.2 = .signal connection signal

/-- Late signals that are idle make no difference at any point before the takeover. -/
theorem alike_late (depth : Nat) {during : List (Moment × Step)} (late : OnlyLateSignals during)
    {m : Moment} {s : Scene} (connecting : s.client.state = .connecting)
    (idle : Idles s (interludes (perform depth) during m s)) :
    Alike Occurrence.lasting (interludes (perform depth) during m s) s := by
  refine alike_nestAll_late depth (fun step hstep => ?_) connecting idle
  obtain ⟨d, hd, rfl⟩ := List.mem_map.1 hstep
  exact (late d (List.mem_filter.1 hd).1).2

/-! ### Until the factory has answered -/

section Cleared

variable {depth : Nat} {during : List (Moment × Step)} (late : OnlyLateSignals during) {s : Scene}
  (connecting : s.client.state = .connecting)

theorem grows_interludes (depth : Nat) (during : List (Moment × Step)) (m : Moment) (s : Scene) :
    Grows s (interludes (perform depth) during m s) :=
  respected_grows.inherited.interludes depth during m s

theorem grows_closeSession_rest (between : Interludes) (n : Nat) (s : Scene) :
    Grows (between .closing (s.note (.closed n))) (closeSession between n s) := by
  unfold closeSession
  dsimp only
  split
  · exact Grows.note _ _
  · split
    · exact Grows.refl _
    · exact respected_grows.update _ _ fun _ => rfl

theorem grows_stopTransport_rest (between : Interludes) (n : Nat) (s : Scene) :
    Grows (between .stopping (s.note (.stopped n))) (stopTransport between n s) := by
  unfold stopTransport
  dsimp only
  split
  · exact Grows.note _ _
  · exact Grows.refl _

include late connecting

theorem alike_dropSession_late
    (idle : Idles s (s.dropSession (interludes (perform depth) during))) :
    Alike Occurrence.lasting (s.dropSession (interludes (perform depth) during))
      (s.dropSession quietly) := by
  unfold dropSession at idle ⊢
  split
  · exact .refl s
  next n held =>
    simp only [held] at idle
    split
    next open_ =>
      rw [if_pos open_] at idle
      have before : Grows s ((s.setSession none).note (.closed n)) :=
        (respected_grows.setSession none s).trans (Grows.note _ _)
      have meanwhile := grows_interludes depth during .closing
        ((s.setSession none).note (.closed n))
      have rest := grows_closeSession_rest (interludes (perform depth) during) n (s.setSession none)
      have inner := (idle.left (before.trans meanwhile) rest).right before meanwhile
      exact .closeSession (alike_late depth late connecting inner)
    · exact .refl _

theorem alike_dropTransport_late
    (idle : Idles s (s.dropTransport (interludes (perform depth) during))) :
    Alike Occurrence.lasting (s.dropTransport (interludes (perform depth) during))
      (s.dropTransport quietly) := by
  unfold dropTransport at idle ⊢
  split
  · exact .refl s
  next n held =>
    simp only [held] at idle
    have before : Grows s ((s.setTransport none).note (.stopped n)) :=
      (respected_grows.leaveTransport s).trans (Grows.note _ _)
    have meanwhile := grows_interludes depth during .stopping
      ((s.setTransport none).note (.stopped n))
    have rest := grows_stopTransport_rest (interludes (perform depth) during) n
      (s.setTransport none)
    have inner := (idle.left (before.trans meanwhile) rest).right before meanwhile
    exact .stopTransport (alike_late depth late connecting inner)

theorem alike_teardown_late
    (idle : Idles s (s.teardown (interludes (perform depth) during))) :
    Alike Occurrence.lasting (s.teardown (interludes (perform depth) during))
      (s.teardown quietly) := by
  have first := respected_grows.phased.dropSession (grows_interludes depth during) s
  have second := respected_grows.phased.clearing.dropTransport (grows_interludes depth during)
    (s.dropSession (interludes (perform depth) during))
  have session := alike_dropSession_late late connecting (idle.left first second)
  have connecting' : (s.dropSession (interludes (perform depth) during)).client.state =
      .connecting := by
    rw [session.client, client_dropSession_quietly]
    exact connecting
  exact (alike_dropTransport_late late connecting' (idle.right first second)).trans
    (.dropTransport .quietly session)

end Cleared

/-- **Late signals that are idle make no difference to the scene in which the factory answers.** -/
theorem alike_cleared_late (depth : Nat) {during : List (Moment × Step)}
    (late : OnlyLateSignals during) {s : Scene}
    (startable : (Transition.target .beginConnect s.client.state).isSome)
    (idle : Idles s (s.cleared (interludes (perform depth) during))) :
    Alike Occurrence.lasting (s.cleared (interludes (perform depth) during))
      (s.cleared quietly) := by
  have connecting : (s.move .beginConnect).client.state = .connecting := by
    cases h : s.client.state <;> simp_all [ConnectionState.after, Transition.target]
  have moved : Grows s (s.move .beginConnect) := respected_grows.move _ s
  have clearing := respected_grows.phased.teardown (grows_interludes depth during)
    (s.move .beginConnect)
  have same := @alike_teardown_late depth _ late _ connecting
  have quiet : ((s.move .beginConnect).teardown quietly).client.state = .connecting := by
    rw [client_teardown_quietly]
    exact connecting
  unfold cleared at idle ⊢
  dsimp only at idle ⊢
  generalize (s.move .beginConnect).teardown (interludes (perform depth) during) = torn
    at idle same clearing ⊢
  have line := Grows.note (.log (.connecting torn.client.config.address)) torn
  have created := grows_interludes depth during .creating
    (torn.log (.connecting torn.client.config.address))
  have before := idle.left ((moved.trans clearing).trans line) created
  have torn_ := same ((before.left (moved.trans clearing) line).right moved clearing)
  have connecting' : (torn.log (.connecting torn.client.config.address)).client.state =
      .connecting := by
    rw [client_log, torn_.client, quiet]
  have late_ := alike_late depth late (m := .creating) connecting'
    (idle.right ((moved.trans clearing).trans line) created)
  refine late_.trans ?_
  rw [torn_.client]
  exact torn_.log _

/-! ### From the end of the attempt back to its start -/

/-- A channel that is connecting after a stretch in which anything may have happened was connecting
before it, and had idle turns only. -/
theorem idles_of_connecting {s t : Scene} (waits : Waits s t) (undisturbed : Undisturbed s t)
    (connecting : t.client.state = .connecting) :
    s.client.state = .connecting ∧ Idles s t := by
  obtain ⟨before, none_⟩ := waits.waits connecting
  have state := (undisturbed.holds none_).state
  rw [connecting, before] at state
  exact ⟨before, (Turn.effects_connecting_iff _).1 state.symm⟩

/-- Waiting and being undisturbed hold across a teardown. -/
theorem clearing_waits : Clearing fun s t => Waits s t ∧ Undisturbed s t where
  refl s := ⟨Waits.refl s, Undisturbed.clearing.refl s⟩
  trans h h' := ⟨h.1.trans h'.1, Undisturbed.clearing.trans h.2 h'.2⟩
  note plain untold s := ⟨Waits.note plain.accepts s, Undisturbed.clearing.note plain untold s⟩
  update n f s mild :=
    ⟨Waits.of_told (Steady.update mild n s).toGrows (since_eq_nil rfl)
      (fun _ ho => absurd ho (by simp)) id, Undisturbed.clearing.update n s mild⟩
  close opened := ⟨Waits.note rfl _, Undisturbed.clearing.close opened⟩
  letGo {n s} held := by
    refine ⟨Waits.of_told (Steady.letGo held).toGrows (since_of_account [.stopped n] rfl) ?_ id,
      Undisturbed.clearing.letGo held⟩
    intro o ho
    rw [List.mem_singleton.1 ho]
    rfl

/-- **If the channel is still connecting when the factory answers, what came before was idle.** -/
theorem idles_cleared_of_connecting {depth : Nat} {during : List (Moment × Step)} {s : Scene}
    (connecting : (s.cleared (interludes (perform depth) during)).client.state = .connecting) :
    Idles s (s.cleared (interludes (perform depth) during)) := by
  have both : ∀ m s, Waits s (interludes (perform depth) during m s) ∧
      Undisturbed s (interludes (perform depth) during m s) := fun m s =>
    ⟨Waits.inherited.interludes depth during m s, Undisturbed.inherited.interludes depth during m s⟩
  have moved : Grows s s.begun :=
    (respected_grows.move _ s).trans (respected_grows.setSession none _)
  have clearing : Waits s.begun _ ∧ Undisturbed s.begun _ :=
    clearing_waits.teardown both (s.move .beginConnect)
  unfold cleared at connecting ⊢
  dsimp only at connecting ⊢
  generalize (s.move .beginConnect).teardown (interludes (perform depth) during) = torn
    at connecting clearing ⊢
  -- the line that tells of the attempt stands between two stretches without an attempt
  have line := Grows.note (.log (.connecting torn.client.config.address)) torn
  obtain ⟨creating, undisturbed⟩ := both .creating
    (torn.log (.connecting torn.client.config.address))
  obtain ⟨connecting, second⟩ := idles_of_connecting creating undisturbed connecting
  obtain ⟨-, first⟩ := idles_of_connecting clearing.1 clearing.2 connecting
  have nothing : Idles s s.begun := by
    have untold : s.since s.begun = [] := since_eq_nil rfl
    rw [Idles, untold]
    exact fun _ h => absurd h (by simp [turns])
  have told : Idles torn (torn.log (.connecting torn.client.config.address)) := by
    have since : torn.since (torn.log (.connecting torn.client.config.address)) =
        [.log (.connecting torn.client.config.address)] := since_note _ _
    rw [Idles, since]
    exact fun _ h => absurd h (by simp [turns, Occurrence.turn?])
  have torn_ := nothing.append first moved clearing.1.toGrows
  have start := torn_.append told (moved.trans clearing.1.toGrows) line
  exact start.append second ((moved.trans clearing.1.toGrows).trans line) creating.toGrows

/-! ### Which late signals matter -/

/-- What happens before the transport is asked to open. -/
theorem interludes_late {act : Performance} (late : List (Moment × Step)) (meanwhile : List Step)
    {m : Moment} (early : m ≠ .opening) (s : Scene) :
    interludes act (late ++ meanwhile.map (Moment.opening, ·)) m s = interludes act late m s := by
  have none_ : labelled m (meanwhile.map (Moment.opening, ·)) = [] := by
    simp [labelled, early.symm]
  simp only [interludes, labelled, List.filter_append, List.map_append]
  rw [labelled] at none_
  rw [none_, List.append_nil]

/-- What happens while the transport is being opened. -/
theorem interludes_opening {act : Performance} {late : List (Moment × Step)}
    (signals : OnlyLateSignals late) (meanwhile : List Step) (s : Scene) :
    interludes act (late ++ meanwhile.map (Moment.opening, ·)) .opening s =
      interludes act (meanwhile.map (Moment.opening, ·)) .opening s := by
  have none_ : late.filter (fun d => d.1 == Moment.opening) = [] := by
    rw [List.filter_eq_nil_iff]
    intro d hd
    simpa using (signals d hd).1
  simp only [interludes, labelled, List.filter_append, none_, List.nil_append]

/-- An attempt that nothing happens in any more ends where it was, one move further. -/
theorem state_connect_unannounced {between : Interludes} {s : Scene}
    (nothing : ∀ u, between .opening u = u) (address : s.client.config.hasAddress = true)
    (start : (Transition.target .beginConnect s.client.state).isSome)
    (open_ : (s.cleared between).client.state ≠ .closed) :
    (s.connect { announced := false } between).1.client.state =
      (s.cleared between).client.state.after .transportOpened := by
  rw [connect_eq_of_created between address start rfl]
  generalize s.cleared between = c at open_ ⊢
  have client : (c.answered { announced := false } between).client =
      (c.launched { announced := false }).client := by
    rw [answered, openTransport, nothing]
    rfl
  have released :
      (c.answered { announced := false } between).isReleased c.network.length = false := by
    have there := getElem?_launched { announced := false } c
    rw [answered, openTransport, nothing, isReleased]
    simp only [Bool.false_eq_true, if_false, update, note, List.getElem?_modify, there]
    rfl
  have success : ((c.answered { announced := false } between).settle c.network.length).2 = true :=
    (success_settle _ _).2 ⟨released, by rw [client, client_launched]; exact open_⟩
  have concluded : ((c.answered { announced := false } between).concluded { announced := false }
      c.network.length).1.client =
        ((c.answered { announced := false } between).settle c.network.length).1.client := rfl
  rw [concluded, client_settle_of_success success, client, client_launched]

/-- Two attempts tell whether the channel is still connecting when the factory answers: one whose
transport cannot be created, and one that hands no session over before it is done. -/
theorem connecting_of_attempts {between between' : Interludes} {s : Scene}
    (nothing : ∀ u, between .opening u = u) (nothing' : ∀ u, between' .opening u = u)
    (address : s.client.config.hasAddress = true)
    (start : (Transition.target .beginConnect s.client.state).isSome)
    (connecting : (s.cleared between').client.state = .connecting)
    (agree : ∀ plan,
      (s.connect plan between).1.client.state = (s.connect plan between').1.client.state) :
    (s.cleared between).client.state = .connecting := by
  -- an attempt without a transport ends disconnected from two states only
  have failed : (s.cleared between).client.state = .connecting ∨
      (s.cleared between).client.state = .disconnected := by
    have state := agree { createError := some .stopped }
    rw [connect_eq_of_createError _ address start rfl,
      connect_eq_of_createError _ address start rfl] at state
    simp only [state_move, client_log, client_note, connecting] at state
    cases h : (s.cleared between).client.state with
    | connecting => exact .inl rfl
    | disconnected => exact .inr rfl
    | _ => exact absurd (h ▸ state) (by decide)
  rcases failed with connecting' | disconnected
  · exact connecting'
  · -- one whose transport opens tells these two apart
    have state := agree { announced := false }
    rw [state_connect_unannounced nothing address start (by rw [disconnected]; decide),
      state_connect_unannounced nothing' address start (by rw [connecting]; decide),
      connecting, disconnected] at state
    exact absurd state (by decide)

/-- **A new attempt cannot be told from one without late signals exactly if all of them that were
heard are idle**: errors, and frames other than greetings.  With any other one, some attempt comes
out differently. -/
theorem unhindered_iff (depth : Nat) {s : Scene} {late : List (Moment × Step)}
    (here : s.gone = false) (address : s.client.config.hasAddress = true)
    (startable : s.client.state = .disconnected ∨ s.client.state = .closed)
    (signals : OnlyLateSignals late) :
    (∀ plan (meanwhile : List Step),
      AlikeResults Occurrence.lasting
        (s.perform (depth + 1) (.connect plan (late ++ meanwhile.map (Moment.opening, ·))))
        (s.perform (depth + 1) (.connect plan (meanwhile.map (Moment.opening, ·))))) ↔
      ∀ turn ∈ turns (s.since (s.cleared (interludes (perform depth) late))), turn.idle = true := by
  have start := target_beginConnect_of_idle startable
  have before : ∀ meanwhile : List Step,
      s.cleared (interludes (perform depth) (late ++ meanwhile.map (Moment.opening, ·))) =
        s.cleared (interludes (perform depth) late) := fun meanwhile =>
    cleared_congr (fun m early s => interludes_late late meanwhile early s) s
  have quiet : ∀ meanwhile : List Step,
      s.cleared (interludes (perform depth) (meanwhile.map (Moment.opening, ·))) =
        s.cleared quietly := fun meanwhile =>
    cleared_congr (fun m early s => interludes_of_opening (by simp) early s) s
  constructor
  · intro agree
    have connecting : (s.cleared quietly).client.state = .connecting := by
      rw [client_cleared]
      rcases startable with h | h <;> rw [h] <;> rfl
    refine idles_cleared_of_connecting ?_
    rw [← before []]
    refine connecting_of_attempts (interludes_opening signals []) (fun _ => rfl) address start
      (by rw [quiet [], connecting]) fun plan => ?_
    have same := (agree plan []).1.client
    rw [perform_connect here, perform_connect here] at same
    exact congrArg Client.state same
  · intro idle plan meanwhile
    have cleared := alike_cleared_late depth signals start idle
    rw [← before meanwhile, ← quiet meanwhile] at cleared
    have opening : ∀ {u v}, Alike Occurrence.lasting u v →
        Alike Occurrence.lasting
          (interludes (perform depth) (late ++ meanwhile.map (Moment.opening, ·)) .opening u)
          (interludes (perform depth) (meanwhile.map (Moment.opening, ·)) .opening v) := by
      intro u v h
      rw [interludes_opening signals]
      exact (alikeActs_perform depth).interludes _ _ h
    obtain ⟨same, success⟩ := (Alike.refl s).connect_of_cleared opening cleared plan
    rw [perform_connect here, perform_connect here]
    exact ⟨same, congrArg Outcome.connected success⟩

/-- The bridge has closed the first connection, which reports an error while its transport is being
stopped, and sends a frame while the new one is being created: both are heard, and no attempt can be
told from one without them. -/
theorem unhindered_iff_late_error :
    let s := (((Scene.start ⟨"wss://bridge/channel", "a", .ofSeconds 10, .ofSeconds 2⟩).perform 2
      (.connect {} [])).1.perform 2 (.signal none (.closed 1000 ""))).1
    let late := [(Moment.stopping, Step.signal (some 0) (.failed .closed)),
      (Moment.creating, Step.signal none (.message "\x7b\"colibriClass\":\"ClientHello\"\x7d"))]
    (s.gone = false ∧ s.client.config.hasAddress = true ∧ s.client.state = .closed ∧
      OnlyLateSignals late ∧
      (turns (s.since (s.cleared (interludes (perform 1) late)))).length = 2 ∧
      ∀ turn ∈ turns (s.since (s.cleared (interludes (perform 1) late))), turn.idle = true) ∧
    ∀ plan (meanwhile : List Step),
      AlikeResults Occurrence.lasting
        (s.perform 2 (.connect plan (late ++ meanwhile.map (Moment.opening, ·))))
        (s.perform 2 (.connect plan (meanwhile.map (Moment.opening, ·)))) := by
  intro s late
  have here : s.gone = false := by decide +kernel
  have address : s.client.config.hasAddress = true := by decide +kernel
  have closed : s.client.state = .closed := by decide +kernel
  have signals : OnlyLateSignals late := by
    intro d hd
    simp only [late, List.mem_cons, List.not_mem_nil, or_false] at hd
    rcases hd with rfl | rfl
    · exact ⟨by decide, _, _, rfl⟩
    · exact ⟨by decide, _, _, rfl⟩
  have heard : (turns (s.since (s.cleared (interludes (perform 1) late)))).length = 2 := by
    decide +kernel
  have idle : ∀ turn ∈ turns (s.since (s.cleared (interludes (perform 1) late))),
      turn.idle = true := by
    rw [← List.all_eq_true]
    decide +kernel
  exact ⟨⟨here, address, closed, signals, heard, idle⟩,
    (unhindered_iff 1 here address (.inr closed) signals).2 idle⟩

/-- **What an earlier connection signals late hinders a new attempt.**  The bridge has closed the
first connection.  By itself, the new attempt succeeds and waits for a greeting.  A close of the
first connection, at any point before the new one takes over, makes it fail; a greeting of the first
connection makes the channel ready before the new one has greeted.  After an attempt whose transport
cannot be created, the first connection still makes the channel ready. -/
theorem late_signals_hinder :
    let s := (((Scene.start ⟨"wss://bridge/channel", "a", .ofSeconds 10, .ofSeconds 2⟩).perform 2
      (.connect {} [])).1.perform 2 (.signal none (.closed 1000 ""))).1
    let close := Step.signal (some 0) (.closed 1000 "")
    let greeting := Step.signal (some 0) (.message "\x7b\"colibriClass\":\"ServerHello\"\x7d")
    let result := fun late => s.perform 2 (.connect {} late)
    let uncreated := (s.perform 2 (.connect { createError := some .stopped } [])).1
    ((result []).2 = .connected true ∧ (result []).1.client.state = .handshakePending) ∧
    (∀ m ∈ [Moment.closing, .stopping, .creating],
      (result [(m, close)]).2 = .connected false ∧
      (result [(m, close)]).1.client.state = .closed ∧
      (result [(m, greeting)]).2 = .connected true ∧
      (result [(m, greeting)]).1.client.state = .ready) ∧
    uncreated.client.state = .disconnected ∧
      (uncreated.perform 2 greeting).1.client.state = .ready := by
  decide +kernel

end Scene

end BridgeChannel
