/-
**What is handed to sessions.**

A message is handed to a session if the client holds that session, if it is open, and if the message
can be written.  The client hands over the messages of the application once the channel is ready,
and it answers the greeting of the bridge with two messages of its own.

If observers do not call back, whatever they do is none of the client's business: while they are
told a piece of news, nothing is handed to a session, and the session that the client holds and the
state of the channel stay as they are.  So the second answer to a greeting goes out as the first one
does, if the session is still open once the observers have been told.

Main definitions:

* `Step.isBystander`, `Roster.Calm` — steps that leave the client alone, and observers that react
  with nothing else;
* `Scene.Lull` — elementary changes in which nothing is handed to a session;
* `Scene.handed` — what handing a message over comes to;
* `Scene.Hands` — what was handed over between two scenes.

Main results:

* `encode_ok_iff` — **every message but those of an unknown class can be written**;
* `lulls_tell` — **nothing is handed over while observers are told**, if they do not call back;
* `hands_sendMessage`, `hands_deliver` — **what the application and the bridge make the client hand
  over**.
-/
import BridgeChannel.Proofs.Client.Apart
import BridgeChannel.Proofs.Client.Overlapping

set_option autoImplicit false

namespace BridgeChannel

/-- Every message can be written, but those of an unknown class. -/
theorem Message.encode_ok_iff (m : Message) :
    (∃ text, m.encode = .ok text) ↔ ∀ name body, m ≠ .unknown name body := by
  cases m with
  | unknown name body =>
      rw [Message.encode_unknown]
      exact ⟨fun ⟨_, h⟩ => absurd h (by simp), fun other => absurd rfl (other name body)⟩
  | _ => exact ⟨fun _ _ _ => by simp, fun _ => ⟨_, rfl⟩⟩

/-! ### Observers that do not call back -/

/-- Whether a step is none of the client's business. -/
def Step.isBystander : Step → Bool
  | query => true
  | dropObserver _ => true
  | setOpen _ _ => true
  | hold _ => true
  | release _ => true
  | _ => false

namespace Roster

/-- No observer reacts with anything that calls back. -/
def Calm (r : Roster Observer) : Prop :=
  ∀ o ∈ r.everyone, ∀ reaction ∈ o.reactions, reaction.2.isBystander = true

namespace Calm

variable {r r' : Roster Observer}

theorem of_everyone (everyone : r'.everyone = r.everyone) (h : r.Calm) : r'.Calm := by
  intro o ho
  rw [everyone] at ho
  exact h o ho

/-- An observer spends a reaction. -/
theorem update (n : Nat) {f : Observer → Observer} (reactions : ∀ o, (f o).reactions = o.reactions)
    (h : r.Calm) : (r.update n f).Calm := by
  intro o ho
  obtain ⟨m, hm⟩ := List.mem_iff_getElem?.1 ho
  rw [Roster.update, List.getElem?_modify] at hm
  obtain ⟨o', ho', rfl⟩ := Option.map_eq_some_iff.1 hm
  have calm := h o' (List.mem_of_getElem? ho')
  split
  · rw [reactions]
    exact calm
  · exact calm

/-- A new observer comes into being. -/
theorem create {o : Observer} (calm : ∀ reaction ∈ o.reactions, reaction.2.isBystander = true)
    (h : r.Calm) : (r.create o).Calm := by
  intro o' ho'
  rcases List.mem_append.1 ho' with old | new
  · exact h o' old
  · rw [List.mem_singleton.1 new]
    exact calm

end Calm

end Roster

namespace Scene

/-! ### Nothing is handed over -/

/-- The elementary changes in which nothing is handed to a session, no handler is called, the
application asks for nothing, and neither the session that the client holds nor the state of the
channel changes.  Observers that do not call back are not replaced by others that do. -/
inductive Lull : Scene → Scene → Prop
  | note (s : Scene) (o : Occurrence) : Lull s (s.note o)
  | update (s : Scene) (n : Nat) {f : Connection → Connection}
      (keeps : ∀ c, (f c).generation = c.generation) : Lull s (s.update n f)
  | withRoster (s : Scene) {r : Roster Observer} (calm : s.roster.Calm → r.Calm) :
      Lull s { s with roster := r }
  | setTransport (s : Scene) (n : Option Nat) : Lull s (s.setTransport n)
  | setHandler (s : Scene) (n : Option Nat) : Lull s (s.setHandler n)
  | gone (s : Scene) : Lull s { s with gone := true }
  | forgotten (s : Scene) : Lull s { s with account := [] }

/-- Sequences of such changes. -/
abbrev Lulls : Scene → Scene → Prop := Relation.ReflTransGen Lull

namespace Lulls

variable {s t : Scene}

theorem note (s : Scene) (o : Occurrence) : Lulls s (s.note o) := .single (.note s o)

theorem log (s : Scene) (line : LogLine) : Lulls s (s.log line) := note s _

theorem update (s : Scene) (n : Nat) {f : Connection → Connection}
    (keeps : ∀ c, (f c).generation = c.generation) : Lulls s (s.update n f) :=
  .single (.update s n keeps)

/-- The observers stay the same, but for who keeps them. -/
theorem withRoster (s : Scene) {r : Roster Observer} (everyone : r.everyone = s.roster.everyone) :
    Lulls s { s with roster := r } := .single (.withRoster s (.of_everyone everyone))

theorem state (h : Lulls s t) : t.client.state = s.client.state := by
  induction h with
  | refl => rfl
  | tail _ change ih =>
      rw [← ih]
      cases change <;> rfl

end Lulls

/-- **What is torn down is handed nothing.** -/
theorem clearing_lulls : Clearing Lulls where
  refl _ := .refl
  trans := .trans
  note _ _ s := .note s _
  update n _ s mild := .update s n mild.generation
  close _ := .note _ _
  letGo _ := (Lulls.note _ _).head (.setTransport _ none)

/-! ### What is handed over -/

/-- What handing a message over comes to: its text goes to the session that the client holds, if
that session is open. -/
def handed (m : Message) (s : Scene) : List (Nat × String) :=
  match s.openSession?, m.encode with
  | some n, .ok text => [(n, text)]
  | _, _ => []

/-- What is handed over goes to the session that the client holds. -/
theorem session_of_handed {m : Message} {s : Scene} {frame : Nat × String}
    (h : frame ∈ s.handed m) : s.client.session = some frame.1 := by
  unfold handed at h
  split at h
  next n text holds _ =>
    rw [List.mem_singleton.1 h]
    exact (Option.filter_eq_some_iff.1 holds).1
  · exact absurd h (by simp)

/-- Between two scenes, some frames were handed to sessions, in order, no handler was called, and
the application asked for nothing; the client still holds the same session, and its observers do not
call back if they did not before. -/
structure Hands (frames : List (Nat × String)) (s t : Scene) : Prop where
  sends : t.sends = frames.reverse ++ s.sends
  calls : t.calls = s.calls
  requests : t.requests = s.requests
  session : t.client.session = s.client.session
  length : t.network.length = s.network.length
  calm : s.roster.Calm → t.roster.Calm

namespace Hands

variable {s t u : Scene} {frames frames' : List (Nat × String)}

theorem refl (s : Scene) : Hands [] s s := ⟨rfl, rfl, rfl, rfl, rfl, id⟩

theorem trans (h : Hands frames s t) (h' : Hands frames' t u) : Hands (frames ++ frames') s u where
  sends := by rw [h'.sends, h.sends, List.reverse_append, List.append_assoc]
  calls := h'.calls.trans h.calls
  requests := h'.requests.trans h.requests
  session := h'.session.trans h.session
  length := h'.length.trans h.length
  calm := h'.calm ∘ h.calm

theorem lull (change : Lull s t) : Hands [] s t := by
  cases change with
  | update n keeps => exact ⟨rfl, rfl, rfl, rfl, by simp [Scene.update], id⟩
  | withRoster calm => exact ⟨rfl, rfl, rfl, rfl, rfl, calm⟩
  | _ => exact ⟨rfl, rfl, rfl, rfl, rfl, id⟩

theorem lulls (changes : Lulls s t) : Hands [] s t := by
  induction changes with
  | refl => exact refl s
  | tail _ change ih => exact ih.trans (lull change)

theorem move (transition : Transition) (s : Scene) : Hands [] s (s.move transition) :=
  ⟨rfl, rfl, rfl, rfl, rfl, id⟩

theorem setSession (n : Option Nat) (h : Hands frames s t) :
    Hands frames (s.setSession n) (t.setSession n) :=
  ⟨h.sends, h.calls, h.requests, rfl, h.length, h.calm⟩

/-- Nothing is handed over before some frames. -/
theorem after (h : Hands [] s t) (h' : Hands frames t u) : Hands frames s u := h.trans h'

/-- Nothing is handed over after some frames. -/
theorem before (h : Hands frames s t) (h' : Hands [] t u) : Hands frames s u := by
  simpa using h.trans h'

end Hands

/-- **Writing a message hands it over**, if the client holds an open session. -/
theorem hands_sendFrame (m : Message) (s : Scene) : Hands (s.handed m) s (s.sendFrame m) := by
  unfold sendFrame handed
  cases s.openSession? with
  | none => exact .lulls (.log s _)
  | some n =>
      cases m.encode with
      | error e => exact .lulls (.log s _)
      | ok text =>
          have out : Hands [(n, text)] s ((s.log (.sending text)).submitted n text) :=
            ⟨rfl, rfl, rfl, rfl, rfl, id⟩
          dsimp only
          split
          · exact out.before (.lulls (.log _ _))
          · exact out.before (.lulls (.note _ _))

/-- **A message of the application is handed over if the channel is ready.** -/
theorem hands_sendMessage (m : Message) (s : Scene) :
    Hands (if s.client.state.isReady then s.handed m else []) s (s.sendMessage m) := by
  unfold sendMessage
  split
  · exact hands_sendFrame m s
  · exact .lulls (.log s _)

/-! ### Telling observers -/

section Observers

variable (depth : Nat) (busy : Bool)

/-- What is none of the client's business is a lull. -/
theorem lulls_bystander {step : Step} (bystander : step.isBystander = true) (s : Scene) :
    Lulls s (s.performApart depth busy step).1 := by
  cases depth with
  | zero => exact .refl
  | succ depth =>
      have other : s.starts step = false := by
        cases step <;> first | rfl | exact absurd bystander (by simp [Step.isBystander])
      simp only [performApart, other, Bool.and_false]
      rcases take_cases (performApart depth (busy || step.connects)) step s with same | effect
      · rw [if_neg (by simp), same]
      · rw [if_neg (by simp)]
        generalize (take (performApart depth (busy || step.connects)) step s).1 = t at effect
        cases effect with
        | dropObserver name => exact .withRoster s rfl
        | setOpen connection n isOpen => exact .update s n fun _ => rfl
        | hold connection n => exact .update s n fun _ => rfl
        | release connection n => exact .update s n fun _ => rfl
        | _ => exact absurd bystander (by simp [Step.isBystander])

theorem lulls_nestAll {steps : List Step} (bystanders : ∀ step ∈ steps, step.isBystander = true)
    (s : Scene) : Lulls s (s.nestAll (performApart depth busy) steps) := by
  induction steps generalizing s with
  | nil => exact .refl
  | cons step steps ih =>
      have first : Lulls s (s.nest (performApart depth busy) step) :=
        ((Lulls.note s _).trans
          (lulls_bystander depth busy (bystanders step List.mem_cons_self) _)).tail (.note _ _)
      exact first.trans (ih (fun step h => bystanders step (List.mem_cons_of_mem _ h)) _)

/-- An observer that does not call back takes note, and does nothing to the client. -/
theorem lulls_react {s : Scene} (calm : s.roster.Calm) (n : Nat) (event : Event) :
    Lulls s (react (performApart depth busy) n event s) := by
  unfold react
  split
  · exact .refl
  next o known =>
    have bystanders : ∀ step ∈ labelled event.kind o.reactions, step.isBystander = true := by
      intro step hstep
      obtain ⟨reaction, hreaction, rfl⟩ := List.mem_map.1 hstep
      exact calm o (List.mem_of_getElem? known) reaction (List.mem_filter.1 hreaction).1
    have told : Lulls s (s.note (.told o.name event)) := .note s _
    dsimp only
    split
    · exact told
    · have spent := told.tail (.withRoster _ (.update n (f := fun o =>
        { o with remaining := o.remaining - 1 }) fun _ => rfl))
      exact spent.trans (lulls_nestAll depth busy bystanders _)

theorem lulls_callEach {s : Scene} (calm : s.roster.Calm) (event : Event) (ns : List Nat) :
    Lulls s (callEach (fun n s => react (performApart depth busy) n event s) ns s) := by
  induction ns generalizing s with
  | nil => exact .refl
  | cons n ns ih =>
      have called : Lulls s (HasRoster.modify (Roster.letGo n)
          (react (performApart depth busy) n event s)) :=
        (lulls_react depth busy calm n event).trans (Lulls.withRoster _ rfl)
      rw [callEach_cons]
      exact called.trans (ih ((Hands.lulls called).calm calm))

/-- **Nothing is handed over while observers are told a piece of news**, if they do not call back.
-/
theorem lulls_tell {s : Scene} (calm : s.roster.Calm) (event : Event) :
    Lulls s (s.tell (react (performApart depth busy)) event) := by
  have pruned : Lulls s (HasRoster.modify Roster.prune s) := Lulls.withRoster s rfl
  have kept : Lulls s
      (HasRoster.modify (Roster.keep s.roster.live) (HasRoster.modify Roster.prune s)) :=
    pruned.trans (Lulls.withRoster _ rfl)
  exact kept.trans (lulls_callEach depth busy ((Hands.lulls kept).calm calm) event s.roster.live)

end Observers

/-! ### Signals -/

/-- The bridge has been greeted back and the observers have been told; video is to be declined. -/
def welcomed (react : Reaction) (s : Scene) : Scene :=
  ((((s.log .greeted).sendFrame .clientHello).move .handshakeCompleted).log .nowReady).tell react
    .connected

theorem greet_eq (react : Reaction) (s : Scene) :
    s.greet react = ((s.welcomed react).sendMessage .noVideo).log .videoDeclined := rfl

/-- What the client answers to a signal that it hears. -/
def answers (react : Reaction) (signal : Signal) (s : Scene) : List (Nat × String) :=
  if signal.greets then
    s.handed .clientHello ++ ((s.log signal.line).welcomed react).handed .noVideo
  else []

section Signals

variable (depth : Nat) (busy : Bool) {s : Scene}

/-- The first answer to a greeting makes the channel ready, and so it stays while the observers are
told. -/
theorem hands_welcomed (calm : s.roster.Calm) :
    Hands (s.handed .clientHello) s (s.welcomed (react (performApart depth busy))) ∧
      (s.welcomed (react (performApart depth busy))).client.state.isReady = true := by
  have hello : Hands (s.handed .clientHello) s ((s.log .greeted).sendFrame .clientHello) :=
    (Hands.lulls (.log s _)).after (hands_sendFrame .clientHello (s.log .greeted))
  have moved : Hands (s.handed .clientHello) s
      ((((s.log .greeted).sendFrame .clientHello).move .handshakeCompleted).log .nowReady) :=
    (hello.before (.move _ _)).before (.lulls (.log _ _))
  have told := lulls_tell depth busy (moved.calm calm) .connected
  refine ⟨moved.before (.lulls told), ?_⟩
  rw [welcomed, told.state]
  rfl

/-- **A greeting is answered twice**: right away, and once the observers have been told. -/
theorem hands_greet (calm : s.roster.Calm) :
    Hands (s.handed .clientHello ++
        (s.welcomed (react (performApart depth busy))).handed .noVideo) s
      (s.greet (react (performApart depth busy))) := by
  obtain ⟨welcomed, ready⟩ := hands_welcomed depth busy calm
  have declined := hands_sendMessage .noVideo (s.welcomed (react (performApart depth busy)))
  rw [if_pos ready] at declined
  rw [greet_eq]
  exact (welcomed.trans declined).before (.lulls (.log _ _))

theorem hands_pass (calm : s.roster.Calm) (c : MessageClass) (line : LogLine) (event : Event) :
    Hands [] s (s.pass (react (performApart depth busy)) c line event) := by
  unfold pass
  split
  · exact .lulls ((Lulls.log s line).trans (lulls_tell (s := s.log line) depth busy calm event))
  · exact .lulls (.log s _)

/-- No message but a greeting is answered. -/
theorem hands_dispatch (calm : s.roster.Calm) {m : Message}
    (other : ∀ version, m ≠ .serverHello version) :
    Hands [] s (s.dispatch (react (performApart depth busy)) m) := by
  cases m with
  | serverHello version => exact absurd rfl (other version)
  | endpointMessage e => exact hands_pass depth busy calm _ _ _
  | dominantSpeaker endpoint previous => exact hands_pass depth busy calm _ _ _
  | connectivity endpoint active => exact hands_pass depth busy calm _ _ _
  | senderVideoConstraints constraints => exact .refl s
  | _ => exact .lulls (.log s _)

/-- A frame is answered if it is a greeting. -/
theorem hands_receive (calm : s.roster.Calm) (frame : String) :
    Hands (s.answers (react (performApart depth busy)) (.message frame)) s
      (s.receive (react (performApart depth busy)) frame) := by
  have received : Hands [] s (s.log (.received frame)) := .lulls (.log s _)
  unfold answers receive
  cases greets : (Signal.message frame).greets with
  | true =>
      obtain ⟨version, decoded⟩ := Signal.greets_message_iff.1 greets
      rw [if_pos rfl, decoded]
      exact received.after (hands_greet (s := s.log (.received frame)) depth busy calm)
  | false =>
      rw [if_neg (by simp)]
      cases decoded : Message.decode frame with
      | ok m =>
          refine received.after (hands_dispatch (s := s.log (.received frame)) depth busy calm ?_)
          rintro version rfl
          rw [Signal.greets_message_iff.2 ⟨version, decoded⟩] at greets
          exact absurd greets (by simp)
      | error e => cases e <;> exact received.after (.lulls (.log _ _))

/-- A signal that counts is answered if it is a greeting, unless it hands a session over. -/
theorem hands_obey (calm : s.roster.Calm) (n : Nat) {signal : Signal} (other : signal ≠ .opened) :
    Hands (s.answers (react (performApart depth busy)) signal) s
      (s.obey (react (performApart depth busy)) n signal) := by
  cases signal with
  | opened => exact absurd rfl other
  | message frame => exact hands_receive depth busy calm frame
  | closed code reason =>
      have closed : Hands [] s ((s.log (.closed code reason)).move .closed) :=
        (Hands.lulls (.log s _)).after (.move _ _)
      exact closed.after (.lulls (lulls_tell depth busy (closed.calm calm) _))
  | failed e => exact .lulls (.log s _)

/-- A signal that nobody listens to leaves a log line at most. -/
theorem hands_deliver_of_deaf (n : Nat) (deaf : s.listensTo n = false) (signal : Signal) :
    Hands [] (s.called n signal) (s.deliver (react (performApart depth busy)) n signal) := by
  rcases deliver_of_deaf deaf signal with h | ⟨generation, latest, h⟩
  · rw [h]
    exact .refl _
  · rw [h]
    exact .lulls (.log _ _)

/-- **A signal is answered if the client listens to it and it is a greeting.**  The client holds the
session that it held before, unless another one is handed over. -/
theorem hands_deliver (calm : s.roster.Calm) (n : Nat) (signal : Signal) :
    ∃ session, (session = s.client.session ∨ session = some n ∧ signal = .opened) ∧
      Hands (if s.listensTo n then
          (s.called n signal).answers (react (performApart depth busy)) signal else [])
        ((s.called n signal).setSession session)
        (s.deliver (react (performApart depth busy)) n signal) := by
  cases listens : s.listensTo n with
  | true =>
      rw [if_pos rfl, deliver_of_listens listens]
      by_cases opened : signal = .opened
      · subst opened
        exact ⟨some n, .inr ⟨rfl, rfl⟩, rfl, rfl, rfl, rfl, rfl, id⟩
      · exact ⟨s.client.session, .inl rfl,
          hands_obey (s := s.called n signal) depth busy calm n opened⟩
  | false =>
      rw [if_neg (by simp)]
      exact ⟨s.client.session, .inl rfl, hands_deliver_of_deaf depth busy n listens signal⟩

end Signals

/-! ### Attempts and their ends -/

/-- **A client that disconnects hands nothing over**, and it holds no session any more. -/
theorem hands_disconnect (s : Scene) : Hands [] (s.setSession none) s.disconnect := by
  have torn : Lulls (s.forsaken.setSession none) (s.forsaken.teardown quietly) :=
    clearing_lulls.teardown (fun _ _ => .refl) _
  have forsaken : Hands [] s s.forsaken := by
    unfold Scene.forsaken
    split
    · exact (Hands.move .closed s).before (.lulls (.update _ _ fun _ => rfl))
    · exact .move .closed s
  rw [disconnect_eq]
  exact ((forsaken.setSession none).before (.lulls torn)).before (.lulls (.log _ _))

/-- When the transport has answered, the client hands nothing over.  It holds the session that it
held before, that of the new connection, or none. -/
theorem hands_concluded (plan : Attempt) (n : Nat) (s : Scene) :
    ∃ session, (session = s.client.session ∨ session = some n ∨ session = none) ∧
      Hands [] (s.setSession session) (s.concluded plan n).1 := by
  have freed : ∀ t : Scene, Hands [] t (t.update n fun c => { c with running := c.running - 1 }) :=
    fun t => .lulls (.update t n fun _ => rfl)
  cases failed : plan.connectError with
  | some e =>
      refine ⟨s.client.session, .inl rfl, ?_⟩
      have stopped : Lulls s ((s.log (.connectFailed e)).stopTransport quietly n) :=
        clearing_lulls.stopTransport (fun _ _ => .refl)
          ((Lulls.log s _).tail (.note _ (.stopped n)))
      have left : Hands [] s (s.giveUp e n) :=
        (Hands.lulls (stopped.tail (.setHandler _ none))).before (.move _ _)
      rw [concluded_of_error failed]
      exact left.before (freed _)
  | none =>
      rw [concluded_of_open failed]
      cases success : (s.settle n).2 with
      | true =>
          refine ⟨some n, .inr (.inl rfl), ?_⟩
          have settled : Hands [] (s.setSession (some n)) ((s.filled n).log .connected) :=
            ⟨rfl, rfl, rfl, rfl, rfl, id⟩
          rw [settle_of_success success]
          exact settled.before (freed _)
      | false =>
          refine ⟨none, .inr (.inr rfl), ?_⟩
          have forfeited : Hands [] (s.setSession none) ((s.forfeited n).setSession none) :=
            ⟨rfl, rfl, rfl, rfl, rfl, id⟩
          have torn : Lulls ((s.forfeited n).setSession none) ((s.forfeited n).teardown quietly) :=
            clearing_lulls.teardown (fun _ _ => .refl) _
          rw [settle_of_failure success]
          exact (forfeited.before (.lulls torn)).before (freed _)

end Scene

end BridgeChannel
