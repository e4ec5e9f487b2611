/-
**A greeting, and observers that call back.**

The bridge is greeted back, the channel is ready, the observers are told, and video is declined.
What observers do when they are told goes on in the middle of that: they may send messages, register
others, clear the register, and disconnect.  A disconnect takes the session and the transport away
from what is still to come, but not the observers that are still to be called.

While observers are told, the client either holds what it held at first and is ready, or it has been
disconnected and holds nothing.  Each thing that an observer does keeps the client in one of these
two stands, or leads from the first to the second; what goes out, and what is closed and stopped, is
read off the sequence of all that they do.

Main definitions:

* `Step.isCallback` — what observers do when they call back;
* `said` — what is sent before anybody disconnects;
* `callbacks` — what the observers do that a notification calls, one after the other;
* `Scene.Record`, `Scene.Yields` — what was sent, told, closed and stopped between two scenes;
* `Scene.At` — the two stands of a client whose observers are told;
* `Scene.Answers` — what some callbacks lead to, from either stand.

Main results:

* `answers_callback`, `answers_nestAll` — one callback, and a sequence of them;
* `answers_callEach`, `answers_tell` — **all that observers do when they are told**;
* `answers_greet`, `answers_signal` — **what a greeting leads to**;
* `handshake_with_callbacks` — **the same, for every reachable scene and every greeting**.
-/
import BridgeChannel.Proofs.Client.Ownership
import BridgeChannel.Proofs.Client.Custody
import BridgeChannel.Proofs.Client.Sending

set_option autoImplicit false

namespace BridgeChannel

/-! ### Callbacks -/

namespace Step

/-- Whether a step is one that observers call back with. -/
def isCallback : Step → Bool
  | disconnect | send _ | query | clearObservers | observe _ _ _ | addAgain _
  | dropObserver _ => true
  | _ => false

def isDisconnect : Step → Bool
  | disconnect => true
  | _ => false

/-- The text of the message that a step sends, if it can be written. -/
def text? : Step → Option String
  | send m => m.encode.toOption
  | _ => none

end Step

/-- The texts that are sent before the first disconnect, in order. -/
def said (steps : List Step) : List String :=
  (steps.takeWhile fun step => !step.isDisconnect).filterMap Step.text?

/-- Nothing is said behind a disconnect. -/
theorem said_append (steps more : List Step) :
    said (steps ++ more) =
      said steps ++ if steps.any Step.isDisconnect then [] else said more := by
  induction steps with
  | nil => rfl
  | cons step rest ih =>
      cases hangs : step.isDisconnect with
      | true => simp [said, hangs]
      | false =>
          have first : ∀ l, said (step :: l) = step.text?.toList ++ said l := by
            intro l
            cases text : step.text? <;> simp [said, hangs, text]
          rw [List.cons_append, first, first, ih, List.append_assoc, List.any_cons, hangs,
            Bool.false_or]

/-- An observer has reacted once more. -/
def Observer.spent (o : Observer) : Observer := { o with remaining := o.remaining - 1 }

/-- A list that begins like another one still does so when both are changed at one place. -/
theorem prefix_modify {α : Type} {l l' : List α} (h : l <+: l') (i : Nat) (f : α → α) :
    l.modify i f <+: l'.modify i f := by
  obtain ⟨more, rfl⟩ := h
  induction l generalizing i with
  | nil => cases i <;> exact List.nil_prefix
  | cons a rest ih =>
      cases i with
      | zero => exact List.prefix_append _ _
      | succ i => exact (List.cons_prefix_cons).2 ⟨rfl, ih i⟩

/-- What the given observers do when they are told a kind of news, one after the other: each reacts
as long as it has reactions left. -/
def callbacks (kind : Event.Kind) : List Observer → List Nat → List Step
  | _, [] => []
  | everyone, i :: rest =>
    match everyone[i]? with
    | none => callbacks kind everyone rest
    | some o =>
      let steps := labelled kind o.reactions
      if steps.isEmpty || o.remaining = 0 then callbacks kind everyone rest
      else steps ++ callbacks kind (everyone.modify i Observer.spent) rest

/-- A connection with one more call of its handler running. -/
def Connection.busy (c : Connection) : Connection := { c with running := c.running + 1 }

/-- A connection with one call of its handler over. -/
def Connection.idler (c : Connection) : Connection := { c with running := c.running - 1 }

/-! ### Records -/

namespace Occurrence

def framed? : Occurrence → Option (Nat × String)
  | frame n text => some (n, text)
  | _ => none

def told? : Occurrence → Option (String × Event)
  | told name event => some (name, event)
  | _ => none

end Occurrence

namespace Scene

/-- What goes out, and what is told, closed and stopped, in order. -/
@[ext]
structure Record where
  sent : List (Nat × String) := []
  told : List (String × Event) := []
  closed : List Nat := []
  stopped : List Nat := []

namespace Record

/-- One record after another. -/
instance : Append Record where
  append r r' := ⟨r.sent ++ r'.sent, r.told ++ r'.told, r.closed ++ r'.closed,
    r.stopped ++ r'.stopped⟩

theorem append_def (r r' : Record) : r ++ r' = ⟨r.sent ++ r'.sent, r.told ++ r'.told,
    r.closed ++ r'.closed, r.stopped ++ r'.stopped⟩ := rfl

@[simp] theorem append_empty (r : Record) : r ++ {} = r := by
  simp [append_def]

@[simp] theorem empty_append (r : Record) : ({} : Record) ++ r = r := rfl

/-- What an account tells. -/
def of (told : List Occurrence) : Record where
  sent := told.filterMap Occurrence.framed?
  told := told.filterMap Occurrence.told?
  closed := closeds told
  stopped := stoppeds told

theorem of_append (before after : List Occurrence) :
    of (before ++ after) = of before ++ of after := by
  simp [of, append_def, closeds, stoppeds]

end Record

/-- What happened between two scenes, where nothing that was handed to a session was refused by it.
-/
structure Yields (r : Record) (s t : Scene) : Prop extends Grows s t where
  record : Record.of (s.since t) = r
  sends : t.sends = r.sent.reverse ++ s.sends

namespace Yields

variable {s t u : Scene} {r r' : Record}

theorem trans (h : Yields r s t) (h' : Yields r' t u) : Yields (r ++ r') s u where
  toGrows := h.toGrows.trans h'.toGrows
  record := by rw [since_trans h.toGrows h'.toGrows, Record.of_append, h.record, h'.record]
  sends := by simp [h'.sends, h.sends, Record.append_def]

theorem of_same (account : t.account = s.account) (calls : t.calls = s.calls)
    (length : t.network.length = s.network.length) (sends : t.sends = s.sends) : Yields {} s t where
  toGrows := .of_eq account calls (Nat.le_of_eq length.symm)
  record := by rw [since_eq_nil account]; rfl
  sends := sends

theorem refl (s : Scene) : Yields {} s s := of_same rfl rfl rfl rfl

theorem note {o : Occurrence} (unsent : o.framed? = none) (s : Scene) :
    Yields (.of [o]) s (s.note o) where
  toGrows := .note o s
  record := by rw [since_note]
  sends := by simp [Record.of, unsent, Scene.note]

theorem log (line : LogLine) (s : Scene) : Yields {} s (s.log line) :=
  note (o := .log line) rfl s

/-- Nothing else happens afterwards. -/
theorem before (h : Yields r s t) (h' : Yields {} t u) : Yields r s u := by
  simpa using h.trans h'

/-- Nothing else happened before. -/
theorem after (h : Yields {} s t) (h' : Yields r t u) : Yields r s u := by
  simpa using h.trans h'

end Yields

/-! ### The two stands of a client whose observers are told -/

/-- The client is ready, and holds an open session that takes what it is handed, and a transport. -/
structure Equipped (n m : Nat) (s : Scene) : Prop where
  here : s.gone = false
  state : s.client.state = .ready
  session : s.client.session = some n
  transport : s.client.transport = some m
  isOpen : s.isOpen n = true
  takes : (s.conduct n).sendError = none

/-- The client is closed and holds nothing. -/
structure Bare (s : Scene) : Prop where
  here : s.gone = false
  state : s.client.state = .closed
  session : s.client.session = none
  transport : s.client.transport = none

/-- Where a client stands that holds something, or no more. -/
def At (n m : Nat) : Bool → Scene → Prop
  | true => Equipped n m
  | false => Bare

section At

variable {n m : Nat} {on : Bool} {s t : Scene}

/-- Where a client stands depends on the client and the connections alone. -/
theorem At.of_same (h : s.At n m on) (client : t.client = s.client) (gone : t.gone = s.gone)
    (network : t.network = s.network) : t.At n m on := by
  cases on with
  | false =>
      obtain ⟨here, state, session, transport⟩ := h
      exact ⟨gone.trans here, client ▸ state, client ▸ session, client ▸ transport⟩
  | true =>
      obtain ⟨here, state, session, transport, isOpen, takes⟩ := h
      refine ⟨gone.trans here, client ▸ state, client ▸ session, client ▸ transport, ?_, ?_⟩
      · rw [Scene.isOpen, network]
        exact isOpen
      · rw [conduct, network]
        exact takes

theorem At.here (h : s.At n m on) : s.gone = false := by
  cases on with
  | false => exact Bare.here h
  | true => exact Equipped.here h

theorem Equipped.openSession? (h : s.Equipped n m) : s.openSession? = some n := by
  simp [Scene.openSession?, h.session, h.isOpen]

/-- What some callbacks amount to: messages go out, and a disconnect closes and stops, as long as
the client holds something. -/
def recordOf (n m : Nat) : Bool → List Step → Record
  | false, _ => {}
  | true, steps =>
    { sent := (said steps).map (n, ·)
      closed := if steps.any Step.isDisconnect then [n] else []
      stopped := if steps.any Step.isDisconnect then [m] else [] }

theorem recordOf_append (on : Bool) (steps more : List Step) :
    recordOf n m on (steps ++ more) =
      recordOf n m on steps ++ recordOf n m (on && !steps.any Step.isDisconnect) more := by
  cases on with
  | false => rfl
  | true =>
      cases hangs : steps.any Step.isDisconnect <;>
        simp [recordOf, Record.append_def, said_append, hangs]

theorem recordOf_send (message : Message) :
    recordOf n m true [.send message] =
      { sent := message.encode.toOption.toList.map (n, ·) } := by
  cases encoded : message.encode <;>
    simp [recordOf, said, Step.isDisconnect, Step.text?, encoded, Except.toOption]

/-- What some callbacks lead to, from either stand. -/
structure Answers (n m : Nat) (on : Bool) (told : List (String × Event)) (steps : List Step)
    (s t : Scene) : Prop where
  yields : Yields ({ recordOf n m on steps with told }) s t
  stands : t.At n m (on && !steps.any Step.isDisconnect)

theorem Answers.trans {u : Scene} {told told' : List (String × Event)} {steps more : List Step}
    (h : Answers n m on told steps s t)
    (h' : Answers n m (on && !steps.any Step.isDisconnect) told' more t u) :
    Answers n m on (told ++ told') (steps ++ more) s u where
  yields := by
    have both := h.yields.trans h'.yields
    have same : ({ recordOf n m on steps with told } : Record) ++
        { recordOf n m (on && !steps.any Step.isDisconnect) more with told := told' } =
          { recordOf n m on (steps ++ more) with told := told ++ told' } := by
      rw [recordOf_append]
      rfl
    rwa [same] at both
  stands := by
    have stands := h'.stands
    rwa [Bool.and_assoc, ← Bool.not_or, ← List.any_append] at stands

/-- Nothing that matters to the client is done. -/
theorem Answers.of_yields (stands : s.At n m on) {told : List (String × Event)}
    (yields : Yields { told } s t) (client : t.client = s.client) (gone : t.gone = s.gone)
    (network : t.network = s.network) : Answers n m on told [] s t where
  yields := by cases on <;> exact yields
  stands := by
    rw [List.any_nil, Bool.not_false, Bool.and_true]
    exact stands.of_same client gone network

/-- The client speaks, while it holds an open session. -/
theorem yields_sendFrame (session : s.openSession? = some n)
    (takes : (s.conduct n).sendError = none) (message : Message) :
    Yields { sent := message.encode.toOption.toList.map (n, ·) } s (s.sendFrame message) := by
  unfold sendFrame
  rw [session]
  dsimp only
  cases message.encode with
  | error e => exact .log _ s
  | ok text =>
      dsimp only
      have same : ((s.log (.sending text)).submitted n text).conduct n = s.conduct n := rfl
      rw [same, takes]
      have noted : (s.since (((s.log (.sending text)).submitted n text).note (.frame n text))) =
          [.log (.sending text), .frame n text] :=
        since_of_account [.frame n text, .log (.sending text)] rfl
      exact
        { toGrows := ⟨List.suffix_append [_, _] _, List.suffix_refl _, Nat.le_refl _⟩
          record := by rw [noted]; rfl
          sends := rfl }

/-- Whatever a client sends, nothing but the account and what sessions were handed changes. -/
theorem exists_sendFrame (message : Message) (s : Scene) :
    ∃ account sends, s.sendFrame message = { s with account, sends } := by
  unfold sendFrame
  cases s.openSession? with
  | none => exact ⟨_, _, rfl⟩
  | some n =>
      cases message.encode with
      | error e => exact ⟨_, _, rfl⟩
      | ok text =>
          dsimp only
          split <;> exact ⟨_, _, rfl⟩

theorem answers_send (stands : s.At n m on) (message : Message) :
    Answers n m on [] [.send message] s (s.sendMessage message) := by
  have still : (on && !([Step.send message].any Step.isDisconnect)) = on := Bool.and_true on
  cases on with
  | false =>
      have unready : s.client.state.isReady = false := by rw [Bare.state stands]; rfl
      rw [sendMessage, if_neg (by simp [unready])]
      exact ⟨.log _ s, still ▸ stands.of_same rfl rfl rfl⟩
  | true =>
      have holds : s.Equipped n m := stands
      rw [sendMessage, if_pos (by rw [holds.state]; rfl)]
      have sent := yields_sendFrame holds.openSession? holds.takes message
      obtain ⟨account, sends, same⟩ := exists_sendFrame message s
      rw [same] at sent ⊢
      refine ⟨?_, still ▸ stands.of_same rfl rfl rfl⟩
      rw [recordOf_send]
      exact sent

/-- Closing a session is told, whatever comes of it. -/
theorem yields_closeSession (n : Nat) (s : Scene) :
    Yields { closed := [n] } s (closeSession quietly n s) := by
  have closed : Yields { closed := [n] } s (s.note (.closed n)) := .note (o := .closed n) rfl s
  unfold closeSession quietly
  dsimp only
  split
  · exact closed.before (.log _ _)
  · split
    · exact closed
    · exact closed.before (.of_same rfl rfl (by simp [update]) rfl)

/-- Stopping a transport is told, whatever comes of it. -/
theorem yields_stopTransport (m : Nat) (s : Scene) :
    Yields { stopped := [m] } s (stopTransport quietly m s) := by
  have stopped : Yields { stopped := [m] } s (s.note (.stopped m)) := .note (o := .stopped m) rfl s
  unfold stopTransport quietly
  dsimp only
  split
  · exact stopped.before (.log _ _)
  · exact stopped

theorem yields_forsaken (s : Scene) : Yields {} s s.forsaken := by
  unfold forsaken
  split
  · exact .of_same rfl rfl (by simp [update]) rfl
  · exact .of_same rfl rfl rfl rfl

theorem conduct_update {f : Connection → Connection} (keeps : ∀ c, (f c).conduct = c.conduct)
    (k n : Nat) (s : Scene) : (s.update k f).conduct n = s.conduct n := by
  rw [conduct, map_network_update keeps, conduct]

/-- A client that holds something closes the session and stops the transport. -/
theorem yields_disconnect (holds : s.Equipped n m) :
    Yields { closed := [n], stopped := [m] } s s.disconnect := by
  have session : s.forsaken.client.session = some n := by rw [client_forsaken]; exact holds.session
  have isOpen : s.forsaken.isOpen n = true := by rw [isOpen_forsaken]; exact holds.isOpen
  have dropped : dropSession quietly s.forsaken =
      closeSession quietly n (s.forsaken.setSession none) := by
    simp only [dropSession, session, isOpen, if_true]
  have transport : (dropSession quietly s.forsaken).client.transport = some m := by
    rw [client_dropSession_quietly, client_forsaken]
    exact holds.transport
  have closed : Yields { closed := [n] } s (dropSession quietly s.forsaken) := by
    have left : Yields {} s.forsaken (s.forsaken.setSession none) := .of_same rfl rfl rfl rfl
    rw [dropped]
    exact (yields_forsaken s).after (left.after (yields_closeSession n _))
  have stopped : Yields { stopped := [m] } (dropSession quietly s.forsaken)
      (s.forsaken.teardown quietly) := by
    have left : Yields {} (dropSession quietly s.forsaken)
        ((dropSession quietly s.forsaken).setTransport none) := .of_same rfl rfl rfl rfl
    rw [teardown, dropTransport, transport]
    exact left.after (yields_stopTransport m _)
  rw [disconnect_eq]
  exact (closed.trans stopped).before (.log _ _)

/-- A client that holds nothing has nothing to close or to stop. -/
theorem yields_disconnect_empty (empty : s.Bare) : Yields {} s s.disconnect := by
  have same : s.forsaken.teardown quietly = s.forsaken := by
    simp [teardown, dropSession, dropTransport, client_forsaken, empty.session, empty.transport]
  rw [disconnect_eq, same]
  exact (yields_forsaken s).before (.log _ _)

/-- What is torn down leaves the roster alone. -/
theorem clearing_roster : Clearing fun s t => t.roster = s.roster where
  refl _ := rfl
  trans h h' := h'.trans h
  note _ _ _ := rfl
  update _ _ _ _ := rfl
  close _ := rfl
  letGo _ := rfl

theorem roster_disconnect (s : Scene) : s.disconnect.roster = s.roster := by
  have forsaken : s.forsaken.roster = s.roster := by
    unfold Scene.forsaken
    split <;> rfl
  rw [disconnect_eq]
  exact (clearing_roster.teardown (fun _ _ => rfl) s.forsaken).trans forsaken

theorem answers_disconnect (stands : s.At n m on) :
    Answers n m on [] [.disconnect] s s.disconnect := by
  have after : s.disconnect.Bare := by
    have gone : s.disconnect.gone = s.gone := (steady_disconnect s).gone
    refine ⟨gone.trans stands.here, ?_, ?_, ?_⟩ <;> rw [client_disconnect]
  have ends : (on && !([Step.disconnect].any Step.isDisconnect)) = false := Bool.and_false on
  refine ⟨?_, ends ▸ after⟩
  cases on with
  | false => exact yields_disconnect_empty stands
  | true => exact yields_disconnect stands

/-- A callback that neither speaks nor disconnects changes the roster at most, and no observer that
is there already. -/
theorem exists_perform_callback {step : Step} (callback : step.isCallback = true)
    (silent : ∀ message, step ≠ .send message) (stays : step ≠ .disconnect) (here : s.gone = false)
    (depth : Nat) : ∃ r : Roster Observer, (perform (depth + 1) step s).1 = { s with roster := r } ∧
      s.roster.everyone <+: r.everyone := by
  cases step with
  | send message => exact absurd rfl (silent message)
  | disconnect => exact absurd rfl stays
  | query => exact ⟨s.roster, rfl, List.prefix_rfl⟩
  | clearObservers =>
      exact ⟨s.roster.clear, by simp [perform, take, asClient, here, simply], List.prefix_rfl⟩
  | observe name reactions times =>
      let o : Observer := { name, reactions, remaining := times }
      refine ⟨((s.roster.create o).own name s.roster.next).register s.roster.next, ?_,
        List.prefix_append _ [o]⟩
      simp only [perform, take, asClient, here, simply, welcome]
      rfl
  | addAgain name =>
      cases owner : s.roster.owned? name with
      | some i =>
          exact ⟨s.roster.register i, by simp [perform, take, asClient, here, owner],
            List.prefix_rfl⟩
      | none =>
          refine ⟨s.roster, ?_, List.prefix_rfl⟩
          change (asClient _ s).1 = s
          simp only [asClient, owner]
          split <;> rfl
  | dropObserver name =>
      cases owner : s.roster.owned? name with
      | some i => exact ⟨s.roster.release name, by simp [perform, take, owner], List.prefix_rfl⟩
      | none => exact ⟨s.roster, by simp [perform, take, owner], List.prefix_rfl⟩
  | _ => exact absurd callback (by simp [Step.isCallback])

/-- **One callback**: it speaks, or disconnects, or does nothing to the client. -/
theorem answers_callback (stands : s.At n m on) {step : Step} (callback : step.isCallback = true)
    (depth : Nat) : Answers n m on [] [step] s (perform (depth + 1) step s).1 ∧
      s.roster.everyone <+: (perform (depth + 1) step s).1.roster.everyone := by
  by_cases silent : ∃ message, step = .send message
  · obtain ⟨message, rfl⟩ := silent
    have performed : (perform (depth + 1) (.send message) s).1 =
        (s.requested message).sendMessage message := by
      simp [perform, take, asClient, stands.here, simply]
    have asked : Yields {} s (s.requested message) := .of_same rfl rfl rfl rfl
    obtain ⟨yields, stands⟩ :=
      answers_send (s := s.requested message) (stands.of_same rfl rfl rfl) message
    rw [performed]
    refine ⟨⟨asked.after yields, stands⟩, ?_⟩
    unfold sendMessage
    split
    · obtain ⟨account, sends, same⟩ := exists_sendFrame message (s.requested message)
      rewrite [same]
      exact List.prefix_rfl
    · exact List.prefix_rfl
  · by_cases stays : step = .disconnect
    · subst stays
      rw [perform_disconnect stands.here]
      exact ⟨answers_disconnect stands, by rewrite [roster_disconnect]; exact List.prefix_rfl⟩
    · obtain ⟨r, same, known⟩ := exists_perform_callback callback
        (fun message h => silent ⟨message, h⟩) stays stands.here depth
      rw [same]
      have unsaid : said [step] = [] := by
        cases step with
        | send message => exact absurd rfl (fun h => silent ⟨message, h⟩)
        | _ => rfl
      have kept : step.isDisconnect = false := by
        cases step with
        | disconnect => exact absurd rfl stays
        | _ => rfl
      have nothing : recordOf n m on [step] = {} := by
        cases on <;> simp [recordOf, unsaid, kept]
      have still : (on && !([step].any Step.isDisconnect)) = on := by simp [kept]
      refine ⟨⟨?_, by rw [still]; exact stands.of_same rfl rfl rfl⟩, known⟩
      rw [nothing]
      exact .of_same rfl rfl rfl rfl

variable {act : Performance}

theorem answers_nest (stands : s.At n m on) {step : Step} (callback : step.isCallback = true)
    (depth : Nat) : Answers n m on [] [step] s (s.nest (perform (depth + 1)) step) ∧
      s.roster.everyone <+: (s.nest (perform (depth + 1)) step).roster.everyone := by
  obtain ⟨answers, known⟩ := answers_callback (s := s.note (.began step.name))
    (stands.of_same rfl rfl rfl) callback depth
  have began : Yields {} s (s.note (.began step.name)) := .note (o := .began step.name) rfl s
  refine ⟨⟨?_, answers.stands.of_same rfl rfl rfl⟩, known⟩
  exact (began.after answers.yields).before (.note (o := .ended _ _ _ _) rfl _)

/-- **A sequence of callbacks.** -/
theorem answers_nestAll (stands : s.At n m on) {steps : List Step}
    (callbacks : ∀ step ∈ steps, step.isCallback = true) (depth : Nat) :
    Answers n m on [] steps s (s.nestAll (perform (depth + 1)) steps) ∧
      s.roster.everyone <+: (s.nestAll (perform (depth + 1)) steps).roster.everyone := by
  induction steps generalizing s on with
  | nil => exact ⟨.of_yields stands (.refl s) rfl rfl rfl, List.prefix_rfl⟩
  | cons step rest ih =>
      obtain ⟨first, known⟩ := answers_nest stands (callbacks step List.mem_cons_self) depth
      obtain ⟨others, known'⟩ :=
        ih first.stands fun step later => callbacks step (List.mem_cons_of_mem _ later)
      exact ⟨first.trans others, known.trans known'⟩

/-- An observer is told a piece of news, and calls back if it has a reaction left. -/
theorem answers_react (stands : s.At n m on) {everyone : List Observer} {i : Nat} {o : Observer}
    (known : everyone <+: s.roster.everyone) (there : everyone[i]? = some o) {event : Event}
    (callbacks : ∀ step ∈ labelled event.kind o.reactions, step.isCallback = true) (depth : Nat) :
    if (labelled event.kind o.reactions).isEmpty || o.remaining = 0 then
      Answers n m on [(o.name, event)] [] s (react (perform (depth + 1)) i event s) ∧
        everyone <+: (react (perform (depth + 1)) i event s).roster.everyone
    else
      Answers n m on [(o.name, event)] (labelled event.kind o.reactions) s
          (react (perform (depth + 1)) i event s) ∧
        everyone.modify i Observer.spent <+:
          (react (perform (depth + 1)) i event s).roster.everyone := by
  have within := (List.getElem?_eq_some_iff.mp there).1
  have found : s.roster.everyone[i]? = some o := by
    obtain ⟨more, whole⟩ := known
    rw [← whole, List.getElem?_append_left within, there]
  have told : Answers n m on [(o.name, event)] [] s (s.note (.told o.name event)) :=
    .of_yields stands (.note (o := .told o.name event) rfl s) rfl rfl rfl
  simp only [react, found]
  split
  · exact ⟨told, known⟩
  · have stands' := told.stands
    obtain ⟨answered, kept⟩ := answers_nestAll
      (s := { s.note (.told o.name event) with roster := s.roster.update i Observer.spent })
      (stands'.of_same rfl rfl rfl) callbacks depth
    have told' : Answers n m on [(o.name, event)] [] s
        { s.note (.told o.name event) with roster := s.roster.update i Observer.spent } :=
      ⟨told.yields.before (.of_same rfl rfl rfl rfl), stands'.of_same rfl rfl rfl⟩
    exact ⟨told'.trans answered, (prefix_modify known i Observer.spent).trans kept⟩

/-- The observers that are to be called are there, and call back at most. -/
def Tame (kind : Event.Kind) (everyone : List Observer) (ns : List Nat) : Prop :=
  ∀ i ∈ ns, ∃ o, everyone[i]? = some o ∧
    ∀ step ∈ labelled kind o.reactions, step.isCallback = true

theorem Tame.spent {kind : Event.Kind} {everyone : List Observer} {ns : List Nat}
    (tame : Tame kind everyone ns) (j : Nat) : Tame kind (everyone.modify j Observer.spent) ns := by
  intro i called
  obtain ⟨o, there, calls⟩ := tame i called
  by_cases same : j = i
  · exact ⟨o.spent, by simp [same, there], calls⟩
  · exact ⟨o, by simp [same, there], calls⟩

/-- **All that observers do when they are called, one after the other.** -/
theorem answers_callEach (stands : s.At n m on) {everyone : List Observer} {ns : List Nat}
    (known : everyone <+: s.roster.everyone) {event : Event} (tame : Tame event.kind everyone ns)
    (depth : Nat) :
    ∃ names : List String, names.map some = ns.map (fun i => everyone[i]?.map Observer.name) ∧
      Answers n m on (names.map (·, event)) (callbacks event.kind everyone ns) s
        (callEach (fun i s => react (perform (depth + 1)) i event s) ns s) := by
  induction ns generalizing s on everyone with
  | nil => exact ⟨[], rfl, .of_yields stands (.refl s) rfl rfl rfl⟩
  | cons i rest ih =>
      obtain ⟨o, there, calls⟩ := tame i List.mem_cons_self
      have others : Tame event.kind everyone rest := fun j later =>
        tame j (List.mem_cons_of_mem _ later)
      have called := answers_react stands known there calls depth
      rw [callEach_cons]
      have letGo : ∀ {told steps} {t : Scene}, Answers n m on told steps s t →
          Answers n m on told steps s (HasRoster.modify (Roster.letGo i) t) := fun h =>
        ⟨h.yields.before (.of_same rfl rfl rfl rfl), h.stands.of_same rfl rfl rfl⟩
      simp only [callbacks, there]
      split at called
      next rests =>
        obtain ⟨first, known'⟩ := called
        obtain ⟨names, same, later⟩ := ih (letGo first).stands known' others
        refine ⟨o.name :: names, by simp [same, there], ?_⟩
        rw [if_pos rests]
        exact (letGo first).trans later
      next rests =>
        obtain ⟨first, known'⟩ := called
        obtain ⟨names, same, later⟩ := ih (letGo first).stands known' (others.spent i)
        have unnamed : ∀ j, (everyone.modify i Observer.spent)[j]?.map Observer.name =
            everyone[j]?.map Observer.name := fun j => by
          rw [List.getElem?_modify]
          split <;> cases everyone[j]? <;> rfl
        refine ⟨o.name :: names, by simp [same, there, unnamed], ?_⟩
        rw [if_neg rests]
        exact (letGo first).trans later

/-- **All that observers do when they are told a piece of news.** -/
theorem answers_tell (stands : s.At n m on) {event : Event}
    (tame : Tame event.kind s.roster.everyone s.roster.live) (depth : Nat) :
    ∃ names : List String, names.map some = s.roster.live.map s.roster.nameOf ∧
      Answers n m on (names.map (·, event))
        (callbacks event.kind s.roster.everyone s.roster.live) s
        (s.tell (react (perform (depth + 1))) event) := by
  have kept : Yields {} s (HasRoster.modify (Roster.keep s.roster.live)
      (HasRoster.modify Roster.prune s)) := .of_same rfl rfl rfl rfl
  have standing : (HasRoster.modify (Roster.keep s.roster.live)
      (HasRoster.modify Roster.prune s)).At n m on := stands.of_same rfl rfl rfl
  have known : s.roster.everyone <+: (HasRoster.modify (Roster.keep s.roster.live)
      (HasRoster.modify Roster.prune s)).roster.everyone := List.prefix_rfl
  obtain ⟨names, named, answers⟩ := answers_callEach standing known tame depth
  exact ⟨names, named, kept.after answers.yields, answers.stands⟩

/-- The bridge is greeted back in any state, and the channel is ready. -/
theorem answers_hello (here : s.gone = false) (session : s.client.session = some n)
    (isOpen : s.isOpen n = true) (takes : (s.conduct n).sendError = none)
    (transport : s.client.transport = some m) :
    Answers n m true [] [.send .clientHello] s
        ((((s.log .greeted).sendFrame .clientHello).move .handshakeCompleted).log .nowReady) ∧
      ((((s.log .greeted).sendFrame .clientHello).move .handshakeCompleted).log .nowReady).roster =
        s.roster := by
  have held : s.openSession? = some n := by simp [Scene.openSession?, session, isOpen]
  have hello := yields_sendFrame (s := s.log .greeted) held takes .clientHello
  have moved : ∀ u : Scene, Yields {} u ((u.move .handshakeCompleted).log .nowReady) := fun u =>
    Yields.before (t := u.move .handshakeCompleted) (.of_same rfl rfl rfl rfl) (.log _ _)
  have yields := ((Yields.log .greeted s).after hello).before (moved _)
  rw [← recordOf_send (m := m)] at yields
  obtain ⟨account, sends, same⟩ := exists_sendFrame .clientHello (s.log .greeted)
  rw [same] at yields ⊢
  exact ⟨⟨yields, here, rfl, session, transport, isOpen, takes⟩, rfl⟩

/-- **What a greeting leads to**: the client says hello, observers are told, and video is declined
unless one of them has disconnected. -/
theorem answers_greet (here : s.gone = false) (session : s.client.session = some n)
    (isOpen : s.isOpen n = true) (takes : (s.conduct n).sendError = none)
    (transport : s.client.transport = some m)
    (tame : Tame .connected s.roster.everyone s.roster.live) (depth : Nat) :
    ∃ names : List String, names.map some = s.roster.live.map s.roster.nameOf ∧
      Answers n m true (names.map (·, .connected))
        ([.send .clientHello] ++ callbacks .connected s.roster.everyone s.roster.live ++
          [.send .noVideo]) s (s.greet (react (perform (depth + 1)))) := by
  obtain ⟨hello, roster⟩ := answers_hello here session isOpen takes transport
  rw [← roster] at tame
  obtain ⟨names, named, told⟩ := @answers_tell _ _ _ _ hello.stands .connected tame depth
  have declined := (hello.trans told).trans (answers_send told.stands .noVideo)
  rw [roster] at declined named
  rw [List.nil_append, List.append_nil] at declined
  refine ⟨names, named, ?_⟩
  rw [greet_eq]
  exact ⟨declined.yields.before (.log _ _), declined.stands.of_same rfl rfl rfl⟩

/-- Where a client stands does not depend on the calls that run. -/
theorem At.update (h : s.At n m on) {f : Connection → Connection}
    (isOpen : ∀ c, (f c).isOpen = c.isOpen) (conduct : ∀ c, (f c).conduct = c.conduct) (k : Nat) :
    (s.update k f).At n m on := by
  cases on with
  | false =>
      have empty : s.Bare := h
      exact ⟨empty.here, empty.state, empty.session, empty.transport⟩
  | true =>
      have holds : s.Equipped n m := h
      exact ⟨holds.here, holds.state, holds.session, holds.transport,
        (isOpen_update isOpen k n s).trans holds.isOpen, by
          rw [conduct_update conduct]
          exact holds.takes⟩

theorem Yields.update {f : Connection → Connection} (k : Nat) (s : Scene) :
    Yields {} s (s.update k f) := .of_same rfl rfl (by simp [Scene.update]) rfl

theorem Yields.called (k : Nat) (signal : Signal) (s : Scene) :
    Yields {} s (s.called k signal) where
  toGrows := .called k signal s
  record := by
    have nothing : s.since (s.called k signal) = [] := since_eq_nil rfl
    rw [nothing]
    rfl
  sends := rfl

/-- What comes of a greeting that the client listens to. -/
theorem answers_deliver {k : Nat} {frame : String} {version : Option String}
    (listens : s.listensTo k = true) (hello : Message.decode frame = .ok (.serverHello version))
    (session : s.client.session = some n) (isOpen : s.isOpen n = true)
    (takes : (s.conduct n).sendError = none) (transport : s.client.transport = some m)
    (tame : Tame .connected s.roster.everyone s.roster.live) (depth : Nat) :
    ∃ names : List String, names.map some = s.roster.live.map s.roster.nameOf ∧
      Answers n m true (names.map (·, .connected))
        ([.send .clientHello] ++ callbacks .connected s.roster.everyone s.roster.live ++
          [.send .noVideo]) s (s.deliver (react (perform (depth + 1))) k (.message frame)) := by
  have here : s.gone = false := by
    simp only [listensTo, Bool.and_eq_true, Bool.not_eq_true'] at listens
    exact listens.1
  have received : Yields {} s ((s.called k (.message frame)).log (.received frame)) :=
    (Yields.called k _ s).before (.log _ _)
  obtain ⟨names, named, answers⟩ := answers_greet
    (s := (s.called k (.message frame)).log (.received frame)) here session isOpen takes transport
    tame depth
  rw [deliver_of_listens listens, obey, receive, hello]
  exact ⟨names, named, received.after answers.yields, answers.stands⟩

/-- A greeting that the client listens to, from the call of the handler to its return. -/
theorem answers_signal {k : Nat} {frame : String} {version : Option String}
    (listens : s.listensTo k = true) (alive : s.isAlive k = true)
    (hello : Message.decode frame = .ok (.serverHello version))
    (session : s.client.session = some n) (isOpen : s.isOpen n = true)
    (takes : (s.conduct n).sendError = none) (transport : s.client.transport = some m)
    (tame : Tame .connected s.roster.everyone s.roster.live) (depth : Nat) :
    ∃ names : List String, names.map some = s.roster.live.map s.roster.nameOf ∧
      Answers n m true (names.map (·, .connected))
        ([.send .clientHello] ++ callbacks .connected s.roster.everyone s.roster.live ++
          [.send .noVideo]) s (s.perform (depth + 2) (.signal (some k) (.message frame))).1 := by
  obtain ⟨c, known⟩ : ∃ c, s.network[k]? = some c := by
    simp only [listensTo, Bool.and_eq_true, beq_iff_eq, Option.map_eq_some_iff] at listens
    exact listens.2.imp fun c h => h.1
  have meant : s.meant? (some k) = some k := by
    simp [meant?, (List.getElem?_eq_some_iff.mp known).1]
  have performed : (s.perform (depth + 2) (.signal (some k) (.message frame))).1 =
      ((s.update k Connection.busy).deliver (react (perform (depth + 1))) k
        (.message frame)).update k Connection.idler := by
    simp only [perform, take, atHandler, atConnection, meant, alive, if_true, simply, engaged]
    rfl
  have heard : (s.update k Connection.busy).listensTo k = true := by
    have links := links_update (f := Connection.busy) (fun _ => rfl) k s
    have same : (s.update k Connection.busy).listensTo = s.listensTo :=
      listensTo_congr rfl rfl links
    rwa [same]
  have isOpen' := (isOpen_update (f := Connection.busy) (fun _ => rfl) k n s).trans isOpen
  have takes' : ((s.update k Connection.busy).conduct n).sendError = none := by
    rw [conduct_update (f := Connection.busy) fun _ => rfl]
    exact takes
  obtain ⟨names, named, answers⟩ := answers_deliver (s := s.update k Connection.busy) heard hello
    session isOpen' takes' transport tame depth
  rw [performed]
  exact ⟨names, named, ((Yields.update k s).after answers.yields).before (.update k _),
    answers.stands.update (f := Connection.idler) (fun _ => rfl) (fun _ => rfl) k⟩

end At

end Scene

/-- Who is called in a reachable scene is there. -/
theorem Reachable.there {config : Config} {s : Scene} (reachable : Reachable config s) {i : Nat}
    (live : i ∈ s.roster.live) : ∃ o, s.roster.everyone[i]? = some o := by
  obtain ⟨orderly, idle⟩ := reachable.orderly
  have alive : s.roster.isAlive i = true := (List.mem_filter.1 live).2
  obtain ⟨owner, owned, rfl⟩ : ∃ owner ∈ s.roster.owned, owner.2 = i := by
    simpa [Roster.isAlive, idle] using alive
  obtain ⟨o, there, -⟩ := Option.map_eq_some_iff.1 (orderly.owners owner owned)
  exact ⟨o, there⟩

open Scene in
/-- **A greeting, and observers that call back.**  In every reachable scene in which the client
holds an open session that takes what it is handed, and a transport, and for everything that
observers may call back with: the session is handed the client's hello, then what the observers
said before the first of them disconnected, and the last answer unless one of them did.  Everyone
who is registered and alive when the greeting comes is told once for each time of being registered,
in that order, and nobody else is.  If an observer has disconnected, the session was closed and the
transport stopped once, and the client is closed and holds neither; otherwise the client is ready,
and holds both. -/
theorem handshake_with_callbacks {config : Config} {s : Scene} (reachable : Reachable config s)
    {k n m : Nat} {frame : String} {version : Option String} (depth : Nat)
    (listens : s.listensTo k = true) (alive : s.isAlive k = true)
    (hello : Message.decode frame = .ok (.serverHello version))
    (session : s.client.session = some n) (isOpen : s.isOpen n = true)
    (takes : (s.conduct n).sendError = none) (transport : s.client.transport = some m)
    (tame : ∀ i ∈ s.roster.live, ∀ o ∈ s.roster.everyone[i]?,
      ∀ step ∈ labelled .connected o.reactions, step.isCallback = true) :
    let t := (s.perform (depth + 2) (.signal (some k) (.message frame))).1
    let steps := callbacks .connected s.roster.everyone s.roster.live
    let left := steps.any Step.isDisconnect
    let frames := "\x7b\"colibriClass\":\"ClientHello\"\x7d" :: said steps ++
      if left then [] else ["\x7b\"colibriClass\":\"ReceiverVideoConstraints\",\"lastN\":0," ++
        "\"defaultConstraints\":\x7b\x7d\x7d"]
    t.sends = (frames.map (n, ·)).reverse ++ s.sends ∧
      (s.since t).filterMap Occurrence.framed? = frames.map (n, ·) ∧
      (∃ names : List String, names.map some = s.roster.live.map s.roster.nameOf ∧
        (s.since t).filterMap Occurrence.told? = names.map (·, .connected)) ∧
      if left then
        closeds (s.since t) = [n] ∧ stoppeds (s.since t) = [m] ∧ t.Bare
      else closeds (s.since t) = [] ∧ stoppeds (s.since t) = [] ∧ t.Equipped n m := by
  intro t steps left frames
  have tame' : Tame .connected s.roster.everyone s.roster.live := fun i live => by
    obtain ⟨o, there⟩ := reachable.there live
    exact ⟨o, there, tame i live o there⟩
  obtain ⟨names, named, yields, stands⟩ := answers_signal listens alive hello session isOpen takes
    transport tame' depth
  have hangs : ([Step.send .clientHello] ++ steps ++ [Step.send .noVideo]).any Step.isDisconnect =
      left := by
    simp [left, Step.isDisconnect]
  have words : said ([Step.send .clientHello] ++ steps ++ [Step.send .noVideo]) = frames := by
    have first : said [.send .clientHello] =
        ["\x7b\"colibriClass\":\"ClientHello\"\x7d"] := by decide +kernel
    have last : said [.send .noVideo] =
        ["\x7b\"colibriClass\":\"ReceiverVideoConstraints\",\"lastN\":0," ++
          "\"defaultConstraints\":\x7b\x7d\x7d"] := by decide +kernel
    rw [said_append, said_append, first, last]
    simp [frames, left, Step.isDisconnect]
  have record : Record.of (s.since t) = _ := yields.record
  rw [recordOf, words, hangs] at record
  have sends := yields.sends
  rw [recordOf, words] at sends
  rw [Bool.true_and, hangs] at stands
  refine ⟨sends, congrArg Record.sent record, ⟨names, named, congrArg Record.told record⟩, ?_⟩
  have closed : closeds (s.since t) = _ := congrArg Record.closed record
  have stopped : stoppeds (s.since t) = _ := congrArg Record.stopped record
  cases ended : left with
  | true =>
      simp only [ended, if_true] at closed stopped stands ⊢
      exact ⟨closed, stopped, stands⟩
  | false =>
      simp only [ended] at closed stopped stands ⊢
      exact ⟨closed, stopped, stands⟩

/-- Three observers are registered, the first one twice.  It speaks, clears the register and adds an
observer; the second one speaks, disconnects and speaks once more.  The third one is told all the
same, and so is the first one for the second time, but nothing goes out any more. -/
theorem handshake_with_callbacks_disconnected_midway :
    let config : Config := ⟨"wss://bridge/channel", "a", .ofSeconds 10, .ofSeconds 2⟩
    let say (name : String) : Event.Kind × Step :=
      (.connected, .send (.endpointMessage ⟨none, some name, []⟩))
    let first := [say "x", (.connected, .clearObservers), (.connected, .observe "d" [say "y"] 1)]
    let second := [say "y", (.connected, .disconnect), say "z"]
    let lead (s : Scene) (step : Step) : Scene :=
      ((Command.step step).perform 2 { s with account := [] }).1
    let s := lead (lead (lead (lead (lead (.start config) (.observe "a" first 2))
      (.observe "b" second 1)) (.observe "c" [] 0)) (.addAgain "a")) (.connect {} [])
    let hello := "\x7b\"colibriClass\":\"ServerHello\"\x7d"
    let t := (s.perform 2 (.signal (some 0) (.message hello))).1
    (Reachable config s ∧ s.listensTo 0 = true ∧ s.isAlive 0 = true ∧
      (∃ version, Message.decode hello = .ok (.serverHello version)) ∧
      s.client.session = some 0 ∧ s.isOpen 0 = true ∧ (s.conduct 0).sendError = none ∧
      s.client.transport = some 0 ∧
      ∀ i ∈ s.roster.live, ∀ o ∈ s.roster.everyone[i]?,
        ∀ step ∈ labelled .connected o.reactions, step.isCallback = true) ∧
    t.sends.reverse = [(0, "\x7b\"colibriClass\":\"ClientHello\"\x7d"),
      (0, "\x7b\"colibriClass\":\"EndpointMessage\",\"to\":\"x\"\x7d"),
      (0, "\x7b\"colibriClass\":\"EndpointMessage\",\"to\":\"y\"\x7d")] ∧
    (∃ names : List String, names.map some = [some "a", some "b", some "c", some "a"] ∧
      (s.since t).filterMap Occurrence.told? = names.map (·, .connected)) ∧
    closeds (s.since t) = [0] ∧ stoppeds (s.since t) = [0] ∧ t.Bare := by
  intro config say first second lead s hello t
  have reachable : Reachable config s :=
    .performed (.performed (.performed (.performed (.performed .start 2 _) 2 _) 2 _) 2 _) 2 _
  have listens : s.listensTo 0 = true := by decide +kernel
  have alive : s.isAlive 0 = true := by decide +kernel
  obtain ⟨version, decoded⟩ := Signal.greets_message_iff.1
    (show (Signal.message hello).greets = true by decide +kernel)
  have session : s.client.session = some 0 := by decide +kernel
  have isOpen : s.isOpen 0 = true := by decide +kernel
  have takes : (s.conduct 0).sendError = none := by decide +kernel
  have transport : s.client.transport = some 0 := by decide +kernel
  have tame : ∀ i ∈ s.roster.live, ∀ o ∈ s.roster.everyone[i]?,
      ∀ step ∈ labelled .connected o.reactions, step.isCallback = true := by decide +kernel
  obtain ⟨sends, -, ⟨names, named, told⟩, ended⟩ :=
    handshake_with_callbacks reachable 0 listens alive decoded session isOpen takes transport tame
  have left :
      (callbacks .connected s.roster.everyone s.roster.live).any Step.isDisconnect = true := by
    decide +kernel
  split at ended
  · refine ⟨⟨reachable, listens, alive, ⟨version, decoded⟩, session, isOpen, takes, transport,
      tame⟩, ?_, ⟨names, named.trans (by decide +kernel), told⟩, ended⟩
    simp only [Nat.zero_add] at sends
    exact (congrArg List.reverse sends).trans (by decide +kernel)
  next stays => exact absurd left stays

end BridgeChannel
