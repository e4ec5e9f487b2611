/-
**The state of a channel is a function of its history.**

A run is looked at as its annals: the incidents that might have to do with the state, each kept with
the scenes before and after it, and stretches in between in which the channel keeps still.  The
handler of a connection is called, and the client listens to it or not; the client disconnects; an
attempt to connect is refused, passes both guards, launches a connection, or ends in one of three
ways; the client goes away.

At every point of a run, whatever calls back or overlaps, the channel is ready exactly if a greeting
has been heard since it was last closed, and closed exactly if it has been closed and neither a
greeting was heard nor an attempt accepted since.

Main definitions:

* `Incident`, `Incident.effect` — what happens to a client, and what this does to the state;
* `Incident.greets`, `Incident.closes`, `Incident.accepts` — the incidents that decide;
* `Unfollowed`, `Stands` — where a channel stands after a list of incidents;
* `Scene.Happens`, `Scene.Annals`, `Script.Annals` — one incident, those between two scenes, and
  those of a script.

Main results:

* `Happens.state`, `Stands.step` — **what one incident does**;
* `inherited_recorded`, `Script.exists_annals` — **every run has its annals**;
* `Annals.stands` — what the annals of a run tell of the state;
* `stands_throughout` — **where a channel stands, at every point of every run**.
-/
import BridgeChannel.Proofs.Client.Failing
import BridgeChannel.Proofs.Client.Sending

set_option autoImplicit false

namespace BridgeChannel

/-! ### Incidents -/

/-- What happens to a client. -/
inductive Incident where
  /-- The handler of a connection is called, and the client does not listen to it. -/
  | missed (connection : Nat) (signal : Signal)
  /-- The handler of a connection is called, and the client listens to it. -/
  | heard (connection : Nat) (signal : Signal)
  | disconnects
  /-- An attempt to connect is refused. -/
  | refused
  /-- An attempt to connect passes both guards. -/
  | accepted
  /-- The factory has returned a transport, and the new connection is the latest one. -/
  | launched
  /-- An attempt ends, since its transport could not be created or opened. -/
  | failed
  /-- An attempt ends with a connection. -/
  | connected
  /-- An attempt ends, since the channel was closed while connecting. -/
  | withdrawn
  /-- The client goes away. -/
  | leaves
  deriving DecidableEq

namespace Incident

/-- Whether a greeting of the bridge was heard. -/
def greets : Incident → Bool
  | heard _ signal => signal.greets
  | _ => false

/-- Whether the channel was closed: by the client, by the bridge, or at the end of an attempt. -/
def closes : Incident → Bool
  | heard _ signal => signal.closes
  | disconnects => true
  | withdrawn => true
  | _ => false

/-- Whether an attempt to connect was accepted. -/
def accepts : Incident → Bool
  | accepted => true
  | _ => false

theorem eq_accepted {incident : Incident} (h : incident.accepts = true) : incident = accepted := by
  cases incident with
  | accepted => rfl
  | _ => exact absurd h (by simp [accepts])

/-- The call of a handler. -/
def call? : Incident → Option (Nat × Signal)
  | missed n signal => some (n, signal)
  | heard n signal => some (n, signal)
  | _ => none

/-- The turn that an incident is. -/
def turn? : Incident → Option Turn
  | heard _ signal => some (.heard signal)
  | disconnects => some .disconnected
  | _ => none

/-- The state after an incident. -/
def effect (incident : Incident) (state : ConnectionState) : ConnectionState :=
  match incident with
  | heard _ signal => signal.effect state
  | disconnects => state.after .closed
  | accepted => state.after .beginConnect
  | failed => state.after .connectFailed
  | connected => state.after .transportOpened
  | withdrawn => state.after .closed
  | _ => state

/-- An incident that neither greets, closes nor accepts brings a channel neither into being ready or
closed nor out of it. -/
theorem effect_of_other {incident : Incident} (ungreeted : incident.greets = false)
    (unclosed : incident.closes = false) (unaccepted : incident.accepts = false)
    (state : ConnectionState) :
    (incident.effect state = .ready ↔ state = .ready) ∧
      (incident.effect state = .closed ↔ state = .closed) := by
  cases incident with
  | heard n signal =>
      cases signal with
      | opened =>
          exact ⟨ConnectionState.after_transportOpened_eq_ready,
            ConnectionState.after_transportOpened_eq_closed⟩
      | message frame =>
          have same : effect (.heard n (.message frame)) state = state := by
            simp only [greets] at ungreeted
            simp [effect, Signal.effect, ungreeted]
          rw [same]
          exact ⟨Iff.rfl, Iff.rfl⟩
      | closed code reason => exact absurd unclosed (by simp [closes, Signal.closes])
      | failed e => exact ⟨Iff.rfl, Iff.rfl⟩
  | disconnects => exact absurd unclosed (by simp [closes])
  | withdrawn => exact absurd unclosed (by simp [closes])
  | accepted => exact absurd unaccepted (by simp [accepts])
  | failed => cases state <;> decide
  | connected =>
      exact ⟨ConnectionState.after_transportOpened_eq_ready,
        ConnectionState.after_transportOpened_eq_closed⟩
  | _ => exact ⟨Iff.rfl, Iff.rfl⟩

/-- After a greeting, a channel is ready. -/
theorem effect_of_greets {incident : Incident} (greeted : incident.greets = true)
    (state : ConnectionState) : incident.effect state = .ready ∧ incident.closes = false := by
  cases incident with
  | heard n signal =>
      cases signal with
      | message frame =>
          simp only [greets] at greeted
          simp [effect, Signal.effect, greeted, closes, Signal.closes]
      | _ => exact absurd greeted (by simp [greets, Signal.greets])
  | _ => exact absurd greeted (by simp [greets])

/-- After a close, a channel is closed. -/
theorem effect_of_closes {incident : Incident} (closed : incident.closes = true)
    (state : ConnectionState) : incident.effect state = .closed ∧ incident.greets = false := by
  cases incident with
  | heard n signal =>
      cases signal with
      | closed code reason => exact ⟨rfl, rfl⟩
      | _ => exact absurd closed (by simp [closes, Signal.closes])
  | disconnects => exact ⟨rfl, rfl⟩
  | withdrawn => exact ⟨rfl, rfl⟩
  | _ => exact absurd closed (by simp [closes])

end Incident

/-! ### Where a channel stands -/

/-- Some member of a list that satisfies `p` is followed by none that satisfies `q`. -/
def Unfollowed {α : Type} (p q : α → Bool) (l : List α) : Prop :=
  ∃ before a after, l = before ++ a :: after ∧ p a = true ∧ ∀ b ∈ after, q b = false

section Unfollowed

variable {α : Type} {p q : α → Bool}

theorem unfollowed_iff {l : List α} : Unfollowed p q l ↔ ¬EachFollowed p q l := by
  simp [Unfollowed, EachFollowed]

theorem not_unfollowed_nil : ¬Unfollowed p q [] := by
  rw [unfollowed_iff, not_not]
  exact eachFollowed_nil

/-- The last member of a list decides if it satisfies one or the other. -/
theorem unfollowed_concat {l : List α} {a : α} :
    Unfollowed p q (l ++ [a]) ↔ p a = true ∨ (q a = false ∧ Unfollowed p q l) := by
  rw [unfollowed_iff, unfollowed_iff, eachFollowed_concat]
  cases p a <;> cases q a <;> simp

end Unfollowed

/-- Where a channel stands after some incidents: it is ready exactly if a greeting was heard and the
channel was not closed afterwards, and closed exactly if it was closed, and afterwards neither a
greeting was heard nor an attempt to connect accepted. -/
structure Stands (incidents : List Incident) (state : ConnectionState) : Prop where
  ready : state = .ready ↔ Unfollowed Incident.greets Incident.closes incidents
  closed : state = .closed ↔
    Unfollowed Incident.closes (fun i => i.greets || i.accepts) incidents

namespace Stands

/-- A new channel is neither ready nor closed, and nothing has happened to it. -/
theorem start : Stands [] .disconnected where
  ready := by simp [not_unfollowed_nil]
  closed := by simp [not_unfollowed_nil]

/-- **Where a channel stands after one incident more.**  An attempt is accepted only if the channel
was not ready before. -/
theorem step {incidents : List Incident} {state : ConnectionState} (h : Stands incidents state)
    (incident : Incident)
    (idle : incident.accepts = true → state = .disconnected ∨ state = .closed) :
    Stands (incidents ++ [incident]) (incident.effect state) := by
  cases greeted : incident.greets with
  | true =>
      obtain ⟨after, unclosed⟩ := incident.effect_of_greets greeted state
      constructor <;> simp [after, unfollowed_concat, greeted, unclosed]
  | false =>
      cases closed : incident.closes with
      | true =>
          obtain ⟨after, -⟩ := incident.effect_of_closes closed state
          constructor <;> simp [after, unfollowed_concat, greeted, closed]
      | false =>
          cases accepted : incident.accepts with
          | true =>
              -- a channel that begins to connect was not ready before, and is not closed any more
              obtain rfl := Incident.eq_accepted accepted
              have after : Incident.effect .accepted state = .connecting := by
                rcases idle rfl with rfl | rfl <;> rfl
              have unready : ¬Unfollowed Incident.greets Incident.closes incidents := by
                rw [← h.ready]
                rcases idle rfl with rfl | rfl <;> simp
              constructor <;> simp [after, unfollowed_concat, greeted, closed, accepted, unready]
          | false =>
              obtain ⟨ready, ended⟩ := incident.effect_of_other greeted closed accepted state
              constructor
              · rw [ready, h.ready, unfollowed_concat]
                simp [greeted, closed]
              · rw [ended, h.closed, unfollowed_concat]
                simp [greeted, closed, accepted]

end Stands

/-! ### Annals -/

/-- An incident, with the scenes before and after it. -/
structure Passage where
  before : Scene
  incident : Incident
  after : Scene

namespace Scene

/-- What happens to a client in a scene, and the scene afterwards. -/
inductive Happens : Scene → Incident → Scene → Prop
  | missed {s : Scene} {n : Nat} (deaf : s.listensTo n = false) (signal : Signal) :
      Happens s (.missed n signal) (s.called n signal)
  | heard {s : Scene} {n : Nat} (listens : s.listensTo n = true) (signal : Signal) :
      Happens s (.heard n signal) (s.hear n signal)
  | disconnects (s : Scene) : Happens s .disconnects s.disconnect
  | refused {s : Scene} (plan : Attempt) (between : Interludes)
      (unmet : s.client.config.hasAddress = false ∨
        Transition.target .beginConnect s.client.state = none) :
      Happens s .refused (s.connect plan between).1
  | accepted {s : Scene} (address : s.client.config.hasAddress = true)
      (startable : (Transition.target .beginConnect s.client.state).isSome = true) :
      Happens s .accepted (s.move .beginConnect)
  | launched (s : Scene) (plan : Attempt) : Happens s .launched (s.launched plan)
  | uncreated (s : Scene) (e : TransportError) :
      Happens s .failed (((s.note .createFailed).log (.startFailed e)).move .connectFailed)
  | unopened {plan : Attempt} {e : TransportError} (failed : plan.connectError = some e) (n : Nat)
      (s : Scene) : Happens s .failed (s.concluded plan n).1
  | connected {plan : Attempt} (opens : plan.connectError = none) {n : Nat} {s : Scene}
      (success : (s.concluded plan n).2 = true) : Happens s .connected (s.concluded plan n).1
  | withdrawn {plan : Attempt} (opens : plan.connectError = none) {n : Nat} {s : Scene}
      (failure : (s.concluded plan n).2 = false) : Happens s .withdrawn (s.concluded plan n).1
  | leaves (s : Scene) : Happens s .leaves (Scene.setHandler none { s with gone := true })

/-- The incidents between two scenes.  In between, no handler is called, and the channel keeps
still. -/
inductive Annals (s : Scene) : List Passage → Scene → Prop
  | start : Annals s [] s
  | still {history : List Passage} {t u : Scene} (earlier : Annals s history t) (quiet : Still t u)
      (uncalled : u.calls = t.calls) : Annals s history u
  | incident {history : List Passage} {t u : Scene} {i : Incident} (earlier : Annals s history t)
      (happens : Happens t i u) : Annals s (history ++ [⟨t, i, u⟩]) u

/-! ### One incident -/

/-- A refused attempt leaves a log line. -/
theorem connect_of_unmet {s : Scene} (plan : Attempt) (between : Interludes)
    (unmet : s.client.config.hasAddress = false ∨
      Transition.target .beginConnect s.client.state = none) :
    ∃ line, (Occurrence.log line).Plain ∧ (s.connect plan between).1 = s.log line := by
  rcases connect_cases plan between s with hc | hc | ⟨address, startable, -⟩
  · exact ⟨.noAddress, .of_isPlain rfl, by rw [hc]⟩
  · exact ⟨.cannotConnect s.client.state, .of_isPlain rfl, by rw [hc]⟩
  · rcases unmet with unmet | unmet
    · exact absurd (address.symm.trans unmet) (by simp)
    · exact absurd startable (by simp [unmet])

/-- What comes of the answer of a transport is no turn. -/
theorem turns_concluded (plan : Attempt) (n : Nat) (s : Scene) :
    turns (s.since (s.concluded plan n).1) = [] := by
  have freed : ∀ t : Scene,
      s.since (t.update n fun c => { c with running := c.running - 1 }) = s.since t := fun _ => rfl
  cases failed : plan.connectError with
  | some e =>
      rw [concluded_of_error failed, freed]
      exact (turns_giveUp e n s).1
  | none =>
      rw [concluded_of_open failed, freed]
      cases success : (s.settle n).2 with
      | true =>
          have told : s.since ((s.filled n).log .connected) = [.log .connected] :=
            since_of_account [_] rfl
          rw [settle_of_success success, told]
          rfl
      | false =>
          have grows : Grows s (s.forfeited n) :=
            ⟨List.suffix_cons _ _, List.suffix_refl _, Nat.le_refl _⟩
          have told : s.since (s.forfeited n) = [.log .closedWhileConnecting] :=
            since_of_account [_] rfl
          have torn : Still (s.forfeited n) ((s.forfeited n).teardown quietly) := .teardown _
          rw [settle_of_failure success, since_trans grows torn.toGrows, turns_append, torn.silent,
            told]
          rfl

/-- The account and the calls only grow, and they tell of every turn and of every call. -/
structure Recounts (i : Incident) (s t : Scene) : Prop extends Grows s t where
  turns : turns (s.since t) = i.turn?.toList
  called : s.callsSince t = i.call?.toList

/-- **What an incident does to the state.** -/
theorem Happens.state {s t : Scene} {i : Incident} (h : Happens s i t) :
    t.client.state = i.effect s.client.state := by
  cases h with
  | missed deaf signal => rfl
  | heard listens signal =>
      obtain ⟨session, heard⟩ := client_hear _ signal s
      rw [heard]
      rfl
  | disconnects => rw [client_disconnect]; rfl
  | refused plan between unmet =>
      obtain ⟨line, -, noted⟩ := connect_of_unmet plan between unmet
      rw [noted]
      rfl
  | accepted address startable => rfl
  | launched plan => rfl
  | uncreated e => rfl
  | unopened failed n =>
      rw [concluded_of_error failed, client_update, client_giveUp]
      rfl
  | connected opens success =>
      rw [concluded_of_open opens] at success ⊢
      rw [client_update, client_settle_of_success success]
      rfl
  | withdrawn opens failure =>
      rw [concluded_of_open opens] at failure ⊢
      rw [client_update, client_settle_of_failure failure]
      rfl
  | leaves => rfl

/-- **What is told of an incident.** -/
theorem Happens.recounts {s t : Scene} {i : Incident} (h : Happens s i t) : Recounts i s t := by
  cases h with
  | missed deaf signal =>
      exact ⟨.called _ signal s, turns_since_of_account rfl, callsSince_of_calls [_] rfl⟩
  | heard listens signal =>
      refine ⟨respected_grows.hear _ signal s, ?_, callsSince_of_calls [_] (calls_hear _ signal s)⟩
      rw [since_of_account [_] (account_hear _ signal s)]
      exact turns_singleton (Occurrence.turn?_line signal)
  | disconnects =>
      exact ⟨respected_grows.phased.disconnect s, turns_disconnect s,
        callsSince_eq_nil (hands_disconnect s).calls⟩
  | refused plan between unmet =>
      obtain ⟨line, plain, noted⟩ := connect_of_unmet plan between unmet
      rw [noted]
      have told : s.since (s.log line) = [.log line] := since_note _ s
      exact ⟨.note _ s, by rw [told, turns_silent plain.toSilent]; rfl, callsSince_eq_nil rfl⟩
  | accepted address startable =>
      exact ⟨respected_grows.move _ s, turns_since_of_account rfl, callsSince_eq_nil rfl⟩
  | launched _ plan =>
      have told : s.since (s.launched plan) = [.created s.network.length] :=
        since_of_account [_] rfl
      exact ⟨respected_grows.launched plan s, by rw [told]; rfl, callsSince_eq_nil rfl⟩
  | uncreated _ e =>
      refine ⟨⟨List.suffix_append [_, _] _, List.suffix_refl _, Nat.le_refl _⟩, ?_,
        callsSince_eq_nil rfl⟩
      rw [since_of_account [.log (.startFailed e), .createFailed] rfl]
      rfl
  | leaves =>
      exact ⟨.of_eq rfl rfl (Nat.le_refl _), turns_since_of_account rfl, callsSince_eq_nil rfl⟩
  | _ =>
      -- the transport has answered
      obtain ⟨session, -, concluded⟩ := hands_concluded _ _ s
      exact ⟨grows_concluded _ _ s, turns_concluded _ _ s, callsSince_eq_nil concluded.calls⟩

/-- An attempt is accepted only if the channel may be opened. -/
theorem Happens.idle {s t : Scene} {i : Incident} (h : Happens s i t)
    (accepted : i.accepts = true) : s.client.state = .disconnected ∨ s.client.state = .closed := by
  cases h with
  | accepted address startable =>
      cases state : s.client.state <;>
        first
        | exact .inl rfl
        | exact .inr rfl
        | exact absurd startable (by simp [state, Transition.target])
  | _ => exact absurd accepted (by simp [Incident.accepts])

/-- **Only a greeting makes a channel ready, and only a close makes it unready**: no signal that is
not listened to, no session that is handed over, no error, no frame of another kind, and no attempt
to connect, whether it is refused, accepted, fails or succeeds. -/
theorem Happens.ready_iff {s t : Scene} {i : Incident} (h : Happens s i t)
    (ungreeted : i.greets = false) (unclosed : i.closes = false) :
    s.client.state = .ready ↔ t.client.state = .ready := by
  rw [h.state]
  cases accepted : i.accepts with
  | false => exact (i.effect_of_other ungreeted unclosed accepted _).1.symm
  | true =>
      obtain rfl := Incident.eq_accepted accepted
      rcases h.idle accepted with idle | idle <;> rw [idle] <;> decide

/-! ### All incidents between two scenes -/

/-- An incident happens to a channel that stands as the incidents before it tell. -/
def Befalls (passed : List Passage) (p : Passage) : Prop :=
  Stands (passed.map Passage.incident) p.before.client.state ∧ Happens p.before p.incident p.after

namespace Annals

variable {s t u : Scene} {history history' : List Passage}

theorem append (h : Annals s history t) (h' : Annals t history' u) :
    Annals s (history ++ history') u := by
  induction h' with
  | start => simpa using h
  | still _ quiet uncalled ih => exact ih.still quiet uncalled
  | incident _ happens ih =>
      rw [← List.append_assoc]
      exact ih.incident happens

/-- **What is told of a run**: every turn is an incident, and so is every call of a handler. -/
theorem recounts (h : Annals s history t) :
    Grows s t ∧ turns (s.since t) = history.filterMap (fun p => p.incident.turn?) ∧
      s.callsSince t = history.filterMap (fun p => p.incident.call?) := by
  induction h with
  | start => exact ⟨.refl s, turns_since_of_account rfl, callsSince_eq_nil rfl⟩
  | still _ quiet uncalled ih =>
      obtain ⟨grows, told, called⟩ := ih
      refine ⟨grows.trans quiet.toGrows, ?_, ?_⟩
      · rw [since_trans grows quiet.toGrows, turns_append, told, quiet.silent, List.append_nil]
      · rw [callsSince_trans grows quiet.toGrows, called, callsSince_eq_nil uncalled,
          List.append_nil]
  | @incident _ t u i _ happens ih =>
      obtain ⟨grows, told, called⟩ := ih
      have recounts := happens.recounts
      refine ⟨grows.trans recounts.toGrows, ?_, ?_⟩
      · rw [since_trans grows recounts.toGrows, turns_append, told, recounts.turns,
          List.filterMap_append]
        cases h : i.turn? <;> simp [h]
      · rw [callsSince_trans grows recounts.toGrows, called, recounts.called,
          List.filterMap_append]
        cases h : i.call? <;> simp [h]

/-- **Where a channel stands in the course of a run and at its end**, if it stands at the beginning
as some earlier incidents tell. -/
theorem stands (h : Annals s history t) {past : List Passage}
    (beginning : Stands (past.map Passage.incident) s.client.state) :
    Along Befalls past history ∧
      Stands ((past ++ history).map Passage.incident) t.client.state := by
  induction h with
  | start => exact ⟨.nil, by simpa using beginning⟩
  | still _ quiet _ ih =>
      obtain ⟨along, stands⟩ := ih
      have same := quiet.state
      rw [quiet.silent] at same
      exact ⟨along, same ▸ stands⟩
  | @incident history t u i _ happens ih =>
      obtain ⟨along, stands⟩ := ih
      refine ⟨along.append (.singleton ⟨stands, happens⟩), ?_⟩
      rw [← List.append_assoc, List.map_append, happens.state]
      exact stands.step i happens.idle

end Annals

/-! ### Every run has its annals -/

/-- One scene leads to another by some incidents. -/
def Recorded (s t : Scene) : Prop := ∃ history, Annals s history t

namespace Recorded

variable {s t u : Scene}

theorem refl (s : Scene) : Recorded s s := ⟨[], .start⟩

theorem trans (h : Recorded s t) (h' : Recorded t u) : Recorded s u := by
  obtain ⟨history, h⟩ := h
  obtain ⟨history', h'⟩ := h'
  exact ⟨history ++ history', h.append h'⟩

theorem still (quiet : Still s t) (uncalled : t.calls = s.calls) : Recorded s t :=
  ⟨[], .still .start quiet uncalled⟩

theorem note {o : Occurrence} (silent : o.Silent) (s : Scene) : Recorded s (s.note o) :=
  still (.note silent s) rfl

theorem update {f : Connection → Connection} (mild : Connection.Mild f) (n : Nat) (s : Scene) :
    Recorded s (s.update n f) :=
  still (.update mild n s) rfl

theorem incident {i : Incident} (happens : Happens s i t) : Recorded s t :=
  ⟨[⟨s, i, t⟩], .incident .start happens⟩

/-- An elementary change keeps the channel still, or a handler is called. -/
theorem exchange {act : Performance} (nested : ∀ step s, Recorded s (s.nest act step))
    (change : Exchange act s t) : Recorded s t := by
  cases change with
  | note plain => exact note plain.toSilent s
  | submitted n frame =>
      exact still ⟨restful_steady.submitted n frame s, turns_since_of_account rfl⟩ rfl
  | requested m => exact still ⟨restful_steady.requested m s, turns_since_of_account rfl⟩ rfl
  | withRoster r => exact still ⟨restful_steady.withRoster s r, turns_since_of_account rfl⟩ rfl
  | update n mild => exact update mild n s
  | missed n signal deaf => exact incident (.missed deaf signal)
  | heard n signal listens => exact incident (.heard listens signal)
  | nested step => exact nested step s

theorem exchanges {act : Performance} (nested : ∀ step s, Recorded s (s.nest act step))
    (changes : Exchanges act s t) : Recorded s t := by
  induction changes with
  | refl => exact refl s
  | tail _ change ih => exact ih.trans (exchange nested change)

/-- A session that is handed over is heard or missed. -/
theorem announce (n : Nat) (s : Scene) : Recorded s (s.announce n) := by
  rw [← deliver_opened (react fun _ s => (s, .exhausted))]
  -- no step is performed in between, so that a nested step may be taken for one that does nothing
  refine exchanges (fun step s => ?_) (Exchanges.deliver n .opened s)
  exact (note (Occurrence.Plain.of_isPlain rfl).toSilent s).trans
    (note (Occurrence.Plain.of_isPlain rfl).toSilent _)

end Recorded

/-- What is torn down keeps the channel still, but for what happens in the midst of it. -/
theorem clearing_recorded : Clearing Recorded where
  refl := .refl
  trans := .trans
  note plain _ s := .note plain.toSilent s
  update n _ s mild := .update mild n s
  close _ := .note {} _
  letGo held := .still ⟨Steady.letGo held, by rw [since_of_account [.stopped _] rfl]; rfl⟩ rfl

section Connecting

variable {between : Interludes} (hbetween : ∀ m s, Recorded s (between m s))

include hbetween

/-- A transport is asked to open, and may hand its session over meanwhile. -/
theorem recorded_answered (plan : Attempt) (s : Scene) : Recorded s (s.answered plan between) := by
  unfold answered openTransport
  generalize s.network.length = n
  have launched : Recorded s (s.launched plan) := .incident (.launched s plan)
  generalize s.launched plan = t at launched
  have asked : Recorded s
      (t.note (.opened n t.client.config.address t.client.config.connectTimeout)) :=
    launched.trans (.note (Occurrence.Plain.of_isPlain rfl).toSilent t)
  have opened := asked.trans (.update (.isOpen plan.sessionOpen) n _)
  refine opened.trans (Recorded.trans ?_ (hbetween .opening _))
  split
  · exact .announce n _
  · exact .refl _

theorem recorded_connect (plan : Attempt) (s : Scene) : Recorded s (s.connect plan between).1 := by
  by_cases unmet : s.client.config.hasAddress = false ∨
      Transition.target .beginConnect s.client.state = none
  · exact .incident (.refused plan between unmet)
  · obtain ⟨address, startable⟩ : s.client.config.hasAddress = true ∧
        (Transition.target .beginConnect s.client.state).isSome = true := by
      rw [not_or] at unmet
      exact ⟨by simpa using unmet.1, Option.isSome_iff_ne_none.2 unmet.2⟩
    have cleared : Recorded s (s.cleared between) := by
      have begun : Recorded s (s.move .beginConnect) := .incident (.accepted address startable)
      have unheld : Recorded s s.begun := begun.trans (.still (.setSession none _) rfl)
      have torn := unheld.trans (clearing_recorded.teardown hbetween (s.move .beginConnect))
      exact (torn.trans (.note {} _)).trans (hbetween .creating _)
    cases created : plan.createError with
    | some e =>
        rw [connect_eq_of_createError between address startable created]
        exact cleared.trans (.incident (.uncreated _ e))
    | none =>
        rw [connect_eq_of_created between address startable created]
        generalize s.cleared between = t at cleared
        refine (cleared.trans (recorded_answered hbetween plan t)).trans ?_
        cases failed : plan.connectError with
        | some e => exact .incident (.unopened failed _ _)
        | none =>
            cases success : ((t.answered plan between).concluded plan t.network.length).2 with
            | true => exact .incident (.connected failed success)
            | false => exact .incident (.withdrawn failed success)

end Connecting

/-- **Every step has its annals, at any depth of nesting.** -/
theorem inherited_recorded : Inherited Recorded where
  refl := .refl
  trans := .trans
  note plain s := .note plain.toSilent s
  exchange nested change := .exchange nested change
  disconnect s := .incident (.disconnects s)
  connect := recorded_connect

theorem recorded_command (depth : Nat) (command : Command) (s : Scene) :
    Recorded s (command.perform depth s).1 := by
  cases command with
  | step step => exact inherited_recorded.perform depth step s
  | dropClient =>
      simp only [Command.perform, asClient]
      split
      · exact .refl s
      · rw [simply]
        rcases dropClient_cases s with dropped | ⟨-, -, dropped⟩
        · rw [dropped]
          exact .trans (.incident (.disconnects s)) (.incident (.leaves _))
        · rw [dropped]
          exact .incident (.leaves s)

end Scene

/-! ### Scripts -/

/-- The incidents of a script that is performed from a scene on.  The account starts anew with every
command. -/
inductive Script.Annals (depth : Nat) : Script → Scene → List Passage → Prop
  | done (s : Scene) : Annals depth [] s []
  | command {command : Command} {rest : Script} {s : Scene} {history later : List Passage}
      (first : Scene.Annals { s with account := [] } history
        (command.perform depth { s with account := [] }).1)
      (others : Annals depth rest (command.perform depth { s with account := [] }).1 later) :
      Annals depth (command :: rest) s (history ++ later)

namespace Script

/-- **Every script has its annals.** -/
theorem exists_annals (depth : Nat) (script : Script) (s : Scene) :
    ∃ history, script.Annals depth s history := by
  induction script generalizing s with
  | nil => exact ⟨[], .done s⟩
  | cons command rest ih =>
      obtain ⟨history, first⟩ := Scene.recorded_command depth command { s with account := [] }
      obtain ⟨later, others⟩ := ih (command.perform depth { s with account := [] }).1
      exact ⟨history ++ later, .command first others⟩

namespace Annals

variable {depth : Nat} {script : Script} {s : Scene} {history : List Passage}

/-- Every turn that a script tells of is an incident, and so is every call of a handler. -/
theorem recounts (h : script.Annals depth s history) :
    turns (script.accountOf depth s) = history.filterMap (fun p => p.incident.turn?) ∧
      (script.leads depth s).calls =
        (history.filterMap fun p => p.incident.call?).reverse ++ s.calls := by
  induction h with
  | done s => exact ⟨rfl, rfl⟩
  | @command command rest s history later first _ ih =>
      obtain ⟨grows, told, called⟩ := first.recounts
      obtain ⟨told', called'⟩ := ih
      refine ⟨?_, ?_⟩
      · rw [accountOf_cons, turns_append, told, told', List.filterMap_append]
      · have led : Script.leads depth (command :: rest) s =
            rest.leads depth (command.perform depth { s with account := [] }).1 := rfl
        rw [led, called', Scene.calls_of_grows grows, called, List.filterMap_append,
          List.reverse_append, List.append_assoc]

/-- Where a channel stands in the course of a script and at its end. -/
theorem stands (h : script.Annals depth s history) {past : List Passage}
    (beginning : Stands (past.map Passage.incident) s.client.state) :
    Along Scene.Befalls past history ∧
      Stands ((past ++ history).map Passage.incident) (script.leads depth s).client.state := by
  induction h generalizing past with
  | done s =>
      refine ⟨.nil, ?_⟩
      rw [List.append_nil]
      exact beginning
  | @command command rest s history later first _ ih =>
      obtain ⟨along, stands⟩ := first.stands beginning
      obtain ⟨along', stands'⟩ := ih stands
      refine ⟨along.append along', ?_⟩
      rw [← List.append_assoc]
      exact stands'

end Annals

end Script

/-- **Where a channel stands, at every point of every run**, whatever observers do and however
attempts overlap.  The incidents of a run are all calls of handlers and all turns that it tells of,
among others.  Before and after each of them, and in the end, the channel is ready exactly if a
greeting was heard since it was last closed, and closed exactly if it was closed and neither a
greeting was heard nor an attempt accepted since.  No other incident makes a channel ready or
unready. -/
theorem stands_throughout (config : Config) (depth : Nat) (script : Script) :
    (∃ history, script.Annals depth (.start config) history) ∧
    ∀ history, script.Annals depth (.start config) history →
      (turns (script.accountOf depth (.start config)) =
          history.filterMap (fun p => p.incident.turn?) ∧
        (script.leads depth (.start config)).calls.reverse =
          history.filterMap fun p => p.incident.call?) ∧
      Stands (history.map Passage.incident) (script.leads depth (.start config)).client.state ∧
      ∀ passed p rest, history = passed ++ p :: rest →
        Stands (passed.map Passage.incident) p.before.client.state ∧
        Stands ((passed ++ [p]).map Passage.incident) p.after.client.state ∧
        (p.incident.greets = false → p.incident.closes = false →
          (p.before.client.state = .ready ↔ p.after.client.state = .ready)) := by
  refine ⟨Script.exists_annals depth script _, fun history annals => ?_⟩
  obtain ⟨told, called⟩ := annals.recounts
  have new : Stands (([] : List Passage).map Passage.incident) (Scene.start config).client.state :=
    Stands.start
  obtain ⟨along, stands⟩ := annals.stands new
  refine ⟨⟨told, ?_⟩, by simpa using stands, fun passed p rest whole => ?_⟩
  · rw [called]
    simp [Scene.start]
  · obtain ⟨before, happens⟩ := along passed p rest whole
    refine ⟨before, ?_, happens.ready_iff⟩
    rw [List.map_append, happens.state]
    exact before.step p.incident happens.idle

end BridgeChannel
