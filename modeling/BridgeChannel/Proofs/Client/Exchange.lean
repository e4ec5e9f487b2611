/-
**What a step of a script consists of.**

Apart from connecting and disconnecting, everything that a client does is a sequence of eight kinds
of elementary changes: it takes note of something, hands a frame to a session, is asked to send a
message, changes the register of observers, changes a connection without touching what ties it to
the client, ignores a signal, hears a signal, or performs a nested step.  What every elementary
change respects is respected by the whole step, however deeply steps are nested in it.

Hearing a signal is one change, `Scene.hear`: the call, the log line and the move of the state.  The
observers are told afterwards, so that whatever they do finds the state already moved.

Main definitions:

* `Connection.Mild` — a change of a connection that leaves the client's view of it alone;
* `Scene.hear` — a signal that counts is heard;
* `Scene.Effect` — what a step does, unless nothing comes of it;
* `Scene.Exchange`, `Scene.Exchanges` — elementary changes, and sequences of them.

Main results:

* `take_cases` — **a step does what it is there for, or nothing**;
* `Exchanges.deliver`, `Exchanges.of_effect` — **a signal, and every step other than connecting and
  disconnecting, is a sequence of elementary changes**.
-/
import BridgeChannel.Proofs.Client.History
import Mathlib.Logic.Relation

set_option autoImplicit false

namespace BridgeChannel

/-- A change of a connection that keeps its generation, its conduct and whether it was released. -/
structure Connection.Mild (f : Connection → Connection) : Prop where
  generation : ∀ c, (f c).generation = c.generation := by intro c; rfl
  conduct : ∀ c, (f c).conduct = c.conduct := by intro c; rfl
  released : ∀ c, (f c).released = c.released := by intro c; rfl

namespace Connection.Mild

theorem isOpen (isOpen : Bool) : Mild fun c => { c with isOpen } := {}

theorem held (held : Bool) : Mild fun c => { c with held } := {}

/-- A call of the handler begins. -/
theorem entered : Mild fun c => { c with running := c.running + 1 } := {}

/-- A call of the handler is over. -/
theorem left : Mild fun c => { c with running := c.running - 1 } := {}

/-- The reader of the stream has taken an item. -/
theorem read (reader : WebSocket.Reader) :
    Mild fun c => { c with reader, isOpen := c.isOpen && !reader.hasClosed } := {}

end Connection.Mild

namespace Scene

/-- A signal of a connection is heard: the client takes note of it, and its state moves. -/
def hear (n : Nat) (signal : Signal) (s : Scene) : Scene :=
  let s := (s.called n signal).log signal.line
  match signal with
  | .opened => (s.setSession (some n)).move .transportOpened
  | .message _ => if signal.greets then s.move .handshakeCompleted else s
  | .closed _ _ => s.move .closed
  | .failed _ => s

theorem account_hear (n : Nat) (signal : Signal) (s : Scene) :
    (s.hear n signal).account = .log signal.line :: s.account := by
  cases signal with
  | message frame =>
      unfold hear
      dsimp only
      split <;> rfl
  | _ => rfl

theorem calls_hear (n : Nat) (signal : Signal) (s : Scene) :
    (s.hear n signal).calls = (n, signal) :: s.calls := by
  cases signal with
  | message frame =>
      unfold hear
      dsimp only
      split <;> rfl
  | _ => rfl

theorem network_hear (n : Nat) (signal : Signal) (s : Scene) :
    (s.hear n signal).network = s.network ∧ (s.hear n signal).gone = s.gone := by
  cases signal with
  | message frame =>
      unfold hear
      dsimp only
      split <;> exact ⟨rfl, rfl⟩
  | _ => exact ⟨rfl, rfl⟩

theorem client_hear (n : Nat) (signal : Signal) (s : Scene) :
    ∃ session, (s.hear n signal).client =
      { s.client with state := signal.effect s.client.state, session } := by
  cases signal with
  | opened => exact ⟨some n, rfl⟩
  | message frame =>
      refine ⟨s.client.session, ?_⟩
      unfold hear Signal.effect
      dsimp only
      split <;> rfl
  | closed code reason => exact ⟨_, rfl⟩
  | failed e => exact ⟨_, rfl⟩

/-! ### Steps -/

/-- What a step does, unless nothing comes of it. -/
inductive Effect (act : Performance) (s : Scene) : Step → Scene → Prop
  | connect (plan : Attempt) (during : List (Moment × Step)) :
      Effect act s (.connect plan during) (s.connect plan (interludes act during)).1
  | disconnect : Effect act s .disconnect s.disconnect
  | send (message : Message) :
      Effect act s (.send message) ((s.requested message).sendMessage message)
  | clearObservers : Effect act s .clearObservers { s with roster := s.roster.clear }
  | observe (name : String) (reactions : List (Event.Kind × Step)) (times : Nat) :
      Effect act s (.observe name reactions times)
        (s.welcome { name, reactions, remaining := times })
  | addAgain {name : String} {n : Nat} (owned : s.roster.owned? name = some n) :
      Effect act s (.addAgain name) { s with roster := s.roster.register n }
  | dropObserver (name : String) :
      Effect act s (.dropObserver name) { s with roster := s.roster.release name }
  | signal (connection : Option Nat) (n : Nat) (signal : Signal) :
      Effect act s (.signal connection signal) (s.engaged n (deliver (react act) n signal))
  | stream (connection : Option Nat) (n : Nat) (item : Option WebSocket.StreamItem) :
      Effect act s (.stream connection item) (s.read (react act) n item)
  | setOpen (connection : Option Nat) (n : Nat) (isOpen : Bool) :
      Effect act s (.setOpen connection isOpen) (s.update n fun c => { c with isOpen })
  | hold (connection : Option Nat) (n : Nat) :
      Effect act s (.hold connection) (s.update n fun c => { c with held := true })
  | release (connection : Option Nat) (n : Nat) :
      Effect act s (.release connection) (s.update n fun c => { c with held := false })

/-- **Nothing comes of a step, or it does what it is there for**: there may be no client, no
connection or no observer that it could be done to. -/
theorem take_cases (act : Performance) (step : Step) (s : Scene) :
    (take act step s).1 = s ∨ Effect act s step (take act step s).1 := by
  cases step with
  | query => exact Or.inl rfl
  | connect plan during =>
      simp only [take, asClient]
      split
      · exact Or.inl rfl
      · exact Or.inr (.connect plan during)
  | disconnect =>
      simp only [take, asClient]
      split
      · exact Or.inl rfl
      · exact Or.inr .disconnect
  | send message =>
      simp only [take, asClient]
      split
      · exact Or.inl rfl
      · exact Or.inr (.send message)
  | clearObservers =>
      simp only [take, asClient]
      split
      · exact Or.inl rfl
      · exact Or.inr .clearObservers
  | observe name reactions times =>
      simp only [take, asClient]
      split
      · exact Or.inl rfl
      · exact Or.inr (.observe name reactions times)
  | addAgain name =>
      simp only [take, asClient]
      split
      · exact Or.inl rfl
      · split
        next owned => exact Or.inr (.addAgain owned)
        · exact Or.inl rfl
  | dropObserver name =>
      simp only [take]
      split
      · exact Or.inr (.dropObserver name)
      · exact Or.inl rfl
  | signal connection signal =>
      simp only [take, atHandler, atConnection]
      split
      · split
        · exact Or.inr (.signal connection _ signal)
        · exact Or.inl rfl
      · exact Or.inl rfl
  | stream connection item =>
      simp only [take, atConnection]
      split
      · exact Or.inr (.stream connection _ item)
      · exact Or.inl rfl
  | setOpen connection isOpen =>
      simp only [take, atConnection]
      split
      · exact Or.inr (.setOpen connection _ isOpen)
      · exact Or.inl rfl
  | hold connection =>
      simp only [take, atHandler, atConnection]
      split
      · split
        · exact Or.inr (.hold connection _)
        · exact Or.inl rfl
      · exact Or.inl rfl
  | release connection =>
      simp only [take, atConnection]
      split
      · split
        · exact Or.inr (.release connection _)
        · exact Or.inl rfl
      · exact Or.inl rfl

/-! ### Elementary changes -/

/-- The elementary changes of a scene, where `act` performs nested steps. -/
inductive Exchange (act : Performance) : Scene → Scene → Prop
  | note (s : Scene) {o : Occurrence} (plain : o.Plain) : Exchange act s (s.note o)
  | submitted (s : Scene) (n : Nat) (frame : String) : Exchange act s (s.submitted n frame)
  | requested (s : Scene) (m : Message) : Exchange act s (s.requested m)
  | withRoster (s : Scene) (r : Roster Observer) : Exchange act s { s with roster := r }
  | update (s : Scene) (n : Nat) {f : Connection → Connection} (mild : Connection.Mild f) :
      Exchange act s (s.update n f)
  | missed (s : Scene) (n : Nat) (signal : Signal) (deaf : s.listensTo n = false) :
      Exchange act s (s.called n signal)
  | heard (s : Scene) (n : Nat) (signal : Signal) (listens : s.listensTo n = true) :
      Exchange act s (s.hear n signal)
  | nested (s : Scene) (step : Step) : Exchange act s (s.nest act step)

/-- Sequences of elementary changes. -/
abbrev Exchanges (act : Performance) : Scene → Scene → Prop := Relation.ReflTransGen (Exchange act)

namespace Exchanges

variable {act : Performance}

theorem one {s s' : Scene} (h : Exchange act s s') : Exchanges act s s' := .single h

theorem log (s : Scene) {line : LogLine} (plain : (Occurrence.log line).Plain) :
    Exchanges act s (s.log line) := one (.note s plain)

/-! ### Sending -/

theorem sendFrame (m : Message) (s : Scene) : Exchanges act s (s.sendFrame m) := by
  unfold Scene.sendFrame
  split
  · exact log s (.of_isPlain rfl)
  · split
    · exact log s (.of_isPlain rfl)
    next n _ _ frame _ =>
      have out : Exchanges act s ((s.log (.sending frame)).submitted n frame) :=
        (log s (.of_isPlain rfl)).tail (.submitted _ n frame)
      dsimp only
      split
      · exact out.trans (log _ (.of_isPlain rfl))
      · exact out.tail (.note _ (.of_isPlain rfl))

theorem sendMessage (m : Message) (s : Scene) : Exchanges act s (s.sendMessage m) := by
  unfold Scene.sendMessage
  split
  · exact sendFrame m s
  · exact log s (.of_isPlain rfl)

/-! ### Observers -/

theorem nestAll (steps : List Step) (s : Scene) : Exchanges act s (s.nestAll act steps) := by
  induction steps generalizing s with
  | nil => exact .refl
  | cons step steps ih => exact (one (.nested s step)).trans (ih (s.nest act step))

/-- An observer takes note, and reacts with nested steps. -/
theorem react (n : Nat) (event : Event) (s : Scene) :
    Exchanges act s (Scene.react act n event s) := by
  unfold Scene.react
  split
  · exact .refl
  next o _ =>
    have told : Exchanges act s (s.note (.told o.name event)) := one (.note s (.of_isPlain rfl))
    -- an observer reacts only so many times
    dsimp only
    split
    · exact told
    · exact (told.tail (.withRoster _ _)).trans (nestAll _ _)

/-- Observers are called one after the other. -/
theorem callEach {call : Nat → Scene → Scene} (hcall : ∀ n s, Exchanges act s (call n s))
    (ns : List Nat) (s : Scene) : Exchanges act s (BridgeChannel.callEach call ns s) := by
  induction ns generalizing s with
  | nil => exact .refl
  | cons n ns ih =>
      rw [callEach_cons]
      exact ((hcall n s).tail (.withRoster _ _)).trans (ih _)

theorem tell (event : Event) (s : Scene) : Exchanges act s (s.tell (Scene.react act) event) := by
  unfold Scene.tell notify
  have pruned : Exchanges act s (HasRoster.modify Roster.prune s) := one (.withRoster s _)
  exact (pruned.tail (.withRoster _ _)).trans (callEach (fun n s => react n event s) _ _)

/-! ### Signals -/

/-- Whether a frame can be sent has nothing to do with the state of the channel. -/
theorem sendFrame_move (m : Message) (t : Transition) (s : Scene) :
    (s.sendFrame m).move t = (s.move t).sendFrame m := by
  unfold Scene.sendFrame
  have same : (s.move t).openSession? = s.openSession? := rfl
  rw [same]
  cases s.openSession? with
  | none => rfl
  | some n =>
      cases m.encode with
      | error e => rfl
      | ok frame =>
          have conduct : ∀ s' : Scene, (s'.move t).conduct n = s'.conduct n := fun _ => rfl
          dsimp only
          cases hsend : (((s.log (.sending frame)).submitted n frame).conduct n).sendError <;>
            · have hsend' : ((((s.move t).log (.sending frame)).submitted n frame).conduct
                  n).sendError = _ := hsend
              simp only [hsend']
              rfl

/-- The rest of a greeting, once the state has moved. -/
theorem greet (s : Scene) :
    Exchanges act (s.move .handshakeCompleted) (s.greet (Scene.react act)) := by
  unfold Scene.greet
  dsimp only
  rw [sendFrame_move]
  have ready : Exchanges act (s.move .handshakeCompleted)
      ((((s.log .greeted).move .handshakeCompleted).sendFrame .clientHello).log .nowReady) :=
    ((one (.note (s.move .handshakeCompleted) (.of_isPlain rfl))).trans (sendFrame _ _)).trans
      (log _ (.of_isPlain rfl))
  exact ((ready.trans (tell _ _)).trans (sendMessage _ _)).trans (log _ (.of_isPlain rfl))

theorem pass (c : MessageClass) {line : LogLine} (plain : (Occurrence.log line).Plain)
    (event : Event) (s : Scene) :
    Exchanges act s (s.pass (Scene.react act) c line event) := by
  unfold Scene.pass
  split
  · exact (log s plain).trans (tell _ _)
  · exact log s (.of_isPlain rfl)

/-- A message other than a greeting leaves the state alone. -/
theorem dispatch {m : Message} (other : ∀ version, m ≠ .serverHello version) (s : Scene) :
    Exchanges act s (s.dispatch (Scene.react act) m) := by
  cases m with
  | serverHello version => exact absurd rfl (other version)
  | clientHello => exact log s (.of_isPlain rfl)
  | endpointMessage e => exact pass _ (.of_isPlain rfl) _ s
  | dominantSpeaker endpoint previous => exact pass _ (.of_isPlain rfl) _ s
  | connectivity endpoint active => exact pass _ (.of_isPlain rfl) _ s
  | senderVideoConstraints constraints => exact .refl
  | receiverVideoConstraints lastN defaults => exact log s (.of_isPlain rfl)
  | unknown className body => exact log s (.of_isPlain rfl)

/-- A frame that counts is heard before anything else comes of it. -/
theorem receive (n : Nat) (frame : String) (s : Scene) :
    Exchanges act (s.hear n (.message frame))
      ((s.called n (.message frame)).receive (Scene.react act) frame) := by
  cases hg : (Signal.message frame).greets with
  | true =>
      obtain ⟨version, hd⟩ := Signal.greets_message_iff.1 hg
      have heard : s.hear n (.message frame) =
          ((s.called n (.message frame)).log (.received frame)).move .handshakeCompleted := by
        simp [hear, hg, Signal.line]
      rw [heard]
      simp only [Scene.receive, hd]
      -- the answer is sent before the state moves, which makes no difference to either
      exact greet _
  | false =>
      have heard : s.hear n (.message frame) =
          (s.called n (.message frame)).log (.received frame) := by
        simp [hear, hg, Signal.line]
      rw [heard]
      unfold Scene.receive
      dsimp only
      split
      next m hd =>
        refine dispatch ?_ _
        rintro version rfl
        rw [Signal.greets_message_iff.2 ⟨version, hd⟩] at hg
        exact absurd hg (by simp)
      · exact log _ (.of_isPlain rfl)
      · exact log _ (.of_isPlain rfl)

/-- A signal that counts is heard before anything else comes of it. -/
theorem obey (n : Nat) (signal : Signal) (s : Scene) :
    Exchanges act (s.hear n signal) ((s.called n signal).obey (Scene.react act) n signal) := by
  cases signal with
  | opened => exact .refl
  | message frame => exact receive n frame s
  | closed code reason => exact tell _ _
  | failed e => exact .refl

/-- **A signal is missed or heard, and elementary changes come of it.** -/
theorem deliver (n : Nat) (signal : Signal) (s : Scene) :
    Exchanges act s (s.deliver (Scene.react act) n signal) := by
  cases listens : s.listensTo n with
  | true =>
      rw [deliver_of_listens listens]
      exact (one (.heard s n signal listens)).trans (obey n signal s)
  | false =>
      have missed : Exchanges act s (s.called n signal) := one (.missed s n signal listens)
      rcases deliver_of_deaf listens signal with h | ⟨generation, latest, h⟩
      · rw [h]
        exact missed
      · rw [h]
        exact missed.trans (log _ (.of_isPlain rfl))

/-- What happens while a call of a handler runs. -/
theorem engaged {n : Nat} {f : Scene → Scene} (hf : ∀ s, Exchanges act s (f s)) (s : Scene) :
    Exchanges act s (s.engaged n f) :=
  ((one (.update s n .entered)).trans (hf _)).tail (.update _ n .left)

theorem read (n : Nat) (item : Option WebSocket.StreamItem) (s : Scene) :
    Exchanges act s (s.read (Scene.react act) n item) := by
  unfold Scene.read
  split
  · exact .refl
  · split
    · exact .refl
    next c _ _ =>
      dsimp only
      split
      · exact (one (.update s n (.read _))).trans (engaged (deliver n _) _)
      · exact one (.update s n (.read _))

/-- **Every step other than connecting and disconnecting is a sequence of elementary changes.** -/
theorem of_effect {step : Step} {s t : Scene} (effect : Effect act s step t)
    (hconnect : ∀ plan during, step ≠ .connect plan during) (hdisconnect : step ≠ .disconnect) :
    Exchanges act s t := by
  cases effect with
  | connect plan during => exact absurd rfl (hconnect plan during)
  | disconnect => exact absurd rfl hdisconnect
  | send message => exact (one (.requested s message)).trans (sendMessage message _)
  | signal connection n signal => exact engaged (fun s => deliver n signal s) s
  | stream connection n item => exact read n item s
  | setOpen connection n isOpen => exact one (.update s n (.isOpen isOpen))
  | hold connection n => exact one (.update s n (.held _))
  | release connection n => exact one (.update s n (.held _))
  | _ => exact one (.withRoster s _)

end Exchanges

end Scene

end BridgeChannel
