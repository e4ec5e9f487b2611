/-
**What a callback makes an observer be told, whatever observers do in answer.**

Over WebSocket, the handler of a connection is called when its transport is opened, and by its
reader.  Each call is over before the next one begins: what observers do in answer brings about no
other call.  They may close the channel, send messages, come and go, and bring about others that
answer.

An observer that nobody registers in answer is then told one piece of news in a callback at most, as
often as it is registered, and that is the news in the signal.

Main definitions:

* `Step.isAnswer`, `Step.isWired` — what observers do in answer, and what happens over WebSocket;
* `Roster.Limited` — the observer of a name is registered so many times at most, and all observers
  do nothing but answer;
* `Scene.wires` — what the transports of connections go by;
* `Scene.Tells`, `Scene.Relays` — what an observer is told while no handler is called;
* `Scene.Tolerant` — relations that hold wherever an observer is told nothing and no handler is
  called.

Main results:

* `relays_answer` — **an answer tells nobody anything**;
* `news_tell`, `news_obey` — what an observer is told of a piece of news, and of a signal;
* `taken_read` — **what comes of an item that the reader of a connection takes**;
* `Tolerant.teardown` — tolerant relations hold across a teardown.
-/
import BridgeChannel.Proofs.Client.Ownership
import BridgeChannel.Proofs.Client.Steady

set_option autoImplicit false

namespace BridgeChannel

/-! ### Steps -/

namespace Step

mutual

/-- Whether a step is an answer to some news: no handler is called in the midst of it, the observer
of a name is not registered, and whoever is registered does nothing but answer. -/
def isAnswer (name : String) : Step → Bool
  | connect _ _ => false
  | signal _ _ => false
  | stream _ _ => false
  | observe other reactions _ => other != name && areAnswers name reactions
  | addAgain other => other != name
  | _ => true

def areAnswers (name : String) : List (Event.Kind × Step) → Bool
  | [] => true
  | (_, step) :: rest => step.isAnswer name && areAnswers name rest

end

mutual

/-- Whether a step, with all that is nested in it, can happen over WebSocket: handlers are called
when transports are opened, and by readers.  The observer of a name is not registered, and whoever
is registered does nothing but answer. -/
def isWired (name : String) : Step → Bool
  | connect plan during => plan.announced == plan.connectError.isNone && areWired name during
  | signal _ _ => false
  | observe other reactions _ => other != name && areAnswers name reactions
  | addAgain other => other != name
  | _ => true

def areWired (name : String) : List (Moment × Step) → Bool
  | [] => true
  | (_, step) :: rest => step.isWired name && areWired name rest

end

theorem isAnswer_of_mem {name : String} {reactions : List (Event.Kind × Step)}
    (answers : areAnswers name reactions = true) :
    ∀ reaction ∈ reactions, reaction.2.isAnswer name = true := by
  induction reactions with
  | nil => exact fun reaction h => absurd h List.not_mem_nil
  | cons first rest ih =>
      rw [areAnswers, Bool.and_eq_true] at answers
      exact List.forall_mem_cons.2 ⟨answers.1, ih answers.2⟩

theorem isWired_of_mem {name : String} {during : List (Moment × Step)}
    (wired : areWired name during = true) : ∀ d ∈ during, d.2.isWired name = true := by
  induction during with
  | nil => exact fun d h => absurd h List.not_mem_nil
  | cons first rest ih =>
      rw [areWired, Bool.and_eq_true] at wired
      exact List.forall_mem_cons.2 ⟨wired.1, ih wired.2⟩

end Step

/-- Whether a command can be carried out over WebSocket. -/
def Command.isWired (name : String) : Command → Bool
  | step s => s.isWired name
  | dropClient => true

/-! ### Rosters -/

namespace Roster

/-- Whether an observer bears a name. -/
def bears (name : String) (r : Roster Observer) (n : Nat) : Bool := r.nameOf n == some name

/-- Observers of a name are registered so many times at most, and all observers do nothing but
answer. -/
structure Limited (name : String) (k : Nat) (r : Roster Observer) : Prop where
  orderly : r.Orderly
  known : ∀ n ∈ r.registered, n < r.next
  registered : r.registered.countP (r.bears name) ≤ k
  answers : ∀ o ∈ r.everyone, ∀ reaction ∈ o.reactions, reaction.2.isAnswer name = true

theorem Limited.mono {name : String} {k l : Nat} {r : Roster Observer} (h : r.Limited name k)
    (le : k ≤ l) : r.Limited name l :=
  { h with registered := Nat.le_trans h.registered le }

/-- A roster comes of another one: who bears a name is the same, and who was limited still is. -/
structure Heeds (name : String) (r r' : Roster Observer) : Prop where
  bears : r'.bears name = r.bears name
  limited : ∀ k, r.Limited name k → r'.Limited name k

namespace Heeds

variable {name : String} {r r' r'' : Roster Observer}

theorem refl (r : Roster Observer) : Heeds name r r := ⟨rfl, fun _ h => h⟩

theorem trans (h : Heeds name r r') (h' : Heeds name r' r'') : Heeds name r r'' :=
  ⟨h'.bears.trans h.bears, fun k limited => h'.limited k (h.limited k limited)⟩

/-- Nobody comes into being and nobody is registered. -/
theorem of_everyone (everyone : r'.everyone = r.everyone)
    (registered : r'.registered.Sublist r.registered) (orderly : r.Orderly → r'.Orderly) :
    Heeds name r r' := by
  have bears : r'.bears name = r.bears name := by
    funext n
    rw [Roster.bears, nameOf, everyone]
    rfl
  refine ⟨bears, fun k h => ⟨orderly h.orderly, fun n hn => ?_, ?_, everyone ▸ h.answers⟩⟩
  · rw [next, everyone]
    exact h.known n (registered.subset hn)
  · rw [bears]
    exact Nat.le_trans registered.countP_le h.registered

theorem prune (r : Roster Observer) : Heeds name r r.prune :=
  .of_everyone rfl List.filter_sublist fun h => ⟨h.owners, h.unique⟩

theorem keep (ns : List Nat) (r : Roster Observer) : Heeds name r (r.keep ns) :=
  .of_everyone rfl (.refl _) fun h => ⟨h.owners, h.unique⟩

theorem letGo (n : Nat) (r : Roster Observer) : Heeds name r (r.letGo n) :=
  .of_everyone rfl (.refl _) fun h => ⟨h.owners, h.unique⟩

theorem clear (r : Roster Observer) : Heeds name r r.clear :=
  .of_everyone rfl (List.nil_sublist _) fun h => ⟨h.owners, h.unique⟩

theorem release (other : String) (r : Roster Observer) : Heeds name r (r.release other) :=
  .of_everyone rfl (.refl _) fun h => h.release other

/-- An observer spends a reaction. -/
theorem update (n : Nat) {f : Observer → Observer} (keeps : ∀ o, (f o).name = o.name)
    (reactions : ∀ o, (f o).reactions = o.reactions) (r : Roster Observer) :
    Heeds name r (r.update n f) := by
  have bears : (r.update n f).bears name = r.bears name := by
    funext m
    rw [Roster.bears, nameOf_update n keeps]
    rfl
  refine ⟨bears, fun k h =>
    ⟨h.orderly.update n keeps, fun m hm => ?_, bears ▸ h.registered, fun o ho => ?_⟩⟩
  · rw [next, Roster.update, List.length_modify]
    exact h.known m hm
  obtain ⟨m, hm⟩ := List.mem_iff_getElem?.1 ho
  rw [Roster.update, List.getElem?_modify] at hm
  obtain ⟨o', ho', rfl⟩ := Option.map_eq_some_iff.1 hm
  have answers := h.answers o' (List.mem_iff_getElem?.2 ⟨m, ho'⟩)
  split
  · rw [reactions]
    exact answers
  · exact answers

/-- Another observer is registered once more. -/
theorem register {other : String} (different : other ≠ name) {n : Nat}
    (owned : r.owned? other = some n) : Heeds name r (r.register n) := by
  refine ⟨rfl, fun k h => ?_⟩
  have bearer : r.nameOf n = some other := h.orderly.owners _ (mem_of_owned? owned)
  have unnamed : r.bears name n = false := by simp [Roster.bears, bearer, different]
  have same : (r.register n).bears name = r.bears name := rfl
  have registered : (r.register n).registered = r.registered ++ [n] := rfl
  refine ⟨⟨h.orderly.owners, h.orderly.unique⟩, ?_, ?_, h.answers⟩
  · rw [registered]
    refine List.forall_mem_append.2 ⟨h.known, List.forall_mem_singleton.2 ?_⟩
    obtain ⟨o, there, -⟩ := Option.map_eq_some_iff.1 bearer
    exact (List.getElem?_eq_some_iff.1 there).1
  · rw [same, registered, List.countP_append, List.countP_singleton, unnamed]
    exact h.registered

end Heeds

/-- Once an observer of a name comes into being and is registered, it is registered once more. -/
theorem Limited.create {name : String} {k : Nat} {r : Roster Observer} (h : r.Limited name k)
    (o : Observer) (answers : ∀ reaction ∈ o.reactions, reaction.2.isAnswer name = true) :
    (((r.create o).own o.name r.next).register r.next).Limited name
      (k + if o.name = name then 1 else 0) := by
  have names : ∀ n, (r.create o).bears name n =
      if n = r.next then decide (o.name = name) else r.bears name n := by
    intro n
    rw [Roster.bears, nameOf_create]
    split
    · by_cases same : o.name = name <;> simp [same]
    · rfl
  have registered : (((r.create o).own o.name r.next).register r.next).registered =
      r.registered ++ [r.next] := rfl
  have next : (((r.create o).own o.name r.next).register r.next).next = r.next + 1 := by
    simp [Roster.next, Roster.register, own, Roster.create]
  refine ⟨h.orderly.welcome o, ?_, ?_, fun o' ho' => ?_⟩
  · rw [registered, next]
    exact List.forall_mem_append.2 ⟨fun n hn => Nat.lt_succ_of_lt (h.known n hn),
      List.forall_mem_singleton.2 (Nat.lt_succ_self _)⟩
  · -- whoever was registered before was there already, and bears the same name
    have older : r.registered.countP ((r.create o).bears name) =
        r.registered.countP (r.bears name) :=
      List.countP_congr fun n hn => by rw [names, if_neg (Nat.ne_of_lt (h.known n hn))]
    have newest : [r.next].countP ((r.create o).bears name) =
        if o.name = name then 1 else 0 := by
      rw [List.countP_singleton, names, if_pos rfl]
      simp
    change List.countP ((r.create o).bears name) (r.registered ++ [r.next]) ≤ _
    rw [List.countP_append, older, newest]
    exact Nat.add_le_add_right h.registered _
  · rcases List.mem_append.1 ho' with old | new
    · exact h.answers o' old
    · rw [List.mem_singleton.1 new]
      exact answers

/-- Another observer comes into being and is registered. -/
theorem Heeds.welcome {name : String} {o : Observer} (different : o.name ≠ name)
    (answers : ∀ reaction ∈ o.reactions, reaction.2.isAnswer name = true) (r : Roster Observer) :
    Heeds name r (((r.create o).own o.name r.next).register r.next) := by
  refine ⟨funext fun n => ?_, fun k h => ?_⟩
  · change ((r.create o).nameOf n == some name) = (r.nameOf n == some name)
    rw [nameOf_create]
    split
    next new =>
      have nobody : r.nameOf n = none := by simp [new, nameOf, next]
      simp [nobody, different]
    · rfl
  · simpa [different] using h.create o answers

end Roster

namespace Scene

/-! ### While no handler is called -/

/-- How the network behaves on each connection, and how far its reader is. -/
def wires (s : Scene) : List (Attempt × WebSocket.Reader) :=
  s.network.map fun c => (c.conduct, c.reader)

theorem length_wires (s : Scene) : s.wires.length = s.network.length := List.length_map _

theorem wires_update (n : Nat) (f : Connection → Connection) (s : Scene)
    (conduct : ∀ c, (f c).conduct = c.conduct) (reader : ∀ c, (f c).reader = c.reader) :
    (s.update n f).wires = s.wires := by
  refine List.ext_getElem? fun k => ?_
  simp only [wires, update, List.getElem?_map, List.getElem?_modify]
  split <;> cases s.network[k]? <;> simp [conduct, reader]

/-- What the observer of a name is told between two scenes.  No handler is called, and no reader
takes anything. -/
structure Tells (name : String) (events : List Event) (s t : Scene) : Prop extends Grows s t where
  told : toldTo name (s.since t) = events
  uncalled : t.calls = s.calls
  wires : t.wires = s.wires

/-- The same, while the observer is not registered and observers that come into being do nothing but
answer. -/
structure Relays (name : String) (events : List Event) (s t : Scene) : Prop
    extends Tells name events s t where
  heeds : s.roster.Heeds name t.roster

namespace Tells

variable {name : String} {s t u : Scene} {events events' : List Event}

theorem trans (h : Tells name events s t) (h' : Tells name events' t u) :
    Tells name (events ++ events') s u where
  toGrows := h.toGrows.trans h'.toGrows
  told := by rw [since_trans h.toGrows h'.toGrows, toldTo_append, h.told, h'.told]
  uncalled := h'.uncalled.trans h.uncalled
  wires := h'.wires.trans h.wires

/-- What neither the account nor the calls tell of. -/
theorem of_same (account : t.account = s.account) (calls : t.calls = s.calls)
    (wires : t.wires = s.wires) : Tells name [] s t where
  toGrows := Grows.of_eq account calls
    (Nat.le_of_eq (by rw [← length_wires, ← length_wires, wires]))
  told := by rw [since_eq_nil account]; rfl
  uncalled := calls
  wires := wires

theorem note (o : Occurrence) (s : Scene) : Tells name (toldTo name [o]) s (s.note o) where
  toGrows := Grows.note o s
  told := by rw [since_note]
  uncalled := rfl
  wires := rfl

end Tells

namespace Relays

variable {name : String} {s t u : Scene} {events events' : List Event}

theorem trans (h : Relays name events s t) (h' : Relays name events' t u) :
    Relays name (events ++ events') s u :=
  ⟨h.toTells.trans h'.toTells, h.heeds.trans h'.heeds⟩

/-- The observer is told nothing afterwards. -/
theorem before (h : Relays name events s t) (h' : Relays name [] t u) : Relays name events s u := by
  simpa only [List.append_nil] using h.trans h'

/-- What neither the account nor the calls tell of. -/
theorem of_same (account : t.account = s.account) (calls : t.calls = s.calls)
    (wires : t.wires = s.wires) (roster : t.roster = s.roster) : Relays name [] s t :=
  ⟨.of_same account calls wires, roster ▸ .refl _⟩

theorem refl (s : Scene) : Relays name [] s s := of_same rfl rfl rfl rfl

theorem note {o : Occurrence} (untold : o.tells = false) (s : Scene) :
    Relays name [] s (s.note o) :=
  ⟨toldTo_untold name untold ▸ Tells.note o s, .refl _⟩

theorem log (line : LogLine) (s : Scene) : Relays name [] s (s.log line) := note rfl s

theorem update (n : Nat) (f : Connection → Connection) (s : Scene)
    (conduct : ∀ c, (f c).conduct = c.conduct) (reader : ∀ c, (f c).reader = c.reader) :
    Relays name [] s (s.update n f) :=
  of_same rfl rfl (wires_update n f s conduct reader) rfl

theorem move (transition : Transition) (s : Scene) : Relays name [] s (s.move transition) :=
  of_same rfl rfl rfl rfl

theorem setSession (n : Option Nat) (s : Scene) : Relays name [] s (s.setSession n) :=
  of_same rfl rfl rfl rfl

theorem setTransport (n : Option Nat) (s : Scene) : Relays name [] s (s.setTransport n) :=
  of_same rfl rfl rfl rfl

theorem setHandler (n : Option Nat) (s : Scene) : Relays name [] s (s.setHandler n) :=
  of_same rfl rfl rfl rfl

theorem withRoster {s : Scene} {r : Roster Observer} (heeds : s.roster.Heeds name r) :
    Relays name [] s { s with roster := r } :=
  ⟨.of_same rfl rfl rfl, heeds⟩

theorem sendFrame (m : Message) (s : Scene) : Relays name [] s (s.sendFrame m) := by
  unfold Scene.sendFrame
  split
  · exact log _ s
  · split
    · exact log _ s
    next n _ _ frame _ =>
      have out : Relays name [] s ((s.log (.sending frame)).submitted n frame) :=
        (log _ s).before (.of_same rfl rfl rfl rfl)
      dsimp only
      split
      · exact out.before (log _ _)
      · exact out.before (note rfl _)

theorem sendMessage (m : Message) (s : Scene) : Relays name [] s (s.sendMessage m) := by
  unfold Scene.sendMessage
  split
  · exact sendFrame m s
  · exact log _ s

end Relays

/-! ### Closing -/

-- `Clearing` does not fit here: a reader that moves on is among the changes that it allows for.
/-- A relation between scenes that holds wherever an observer is told nothing, no handler is called
and no reader takes anything. -/
structure Tolerant (name : String) (R : Scene → Scene → Prop) : Prop where
  trans : ∀ {s t u}, R s t → R t u → R s u
  quiet : ∀ {s t}, Relays name [] s t → R s t

namespace Tolerant

variable {name : String} {R : Scene → Scene → Prop} (h : Tolerant name R)

include h

theorem refl (s : Scene) : R s s := h.quiet (.refl s)

section Between

variable {between : Interludes} (hbetween : ∀ m s, R s (between m s))

include hbetween

theorem closeSession (n : Nat) (s : Scene) : R s (closeSession between n s) := by
  have closed := h.trans (h.quiet (.note (o := .closed n) rfl s)) (hbetween .closing _)
  unfold Scene.closeSession
  dsimp only
  split
  · exact h.trans closed (h.quiet (.log _ _))
  · split
    · exact closed
    · exact h.trans closed
        (h.quiet (.update n (fun c => { c with isOpen := false }) _ (fun _ => rfl) fun _ => rfl))

theorem stopTransport (n : Nat) (s : Scene) : R s (stopTransport between n s) := by
  have stopped := h.trans (h.quiet (.note (o := .stopped n) rfl s)) (hbetween .stopping _)
  unfold Scene.stopTransport
  dsimp only
  split
  · exact h.trans stopped (h.quiet (.log _ _))
  · exact stopped

/-- **What is tolerant holds across a teardown**, if it holds across what happens in its midst. -/
theorem teardown (s : Scene) : R s (s.teardown between) := by
  have dropped : R s (s.dropSession between) := by
    unfold Scene.dropSession
    split
    · exact h.refl s
    next n _ =>
      have unheld : R s (s.setSession none) := h.quiet (.setSession none s)
      split
      · exact h.trans unheld (h.closeSession hbetween n _)
      · exact unheld
  refine h.trans dropped ?_
  rw [Scene.teardown]
  unfold Scene.dropTransport
  split
  · exact h.refl _
  next n _ =>
    exact h.trans (h.quiet (.setTransport none _)) (h.stopTransport hbetween n _)

end Between

theorem disconnect (s : Scene) : R s s.disconnect := by
  have forsaken : R s s.forsaken := by
    have moved : R s (s.move .closed) := h.quiet (.move .closed s)
    unfold Scene.forsaken
    split
    next n _ =>
      exact h.trans moved
        (h.quiet (.update n (fun c => { c with released := true }) _ (fun _ => rfl) fun _ => rfl))
    · exact moved
  rw [disconnect_eq]
  exact h.trans (h.trans forsaken (h.teardown (fun _ s => h.refl s) _)) (h.quiet (.log _ _))

/-- What the client makes of the answer of a transport. -/
theorem concluded (plan : Attempt) (n : Nat) (s : Scene) : R s (s.concluded plan n).1 := by
  have returned : ∀ t : Scene, R t (t.update n fun c => { c with running := c.running - 1 }) :=
    fun t => h.quiet (.update n _ t (fun _ => rfl) fun _ => rfl)
  unfold Scene.concluded
  cases plan.connectError with
  | some e =>
      have stopped : R s ((s.log (.connectFailed e)).stopTransport quietly n) :=
        h.trans (h.quiet (.log _ s)) (h.stopTransport (fun _ t => h.refl t) n _)
      have ended : R s (s.giveUp e n) :=
        h.trans stopped (h.quiet ((Relays.setHandler none _).before (.move _ _)))
      exact h.trans ended (returned _)
  | none =>
      have held : R s (((s.setSession (some n)).setTransport (some n)).move .transportOpened) :=
        h.quiet (((Relays.setSession _ s).before (.setTransport _ _)).before (.move _ _))
      have ended : R s (s.settle n).1 := by
        unfold Scene.settle
        dsimp only
        split
        · exact h.trans (h.trans held (h.quiet ((Relays.log _ _).before (.move .closed _))))
            (h.teardown (fun _ t => h.refl t) _)
        · exact h.trans held (h.quiet (.log _ _))
      exact h.trans ended (returned _)

/-- Steps that are performed one after the other. -/
theorem nestAll {act : Performance} {steps : List Step}
    (nested : ∀ step ∈ steps, ∀ s, R s (act step s).1) (s : Scene) :
    R s (s.nestAll act steps) := by
  induction steps generalizing s with
  | nil => exact h.refl s
  | cons step steps ih =>
      have first : R s (s.nest act step) :=
        h.trans (h.trans (h.quiet (.note rfl s)) (nested step List.mem_cons_self _))
          (h.quiet (.note rfl _))
      exact h.trans first (ih (fun step hstep => nested step (List.mem_cons_of_mem _ hstep)) _)

end Tolerant

theorem tolerant_relays (name : String) : Tolerant name (Relays name []) :=
  ⟨fun h h' => h.before h', fun h => h⟩

/-! ### Answers -/

/-- **An answer tells nobody anything**, and no handler is called in the midst of it. -/
theorem relays_answer {name : String} (depth : Nat) {step : Step}
    (answer : step.isAnswer name = true) (s : Scene) :
    Relays name [] s (s.perform depth step).1 := by
  cases depth with
  | zero => exact .refl s
  | succ depth =>
      rcases take_cases (perform depth) step s with same | effect
      · rw [perform, same]
        exact .refl s
      · rw [perform]
        generalize (take (perform depth) step s).1 = t at effect
        cases effect with
        | connect plan during => exact absurd answer (by simp [Step.isAnswer])
        | signal connection n signal => exact absurd answer (by simp [Step.isAnswer])
        | stream connection n item => exact absurd answer (by simp [Step.isAnswer])
        | disconnect => exact (tolerant_relays name).disconnect s
        | send message =>
            have asked : Relays name [] s (s.requested message) := .of_same rfl rfl rfl rfl
            exact asked.before (.sendMessage message _)
        | clearObservers => exact .withRoster (.clear _)
        | observe other reactions times =>
            obtain ⟨different, answers⟩ : other ≠ name ∧
                Step.areAnswers name reactions = true := by
              simpa [Step.isAnswer] using answer
            exact .withRoster (.welcome different (Step.isAnswer_of_mem answers) _)
        | addAgain owned =>
            exact .withRoster (.register (by simpa [Step.isAnswer] using answer) owned)
        | dropObserver other => exact .withRoster (.release other _)
        | setOpen connection n isOpen =>
            exact .update n (fun c => { c with isOpen }) s (fun _ => rfl) fun _ => rfl
        | hold connection n =>
            exact .update n (fun c => { c with held := true }) s (fun _ => rfl) fun _ => rfl
        | release connection n =>
            exact .update n (fun c => { c with held := false }) s (fun _ => rfl) fun _ => rfl

/-! ### News -/

section News

variable {name : String} {k : Nat} (depth : Nat) {s : Scene}

/-- An observer takes note of its name and the news, and answers. -/
theorem relays_react (limited : s.roster.Limited name k) (n : Nat) (event : Event) :
    Relays name (if s.roster.bears name n then [event] else []) s
      (react (perform depth) n event s) := by
  cases known : s.roster.everyone[n]? with
  | none =>
      have nobody : react (perform depth) n event s = s := by simp [react, known]
      have unnamed : s.roster.bears name n = false := by simp [Roster.bears, Roster.nameOf, known]
      rw [nobody, unnamed]
      exact .refl s
  | some o =>
      have bears : s.roster.bears name n = decide (o.name = name) := by
        simp [Roster.bears, Roster.nameOf, known, beq_eq_decide]
      have told : Relays name (if s.roster.bears name n then [event] else []) s
          (s.note (.told o.name event)) := by
        have noted : Tells name (toldTo name [.told o.name event]) s
            (s.note (.told o.name event)) := .note _ s
        refine ⟨?_, .refl _⟩
        simpa only [toldTo_told, bears, decide_eq_true_eq] using noted
      have answers : ∀ step ∈ labelled event.kind o.reactions, step.isAnswer name = true := by
        intro step hstep
        obtain ⟨reaction, hreaction, rfl⟩ := List.mem_map.1 hstep
        exact limited.answers o (List.mem_of_getElem? known) reaction
          (List.mem_filter.1 hreaction).1
      generalize (if s.roster.bears name n then [event] else []) = events at told ⊢
      unfold react
      rw [known]
      dsimp only
      split
      · exact told
      · have spent := told.before (.withRoster (.update n
          (f := fun o => { o with remaining := o.remaining - 1 }) (fun _ => rfl) (fun _ => rfl) _))
        exact spent.before ((tolerant_relays name).nestAll
          (fun step hstep s => relays_answer depth (answers step hstep) s) _)

/-- Whoever bears the name among those that are called is told the news. -/
theorem relays_callEach (limited : s.roster.Limited name k) (event : Event) (ns : List Nat) :
    Relays name (List.replicate (ns.countP (s.roster.bears name)) event) s
      (callEach (fun n s => react (perform depth) n event s) ns s) := by
  induction ns generalizing s with
  | nil => exact .refl s
  | cons n ns ih =>
      have called := (relays_react depth limited n event).before (.withRoster (.letGo n _))
      have rest := ih (called.heeds.limited k limited)
      have count : List.replicate ((n :: ns).countP (s.roster.bears name)) event =
          (if s.roster.bears name n then [event] else []) ++
            List.replicate (ns.countP (s.roster.bears name)) event := by
        cases bears : s.roster.bears name n <;> simp [bears, List.replicate_succ]
      rw [callEach_cons, count]
      rw [called.heeds.bears] at rest
      exact called.trans rest

/-- An observer is told a piece of news as often as it is registered at most, or nothing. -/
def News (name : String) (k : Nat) (news : Option Event) (s t : Scene) : Prop :=
  ∃ j ≤ k, Relays name (news.elim [] (List.replicate j)) s t

theorem News.nothing {t : Scene} (h : Relays name [] s t) : News name k none s t := ⟨0, by simp, h⟩

theorem News.after {t u : Scene} {news : Option Event} (h : Relays name [] s t)
    (h' : News name k news t u) : News name k news s u := by
  obtain ⟨j, few, told⟩ := h'
  exact ⟨j, few, h.trans told⟩

theorem News.before {t u : Scene} {news : Option Event} (h : News name k news s t)
    (h' : Relays name [] t u) : News name k news s u := by
  obtain ⟨j, few, told⟩ := h
  exact ⟨j, few, told.before h'⟩

/-- **An observer is told every piece of news as often as it is registered at most.** -/
theorem news_tell (limited : s.roster.Limited name k) (event : Event) :
    News name k (some event) s (s.tell (react (perform depth)) event) := by
  have kept : Relays name [] s
      (HasRoster.modify (Roster.keep s.roster.live) (HasRoster.modify Roster.prune s)) :=
    (Relays.withRoster (.prune _)).before (.withRoster (.keep _ _))
  have called := relays_callEach depth (kept.heeds.limited k limited) event s.roster.live
  refine ⟨_, ?_, kept.trans called⟩
  rw [kept.heeds.bears]
  exact Nat.le_trans List.filter_sublist.countP_le limited.registered

theorem news_greet (limited : s.roster.Limited name k) :
    News name k (some .connected) s (s.greet (react (perform depth))) := by
  have ready : Relays name [] s
      ((((s.log .greeted).sendFrame .clientHello).move .handshakeCompleted).log .nowReady) :=
    (((Relays.log _ s).before (.sendFrame _ _)).before (.move _ _)).before (.log .nowReady _)
  have told := news_tell depth (ready.heeds.limited k limited) .connected
  exact (News.after ready told).before ((Relays.sendMessage .noVideo _).before (.log _ _))

theorem news_pass (limited : s.roster.Limited name k) (c : MessageClass) (line : LogLine)
    (event : Event) :
    News name k (if s.client.state = .ready then some event else none) s
      (s.pass (react (perform depth)) c line event) := by
  by_cases ready : s.client.state = .ready
  · have told := news_tell (s := s.log line) depth limited event
    simpa [pass, ready] using News.after (.log line s) told
  · simpa [pass, ready] using News.nothing (.log (.untimely c.name s.client.state) s)

theorem news_dispatch (limited : s.roster.Limited name k) (m : Message) :
    News name k (m.news s.client.state) s (s.dispatch (react (perform depth)) m) := by
  cases m with
  | serverHello version => exact news_greet depth limited
  | endpointMessage e => exact news_pass depth limited _ _ _
  | dominantSpeaker endpoint previous => exact news_pass depth limited _ _ _
  | connectivity endpoint active => exact news_pass depth limited _ _ _
  | senderVideoConstraints constraints => exact .nothing (.refl s)
  | _ => exact .nothing (.log _ s)

/-- A signal of the latest connection makes an observer be told the news in it. -/
theorem news_obey (limited : s.roster.Limited name k) (n : Nat) (signal : Signal) :
    News name k (signal.news s.client.state) s (s.obey (react (perform depth)) n signal) := by
  cases signal with
  | opened => exact .nothing (((Relays.log _ s).before (.setSession _ _)).before (.move _ _))
  | failed e => exact .nothing (.log _ s)
  | closed code reason =>
      have closed : Relays name [] s ((s.log (.closed code reason)).move .closed) :=
        (Relays.log _ s).before (.move _ _)
      exact .after closed (news_tell (s := (s.log _).move .closed) depth limited _)
  | message frame =>
      have received : Relays name [] s (s.log (.received frame)) := .log _ s
      simp only [Signal.news, obey, receive]
      cases Message.decode frame with
      | ok m => exact .after received (news_dispatch (s := s.log _) depth limited m)
      | error e => cases e <;> exact .nothing (received.before (.log _ _))

/-- **A signal makes an observer be told the news in it, if the client listens**, and nothing
otherwise. -/
theorem news_deliver (limited : s.roster.Limited name k) (n : Nat) (signal : Signal) :
    News name k (if s.listensTo n then signal.news s.client.state else none) (s.called n signal)
      (s.deliver (react (perform depth)) n signal) := by
  cases listens : s.listensTo n with
  | true =>
      rw [deliver_of_listens listens]
      exact news_obey (s := s.called n signal) depth limited n signal
  | false =>
      rcases deliver_of_deaf listens signal with h | ⟨generation, latest, h⟩
      · rw [h]
        exact .nothing (.refl _)
      · rw [h]
        exact .nothing (.log _ _)

end News

/-! ### Reading -/

/-- The reader of a connection has taken an item: its handler was called once or not at all, and an
observer was told one piece of news at most, which is the news in the signal. -/
structure Taken (name : String) (n : Nat) (c : Connection) (item : Option WebSocket.StreamItem)
    (s t : Scene) : Prop extends Grows s t where
  called : s.callsSince t = (c.reader.advance (s.isAlive n) item).2.toList.map (Prod.mk n)
  wires : t.wires = s.wires.set n (c.conduct, (c.reader.advance (s.isAlive n) item).1)
  told : toldTo name (s.since t) = [] ∨ ∃ signal state event,
    (c.reader.advance (s.isAlive n) item).2 = some signal ∧ signal.news state = some event ∧
      toldTo name (s.since t) = [event]
  heeds : s.roster.Heeds name t.roster

/-- The reader of a connection moves on.  Its session is marked before the handler is called. -/
def advanced (n : Nat) (reader : WebSocket.Reader) (s : Scene) : Scene :=
  s.update n fun c => { c with reader, isOpen := c.isOpen && !reader.hasClosed }

theorem wires_advanced {s : Scene} {n : Nat} {c : Connection} (known : s.network[n]? = some c)
    (reader : WebSocket.Reader) :
    (s.advanced n reader).wires = s.wires.set n (c.conduct, reader) := by
  refine List.ext_getElem? fun k => ?_
  simp only [wires, advanced, update, List.getElem?_map, List.getElem?_modify, List.getElem?_set,
    List.length_map]
  by_cases same : n = k
  · subst same
    obtain ⟨there, rfl⟩ := List.getElem?_eq_some_iff.1 known
    simp [there]
  · simp [same]

theorem read_eq {react : Reaction} {s : Scene} {n : Nat} {c : Connection}
    (known : s.network[n]? = some c) (opened : c.conduct.connectError = none)
    (item : Option WebSocket.StreamItem) :
    s.read react n item =
      match (c.reader.advance (s.isAlive n) item).2 with
      | some signal =>
        (s.advanced n (c.reader.advance (s.isAlive n) item).1).engaged n (deliver react n signal)
      | none => s.advanced n (c.reader.advance (s.isAlive n) item).1 := by
  have streaming : ¬c.conduct.connectError.isSome = true := by simp [opened]
  unfold read
  rw [known]
  dsimp only
  rw [if_neg streaming]
  cases (c.reader.advance (s.isAlive n) item).2 <;> rfl

/-- A handler is called, and an observer is told the news in the signal, or nothing. -/
theorem told_engaged {name : String} (depth : Nat) {s : Scene}
    (limited : s.roster.Limited name 1) (n : Nat) (signal : Signal) :
    ∃ events, Relays name events (s.called n signal)
        (s.engaged n (deliver (react (perform depth)) n signal)) ∧
      (events = [] ∨ ∃ state event, signal.news state = some event ∧ events = [event]) := by
  have entered : Relays name [] (s.called n signal)
      ((s.called n signal).update n fun c => { c with running := c.running + 1 }) :=
    .update n _ _ (fun _ => rfl) fun _ => rfl
  have delivered := news_deliver depth
    (s := s.update n fun c => { c with running := c.running + 1 }) limited n signal
  obtain ⟨j, few, told⟩ := delivered.before
    (.update n (fun c => { c with running := c.running - 1 }) _ (fun _ => rfl) fun _ => rfl)
  refine ⟨_, entered.trans told, ?_⟩
  split
  next listens =>
    cases news : signal.news _ with
    | none => exact .inl rfl
    | some event =>
        rcases Nat.le_one_iff_eq_zero_or_eq_one.1 few with rfl | rfl
        · exact .inl rfl
        · exact .inr ⟨_, event, news, rfl⟩
  · exact .inl rfl

/-- **What comes of an item that the reader of a connection takes.** -/
theorem taken_read {name : String} (depth : Nat) {s : Scene} {n : Nat} {c : Connection}
    (known : s.network[n]? = some c) (opened : c.conduct.connectError = none)
    (limited : s.roster.Limited name 1) (item : Option WebSocket.StreamItem) :
    Taken name n c item s (s.read (react (perform depth)) n item) := by
  rw [read_eq known opened]
  have wires := wires_advanced known (c.reader.advance (s.isAlive n) item).1
  generalize moved : s.advanced n (c.reader.advance (s.isAlive n) item).1 = u at wires
  have grows : Grows s u := moved ▸ .of_eq rfl rfl (by simp [advanced, update])
  have untold : s.since u = [] := moved ▸ since_eq_nil rfl
  have uncalled : u.calls = s.calls := moved ▸ rfl
  have roster : u.roster = s.roster := moved ▸ rfl
  cases given : (c.reader.advance (s.isAlive n) item).2 with
  | none =>
      refine ⟨grows, ?_, wires, .inl (by rw [untold]; rfl), roster ▸ .refl _⟩
      rw [given]
      exact callsSince_eq_nil uncalled
  | some signal =>
      obtain ⟨events, relays, news⟩ := told_engaged depth (roster ▸ limited) n signal
      have called : Grows u (u.called n signal) := .called n signal u
      have quiet : u.since (u.called n signal) = [] := since_eq_nil rfl
      have told : toldTo name (s.since (u.engaged n (deliver (react (perform depth)) n signal))) =
          events := by
        rw [since_trans grows (called.trans relays.toGrows), since_trans called relays.toGrows,
          untold, quiet]
        exact relays.told
      refine ⟨grows.trans (called.trans relays.toGrows), ?_, relays.wires.trans wires, ?_,
        roster ▸ relays.heeds⟩
      · rw [given]
        refine callsSince_of_calls [(n, signal)] ?_
        rw [relays.uncalled, ← uncalled]
        rfl
      · rw [told]
        rcases news with untold | ⟨state, event, h, same⟩
        · exact .inl untold
        · exact .inr ⟨signal, state, event, given, h, same⟩

end Scene

end BridgeChannel
