/-
**What observers are told of a signal.**

An observer with a name of its own, which its owner keeps and nobody clears, is attended to: it is
called as often as it is registered, whenever observers are told a piece of news.  What the others
do when they are called makes no difference, as long as they leave the client alone, and this
observer and its register entries.

The news in a signal depends on the signal and on the state in which it is heard, and on nothing
else.  The state is the one that fits the news before the first observer is called, and it stays so
until the last one has been called.

Main definitions:

* `Signal.news` — the news in a signal, given the state of the channel;
* `Step.isOutside` — steps that leave the client alone, and the observer of a name;
* `Roster.Attended` — an observer that is called as often as it is registered;
* `Event.fits` — the state of the channel while observers are told a piece of news;
* `Scene.Aside` — changes of a scene that nobody is told of;
* `Scene.Told`, `Scene.Beside` — what an observer was told between two scenes, and that nothing else
  came of telling it;
* `Scene.Informs` — what an operation makes an observer be told, and in which state.

Main results:

* `beside_tell` — **an attended observer is told every piece of news, as often as registered**;
* `told_deliver`, `deliver_fitting` — **what a signal makes an attended observer be told, and in
  which state**.
-/
import BridgeChannel.Proofs.Client.Attempt

set_option autoImplicit false

namespace BridgeChannel

/-- The news in a message of the bridge, given the state of the channel. -/
def Message.news (state : ConnectionState) : Message → Option Event
  | .serverHello _ => some .connected
  | .endpointMessage e => if state = .ready then some (.endpointMessage e) else none
  | .dominantSpeaker endpoint _ => if state = .ready then some (.speaker endpoint) else none
  | .connectivity endpoint active =>
    if state = .ready then some (.connectivity endpoint active) else none
  | _ => none

/-- The news in a signal, given the state of the channel. -/
def Signal.news (state : ConnectionState) : Signal → Option Event
  | .message frame =>
    match Message.decode frame with
    | .ok m => m.news state
    | .error _ => none
  | .closed code reason => some (.disconnected code reason)
  | _ => none

/-- Whether a step leaves the client alone, and the observer of a name. -/
def Step.isOutside (name : String) : Step → Bool
  | query => true
  | dropObserver other => other != name
  | setOpen _ _ => true
  | hold _ => true
  | release _ => true
  | _ => false

/-! ### What one observer was told -/

/-- What the observer of a name was told. -/
def Occurrence.toldTo? (name : String) : Occurrence → Option Event
  | told other event => if other = name then some event else none
  | _ => none

/-- What the observer of a name was told, out of a list of occurrences. -/
def toldTo (name : String) (occurrences : List Occurrence) : List Event :=
  occurrences.filterMap (Occurrence.toldTo? name)

theorem toldTo_append (name : String) (before after : List Occurrence) :
    toldTo name (before ++ after) = toldTo name before ++ toldTo name after := by
  simp [toldTo]

theorem toldTo_untold (name : String) {o : Occurrence} (untold : o.tells = false) :
    toldTo name [o] = [] := by
  cases o with
  | told other event => exact absurd untold (by simp [Occurrence.tells])
  | _ => rfl

theorem toldTo_told (name other : String) (event : Event) :
    toldTo name [.told other event] = if other = name then [event] else [] := by
  by_cases h : other = name <;> simp [toldTo, Occurrence.toldTo?, h]

/-! ### Observers that are attended to -/

namespace Roster

/-- The name of an observer. -/
def nameOf (r : Roster Observer) (n : Nat) : Option String := r.everyone[n]?.map Observer.name

theorem nameOf_update {f : Observer → Observer} (n : Nat) (keeps : ∀ o, (f o).name = o.name)
    (r : Roster Observer) (m : Nat) : (r.update n f).nameOf m = r.nameOf m := by
  simp only [nameOf, Roster.update, List.getElem?_modify]
  split <;> cases r.everyone[m]? <;> simp [keeps]

theorem nameOf_create (o : Observer) (r : Roster Observer) (n : Nat) :
    (r.create o).nameOf n = if n = r.next then some o.name else r.nameOf n := by
  have created : (r.create o).nameOf n = (r.everyone ++ [o])[n]?.map Observer.name := rfl
  have length : r.next = r.everyone.length := rfl
  rw [created, nameOf, length]
  rcases Nat.lt_trichotomy n r.everyone.length with earlier | rfl | later
  · rw [List.getElem?_append_left earlier, if_neg (Nat.ne_of_lt earlier)]
  · simp
  · have beyond : (r.everyone ++ [o])[n]? = none := by
      rw [List.getElem?_eq_none_iff, List.length_append]
      exact later
    rw [beyond, if_neg (Nat.ne_of_gt later), List.getElem?_eq_none (Nat.le_of_lt later)]

/-- The `i`-th observer is owned under its own name and no other, which nobody else who is alive
bears; it is registered `k` times; and no observer reacts with anything that could touch the client
or this observer. -/
structure Attended (name : String) (i k : Nat) (r : Roster Observer) : Prop where
  named : r.nameOf i = some name
  owned : r.owned? name = some i
  proper : ∀ other, r.owned? other = some i → other = name
  registered : r.registered.count i = k
  sole : ∀ j, r.isAlive j = true → r.nameOf j = some name → j = i
  calm : ∀ o ∈ r.everyone, ∀ reaction ∈ o.reactions, reaction.2.isOutside name = true

namespace Attended

variable {name : String} {i k : Nat} {r : Roster Observer} (h : r.Attended name i k)

include h

theorem alive : r.isAlive i = true := isAlive_of_owner (mem_of_owned? h.owned)

/-- An attended observer is called as often as it is registered. -/
theorem count_live : r.live.count i = k := by
  rw [live, List.count_filter h.alive, h.registered]

theorem prune : r.prune.Attended name i k :=
  { h with registered := h.count_live }

/-- Whoever is alive afterwards was alive before. -/
theorem of_alive {r' : Roster Observer} (everyone : r'.everyone = r.everyone)
    (owned : r'.owned = r.owned) (registered : r'.registered = r.registered)
    (alive : ∀ j, r'.isAlive j = true → r.isAlive j = true) : r'.Attended name i k where
  named := by rw [nameOf, everyone, ← nameOf, h.named]
  owned := by rw [owned?, owned, ← owned?, h.owned]
  proper other := by
    rw [owned?, owned]
    exact h.proper other
  registered := by rw [registered, h.registered]
  sole j hj := by
    rw [nameOf, everyone]
    exact h.sole j (alive j hj)
  calm := by
    rw [everyone]
    exact h.calm

/-- Whoever a notification keeps is alive already. -/
theorem keep {ns : List Nat} (alive : ∀ n ∈ ns, r.isAlive n = true) :
    (r.keep ns).Attended name i k := by
  refine h.of_alive rfl rfl rfl fun j hj => ?_
  simp only [isAlive, Roster.keep, Bool.or_eq_true, List.contains_eq_mem, decide_eq_true_eq,
    List.mem_append] at hj
  rcases hj with owned | called | kept
  · simp only [isAlive, owned, Bool.true_or]
  · exact alive j called
  · simp [isAlive, kept]

theorem letGo (n : Nat) : (r.letGo n).Attended name i k := by
  refine h.of_alive rfl rfl rfl fun j hj => ?_
  simp only [isAlive, Roster.letGo, Bool.or_eq_true, List.contains_eq_mem,
    decide_eq_true_eq] at hj ⊢
  exact hj.imp id List.mem_of_mem_erase

/-- An observer spends a reaction. -/
theorem update (n : Nat) {f : Observer → Observer} (keeps : ∀ o, (f o).name = o.name)
    (reactions : ∀ o, (f o).reactions = o.reactions) : (r.update n f).Attended name i k where
  named := by rw [nameOf_update n keeps, h.named]
  owned := h.owned
  proper := h.proper
  registered := h.registered
  sole j hj := by
    rw [nameOf_update n keeps]
    exact h.sole j hj
  calm o ho := by
    obtain ⟨m, hm⟩ := List.mem_iff_getElem?.1 ho
    rw [Roster.update, List.getElem?_modify] at hm
    obtain ⟨o', ho', rfl⟩ := Option.map_eq_some_iff.1 hm
    have calm := h.calm o' (List.mem_iff_getElem?.2 ⟨m, ho'⟩)
    split
    · rw [reactions]
      exact calm
    · exact calm

/-- The owner of another observer lets go. -/
theorem release {other : String} (different : other ≠ name) :
    (r.release other).Attended name i k where
  named := h.named
  owned := by rw [owned?_release, if_neg different.symm, h.owned]
  proper third := by
    rw [owned?_release]
    split
    · exact fun none_ => absurd none_ (by simp)
    · exact h.proper third
  registered := h.registered
  sole j hj := by
    refine h.sole j ?_
    simp only [isAlive, Roster.release, Bool.or_eq_true, List.any_eq_true] at hj ⊢
    rcases hj with ⟨o, ho, hoj⟩ | kept
    · exact .inl ⟨o, (List.mem_filter.1 ho).1, hoj⟩
    · exact .inr kept
  calm := h.calm

/-- Another observer is registered once more. -/
theorem register {other : String} (different : other ≠ name) {n : Nat}
    (owned : r.owned? other = some n) : (r.register n).Attended name i k :=
  { h with
    registered := by
      have apart : n ≠ i := by
        rintro rfl
        exact different (h.proper other owned)
      simp [Roster.register, h.registered, apart] }

/-- Another observer comes into being and is registered. -/
theorem welcome {o : Observer} (different : o.name ≠ name)
    (calm : ∀ reaction ∈ o.reactions, reaction.2.isOutside name = true) :
    (((r.create o).own o.name r.next).register r.next).Attended name i k := by
  have apart : r.next ≠ i := by
    rintro rfl
    have named := h.named
    simp [nameOf, next] at named
  have owner := fun third => owned?_own third o.name r.next (r.create o)
  refine ⟨?_, ?_, fun third => ?_, ?_, fun j hj bears => ?_, ?_⟩
  · exact (nameOf_create o r i).trans ((if_neg apart.symm).trans h.named)
  · rw [← h.owned]
    exact (owner name).trans (if_neg different.symm)
  · intro hi
    have hi := (owner third).symm.trans hi
    split at hi
    · exact absurd (Option.some.inj hi) apart
    · exact h.proper third hi
  · simp [Roster.register, own, Roster.release, create, h.registered, apart]
  · -- the newcomer bears another name, and nobody else comes to life
    have alive : j = r.next ∨ r.isAlive j = true := by
      simp only [isAlive, Roster.register, own, Roster.release, create, List.any_cons,
        Bool.or_eq_true, List.any_eq_true, beq_iff_eq, List.mem_filter] at hj ⊢
      rcases hj with (rfl | ⟨o', ⟨ho', -⟩, rfl⟩) | kept
      · exact .inl rfl
      · exact .inr (.inl ⟨o', ho', rfl⟩)
      · exact .inr (.inr kept)
    have bears := (nameOf_create o r j).symm.trans bears
    split at bears
    · exact absurd (Option.some.inj bears) different
    next other => exact h.sole j (alive.resolve_left other) bears
  · intro o' ho'
    rcases List.mem_append.1 ho' with old | new
    · exact h.calm o' old
    · rw [List.mem_singleton.1 new]
      exact calm

end Attended

end Roster

/-! ### Fitting states -/

namespace Event

/-- The state of a channel that has the given news. -/
def state : Event → ConnectionState
  | disconnected _ _ => .closed
  | _ => .ready

/-- Whether a channel is in the state that fits the news: it is ready, or it is closed and does not
say that it is connected. -/
def fits (s : Scene) : Event → Bool
  | disconnected _ _ => s.client.state == .closed && !s.isConnected
  | _ => s.client.state == .ready

/-- A channel that is closed does not say that it is connected. -/
theorem fits_iff {event : Event} {s : Scene} :
    event.fits s = true ↔ s.client.state = event.state := by
  cases event with
  | disconnected code reason =>
      simp only [fits, state, Bool.and_eq_true, beq_iff_eq, Bool.not_eq_true']
      refine ⟨And.left, fun closed => ⟨closed, ?_⟩⟩
      simp [Scene.isConnected, closed, ConnectionState.isReady]
  | _ => simp [fits, state]

end Event

namespace Scene

/-- Reactions in a state that fits the news; in any other state, something else happens. -/
def fitting (react other : Reaction) : Reaction := fun n event s =>
  if event.fits s then react n event s else other n event s

/-! ### What happens between calls -/

/-- The elementary changes of a scene in which no handler is called and nobody is told anything, and
which spare the observer of a name. -/
inductive Aside (name : String) : Scene → Scene → Prop
  | note (s : Scene) {o : Occurrence} (untold : o.tells = false) : Aside name s (s.note o)
  | submitted (s : Scene) (n : Nat) (frame : String) : Aside name s (s.submitted n frame)
  | requested (s : Scene) (m : Message) : Aside name s (s.requested m)
  | update (s : Scene) (n : Nat) (f : Connection → Connection) : Aside name s (s.update n f)
  | move (s : Scene) (transition : Transition) : Aside name s (s.move transition)
  | setSession (s : Scene) (n : Option Nat) : Aside name s (s.setSession n)
  | setTransport (s : Scene) (n : Option Nat) : Aside name s (s.setTransport n)
  | setHandler (s : Scene) (n : Option Nat) : Aside name s (s.setHandler n)
  | launched (s : Scene) (plan : Attempt) : Aside name s (s.launched plan)
  | gone (s : Scene) : Aside name s { s with gone := true }
  | withRoster (s : Scene) {r : Roster Observer}
      (spared : ∀ i k, s.roster.Attended name i k → r.Attended name i k) :
      Aside name s { s with roster := r }

/-- Sequences of such changes. -/
abbrev Asides (name : String) : Scene → Scene → Prop := Relation.ReflTransGen (Aside name)

namespace Asides

variable {name : String}

theorem log (line : LogLine) (s : Scene) : Asides name s (s.log line) := .single (.note s rfl)

theorem sendFrame (m : Message) (s : Scene) : Asides name s (s.sendFrame m) := by
  unfold Scene.sendFrame
  split
  · exact log _ s
  · split
    · exact log _ s
    next n _ _ frame _ =>
      have out : Asides name s ((s.log (.sending frame)).submitted n frame) :=
        (log _ s).tail (.submitted _ n frame)
      dsimp only
      split
      · exact out.trans (log _ _)
      · exact out.tail (.note _ rfl)

theorem sendMessage (m : Message) (s : Scene) : Asides name s (s.sendMessage m) := by
  unfold Scene.sendMessage
  split
  · exact sendFrame m s
  · exact log _ s

end Asides

/-- What the observer of a name was told between two scenes and which handlers were called, each in
order; if the observer was attended to, it still is. -/
structure Told (name : String) (news : List Event) (signals : List (Nat × Signal)) (s t : Scene) :
    Prop extends Grows s t where
  told : toldTo name (s.since t) = news
  delivered : s.callsSince t = signals
  attended : ∀ i k, s.roster.Attended name i k → t.roster.Attended name i k

namespace Told

variable {name : String} {s t u : Scene}

theorem trans {news news' : List Event} {signals signals' : List (Nat × Signal)}
    (h : Told name news signals s t) (h' : Told name news' signals' t u) :
    Told name (news ++ news') (signals ++ signals') s u where
  toGrows := h.toGrows.trans h'.toGrows
  told := by rw [since_trans h.toGrows h'.toGrows, toldTo_append, h.told, h'.told]
  delivered := by rw [callsSince_trans h.toGrows h'.toGrows, h.delivered, h'.delivered]
  attended i k before := h'.attended i k (h.attended i k before)

/-- What neither the account nor the calls tell of. -/
theorem of_same (account : t.account = s.account) (calls : t.calls = s.calls)
    (network : s.network.length ≤ t.network.length)
    (attended : ∀ i k, s.roster.Attended name i k → t.roster.Attended name i k) :
    Told name [] [] s t where
  toGrows := Grows.of_eq account calls network
  told := by rw [since_eq_nil account]; rfl
  delivered := callsSince_eq_nil calls
  attended := attended

theorem refl (s : Scene) : Told name [] [] s s := of_same rfl rfl (Nat.le_refl _) fun _ _ h => h

theorem note (o : Occurrence) (s : Scene) : Told name (toldTo name [o]) [] s (s.note o) where
  toGrows := Grows.note o s
  told := by rw [since_note]
  delivered := callsSince_eq_nil rfl
  attended _ _ h := h

theorem called (n : Nat) (signal : Signal) (s : Scene) :
    Told name [] [(n, signal)] s (s.called n signal) where
  toGrows := Grows.called n signal s
  told := by
    have same : s.since (s.called n signal) = [] := since_eq_nil rfl
    rw [same]
    rfl
  delivered := callsSince_of_calls [_] rfl
  attended _ _ h := h

theorem aside (h : Aside name s t) : Told name [] [] s t := by
  cases h with
  | note untold => exact toldTo_untold name untold ▸ note _ s
  | update n f => exact of_same rfl rfl (by simp [Scene.update]) fun _ _ h => h
  | launched plan =>
      have created : Told name [] [] s (s.note (.created s.network.length)) :=
        toldTo_untold name (o := .created s.network.length) rfl ▸ note _ s
      exact created.trans (of_same rfl rfl (by simp) fun _ _ h => h)
  | withRoster spared => exact of_same rfl rfl (Nat.le_refl _) spared
  | _ => exact of_same rfl rfl (Nat.le_refl _) fun _ _ h => h

theorem asides (h : Asides name s t) : Told name [] [] s t := by
  induction h with
  | refl => exact refl s
  | tail _ change ih => exact ih.trans (aside change)

end Told

/-! ### While observers are told -/

/-- Between two scenes, the observer of a name was told some news, and the client was left alone. -/
structure Beside (name : String) (news : List Event) (s t : Scene) : Prop
    extends Told name news [] s t where
  client : t.client = s.client
  names : t.roster.nameOf = s.roster.nameOf

namespace Beside

variable {name : String} {s t u : Scene}

theorem refl (s : Scene) : Beside name [] s s := ⟨Told.refl s, rfl, rfl⟩

theorem trans {news news' : List Event} (h : Beside name news s t) (h' : Beside name news' t u) :
    Beside name (news ++ news') s u :=
  ⟨h.toTold.trans h'.toTold, h'.client.trans h.client, h'.names.trans h.names⟩

/-- A state that fits some news still fits it. -/
theorem fits {news : List Event} (h : Beside name news s t) {event : Event}
    (fits : event.fits s = true) : event.fits t = true := by
  rw [Event.fits_iff] at fits ⊢
  rw [h.client, fits]

theorem untold {o : Occurrence} (untold : o.tells = false) (s : Scene) :
    Beside name [] s (s.note o) := ⟨.aside (.note s untold), rfl, rfl⟩

theorem update (n : Nat) (f : Connection → Connection) (s : Scene) :
    Beside name [] s (s.update n f) := ⟨.aside (.update s n f), rfl, rfl⟩

/-- The roster changes, but not the names of observers. -/
theorem withRoster (s : Scene) {r : Roster Observer}
    (spared : ∀ i k, s.roster.Attended name i k → r.Attended name i k)
    (names : r.nameOf = s.roster.nameOf) : Beside name [] s { s with roster := r } :=
  ⟨.aside (.withRoster s spared), rfl, names⟩

theorem updateObserver (n : Nat) {f : Observer → Observer} (keeps : ∀ o, (f o).name = o.name)
    (reactions : ∀ o, (f o).reactions = o.reactions) (s : Scene) :
    Beside name [] s { s with roster := s.roster.update n f } :=
  .withRoster s (fun _ _ h => h.update n keeps reactions)
    (funext (Roster.nameOf_update n keeps s.roster))

/-- Somebody does something that is none of the client's business. -/
theorem perform (depth : Nat) {step : Step} (outside : step.isOutside name = true) (s : Scene) :
    Beside name [] s (s.perform depth step).1 := by
  cases depth with
  | zero => exact refl s
  | succ depth =>
      rcases take_cases (Scene.perform depth) step s with same | effect
      · rw [Scene.perform, same]
        exact refl s
      · rw [Scene.perform]
        generalize (take (Scene.perform depth) step s).1 = t at effect
        cases effect with
        | dropObserver other =>
            have different : other ≠ name := by simpa [Step.isOutside] using outside
            exact .withRoster s (fun _ _ h => h.release different) rfl
        | setOpen connection n isOpen => exact update _ _ s
        | hold connection n => exact update _ _ s
        | release connection n => exact update _ _ s
        | _ => exact absurd outside (by simp [Step.isOutside])

theorem nestAll (depth : Nat) {steps : List Step}
    (outside : ∀ step ∈ steps, step.isOutside name = true) (s : Scene) :
    Beside name [] s (s.nestAll (Scene.perform depth) steps) := by
  induction steps generalizing s with
  | nil => exact refl s
  | cons step steps ih =>
      have first : Beside name [] s (s.nest (Scene.perform depth) step) :=
        ((untold rfl s).trans (perform depth (outside step List.mem_cons_self) _)).trans
          (untold rfl _)
      exact first.trans (ih (fun step h => outside step (List.mem_cons_of_mem _ h)) _)

end Beside

section Observers

variable {name : String} {i k : Nat} (depth : Nat) {s : Scene}

/-- An observer takes note of its name and the news, and leaves the client alone. -/
theorem beside_react (attended : s.roster.Attended name i k) (n : Nat) (event : Event) :
    Beside name (if s.roster.nameOf n = some name then [event] else []) s
      (react (perform depth) n event s) := by
  cases known : s.roster.everyone[n]? with
  | none =>
      have nobody : react (perform depth) n event s = s := by simp [react, known]
      have unnamed : s.roster.nameOf n = none := by simp [Roster.nameOf, known]
      rw [nobody, unnamed, if_neg (by simp)]
      exact .refl s
  | some o =>
      have bears : s.roster.nameOf n = some o.name := by simp [Roster.nameOf, known]
      have told : Beside name (if s.roster.nameOf n = some name then [event] else []) s
          (s.note (.told o.name event)) := by
        refine ⟨?_, rfl, rfl⟩
        simpa only [toldTo_told, bears, Option.some.injEq] using Told.note (.told o.name event) s
      have outside : ∀ step ∈ labelled event.kind o.reactions, step.isOutside name = true := by
        intro step hstep
        obtain ⟨reaction, hreaction, rfl⟩ := List.mem_map.1 hstep
        exact attended.calm o (List.mem_of_getElem? known) reaction (List.mem_filter.1 hreaction).1
      generalize (if s.roster.nameOf n = some name then [event] else []) = news at told ⊢
      unfold react
      rw [known]
      dsimp only
      split
      · exact told
      · have spent := told.trans (.updateObserver n (f := fun o =>
          { o with remaining := o.remaining - 1 }) (fun _ => rfl) (fun _ => rfl) _)
        simpa only [List.append_nil] using spent.trans (.nestAll depth outside _)

/-- An observer is called, and let go of after that. -/
theorem beside_call (attended : s.roster.Attended name i k) (n : Nat) (event : Event) :
    Beside name (if s.roster.nameOf n = some name then [event] else []) s
      (HasRoster.modify (Roster.letGo n) (react (perform depth) n event s)) := by
  have letGo : Beside name [] (react (perform depth) n event s)
      (HasRoster.modify (Roster.letGo n) (react (perform depth) n event s)) :=
    .withRoster _ (fun _ _ h => h.letGo n) rfl
  simpa only [List.append_nil] using (beside_react depth attended n event).trans letGo

/-- An observer among those that are called is told as often as it is among them. -/
theorem beside_callEach (attended : s.roster.Attended name i k) (event : Event) (ns : List Nat)
    (sole : ∀ n ∈ ns, s.roster.nameOf n = some name → n = i) :
    Beside name (List.replicate (ns.count i) event) s
      (callEach (fun n s => react (perform depth) n event s) ns s) := by
  induction ns generalizing s with
  | nil => exact .refl s
  | cons n ns ih =>
      rw [callEach_cons]
      have called := beside_call depth attended n event
      have rest := ih (called.attended i k attended) fun m hm => by
        rw [called.names]
        exact sole m (List.mem_cons_of_mem _ hm)
      have count : List.replicate ((n :: ns).count i) event =
          (if s.roster.nameOf n = some name then [event] else []) ++
            List.replicate (ns.count i) event := by
        by_cases same : n = i
        · subst same
          simp [attended.named, List.replicate_succ]
        · have other : s.roster.nameOf n ≠ some name := fun bears =>
            same (sole n List.mem_cons_self bears)
          simp [other, List.count_cons_of_ne same]
      rw [count]
      exact called.trans rest

/-- Before anybody is called, the register forgets who is gone, and the others are kept. -/
theorem beside_kept (name : String) (s : Scene) :
    Beside name [] s
      (HasRoster.modify (Roster.keep s.roster.live) (HasRoster.modify Roster.prune s)) := by
  have pruned : Beside name [] s (HasRoster.modify Roster.prune s) :=
    .withRoster s (fun _ _ h => h.prune) rfl
  exact pruned.trans (.withRoster _ (fun _ _ h => h.keep fun n hn => (List.mem_filter.1 hn).2) rfl)

/-- **An attended observer is told every piece of news, as often as it is registered.** -/
theorem beside_tell (attended : s.roster.Attended name i k) (event : Event) :
    Beside name (List.replicate k event) s (s.tell (react (perform depth)) event) := by
  have before := beside_kept name s
  have called := beside_callEach depth (before.attended i k attended) event s.roster.live
    fun n hn bears => attended.sole n (List.mem_filter.1 hn).2 (before.names ▸ bears)
  rw [attended.count_live] at called
  exact before.trans called

/-- Observers are called in a fitting state, from the first to the last. -/
theorem callEach_fitting (attended : s.roster.Attended name i k) {event : Event}
    (fits : event.fits s = true) (other : Reaction) (ns : List Nat) :
    callEach (fun n s => fitting (react (perform depth)) other n event s) ns s =
      callEach (fun n s => react (perform depth) n event s) ns s := by
  induction ns generalizing s with
  | nil => rfl
  | cons n ns ih =>
      have first : fitting (react (perform depth)) other n event s =
          react (perform depth) n event s := if_pos fits
      have called := beside_call depth attended n event
      rw [callEach_cons, callEach_cons, first]
      exact ih (called.attended i k attended) (called.fits fits)

theorem tell_fitting (attended : s.roster.Attended name i k) {event : Event}
    (fits : event.fits s = true) (other : Reaction) :
    s.tell (fitting (react (perform depth)) other) event =
      s.tell (react (perform depth)) event := by
  have before := beside_kept name s
  exact callEach_fitting depth (before.attended i k attended) (before.fits fits) other s.roster.live

/-! ### What operations tell -/

/-- Of something that observers may be told in the midst of, this is what an observer is told; and
nobody is told anything in a state that does not fit. -/
structure Informs (name : String) (depth : Nat) (news : List Event) (s : Scene)
    (f : Reaction → Scene) : Prop where
  told : Told name news [] s (f (react (perform depth)))
  fitting : ∀ other, f (fitting (react (perform depth)) other) = f (react (perform depth))

namespace Informs

variable {depth} {news : List Event} {f : Reaction → Scene}

theorem nothing {t : Scene} (h : Asides name s t) : Informs name depth [] s fun _ => t :=
  ⟨.asides h, fun _ => rfl⟩

theorem after {t : Scene} (h : Asides name s t) (h' : Informs name depth news t f) :
    Informs name depth news s f := ⟨(Told.asides h).trans h'.told, h'.fitting⟩

theorem before (h : Informs name depth news s f) {g : Scene → Scene}
    (h' : ∀ t, Asides name t (g t)) : Informs name depth news s fun r => g (f r) where
  told := by simpa only [List.append_nil] using h.told.trans (.asides (h' _))
  fitting other := congrArg g (h.fitting other)

end Informs

theorem informs_tell (attended : s.roster.Attended name i k) (event : Event)
    (state : s.client.state = event.state) :
    Informs name depth (List.replicate k event) s fun r => s.tell r event where
  told := (beside_tell depth attended event).toTold
  fitting := tell_fitting depth attended (Event.fits_iff.2 state)

theorem informs_greet (attended : s.roster.Attended name i k) :
    Informs name depth (List.replicate k .connected) s fun r => s.greet r := by
  have ready : Asides name s
      ((((s.log .greeted).sendFrame .clientHello).move .handshakeCompleted).log .nowReady) :=
    (((Asides.log _ s).trans (Asides.sendFrame _ _)).tail (.move _ _)).trans (Asides.log _ _)
  have told := informs_tell depth ((Told.asides ready).attended i k attended) .connected rfl
  exact .after ready (told.before fun t => (Asides.sendMessage .noVideo t).trans (Asides.log _ _))

/-- Some messages are passed on to observers only once the channel is ready. -/
theorem informs_pass (attended : s.roster.Attended name i k) (c : MessageClass) (line : LogLine)
    {event : Event} (state : event.state = .ready) :
    Informs name depth
      ((if s.client.state = .ready then some event else none).elim [] (List.replicate k)) s
      fun r => s.pass r c line event := by
  by_cases ready : s.client.state = .ready
  · have told := informs_tell depth (s := s.log line) attended event (ready.trans state.symm)
    simpa [pass, ready] using Informs.after (.log line s) told
  · simpa [pass, ready] using Informs.nothing (.log (.untimely c.name s.client.state) s)

/-- A message of the bridge makes an observer be told the news in it. -/
theorem informs_dispatch (attended : s.roster.Attended name i k) (m : Message) :
    Informs name depth ((m.news s.client.state).elim [] (List.replicate k)) s
      fun r => s.dispatch r m := by
  cases m with
  | serverHello version => exact informs_greet depth attended
  | endpointMessage e => exact informs_pass depth attended _ _ rfl
  | dominantSpeaker endpoint previous => exact informs_pass depth attended _ _ rfl
  | connectivity endpoint active => exact informs_pass depth attended _ _ rfl
  | senderVideoConstraints constraints => exact .nothing .refl
  | _ => exact .nothing (.log _ s)

/-- So does a signal of the latest connection. -/
theorem informs_obey (attended : s.roster.Attended name i k) (n : Nat) (signal : Signal) :
    Informs name depth ((signal.news s.client.state).elim [] (List.replicate k)) s
      fun r => s.obey r n signal := by
  cases signal with
  | opened => exact .nothing (((Asides.log _ s).tail (.setSession _ _)).tail (.move _ _))
  | failed e => exact .nothing (.log _ s)
  | closed code reason =>
      have closed : Asides name s ((s.log (.closed code reason)).move .closed) :=
        (Asides.log _ s).tail (.move _ _)
      exact .after closed (informs_tell (s := (s.log _).move .closed) depth attended _ rfl)
  | message frame =>
      have received : Asides name s (s.log (.received frame)) := .log _ s
      simp only [Signal.news, obey, receive]
      cases Message.decode frame with
      | ok m => exact .after received (informs_dispatch (s := s.log _) depth attended m)
      | error e => cases e <;> exact .nothing (received.trans (Asides.log _ _))

/-- **A signal that counts makes an attended observer be told the news in it, as often as it is
registered; any other signal makes nobody be told anything.** -/
theorem told_deliver (attended : s.roster.Attended name i k) (n : Nat) (signal : Signal) :
    Told name
      (if s.listensTo n then (signal.news s.client.state).elim [] (List.replicate k) else [])
      [(n, signal)] s (s.deliver (react (perform depth)) n signal) := by
  have called : Told name [] [(n, signal)] s (s.called n signal) := .called n signal s
  cases listens : s.listensTo n with
  | true =>
      rw [deliver_of_listens listens]
      exact called.trans (informs_obey (s := s.called n signal) depth attended n signal).told
  | false =>
      rcases deliver_of_deaf listens signal with h | ⟨generation, latest, h⟩
      · rw [h]
        exact called
      · rw [h]
        exact called.trans (.asides (.log _ _))

/-- **Nobody is told anything in a state that does not fit.** -/
theorem deliver_fitting (attended : s.roster.Attended name i k) (n : Nat) (signal : Signal)
    (other : Reaction) :
    s.deliver (fitting (react (perform depth)) other) n signal =
      s.deliver (react (perform depth)) n signal := by
  cases listens : s.listensTo n with
  | true =>
      rw [deliver_of_listens listens, deliver_of_listens listens]
      exact (informs_obey (s := s.called n signal) depth attended n signal).fitting other
  | false =>
      rcases deliver_of_deaf listens signal with h | ⟨generation, latest, h⟩ <;> rw [h, h]

end Observers

end Scene

end BridgeChannel
