/-
**Who owns the observers, in every scene that a script leads to.**

Every owner holds the observer that bears its name, no two owners have the same name, and between
two commands no notification keeps anybody alive: whoever a notification keeps it lets go of,
however observers react, also where notifications are nested.  An observer that is owned is
therefore the only one alive under its name.

Main definitions:

* `Roster.Orderly` — owners hold observers of their name, one each;
* `Scene.Orders` — between two scenes, the roster stays orderly and notifications have let go.

Main results:

* `orders_tell` — **a notification lets go of everyone that it keeps**;
* `Reachable.orderly` — **every reachable roster is orderly, and nobody is kept**;
* `Reachable.attended` — an observer that is owned is attended to, if observers are calm.
-/
import BridgeChannel.Proofs.Client.Reachable
import BridgeChannel.Proofs.Client.Telling

set_option autoImplicit false

namespace BridgeChannel

/-! ### Rosters -/

namespace Roster

/-- Every owner holds the observer of its name, and no two owners have the same one. -/
structure Orderly (r : Roster Observer) : Prop where
  owners : ∀ owner ∈ r.owned, r.nameOf owner.2 = some owner.1
  unique : (r.owned.map Prod.fst).Nodup

namespace Orderly

variable {r : Roster Observer} (h : r.Orderly)

include h

theorem release (name : String) : (r.release name).Orderly where
  owners owner howner := h.owners owner (List.mem_filter.1 howner).1
  unique := h.unique.sublist (List.filter_sublist.map Prod.fst)

theorem update (n : Nat) {f : Observer → Observer} (keeps : ∀ o, (f o).name = o.name) :
    (r.update n f).Orderly where
  owners owner howner := by
    rw [nameOf_update n keeps]
    exact h.owners owner howner
  unique := h.unique

/-- A new observer takes a name from whoever bore it. -/
theorem welcome (o : Observer) :
    (((r.create o).own o.name r.next).register r.next).Orderly where
  owners owner howner := by
    have name := nameOf_create o r owner.2
    rcases List.mem_cons.1 howner with rfl | older
    · exact name.trans (if_pos rfl)
    · have held := h.owners owner (List.mem_filter.1 older).1
      have earlier : owner.2 ≠ r.next := by
        intro same
        rw [same] at held
        simp [nameOf, next] at held
      exact name.trans ((if_neg earlier).trans held)
  unique := by
    have others := (h.release o.name).unique
    have fresh : o.name ∉ (r.release o.name).owned.map Prod.fst := by
      simp [Roster.release]
    exact List.nodup_cons.2 ⟨fresh, others⟩

/-- Whoever owns under a name is the one who does. -/
theorem owned?_of_mem {name : String} {n : Nat} (owner : (name, n) ∈ r.owned) :
    r.owned? name = some n := by
  have unique := h.unique
  rw [owned?]
  generalize r.owned = owners at owner unique ⊢
  induction owners with
  | nil => exact absurd owner (by simp)
  | cons first others ih =>
      obtain ⟨fresh, unique⟩ := List.nodup_cons.1 unique
      rw [lookup_owners]
      rcases List.mem_cons.1 owner with rfl | later
      · exact if_pos rfl
      · have other : name ≠ first.1 := fun same =>
          fresh (same ▸ List.mem_map_of_mem (f := Prod.fst) later)
        rw [if_neg other]
        exact ih later unique

/-- **An observer that is owned is attended to, if nobody is kept and observers are calm.** -/
theorem attended {name : String} {i : Nat} (idle : r.kept = []) (owned : r.owned? name = some i)
    (calm : ∀ o ∈ r.everyone, ∀ reaction ∈ o.reactions, reaction.2.isOutside name = true) :
    r.Attended name i (r.registered.count i) where
  named := h.owners _ (mem_of_owned? owned)
  owned := owned
  proper other same := by
    have named := h.owners _ (mem_of_owned? same)
    rw [h.owners _ (mem_of_owned? owned)] at named
    exact (Option.some.inj named).symm
  registered := rfl
  sole j alive bears := by
    -- whoever is alive is owned, under its own name
    obtain ⟨⟨other, _⟩, howner, rfl⟩ := (isAlive_iff_of_idle idle).1 alive
    have named := h.owners _ howner
    rw [bears] at named
    obtain rfl : name = other := Option.some.inj named
    rw [h.owned?_of_mem howner] at owned
    exact Option.some.inj owned
  calm := calm

end Orderly

end Roster

namespace Scene

/-- Between two scenes, whoever notifications kept they have let go of, and the roster is orderly if
it was before. -/
structure Orders (s t : Scene) : Prop where
  longer : s.network.length ≤ t.network.length
  kept : t.roster.kept = s.roster.kept
  orderly : s.roster.Orderly → t.roster.Orderly

namespace Orders

theorem refl (s : Scene) : Orders s s := ⟨Nat.le_refl _, rfl, id⟩

theorem trans {s t u : Scene} (h : Orders s t) (h' : Orders t u) : Orders s u :=
  ⟨Nat.le_trans h.longer h'.longer, h'.kept.trans h.kept, h'.orderly ∘ h.orderly⟩

/-- What leaves observers alone. -/
theorem of_same {s t : Scene} (longer : s.network.length ≤ t.network.length)
    (roster : t.roster = s.roster) : Orders s t :=
  ⟨longer, by rw [roster], fun h => roster ▸ h⟩

/-- What changes the roster, but nobody that is kept. -/
theorem withRoster {s : Scene} {r : Roster Observer} (kept : r.kept = s.roster.kept)
    (orderly : s.roster.Orderly → r.Orderly) : Orders s { s with roster := r } :=
  ⟨Nat.le_refl _, kept, orderly⟩

theorem updateObserver (n : Nat) {f : Observer → Observer} (keeps : ∀ o, (f o).name = o.name)
    (s : Scene) : Orders s { s with roster := s.roster.update n f } :=
  .withRoster rfl fun h => h.update n keeps

theorem note (o : Occurrence) (s : Scene) : Orders s (s.note o) := of_same (Nat.le_refl _) rfl

theorem update (n : Nat) (f : Connection → Connection) (s : Scene) : Orders s (s.update n f) :=
  of_same (by simp [Scene.update]) rfl

theorem sendFrame (m : Message) (s : Scene) : Orders s (s.sendFrame m) := by
  unfold Scene.sendFrame
  split
  · exact note _ s
  · split
    · exact note _ s
    · dsimp only
      split <;> exact of_same (Nat.le_refl _) rfl

theorem sendMessage (m : Message) (s : Scene) : Orders s (s.sendMessage m) := by
  unfold Scene.sendMessage
  split
  · exact sendFrame m s
  · exact note _ s

end Orders

/-! ### Notifications -/

section Notifications

variable {act : Performance} (nested : ∀ step s, Orders s (s.nest act step))

include nested

theorem orders_nestAll (steps : List Step) (s : Scene) : Orders s (s.nestAll act steps) := by
  induction steps generalizing s with
  | nil => exact .refl s
  | cons step steps ih => exact (nested step s).trans (ih _)

theorem orders_react (n : Nat) (event : Event) (s : Scene) : Orders s (react act n event s) := by
  unfold react
  split
  · exact .refl s
  next o _ =>
    have told : Orders s (s.note (.told o.name event)) := .note _ s
    dsimp only
    split
    · exact told
    · have spent := told.trans (.updateObserver n (f := fun o =>
          { o with remaining := o.remaining - 1 }) (fun _ => rfl) _)
      exact spent.trans (orders_nestAll nested _ _)

/-- Whoever is called is let go of in the end. -/
theorem orders_callEach (event : Event) (ns : List Nat) {kept : List Nat} {s : Scene}
    (keeps : s.roster.kept = ns ++ kept) :
    let t := callEach (fun n s => react act n event s) ns s
    s.network.length ≤ t.network.length ∧ t.roster.kept = kept ∧
      (s.roster.Orderly → t.roster.Orderly) := by
  induction ns generalizing s with
  | nil => exact ⟨Nat.le_refl _, keeps, id⟩
  | cons n ns ih =>
      have told := orders_react nested n event s
      have gone : (HasRoster.modify (Roster.letGo n) (react act n event s)).roster.kept =
          ns ++ kept := by
        have first : (react act n event s).roster.kept = n :: (ns ++ kept) :=
          told.kept.trans keeps
        change (react act n event s).roster.kept.erase n = ns ++ kept
        rw [first, List.erase_cons_head]
      obtain ⟨longer, kept, orderly⟩ := ih gone
      exact ⟨Nat.le_trans told.longer longer, kept, fun h => orderly ⟨(told.orderly h).owners,
        (told.orderly h).unique⟩⟩

/-- **A notification lets go of everyone that it keeps.** -/
theorem orders_tell (event : Event) (s : Scene) : Orders s (s.tell (react act) event) := by
  have keeps : (HasRoster.modify (Roster.keep s.roster.live)
      (HasRoster.modify Roster.prune s)).roster.kept = s.roster.live ++ s.roster.kept := rfl
  obtain ⟨longer, kept, orderly⟩ := orders_callEach nested event s.roster.live keeps
  exact ⟨longer, kept, fun h => orderly ⟨h.owners, h.unique⟩⟩

/-! ### Signals -/

theorem orders_greet (s : Scene) : Orders s (s.greet (react act)) := by
  have ready : Orders s
      ((((s.log .greeted).sendFrame .clientHello).move .handshakeCompleted).log .nowReady) :=
    ((Orders.note _ s).trans (.sendFrame _ _)).trans (.of_same (Nat.le_refl _) rfl)
  exact ((ready.trans (orders_tell nested _ _)).trans (.sendMessage _ _)).trans (.note _ _)

theorem orders_pass (c : MessageClass) (line : LogLine) (event : Event) (s : Scene) :
    Orders s (s.pass (react act) c line event) := by
  unfold pass
  split
  · exact (Orders.note _ s).trans (orders_tell nested _ _)
  · exact .note _ s

theorem orders_dispatch (m : Message) (s : Scene) : Orders s (s.dispatch (react act) m) := by
  cases m with
  | serverHello version => exact orders_greet nested s
  | endpointMessage e => exact orders_pass nested _ _ _ s
  | dominantSpeaker endpoint previous => exact orders_pass nested _ _ _ s
  | connectivity endpoint active => exact orders_pass nested _ _ _ s
  | senderVideoConstraints constraints => exact .refl s
  | _ => exact .note _ s

theorem orders_obey (n : Nat) (signal : Signal) (s : Scene) :
    Orders s (s.obey (react act) n signal) := by
  cases signal with
  | opened => exact .of_same (Nat.le_refl _) rfl
  | failed e => exact .note _ s
  | closed code reason =>
      have closed : Orders s ((s.log (.closed code reason)).move .closed) :=
        .of_same (Nat.le_refl _) rfl
      exact closed.trans (orders_tell nested _ _)
  | message frame =>
      simp only [obey, receive]
      have received : Orders s (s.log (.received frame)) := .note _ s
      split
      · exact received.trans (orders_dispatch nested _ _)
      · exact received.trans (.note _ _)
      · exact received.trans (.note _ _)

theorem orders_deliver (n : Nat) (signal : Signal) (s : Scene) :
    Orders s (s.deliver (react act) n signal) := by
  have called : Orders s (s.called n signal) := .of_same (Nat.le_refl _) rfl
  cases listens : s.listensTo n with
  | true =>
      rw [deliver_of_listens listens]
      exact called.trans (orders_obey nested n signal _)
  | false =>
      rcases deliver_of_deaf listens signal with h | ⟨generation, latest, h⟩
      · rw [h]
        exact called
      · rw [h]
        exact called.trans (.note _ _)

theorem orders_engaged (n : Nat) (signal : Signal) (s : Scene) :
    Orders s (s.engaged n (deliver (react act) n signal)) :=
  ((Orders.update n _ s).trans (orders_deliver nested n signal _)).trans (.update n _ _)

theorem orders_read (n : Nat) (item : Option WebSocket.StreamItem) (s : Scene) :
    Orders s (s.read (react act) n item) := by
  unfold read
  split
  · exact .refl s
  · split
    · exact .refl s
    · dsimp only
      split
      · exact (Orders.update n _ s).trans (orders_engaged nested n _ _)
      · exact .update n _ s

end Notifications

/-! ### Steps -/

/-- Attempts to connect leave observers alone, but for what happens in their midst. -/
theorem phased_orders : Phased Orders where
  refl := .refl
  trans := .trans
  longer h := h.longer
  note _ _ s := .note _ s
  close _ := .note _ _
  update n _ s _ := .update n _ s
  move _ _ := .of_same (Nat.le_refl _) rfl
  setSession _ _ := .of_same (Nat.le_refl _) rfl
  leaveTransport _ := .of_same (Nat.le_refl _) rfl
  leaveHandler _ := .of_same (Nat.le_refl _) rfl
  launched plan s := .of_same (length_launched plan s ▸ Nat.le_succ _) rfl
  takeTransport h _ _ := h.trans (.of_same (Nat.le_refl _) rfl)
  announce n s := by
    -- a session that is handed over is nothing that anybody is told of
    rw [← deliver_opened (react fun _ s => (s, .exhausted))]
    exact orders_deliver (fun _ s => (Orders.note _ s).trans (.note _ _)) n .opened s

theorem orders_take {act : Performance} (nested : ∀ step s, Orders s (s.nest act step))
    (step : Step) (s : Scene) : Orders s (take act step s).1 := by
  rcases take_cases act step s with same | effect
  · rw [same]
    exact .refl s
  · generalize (take act step s).1 = t at effect
    cases effect with
    | connect plan during =>
        exact phased_orders.connect (fun m s => orders_nestAll nested _ s) plan s
    | disconnect => exact phased_orders.disconnect s
    | send message =>
        have asked : Orders s (s.requested message) := .of_same (Nat.le_refl _) rfl
        exact asked.trans (.sendMessage message _)
    | clearObservers => exact .withRoster rfl fun h => ⟨h.owners, h.unique⟩
    | observe name reactions times => exact .withRoster rfl fun h => h.welcome _
    | addAgain owned => exact .withRoster rfl fun h => ⟨h.owners, h.unique⟩
    | dropObserver name => exact .withRoster rfl fun h => h.release name
    | signal connection n signal => exact orders_engaged nested n signal s
    | stream connection n item => exact orders_read nested n item s
    | _ => exact .update _ _ s

/-- **Every step leaves the roster orderly, and notifications let go, at any depth of nesting.** -/
theorem orders_perform (depth : Nat) (step : Step) (s : Scene) :
    Orders s (s.perform depth step).1 := by
  induction depth generalizing step s with
  | zero => exact .refl s
  | succ depth ih =>
      refine orders_take (fun step s => ?_) step s
      exact ((Orders.note _ s).trans (ih step _)).trans (.note _ _)

end Scene

open Scene in
/-- **Every reachable roster is orderly, and nobody is kept.** -/
theorem Reachable.orderly {config : Config} {s : Scene} (reachable : Reachable config s) :
    s.roster.Orderly ∧ s.roster.kept = [] := by
  refine reachable.invariant (P := fun s => s.roster.Orderly ∧ s.roster.kept = []) ?_
    (fun s h => h) ?_ ?_
  · exact ⟨⟨fun _ h => absurd h List.not_mem_nil, List.nodup_nil⟩, rfl⟩
  · rintro depth step s ⟨orderly, idle⟩
    have orders := orders_perform depth step s
    exact ⟨orders.orderly orderly, orders.kept.trans idle⟩
  · rintro s ⟨orderly, idle⟩
    have orders := phased_orders.dropClient (fun s => .of_same (Nat.le_refl _) rfl) s
    exact ⟨orders.orderly orderly, orders.kept.trans idle⟩

/-- An observer that is owned is attended to, if observers are calm. -/
theorem Reachable.attended {config : Config} {s : Scene} (reachable : Reachable config s)
    {name : String} {i : Nat} (owned : s.roster.owned? name = some i)
    (calm : ∀ o ∈ s.roster.everyone, ∀ reaction ∈ o.reactions,
      reaction.2.isOutside name = true) :
    s.roster.Attended name i (s.roster.registered.count i) :=
  reachable.orderly.1.attended reachable.orderly.2 owned calm

end BridgeChannel
