/-
**Who is called, by what has happened.**

The register only lists observers, and a notification first forgets those that are gone.  Who is
called can be told from the script alone: a registration lasts until the register is emptied or the
owner of its observer lets go, and a notification calls the registrations that have lasted, in the
order in which they were made and as often as they were made.  That the register forgets makes no
difference to anybody, and an observer that is gone never comes back, not even when another one
takes its name and is registered.

Main definitions:

* `Registration`, `Step.spares`, `Audience.due` — the registrations that have lasted;
* `Audience.notifyUnpruned`, `Audience.runWith` — a register that forgets nobody;
* `Roster.Tracks` — the register lists the registrations that have lasted, and whatever is gone.

Main results:

* `tracks_performWith` — **what each step does to the registrations**;
* `run_of_history` — **every notification calls the registrations that have lasted**, whether or not
  the register forgets.
-/
import BridgeChannel.Observer.Script
import Mathlib.Data.List.Induction

set_option autoImplicit false

namespace BridgeChannel

/-! ### What has happened -/

/-- An observer in the register, with the name that it was registered under. -/
structure Registration where
  name : String
  number : Nat
  deriving DecidableEq, Repr

namespace Audience

/-- Whether a step leaves the registrations of the observer of a name in force.  The observer that
takes a name drives out the one before. -/
def Step.spares (name : String) : Step → Bool
  | .clear => false
  | .drop other | .addWhileTelling other => other != name
  | .add _ | .tell _ => true

/-- The registrations that a step makes. -/
def registrations (s : Audience) : Step → List Registration
  | .add name => [⟨name, (s.roster.owned? name).getD s.roster.next⟩]
  | .addWhileTelling name => List.replicate s.roster.live.length ⟨name, s.roster.next⟩
  | _ => []

/-- The calls that a step makes, where some registrations are in force. -/
def Step.callsTo (due : List Registration) : Step → List (String × Event)
  | .tell event => if listensTo event.kind then due.map fun reg => (reg.name, event) else []
  | .addWhileTelling _ => due.map fun reg => (reg.name, .connected)
  | _ => []

/-- The state after a script. -/
def after (steps : List Step) : Audience := steps.foldl perform {}

/-- The registrations of a script that no later step has put an end to, in the order in which they
were made. -/
def dueFrom (s : Audience) : List Step → List Registration
  | [] => []
  | step :: later =>
    (s.registrations step).filter (fun reg => later.all (Step.spares reg.name)) ++
      dueFrom (s.perform step) later

/-- The registrations that have lasted to the end of a script. -/
def due (steps : List Step) : List Registration := dueFrom {} steps

theorem dueFrom_concat (s : Audience) (steps : List Step) (step : Step) :
    dueFrom s (steps ++ [step]) =
      (dueFrom s steps).filter (fun reg => step.spares reg.name) ++
        (steps.foldl perform s).registrations step := by
  induction steps generalizing s with
  | nil => simp [dueFrom]
  | cons first steps ih =>
      simp only [List.cons_append, dueFrom, ih, List.all_append, List.all_cons, List.all_nil,
        Bool.and_true, List.foldl_cons, List.filter_append, List.filter_filter, List.append_assoc]
      congr 2
      funext reg
      rw [Bool.and_comm]

/-! ### Registers that do not forget -/

open HasRoster in
/-- A notification of a register that forgets nobody: who is gone is passed over and stays
listed. -/
def notifyUnpruned (call : Nat → Audience → Audience) (s : Audience) : Audience :=
  let called := (roster s).live
  callEach call called (modify (Roster.keep called) s)

open HasRoster in
/-- Performs a step, with notifications of the given kind. -/
def performWith (tell : (Nat → Audience → Audience) → Audience → Audience) (s : Audience) :
    Step → Audience
  | .tell event => tell (record event) s
  | .addWhileTelling name =>
    let n := s.roster.next
    let s := modify (fun r => (r.create name).keep [n]) s
    let s := tell (fun m s => record .connected m (modify (Roster.register n) s)) s
    modify (fun r => (r.own name n).letGo n) s
  | step => perform s step

/-- The state after a script, and the calls that each step made, the last one first, with
notifications of the given kind. -/
def progress (tell : (Nat → Audience → Audience) → Audience → Audience) (steps : List Step) :
    Audience × List (List (String × Event)) :=
  steps.foldl (fun before step =>
    let s := performWith tell { before.1 with calls := [] } step
    (s, s.calls.reverse :: before.2)) ({}, [])

/-- The calls that each step of a script makes, with notifications of the given kind. -/
def runWith (tell : (Nat → Audience → Audience) → Audience → Audience) (steps : List Step) :
    List (List (String × Event)) :=
  (progress tell steps).2.reverse

theorem performWith_notify (s : Audience) (step : Step) :
    performWith notify s step = perform s step := by
  cases step <;> rfl

theorem runWith_notify (steps : List Step) : runWith notify steps = run steps := by
  simp only [runWith, progress, run, performWith_notify]

end Audience

/-! ### The register keeps track -/

namespace Roster

/-- The register lists the registrations that have lasted, in order, and otherwise only observers
that are gone.  Whoever is owned is owned under its own name. -/
structure Tracks (r : Roster String) (due : List Registration) : Prop where
  live : r.live = due.map Registration.number
  owned : ∀ reg ∈ due, r.owned? reg.name = some reg.number
  owners : ∀ owner ∈ r.owned, r.everyone[owner.2]? = some owner.1
  listed : ∀ n ∈ r.registered, n < r.next
  idle : r.kept = []

/-- The roster with another register. -/
def listing (ns : List Nat) (r : Roster String) : Roster String := { r with registered := ns }

/-- Whoever takes a name drives out who had it, be it that one has let go already. -/
theorem own_release (name : String) (n : Nat) (r : Roster String) :
    (r.release name).own name n = r.own name n := by
  simp [own, Roster.release]

/-- Who was kept for one call is let go of. -/
theorem letGo_own_keep (name : String) (n : Nat) (r : Roster String) :
    ((r.keep [n]).own name n).letGo n = r.own name n := by
  simp [own, keep, letGo, Roster.release]

/-- Where fewer are alive, fewer of the same registrations are called. -/
theorem live_of_isAlive {α : Type} {r r' : Roster α} (registered : r'.registered = r.registered)
    (alive : ∀ n ∈ r.registered, r'.isAlive n = true → r.isAlive n = true) :
    r'.live = r.live.filter r'.isAlive := by
  rw [live, live, registered, List.filter_filter]
  refine List.filter_congr fun n member => ?_
  cases still : r'.isAlive n with
  | false => rfl
  | true => exact (alive n member still).symm

/-- Whoever is about to come into being changes nothing for those who are there. -/
theorem isAlive_expecting (r : Roster String) (name : String) {n : Nat} (there : n < r.next) :
    ((r.create name).keep [r.next]).isAlive n = r.isAlive n := by
  have other : n ≠ r.next := Nat.ne_of_lt there
  simp [isAlive, create, keep, other]

namespace Tracks

variable {r : Roster String} {due : List Registration} (h : r.Tracks due)

include h

theorem named {reg : Registration} (member : reg ∈ due) :
    r.everyone[reg.number]? = some reg.name :=
  h.owners _ (mem_of_owned? (h.owned reg member))

/-- Whoever is owned came into being. -/
theorem lt_next {owner : String × Nat} (member : owner ∈ r.owned) : owner.2 < r.next := by
  obtain ⟨within, -⟩ := List.getElem?_eq_some_iff.1 (h.owners owner member)
  exact within

/-- The register forgets some of those that are gone. -/
theorem forget {listed : List Nat} (fewer : listed ⊆ r.registered)
    (same : listed.filter r.isAlive = r.live) : (r.listing listed).Tracks due :=
  { h with
    live := same.trans h.live
    listed := fun n member => h.listed n (fewer member) }

theorem clear : r.clear.Tracks [] :=
  { h with
    live := rfl
    owned := fun _ member => absurd member List.not_mem_nil
    listed := fun _ member => absurd member List.not_mem_nil }

/-- An observer is registered, any number of times. -/
theorem register {name : String} {n : Nat} (owned : r.owned? name = some n) (times : Nat) :
    (r.listing (r.registered ++ List.replicate times n)).Tracks
      (due ++ List.replicate times (Registration.mk name n)) where
  live := by
    have alive : r.isAlive n = true := isAlive_of_owner (mem_of_owned? owned)
    have called : (List.replicate times n).filter r.isAlive = List.replicate times n :=
      List.filter_eq_self.2 fun m member => (List.eq_of_mem_replicate member) ▸ alive
    have split : (r.registered ++ List.replicate times n).filter r.isAlive =
        r.live ++ List.replicate times n := by rw [List.filter_append, called]; rfl
    rw [List.map_append, List.map_replicate, ← h.live]
    exact split
  owned reg member := by
    rcases List.mem_append.1 member with old | new
    · exact h.owned reg old
    · rw [List.eq_of_mem_replicate new]
      exact owned
  owners := h.owners
  listed m member := by
    rcases List.mem_append.1 member with old | new
    · exact h.listed m old
    · rw [List.eq_of_mem_replicate new]
      exact h.lt_next (mem_of_owned? owned)
  idle := h.idle

/-- The owner of a name lets go, and the registrations of its observer end. -/
theorem release (name : String) :
    (r.release name).Tracks (due.filter fun reg => name != reg.name) where
  live := by
    have idle : (r.release name).kept = [] := h.idle
    have alive : ∀ reg ∈ due,
        (r.release name).isAlive reg.number = (name != reg.name) := by
      intro reg member
      rw [Bool.eq_iff_iff, isAlive_iff_of_idle idle, bne_iff_ne]
      constructor
      · rintro ⟨owner, held, number⟩ rfl
        obtain ⟨held, other⟩ := List.mem_filter.1 held
        -- whoever owns the observer of a registration bears its name
        have bears := h.owners owner held
        rw [number, h.named member] at bears
        exact bne_iff_ne.1 other (Option.some.inj bears).symm
      · intro different
        have owner := mem_of_owned? (h.owned reg member)
        exact ⟨_, List.mem_filter.2 ⟨owner, bne_iff_ne.2 different.symm⟩, rfl⟩
    have fewer : (r.release name).live = r.live.filter (r.release name).isAlive := by
      refine live_of_isAlive rfl fun n _ still => ?_
      obtain ⟨owner, held, rfl⟩ := (isAlive_iff_of_idle idle).1 still
      exact isAlive_of_owner (List.mem_filter.1 held).1
    rw [fewer, h.live, List.filter_map]
    congr 1
    exact List.filter_congr alive
  owned reg member := by
    obtain ⟨old, other⟩ := List.mem_filter.1 member
    have different : reg.name ≠ name := fun same => by simp [same] at other
    rw [owned?_release, if_neg different, h.owned reg old]
  owners owner held := h.owners owner (List.mem_filter.1 held).1
  listed := h.listed
  idle := h.idle

/-- A new observer takes a name that nobody bears. -/
theorem welcome {name : String} (free : r.owned? name = none) :
    ((r.create name).own name r.next).Tracks due where
  live := by
    have idle : ((r.create name).own name r.next).kept = [] := h.idle
    have alive : ∀ n ∈ r.registered,
        ((r.create name).own name r.next).isAlive n = r.isAlive n := by
      intro n member
      rw [Bool.eq_iff_iff, isAlive_iff_of_idle idle, isAlive_iff_of_idle h.idle]
      constructor
      · rintro ⟨owner, held, number⟩
        rcases List.mem_cons.1 held with rfl | older
        · exact absurd number (Nat.ne_of_gt (h.listed n member))
        · exact ⟨owner, (List.mem_filter.1 older).1, number⟩
      · rintro ⟨owner, held, number⟩
        have other := bne_iff_ne.2 (ne_of_owned?_eq_none free held)
        exact ⟨owner, List.mem_cons_of_mem _ (List.mem_filter.2 ⟨held, other⟩), number⟩
    exact (List.filter_congr alive).trans h.live
  owned reg member := by
    have different : reg.name ≠ name := by
      rintro rfl
      rw [h.owned reg member] at free
      exact absurd free (by simp)
    have held := owned?_own reg.name name r.next (r.create name)
    exact held.trans ((if_neg different).trans (h.owned reg member))
  owners owner held := by
    rcases List.mem_cons.1 held with rfl | older
    · exact List.getElem?_concat_length
    · have held := (List.mem_filter.1 older).1
      exact (List.getElem?_append_left (h.lt_next held)).trans (h.owners owner held)
  listed n member := by
    have more : r.next < ((r.create name).own name r.next).next := by
      simp [next, own, create, Roster.release]
    exact Nat.lt_trans (h.listed n member) more
  idle := h.idle

/-- A new observer takes a name from whoever bore it. -/
theorem succeed (name : String) : ((r.create name).own name r.next).Tracks
    (due.filter fun reg => name != reg.name) := by
  have free : (r.release name).owned? name = none :=
    (owned?_release name name r).trans (if_pos rfl)
  have arrived := (h.release name).welcome free
  have same : ((r.release name).create name).own name (r.release name).next =
      (r.create name).own name r.next := own_release name r.next (r.create name)
  exact same ▸ arrived

theorem live_expecting (name : String) :
    ((r.create name).keep [r.next]).live = r.live :=
  List.filter_congr fun _ member => isAlive_expecting r name (h.listed _ member)

end Tracks

end Roster

namespace Audience

/-! ### Notifications -/

/-- What an observer takes note of. -/
def hears (event : Event) (r : Roster String) (n : Nat) : Option (String × Event) :=
  if listensTo event.kind then r.everyone[n]?.map fun name => (name, event) else none

theorem record_eq (event : Event) (n : Nat) (s : Audience) :
    record event n s = ⟨s.roster, (hears event s.roster n).toList ++ s.calls⟩ := by
  unfold record hears
  cases s.roster.everyone[n]? <;> cases listensTo event.kind <;> rfl

/-- A call that registers the given observers, and takes note of the news. -/
def Acts (call : Nat → Audience → Audience) (event : Event) (extra : List Nat) : Prop :=
  ∀ n s, call n s = ⟨s.roster.listing (s.roster.registered ++ extra),
    (hears event s.roster n).toList ++ s.calls⟩

theorem acts_record (event : Event) : Acts (record event) event [] := by
  intro n s
  rw [record_eq, List.append_nil]
  rfl

theorem acts_register (event : Event) (m : Nat) :
    Acts (fun n s => record event n (HasRoster.modify (Roster.register m) s)) event [m] :=
  fun n s => record_eq event n (HasRoster.modify (Roster.register m) s)

/-- **Everyone is called once for each place in the list, in order**, and let go of; each call
registers whom it registers. -/
theorem callEach_of_acts {call : Nat → Audience → Audience} {event : Event} {extra : List Nat}
    (acts : Acts call event extra) (ns : List Nat) {kept : List Nat} {s : Audience}
    (keeps : s.roster.kept = ns ++ kept) :
    callEach call ns s =
      ⟨{ s.roster.listing
            (s.roster.registered ++ (List.replicate ns.length extra).flatten) with kept := kept },
        (ns.filterMap (hears event s.roster)).reverse ++ s.calls⟩ := by
  induction ns generalizing s with
  | nil =>
      obtain rfl : s.roster.kept = kept := keeps
      simp [Roster.listing]
  | cons n ns ih =>
      have gone : (HasRoster.modify (Roster.letGo n) (call n s)).roster.kept = ns ++ kept := by
        rw [acts]
        change s.roster.kept.erase n = ns ++ kept
        rw [keeps, List.cons_append, List.erase_cons_head]
      rw [callEach_cons, ih gone, acts]
      have registered : (s.roster.registered ++ extra) ++ (List.replicate ns.length extra).flatten =
          s.roster.registered ++ (List.replicate (n :: ns).length extra).flatten := by
        rw [List.append_assoc, List.length_cons, List.replicate_succ, List.flatten_cons]
      have calls : (ns.filterMap (hears event s.roster)).reverse ++
            ((hears event s.roster n).toList ++ s.calls) =
          ((n :: ns).filterMap (hears event s.roster)).reverse ++ s.calls := by
        cases heard : hears event s.roster n <;> simp [heard]
      rw [← registered, ← calls]
      rfl

/-- A notification calls whoever is listed and alive, in order; whoever it leaves out of the list
is gone. -/
def Tells (tell : (Nat → Audience → Audience) → Audience → Audience) : Prop :=
  ∀ {call event extra}, Acts call event extra → ∀ s : Audience, ∃ listed,
    listed ⊆ s.roster.registered ∧ listed.filter s.roster.isAlive = s.roster.live ∧
      tell call s =
        ⟨s.roster.listing (listed ++ (List.replicate s.roster.live.length extra).flatten),
          (s.roster.live.filterMap (hears event s.roster)).reverse ++ s.calls⟩

theorem tells_notify : Tells notify := by
  intro call event extra acts s
  refine ⟨s.roster.live, fun n member => (List.mem_filter.1 member).1, ?_, ?_⟩
  · exact List.filter_eq_self.2 fun n member => (List.mem_filter.1 member).2
  · exact callEach_of_acts acts s.roster.live rfl

theorem tells_notifyUnpruned : Tells notifyUnpruned := by
  intro call event extra acts s
  exact ⟨s.roster.registered, List.Subset.refl _, rfl, callEach_of_acts acts s.roster.live rfl⟩

/-- Everyone registered takes note of the news by name. -/
theorem filterMap_hears {due : List Registration} {r : Roster String}
    (named : ∀ reg ∈ due, r.everyone[reg.number]? = some reg.name) (event : Event) :
    (due.map Registration.number).filterMap (hears event r) =
      if listensTo event.kind then due.map fun reg => (reg.name, event) else [] := by
  induction due with
  | nil => simp
  | cons reg due ih =>
      have first := named reg List.mem_cons_self
      have later := ih fun reg member => named reg (List.mem_cons_of_mem _ member)
      rw [List.map_cons, List.filterMap_cons, later, hears, first]
      cases listensTo event.kind <;> rfl

/-! ### Steps -/

section Steps

variable {tell : (Nat → Audience → Audience) → Audience → Audience} (tells : Tells tell)
  {s : Audience} {due : List Registration} (h : s.roster.Tracks due)

include tells h

theorem tracks_tell (event : Event) :
    (performWith tell s (.tell event)).roster.Tracks due ∧
      (performWith tell s (.tell event)).calls =
        (Step.callsTo due (.tell event)).reverse ++ s.calls := by
  obtain ⟨listed, fewer, same, told⟩ := tells (acts_record event) s
  have nobody : (List.replicate s.roster.live.length ([] : List Nat)).flatten = [] := by simp
  rw [performWith, told, nobody, List.append_nil, h.live,
    filterMap_hears fun reg member => h.named member]
  exact ⟨h.forget fewer same, rfl⟩

/-- While a notification goes on, a new observer is registered before each call, and in the end it
drives out the one that had its name. -/
theorem tracks_addWhileTelling (name : String) :
    (performWith tell s (.addWhileTelling name)).roster.Tracks
        ((due.filter fun reg => name != reg.name) ++ s.registrations (.addWhileTelling name)) ∧
      (performWith tell s (.addWhileTelling name)).calls =
        (Step.callsTo due (.addWhileTelling name)).reverse ++ s.calls := by
  obtain ⟨listed, fewer, same, told⟩ := tells (acts_register .connected s.roster.next)
    (HasRoster.modify (fun r => (r.create name).keep [s.roster.next]) s)
  have once : (List.replicate s.roster.live.length [s.roster.next]).flatten =
      List.replicate s.roster.live.length s.roster.next := by simp
  have called : (HasRoster.modify (fun r => (r.create name).keep [s.roster.next]) s).roster.live =
      s.roster.live := h.live_expecting name
  rw [called, once] at told
  dsimp only [performWith]
  rw [told]
  constructor
  · have still : listed.filter s.roster.isAlive = s.roster.live := by
      rw [← called, ← same]
      exact List.filter_congr fun n member =>
        (Roster.isAlive_expecting s.roster name (h.listed n (fewer member))).symm
    have arrived := (h.forget fewer still).succeed name
    have registered : (((s.roster.create name).listing (listed ++ List.replicate
        s.roster.live.length s.roster.next)).own name s.roster.next).Tracks _ :=
      arrived.register (Roster.owned?_own_self name _ _) s.roster.live.length
    have departed := Roster.letGo_own_keep name s.roster.next ((s.roster.create name).listing
      (listed ++ List.replicate s.roster.live.length s.roster.next))
    rw [← departed] at registered
    exact registered
  · have named : ∀ reg ∈ due,
        (s.roster.everyone ++ [name])[reg.number]? = some reg.name := by
      intro reg member
      have there := h.lt_next (Roster.mem_of_owned? (h.owned reg member))
      exact (List.getElem?_append_left there).trans (h.named member)
    rw [h.live, filterMap_hears named]
    rfl

/-- **What each step does**: it spares some registrations and makes others, and calls those that it
found. -/
theorem tracks_performWith (step : Step) :
    (performWith tell s step).roster.Tracks
        (due.filter (fun reg => step.spares reg.name) ++ s.registrations step) ∧
      (performWith tell s step).calls = (step.callsTo due).reverse ++ s.calls := by
  have spared : due.filter (fun _ => true) = due := List.filter_eq_self.2 fun _ _ => rfl
  cases step with
  | add name =>
      simp only [performWith, perform, registrations, Step.spares, Step.callsTo, spared]
      cases owned : s.roster.owned? name with
      | some n => exact ⟨h.register owned 1, rfl⟩
      | none =>
          have bears := Roster.owned?_own_self name s.roster.next (s.roster.create name)
          exact ⟨(h.welcome owned).register bears 1, rfl⟩
  | drop name =>
      simp only [registrations, Step.spares, List.append_nil]
      exact ⟨h.release name, rfl⟩
  | clear =>
      have nothing : due.filter (fun _ => false) = [] := by simp
      simp only [registrations, Step.spares, nothing, List.append_nil]
      exact ⟨h.clear, rfl⟩
  | tell event =>
      have told := tracks_tell tells h event
      simpa [registrations, Step.spares, spared] using told
  | addWhileTelling name => exact tracks_addWhileTelling tells h name

end Steps

/-! ### Who comes and goes -/

/-- Those who came into being, and their owners, after a step. -/
def Step.people (r : Roster String) : Step → Roster String
  | .add name =>
    match r.owned? name with
    | some _ => r
    | none => (r.create name).own name r.next
  | .drop name => r.release name
  | .addWhileTelling name => (r.create name).own name r.next
  | _ => r

/-- Two rosters know the same observers and owners, whoever is registered. -/
def SamePeople (r r' : Roster String) : Prop :=
  r.everyone = r'.everyone ∧ r.owned = r'.owned

/-- Who comes and goes does not depend on the register. -/
theorem samePeople_performWith {tell : (Nat → Audience → Audience) → Audience → Audience}
    (tells : Tells tell) {s : Audience} {r : Roster String} (same : SamePeople s.roster r)
    (step : Step) : SamePeople (performWith tell s step).roster (step.people r) := by
  obtain ⟨everyone, owned⟩ := same
  have next : s.roster.next = r.next := congrArg List.length everyone
  have bearer : ∀ name, s.roster.owned? name = r.owned? name := fun name =>
    congrArg (List.lookup name) owned
  have arrival : ∀ name, SamePeople ((s.roster.create name).own name s.roster.next)
      ((r.create name).own name r.next) := by
    intro name
    simp only [SamePeople, Roster.own, Roster.release, Roster.create, everyone, owned, next,
      and_self]
  cases step with
  | add name =>
      simp only [performWith, perform, Step.people, bearer]
      cases r.owned? name with
      | some n => exact ⟨everyone, owned⟩
      | none => exact arrival name
  | drop name =>
      simp only [SamePeople, performWith, perform, Step.people, HasRoster.modify,
        HasRoster.withRoster, HasRoster.roster, Roster.release, everyone, owned, and_self]
  | clear => exact ⟨everyone, owned⟩
  | tell event =>
      obtain ⟨listed, -, -, told⟩ := tells (acts_record event) s
      rw [performWith, told]
      exact ⟨everyone, owned⟩
  | addWhileTelling name =>
      obtain ⟨listed, -, -, told⟩ := tells (acts_register .connected s.roster.next)
        (HasRoster.modify (fun r => (r.create name).keep [s.roster.next]) s)
      dsimp only [performWith]
      rw [told]
      exact arrival name

/-- The numbers under which a step registers depend on the people and on how many are called. -/
theorem registrations_congr {s t : Audience} (same : SamePeople s.roster t.roster)
    (called : s.roster.live.length = t.roster.live.length) (step : Step) :
    s.registrations step = t.registrations step := by
  have next : s.roster.next = t.roster.next := congrArg List.length same.1
  have bearer : ∀ name, s.roster.owned? name = t.roster.owned? name := fun name =>
    congrArg (List.lookup name) same.2
  cases step <;> simp only [registrations, next, bearer, called]

/-! ### Scripts -/

/-- The observers that came into being in a script, and their owners in the end. -/
def peopleAfter (steps : List Step) : Roster String := steps.foldl Step.people {}

/-- The state keeps track of a script. -/
structure Follows (steps : List Step) (s : Audience) : Prop where
  tracks : s.roster.Tracks (due steps)
  people : SamePeople s.roster (peopleAfter steps)

theorem follows_nil (calls : List (String × Event)) : Follows [] ⟨{}, calls⟩ where
  tracks :=
    { live := rfl
      owned := fun _ member => absurd member List.not_mem_nil
      owners := fun _ member => absurd member List.not_mem_nil
      listed := fun _ member => absurd member List.not_mem_nil
      idle := rfl }
  people := ⟨rfl, rfl⟩

theorem after_concat (steps : List Step) (step : Step) :
    after (steps ++ [step]) = performWith notify (after steps) step := by
  rw [after, List.foldl_append, performWith_notify]
  rfl

theorem peopleAfter_concat (steps : List Step) (step : Step) :
    peopleAfter (steps ++ [step]) = step.people (peopleAfter steps) := by
  rw [peopleAfter, List.foldl_append]
  rfl

theorem due_concat (steps : List Step) (step : Step) :
    due (steps ++ [step]) = (due steps).filter (fun reg => step.spares reg.name) ++
      (after steps).registrations step :=
  dueFrom_concat {} steps step

theorem follows_after (steps : List Step) : Follows steps (after steps) := by
  induction steps using List.reverseRecOn with
  | nil => exact follows_nil []
  | append_singleton steps step ih =>
      rw [after_concat]
      constructor
      · rw [due_concat]
        exact (tracks_performWith tells_notify ih.tracks step).1
      · rw [peopleAfter_concat]
        exact samePeople_performWith tells_notify ih.people step

theorem progress_concat (tell : (Nat → Audience → Audience) → Audience → Audience)
    (steps : List Step) (step : Step) :
    progress tell (steps ++ [step]) =
      let s := performWith tell { (progress tell steps).1 with calls := [] } step
      (s, s.calls.reverse :: (progress tell steps).2) := by
  rw [progress, List.foldl_append]
  rfl

section Runs

variable {tell : (Nat → Audience → Audience) → Audience → Audience} (tells : Tells tell)

include tells

/-- One more step, from any state that keeps track. -/
theorem Follows.step {steps : List Step} {s : Audience} (h : Follows steps s) (step : Step) :
    Follows (steps ++ [step]) (performWith tell s step) ∧
      (performWith tell s step).calls = (step.callsTo (due steps)).reverse ++ s.calls := by
  have spec := follows_after steps
  obtain ⟨tracks, calls⟩ := tracks_performWith tells h.tracks step
  have people : SamePeople s.roster (after steps).roster :=
    ⟨h.people.1.trans spec.people.1.symm, h.people.2.trans spec.people.2.symm⟩
  have called : s.roster.live.length = (after steps).roster.live.length := by
    rw [h.tracks.live, spec.tracks.live]
  rw [registrations_congr people called, ← due_concat] at tracks
  refine ⟨⟨tracks, ?_⟩, calls⟩
  rw [peopleAfter_concat]
  exact samePeople_performWith tells h.people step

theorem follows_progress (steps : List Step) : Follows steps (progress tell steps).1 := by
  induction steps using List.reverseRecOn with
  | nil => exact follows_nil []
  | append_singleton steps step ih =>
      rw [progress_concat]
      have quiet : Follows steps { (progress tell steps).1 with calls := [] } :=
        ⟨ih.tracks, ih.people⟩
      exact (quiet.step tells step).1

/-- **What a run calls**, one step after the other. -/
theorem runWith_concat (steps : List Step) (step : Step) :
    runWith tell (steps ++ [step]) = runWith tell steps ++ [step.callsTo (due steps)] := by
  have follows := follows_progress tells steps
  have quiet : Follows steps { (progress tell steps).1 with calls := [] } :=
    ⟨follows.tracks, follows.people⟩
  have calls := (quiet.step tells step).2
  rw [runWith, progress_concat, List.reverse_cons, calls]
  simp [runWith]

/-- Registers that call alike run alike, whom they may still list. -/
theorem runWith_eq_run (steps : List Step) : runWith tell steps = run steps := by
  rw [← runWith_notify]
  induction steps using List.reverseRecOn with
  | nil => rfl
  | append_singleton steps step ih =>
      rw [runWith_concat tells, runWith_concat tells_notify, ih]

end Runs

/-! ### Observers that are gone -/

/-- A step gives an owner to nobody but someone new. -/
theorem owned_people (r : Roster String) (step : Step) :
    r.next ≤ (step.people r).next ∧
      ∀ owner ∈ (step.people r).owned, owner ∈ r.owned ∨ owner.2 = r.next := by
  have arrival : ∀ name, r.next ≤ ((r.create name).own name r.next).next ∧
      ∀ owner ∈ ((r.create name).own name r.next).owned, owner ∈ r.owned ∨ owner.2 = r.next := by
    intro name
    refine ⟨by simp [Roster.next, Roster.own, Roster.release, Roster.create], ?_⟩
    intro owner held
    rcases List.mem_cons.1 held with rfl | older
    · exact .inr rfl
    · exact .inl (List.mem_filter.1 older).1
  cases step with
  | add name =>
      unfold Step.people
      dsimp only
      split
      · exact ⟨Nat.le_refl _, fun _ held => .inl held⟩
      · exact arrival name
  | drop name => exact ⟨Nat.le_refl _, fun _ held => .inl (List.mem_filter.1 held).1⟩
  | addWhileTelling name => exact arrival name
  | clear => exact ⟨Nat.le_refl _, fun _ held => .inl held⟩
  | tell event => exact ⟨Nat.le_refl _, fun _ held => .inl held⟩

/-- **Whoever has come into being and is owned by nobody is never owned again.** -/
theorem owned_foldl_people {r : Roster String} {n : Nat} (there : n < r.next)
    (gone : ∀ owner ∈ r.owned, owner.2 ≠ n) (later : List Step) :
    ∀ owner ∈ (later.foldl Step.people r).owned, owner.2 ≠ n := by
  induction later generalizing r with
  | nil => exact gone
  | cons step later ih =>
      obtain ⟨more, owned⟩ := owned_people r step
      refine ih (Nat.lt_of_lt_of_le there more) fun owner held => ?_
      rcases owned owner held with older | new
      · exact gone owner older
      · exact fun same => Nat.ne_of_lt there (same.symm.trans new)

/-- An observer that its owner lets go of is never owned again. -/
theorem owned_after_drop {before : List Step} {name : String} {n : Nat}
    (owned : (after before).roster.owned? name = some n) (later : List Step) :
    ∀ owner ∈ (after (before ++ .drop name :: later)).roster.owned, owner.2 ≠ n := by
  obtain ⟨tracks, everyone, owners⟩ := follows_after before
  have member := Roster.mem_of_owned? owned
  have there : n < (peopleAfter before).next := by
    have there := tracks.lt_next member
    rwa [Roster.next, everyone] at there
  have gone : ∀ owner ∈ ((peopleAfter before).release name).owned, owner.2 ≠ n := by
    rintro owner held rfl
    obtain ⟨held, other⟩ := List.mem_filter.1 held
    rw [← owners] at held
    have bears := (tracks.owners owner held).symm.trans (tracks.owners (name, owner.2) member)
    exact bne_iff_ne.1 other (Option.some.inj bears)
  have split : peopleAfter (before ++ .drop name :: later) =
      later.foldl Step.people ((peopleAfter before).release name) := by
    rw [peopleAfter, List.foldl_append]
    rfl
  rw [(follows_after _).people.2, split]
  exact owned_foldl_people (r := (peopleAfter before).release name) there gone later

/-- **Who is called, by what has happened.**  Each step of a script calls the registrations that
have lasted: those that nothing has cleared since and whose observer its owner has not let go of, in
the order and as often as they were made; and so does a notification, whatever its calls do.  It
makes no difference if the register never forgets.  An observer that its owner lets go of is never
called again, nor does it own a name again: who takes the name later is another one. -/
theorem run_of_history :
    (∀ steps step, run (steps ++ [step]) = run steps ++ [step.callsTo (due steps)]) ∧
    (∀ steps, (after steps).roster.live = (due steps).map Registration.number) ∧
    (∀ steps call, let called := (due steps).map Registration.number
      notify call (after steps) =
        callEach call called (HasRoster.modify (fun r => r.prune.keep called) (after steps))) ∧
    (∀ steps, runWith notifyUnpruned steps = run steps) ∧
    ∀ before name n later, (after before).roster.owned? name = some n →
      let s := after (before ++ .drop name :: later)
      n ∉ s.roster.live ∧ ∀ other, s.roster.owned? other ≠ some n := by
  refine ⟨fun steps step => ?_, fun steps => (follows_after steps).tracks.live,
    fun steps call => ?_, runWith_eq_run tells_notifyUnpruned, fun before name n later owned => ?_⟩
  · rw [← runWith_notify, ← runWith_notify]
    exact runWith_concat tells_notify steps step
  · rw [← (follows_after steps).tracks.live]
    rfl
  · have gone := owned_after_drop owned later
    refine ⟨fun called => ?_, fun other held => gone _ (Roster.mem_of_owned? held) rfl⟩
    have idle := (follows_after (before ++ .drop name :: later)).tracks.idle
    obtain ⟨owner, held, same⟩ :=
      (Roster.isAlive_iff_of_idle idle).1 (List.mem_filter.1 called).2
    exact gone owner held same

/-- Of an observer that is registered twice, both registrations end with it, and the one that takes
its name is called once, in its own place. -/
theorem run_of_history_namesake :
    let before := [Step.add "a", .add "a", .add "b"]
    let script := before ++ .drop "a" :: [.add "a"]
    (after before).roster.owned? "a" = some 0 ∧ 0 ∉ (after script).roster.live ∧
      run (script ++ [.tell .connected]) =
        run script ++ [[("b", .connected), ("a", .connected)]] := by
  intro before script
  have owned : (after before).roster.owned? "a" = some 0 := by decide
  have gone := run_of_history.2.2.2.2 before "a" 0 [.add "a"] owned
  exact ⟨owned, gone.1, run_of_history.1 script (.tell .connected)⟩

end Audience

end BridgeChannel
