/-
**Whom a notification calls, whatever its calls do.**

Whoever is called may do anything to the register and to observers: register, clear, own and let go,
and notify in turn, which calls others or the same ones again.  A notification is not disturbed by
any of that.  It calls those who were registered and alive when it began, each as often as it was
registered and in that order, one after the other; what its calls register or clear is a matter of
the notifications that begin later, be it in the midst of this one.

Who is registered and alive can be told from what has happened: registrations last until the
register is cleared, and an observer is alive as long as somebody owns it, or a notification that is
running is calling it or still has to call it.

Main definitions:

* `Happening`, `Gathering` — a roster, and the log of what happened to it;
* `Errand`, `Conduct`, `Conduct.run` — what can be done to a roster, by anybody who is called or by
  anybody else, as a tree of errands, notifications and decisions;
* `standing`, `ownersAfter`, `runningAfter`, `aliveAfter` — what a log tells of the register, of
  owners, of the notifications that are running, and of who is alive;
* `Enclosed` — a stretch of a log in which every notification makes its calls and ends.

Main results:

* `run_enclosed` — **what a conduct adds to the log, and what the log tells of the roster then**;
* `snapshot_of_history` — **every notification calls those who were registered and alive when it
  began**, each once for each registration.
-/
import BridgeChannel.Proofs.Client.History
import BridgeChannel.Proofs.Observer.Registry

set_option autoImplicit false

namespace BridgeChannel

/-! ### What can happen -/

/-- Something that happens to a roster. -/
inductive Happening where
  /-- An observer is owned under a name from now on, in the place of the one before. -/
  | owned (name : String) (n : Nat)
  /-- The owner of a name lets go. -/
  | released (name : String)
  | registered (n : Nat)
  | cleared
  /-- A notification begins that is going to call the given observers. -/
  | began (called : List Nat)
  /-- An observer is called by the innermost notification that is running. -/
  | called (n : Nat)
  /-- The call is over. -/
  | returned (n : Nat)
  /-- The innermost notification is over. -/
  | ended
  deriving DecidableEq, Repr

/-- Whether something is done to the roster, and not a part of a notification. -/
def Happening.isErrand : Happening → Bool
  | owned _ _ | released _ | registered _ | cleared => true
  | _ => false

/-- A roster, and what happened to it, in order. -/
structure Gathering (α : Type) where
  roster : Roster α := {}
  log : List Happening := []

instance {α : Type} : HasRoster (Gathering α) α :=
  ⟨Gathering.roster, fun s r => { s with roster := r }⟩

/-- Takes note of something that happens. -/
def Gathering.note {α : Type} (h : Happening) (s : Gathering α) : Gathering α :=
  { s with log := s.log ++ [h] }

/-- One thing that is done to a roster.  Only who is alive can get one more owner, or be
registered. -/
inductive Errand (α : Type) where
  /-- A new observer comes into being, owned under a name. -/
  | welcome (name : String) (a : α)
  /-- An observer gets one more owner. -/
  | share (name : String) (n : Nat)
  | release (name : String)
  | register (n : Nat)
  | clear

open HasRoster in
/-- Does one thing. -/
def Errand.perform {α : Type} (s : Gathering α) : Errand α → Gathering α
  | welcome name a =>
    (modify (fun r => (r.create a).own name r.next) s).note (.owned name s.roster.next)
  | share name n =>
    if s.roster.isAlive n then (modify (Roster.own name n) s).note (.owned name n) else s
  | release name => (modify (Roster.release name) s).note (.released name)
  | register n =>
    if s.roster.isAlive n then (modify (Roster.register n) s).note (.registered n) else s
  | clear => (modify Roster.clear s).note .cleared

/-- What is done to a roster, one thing after the other.  Whoever does it may look at all that has
happened before it goes on. -/
inductive Conduct (α : Type) where
  /-- Nothing more is done. -/
  | rest
  | errand (errand : Errand α) (next : Conduct α)
  /-- A notification; it is told what each observer does when it is called. -/
  | tell (call : Nat → Conduct α) (next : Conduct α)
  | look (next : Gathering α → Conduct α)

namespace Conduct

variable {α : Type}

/-- Does all of it, and takes note of each thing. -/
def run : Conduct α → Gathering α → Gathering α
  | rest, s => s
  | errand d next, s => next.run (d.perform s)
  | tell call next, s =>
    let s := notify (fun n s => ((call n).run (s.note (.called n))).note (.returned n))
      (s.note (.began s.roster.live))
    next.run (s.note .ended)
  | look next, s => (next s).run s

end Conduct

/-! ### What a log tells -/

/-- What becomes of the registrations. -/
def Happening.enter (standing : List Nat) : Happening → List Nat
  | .registered n => standing ++ [n]
  | .cleared => []
  | _ => standing

/-- What becomes of the owners. -/
def Happening.hand (owners : List (String × Nat)) : Happening → List (String × Nat)
  | .owned name n => (name, n) :: owners.filter fun o => o.1 != name
  | .released name => owners.filter fun o => o.1 != name
  | _ => owners

/-- What becomes of the notifications that are running. -/
def Happening.engage (running : List (List Nat)) : Happening → List (List Nat)
  | .began ns => ns :: running
  | .returned _ => running.modifyHead List.tail
  | .ended => running.tail
  | _ => running

/-- The registrations that were made since the register was last cleared, in order. -/
def standing (log : List Happening) : List Nat := log.foldl Happening.enter []

/-- The owners of observers, by the names under which they own them. -/
def ownersAfter (log : List Happening) : List (String × Nat) := log.foldl Happening.hand []

/-- The notifications that are running, the innermost one first, each with those that it is calling
or still has to call. -/
def runningAfter (log : List Happening) : List (List Nat) := log.foldl Happening.engage []

/-- Whether an observer is alive: somebody owns it, or a notification that is running is calling it
or still has to call it. -/
def aliveAfter (log : List Happening) (n : Nat) : Bool :=
  (ownersAfter log).any (fun o => o.2 == n) || (runningAfter log).flatten.contains n

/-- What a call leaves in the log: the observer that is called, what it does, and its return. -/
def transcript (call : Nat × List Happening) : List Happening :=
  .called call.1 :: (call.2 ++ [.returned call.1])

/-- A stretch of a log in which every notification makes the calls that it began with, one after the
other, and ends after the last one. -/
inductive Enclosed : List Happening → Prop
  | nothing : Enclosed []
  | errand {h : Happening} (errand : h.isErrand = true) {later : List Happening}
      (rest : Enclosed later) : Enclosed (h :: later)
  | notification {calls : List (Nat × List Happening)} (within : ∀ call ∈ calls, Enclosed call.2)
      {later : List Happening} (rest : Enclosed later) :
      Enclosed (.began (calls.map Prod.fst) :: (calls.flatMap transcript ++ .ended :: later))

theorem standing_concat (log : List Happening) (h : Happening) :
    standing (log ++ [h]) = h.enter (standing log) := by
  rw [standing, List.foldl_append]
  rfl

theorem ownersAfter_concat (log : List Happening) (h : Happening) :
    ownersAfter (log ++ [h]) = h.hand (ownersAfter log) := by
  rw [ownersAfter, List.foldl_append]
  rfl

theorem runningAfter_concat (log : List Happening) (h : Happening) :
    runningAfter (log ++ [h]) = h.engage (runningAfter log) := by
  rw [runningAfter, List.foldl_append]
  rfl

/-- Where nothing is cleared, registrations are added to those that there are. -/
theorem standing_append (earlier : List Happening) {later : List Happening}
    (uncleared : .cleared ∉ later) :
    standing (earlier ++ later) = standing earlier ++ standing later := by
  induction later using List.reverseRecOn with
  | nil => simp [standing]
  | append_singleton later h ih =>
      obtain ⟨before, last⟩ := not_or.1 (mt List.mem_append.2 uncleared)
      rw [← List.append_assoc, standing_concat, standing_concat, ih before]
      cases h with
      | registered n => simp [Happening.enter]
      | cleared => exact absurd (List.mem_singleton.2 rfl) last
      | _ => rfl

/-! ### Enclosed stretches -/

theorem began_append (calls : List (Nat × List Happening)) (later log : List Happening) :
    .began (calls.map Prod.fst) :: (calls.flatMap transcript ++ .ended :: later) ++ log =
      .began (calls.map Prod.fst) :: (calls.flatMap transcript ++ .ended :: (later ++ log)) := by
  simp

theorem Enclosed.append {log log' : List Happening} (h : Enclosed log) (h' : Enclosed log') :
    Enclosed (log ++ log') := by
  induction h with
  | nothing => exact h'
  | errand errand _ ih => exact .errand errand ih
  | notification within _ _ ih =>
      rw [began_append]
      exact .notification within ih

/-- A notification that makes its calls has let go of all those that it was going to call, and those
around it are where they were. -/
theorem engage_transcripts {calls : List (Nat × List Happening)}
    (within : ∀ call ∈ calls, ∀ running, call.2.foldl Happening.engage running = running)
    (ns : List Nat) (running : List (List Nat)) :
    (calls.flatMap transcript).foldl Happening.engage ((calls.map Prod.fst ++ ns) :: running) =
      ns :: running := by
  induction calls with
  | nil => rfl
  | cons call calls ih =>
      have first := within call List.mem_cons_self
      have others := ih fun call member => within call (List.mem_cons_of_mem _ member)
      have made : (transcript call).foldl Happening.engage
          ((call.1 :: (calls.map Prod.fst ++ ns)) :: running) =
            (calls.map Prod.fst ++ ns) :: running := by
        rw [transcript, List.foldl_cons, List.foldl_append]
        exact congrArg (Happening.engage · (.returned call.1)) (first _)
      rw [List.flatMap_cons, List.foldl_append, List.map_cons, List.cons_append, made]
      exact others

/-- **No notification is left running by an enclosed stretch.** -/
theorem Enclosed.engage {log : List Happening} (h : Enclosed log) (running : List (List Nat)) :
    log.foldl Happening.engage running = running := by
  induction h generalizing running with
  | nothing => rfl
  | @errand h errand later _ ih =>
      have still : h.engage running = running := by
        cases h <;> simp [Happening.isErrand, Happening.engage] at errand ⊢
      rw [List.foldl_cons, still, ih]
  | @notification calls _ later _ within ih =>
      have told := engage_transcripts (fun call member => within call member) [] running
      rw [List.append_nil] at told
      rw [List.foldl_cons, List.foldl_append, Happening.engage, told, List.foldl_cons]
      exact ih running

/-- Every notification in a stretch of a log makes the calls that it began with, one after the
other, and ends. -/
def Fulfilled (log : List Happening) : Prop :=
  ∀ past called future, log = past ++ .began called :: future →
    ∃ (calls : List (Nat × List Happening)) (later : List Happening),
      calls.map Prod.fst = called ∧ (∀ call ∈ calls, Enclosed call.2) ∧
        future = calls.flatMap transcript ++ .ended :: later

namespace Fulfilled

variable {log log' : List Happening}

theorem nil : Fulfilled [] := fun past called future whole => absurd whole (by simp)

theorem cons {h : Happening} (other : ∀ called, h ≠ .began called) (rest : Fulfilled log) :
    Fulfilled (h :: log) := by
  intro past called future whole
  cases past with
  | nil => exact absurd (List.cons.inj whole).1 (other called)
  | cons first past => exact rest past called future (List.cons.inj whole).2

theorem append (h : Fulfilled log) (h' : Fulfilled log') : Fulfilled (log ++ log') := by
  intro past called future whole
  rcases List.append_eq_append_iff.1 whole with ⟨between, -, later⟩ | ⟨between, earlier, rest⟩
  · exact h' between called future later
  · cases between with
    | nil => exact h' [] called future rest.symm
    | cons first between =>
        obtain ⟨rfl, rfl⟩ := List.cons.inj rest
        obtain ⟨calls, later, names, within, rfl⟩ := h past called between earlier
        exact ⟨calls, later ++ log', names, within, by simp⟩

theorem transcripts {calls : List (Nat × List Happening)}
    (within : ∀ call ∈ calls, Fulfilled call.2) : Fulfilled (calls.flatMap transcript) := by
  induction calls with
  | nil => exact nil
  | cons call calls ih =>
      have returned : Fulfilled [.returned call.1] := nil.cons (by simp)
      have first : Fulfilled (transcript call) :=
        ((within call List.mem_cons_self).append returned).cons (by simp)
      exact first.append (ih fun call member => within call (List.mem_cons_of_mem _ member))

end Fulfilled

/-- **In an enclosed stretch, every notification makes its calls**, however deep it is nested. -/
theorem Enclosed.fulfilled {log : List Happening} (h : Enclosed log) : Fulfilled log := by
  induction h with
  | nothing => exact .nil
  | @errand h errand later _ ih =>
      refine ih.cons fun called same => ?_
      rw [same] at errand
      exact absurd errand (by simp [Happening.isErrand])
  | @notification calls within later _ inner ih =>
      intro past called future whole
      cases past with
      | nil =>
          obtain ⟨same, rfl⟩ := List.cons.inj whole
          exact ⟨calls, later, Happening.began.inj same, within, rfl⟩
      | cons first past =>
          have rest : Fulfilled (.ended :: later) := ih.cons (by simp)
          have made : Fulfilled (calls.flatMap transcript) := .transcripts inner
          exact made.append rest past called future (List.cons.inj whole).2

/-! ### Who is alive after an errand -/

namespace Roster

variable {α : Type} {r : Roster α} {name : String} {m n : Nat}

theorem isAlive_of_release (alive : (r.release name).isAlive n = true) : r.isAlive n = true := by
  simp only [isAlive, Roster.release, Bool.or_eq_true, List.any_eq_true, List.mem_filter] at alive ⊢
  rcases alive with ⟨owner, ⟨held, -⟩, same⟩ | kept
  · exact .inl ⟨owner, held, same⟩
  · exact .inr kept

theorem isAlive_of_own (alive : (r.own name m).isAlive n = true) :
    n = m ∨ r.isAlive n = true := by
  simp only [isAlive, own, List.any_cons, Bool.or_eq_true, beq_iff_eq] at alive
  rcases alive with (same | owned) | kept
  · exact .inl same.symm
  · have released : (r.release name).isAlive n = true := by
      simp only [isAlive, owned, Bool.true_or]
    exact .inr (isAlive_of_release released)
  · exact .inr (by simp only [isAlive, kept, Bool.or_true])

theorem isAlive_of_letGo (alive : (r.letGo m).isAlive n = true) : r.isAlive n = true := by
  simp only [isAlive, Roster.letGo, Bool.or_eq_true, List.contains_eq_mem, decide_eq_true_eq]
    at alive ⊢
  exact alive.imp id List.mem_of_mem_erase

/-- Whoever a notification keeps is alive already. -/
theorem isAlive_keep_live (r : Roster α) : (r.keep r.live).isAlive = r.isAlive := by
  funext n
  rw [Bool.eq_iff_iff]
  simp only [isAlive, keep, Bool.or_eq_true, List.contains_eq_mem, decide_eq_true_eq,
    List.mem_append]
  constructor
  · rintro (owned | called | kept)
    · exact .inl owned
    · simpa [isAlive] using (List.mem_filter.1 called).2
    · exact .inr kept
  · rintro (owned | kept)
    · exact .inl owned
    · exact .inr (.inr kept)

/-- A notification that begins changes nobody that a notification would call. -/
theorem live_begun (r : Roster α) : (r.prune.keep r.live).live = r.live := by
  have alive : (r.prune.keep r.live).isAlive = r.isAlive := isAlive_keep_live r
  rw [live, alive]
  exact r.live_prune

end Roster

/-! ### A log tells how its roster stands -/

namespace Gathering

variable {α : Type}

/-- A notification begins with those who are registered and alive. -/
def Snapshot (past : List Happening) (h : Happening) : Prop :=
  ∀ called, h = .began called → called = (standing past).filter (aliveAfter past)

/-- The log of a gathering tells who owns whom, whom notifications keep, and which of those who are
alive are registered.  Whoever is known to the register has come into being. -/
structure Faithful (s : Gathering α) : Prop where
  owned : s.roster.owned = ownersAfter s.log
  kept : s.roster.kept = (runningAfter s.log).flatten
  live : s.roster.live = (standing s.log).filter s.roster.isAlive
  born : ∀ n ∈ s.roster.registered ++ standing s.log, n < s.roster.next
  living : ∀ n, s.roster.isAlive n = true → n < s.roster.next
  told : Along Snapshot [] s.log

/-- One gathering leads to another by an enclosed stretch, and its log still tells how it stands. -/
def Leads (s t : Gathering α) : Prop :=
  t.Faithful ∧ ∃ log, Enclosed log ∧ t.log = s.log ++ log

theorem Leads.trans {s t u : Gathering α} (h : Leads s t) (h' : Leads t u) : Leads s u := by
  obtain ⟨-, log, enclosed, first⟩ := h
  obtain ⟨faithful, log', enclosed', second⟩ := h'
  exact ⟨faithful, log ++ log', enclosed.append enclosed', by rw [second, first, List.append_assoc]⟩

theorem faithful_empty : ({} : Gathering α).Faithful where
  owned := rfl
  kept := rfl
  live := rfl
  born n member := absurd member (by simp [standing])
  living n alive := absurd alive (by simp [Roster.isAlive])
  told := .nil

namespace Faithful

variable {s t : Gathering α} (h : s.Faithful)

include h

theorem isAlive : s.roster.isAlive = aliveAfter s.log := by
  funext n
  rw [Roster.isAlive, aliveAfter, h.owned, h.kept]

/-- **Where nobody is registered and nobody comes to life again, a log goes on telling.** -/
theorem unregistered (change : Happening) (log : t.log = s.log ++ [change])
    (quiet : ∀ called, change ≠ .began called)
    (unchanged : change.enter (standing s.log) = standing s.log)
    (owned : t.roster.owned = change.hand s.roster.owned)
    (kept : t.roster.kept = (change.engage (runningAfter s.log)).flatten)
    (registered : t.roster.registered = s.roster.registered)
    (more : s.roster.next ≤ t.roster.next)
    (living : ∀ n, t.roster.isAlive n = true → n < t.roster.next)
    (fewer : ∀ n < s.roster.next, t.roster.isAlive n = true → s.roster.isAlive n = true) :
    t.Faithful where
  owned := by rw [log, ownersAfter_concat, ← h.owned, owned]
  kept := by rw [log, runningAfter_concat, kept]
  live := by
    have fewer' : ∀ n ∈ s.roster.registered, t.roster.isAlive n = true →
        s.roster.isAlive n = true := fun n member =>
      fewer n (h.born n (List.mem_append_left _ member))
    rw [Roster.live_of_isAlive registered fewer', h.live, log, standing_concat, unchanged,
      List.filter_filter]
    refine List.filter_congr fun n member => ?_
    have there := h.born n (List.mem_append_right _ member)
    cases alive : t.roster.isAlive n with
    | false => rfl
    | true => exact fewer n there alive
  born n member := by
    rw [registered, log, standing_concat, unchanged] at member
    exact Nat.lt_of_lt_of_le (h.born n member) more
  living := living
  told := by
    rw [log]
    exact h.told.append (.singleton fun called same => absurd same (quiet called))

/-- Something that has nothing to do with the roster. -/
theorem noted {change : Happening} (quiet : ∀ called, change ≠ .began called)
    (unchanged : change.enter (standing s.log) = standing s.log)
    (owned : change.hand s.roster.owned = s.roster.owned)
    (kept : (change.engage (runningAfter s.log)).flatten = (runningAfter s.log).flatten) :
    (s.note change).Faithful :=
  h.unregistered change rfl quiet unchanged owned.symm (h.kept.trans kept.symm) rfl (Nat.le_refl _)
    h.living fun _ _ alive => alive

/-! ### Errands -/

theorem welcome (name : String) (a : α) : ((Errand.welcome name a).perform s).Faithful := by
  have arrived : ∀ n, ((s.roster.create a).own name s.roster.next).isAlive n = true →
      n = s.roster.next ∨ s.roster.isAlive n = true := fun _ => Roster.isAlive_of_own
  have next : ((s.roster.create a).own name s.roster.next).next = s.roster.next + 1 :=
    List.length_append
  refine h.unregistered (.owned name s.roster.next) rfl (by simp) rfl rfl h.kept rfl
    (Nat.le_of_succ_le (Nat.le_of_eq next.symm)) (fun n alive => ?_) (fun n there alive => ?_)
  · refine Nat.lt_of_lt_of_eq ?_ next.symm
    rcases arrived n alive with rfl | older
    · exact Nat.lt_succ_self _
    · exact Nat.lt_succ_of_lt (h.living n older)
  · exact (arrived n alive).resolve_left (Nat.ne_of_lt there)

theorem share {n : Nat} (alive : s.roster.isAlive n = true) (name : String) :
    ((HasRoster.modify (Roster.own name n) s).note (.owned name n)).Faithful := by
  have older : ∀ m, (s.roster.own name n).isAlive m = true → s.roster.isAlive m = true :=
    fun m still => (Roster.isAlive_of_own still).elim (fun same => same ▸ alive) id
  exact h.unregistered (.owned name n) rfl (by simp) rfl rfl h.kept rfl (Nat.le_refl _)
    (fun m still => h.living m (older m still)) fun m _ => older m

theorem release (name : String) : ((Errand.release name).perform s).Faithful :=
  h.unregistered (.released name) rfl (by simp) rfl rfl h.kept rfl (Nat.le_refl _)
    (fun m still => h.living m (Roster.isAlive_of_release still))
    fun _ _ => Roster.isAlive_of_release

theorem register {n : Nat} (alive : s.roster.isAlive n = true) :
    ((HasRoster.modify (Roster.register n) s).note (.registered n)).Faithful where
  owned := by
    rw [note, ownersAfter_concat]
    exact h.owned
  kept := by
    rw [note, runningAfter_concat]
    exact h.kept
  live := by
    rw [note, standing_concat]
    have called : (s.roster.register n).live = s.roster.live ++ [n] := by simp [alive]
    rw [Happening.enter, List.filter_append]
    refine called.trans (congrArg₂ (· ++ ·) h.live ?_)
    exact (List.filter_eq_self.2 fun m member => List.mem_singleton.1 member ▸ alive).symm
  born m member := by
    have there : ∀ m ∈ [n], m < s.roster.next := fun m member =>
      List.mem_singleton.1 member ▸ h.living n alive
    rw [note, standing_concat] at member
    rcases List.mem_append.1 member with listed | standing
    · rcases List.mem_append.1 listed with older | new
      · exact h.born m (List.mem_append_left _ older)
      · exact there m new
    · rcases List.mem_append.1 standing with older | new
      · exact h.born m (List.mem_append_right _ older)
      · exact there m new
  living := h.living
  told := h.told.append (.singleton fun called same => absurd same (by simp))

theorem clear : ((Errand.clear : Errand α).perform s).Faithful where
  owned := by
    rw [Errand.perform, note, ownersAfter_concat]
    exact h.owned
  kept := by
    rw [Errand.perform, note, runningAfter_concat]
    exact h.kept
  live := by
    rw [Errand.perform, note, standing_concat]
    rfl
  born n member := by
    rw [Errand.perform, note, standing_concat] at member
    exact absurd member List.not_mem_nil
  living := h.living
  told := h.told.append (.singleton fun called same => absurd same (by simp))

/-- **After every errand the log tells how the roster stands.** -/
theorem leads_errand (d : Errand α) : Leads s (d.perform s) := by
  have noted : ∀ {h : Happening}, h.isErrand = true → Enclosed [h] :=
    fun errand => .errand errand .nothing
  cases d with
  | welcome name a => exact ⟨h.welcome name a, _, noted rfl, rfl⟩
  | release name => exact ⟨h.release name, _, noted rfl, rfl⟩
  | clear => exact ⟨h.clear, _, noted rfl, rfl⟩
  | share name n =>
      cases alive : s.roster.isAlive n with
      | true =>
          simp only [Errand.perform, alive, if_true]
          exact ⟨h.share alive name, _, noted rfl, rfl⟩
      | false =>
          simp only [Errand.perform, alive]
          exact ⟨h, [], .nothing, (List.append_nil _).symm⟩
  | register n =>
      cases alive : s.roster.isAlive n with
      | true =>
          simp only [Errand.perform, alive, if_true]
          exact ⟨h.register alive, _, noted rfl, rfl⟩
      | false =>
          simp only [Errand.perform, alive]
          exact ⟨h, [], .nothing, (List.append_nil _).symm⟩

/-! ### Notifications -/

/-- A notification begins: the register forgets who is gone, and the others are kept. -/
theorem begun : (HasRoster.modify (Roster.keep s.roster.live) (HasRoster.modify Roster.prune
    (s.note (.began s.roster.live)))).Faithful where
  owned := by
    refine h.owned.trans ?_
    exact (ownersAfter_concat s.log (.began s.roster.live)).symm
  kept := by
    have running := runningAfter_concat s.log (.began s.roster.live)
    refine Eq.trans ?_ (congrArg List.flatten running).symm
    exact congrArg (s.roster.live ++ ·) h.kept
  live := by
    have alive : (s.roster.prune.keep s.roster.live).isAlive = s.roster.isAlive :=
      Roster.isAlive_keep_live s.roster
    have same := standing_concat s.log (.began s.roster.live)
    refine (Roster.live_begun s.roster).trans (h.live.trans ?_)
    exact (congrArg₂ List.filter alive same).symm
  born n member := by
    rcases List.mem_append.1 member with listed | standing
    · exact h.born n (List.mem_append_left _ (List.mem_filter.1 listed).1)
    · have same := standing_concat s.log (.began s.roster.live)
      exact h.born n (List.mem_append_right _ (Eq.mp (congrArg (n ∈ ·) same) standing))
  living n alive := h.living n (congrFun (Roster.isAlive_keep_live s.roster) n ▸ alive)
  told := by
    refine h.told.append (.singleton fun called same => ?_)
    obtain rfl := Happening.began.inj same
    rw [h.live, h.isAlive]
    rfl

/-- A call is over, and the notification lets go of the observer. -/
theorem returned {n : Nat} {ns : List Nat} {running : List (List Nat)}
    (midst : runningAfter s.log = (n :: ns) :: running) :
    (HasRoster.modify (Roster.letGo n) (s.note (.returned n))).Faithful := by
  have kept : s.roster.kept.erase n =
      (Happening.engage (runningAfter s.log) (.returned n)).flatten := by
    rw [h.kept, midst]
    exact List.erase_cons_head (a := n) (l := ns ++ running.flatten)
  exact h.unregistered (.returned n) rfl (by simp) rfl rfl kept rfl (Nat.le_refl _)
    (fun m still => h.living m (Roster.isAlive_of_letGo still))
    fun _ _ => Roster.isAlive_of_letGo

end Faithful

/-- What an observer does when it is called, with the beginning and the end of the call. -/
def answer (call : Nat → Conduct α) (n : Nat) (s : Gathering α) : Gathering α :=
  ((call n).run (s.note (.called n))).note (.returned n)

section Calls

variable {call : Nat → Conduct α}
  (leads : ∀ n (s : Gathering α), s.Faithful → Leads s ((call n).run s))

include leads

/-- A call leaves its transcript in the log, and one observer less to be called. -/
theorem leads_call {n : Nat} {ns : List Nat} {running : List (List Nat)} {s : Gathering α}
    (h : s.Faithful) (midst : runningAfter s.log = (n :: ns) :: running) :
    ∃ log, Enclosed log ∧
      let t := HasRoster.modify (Roster.letGo n) (answer call n s)
      t.Faithful ∧ runningAfter t.log = ns :: running ∧ t.log = s.log ++ transcript (n, log) := by
  have called : (s.note (.called n)).Faithful := h.noted (by simp) rfl rfl rfl
  obtain ⟨faithful, log, enclosed, more⟩ := leads n _ called
  have still : runningAfter ((call n).run (s.note (.called n))).log = (n :: ns) :: running := by
    rw [more, runningAfter, List.foldl_append, enclosed.engage, ← runningAfter, ← midst]
    exact runningAfter_concat s.log (.called n)
  refine ⟨log, enclosed, faithful.returned still, ?_, ?_⟩
  · refine (runningAfter_concat _ (.returned n)).trans ?_
    rw [still]
    rfl
  · refine (congrArg (· ++ [.returned n]) more).trans ?_
    simp [note, transcript]

/-- **Everyone is called, one after the other**, whatever the calls do. -/
theorem leads_callEach (ns : List Nat) {running : List (List Nat)} {s : Gathering α}
    (h : s.Faithful) (midst : runningAfter s.log = ns :: running) :
    ∃ calls : List (Nat × List Happening), calls.map Prod.fst = ns ∧
      (∀ c ∈ calls, Enclosed c.2) ∧ (callEach (answer call) ns s).Faithful ∧
        (callEach (answer call) ns s).log = s.log ++ calls.flatMap transcript := by
  induction ns generalizing s with
  | nil => exact ⟨[], rfl, fun c member => absurd member List.not_mem_nil, h, by simp⟩
  | cons n ns ih =>
      obtain ⟨log, enclosed, faithful, midst, first⟩ := leads_call leads h midst
      obtain ⟨calls, names, within, faithful, others⟩ := ih faithful midst
      refine ⟨(n, log) :: calls, by rw [List.map_cons, names], ?_, faithful, ?_⟩
      · exact List.forall_mem_cons.2 ⟨enclosed, within⟩
      · rw [callEach_cons, others, first, List.flatMap_cons, List.append_assoc]

/-- **A notification calls those who are registered and alive**, and leads to a log that tells how
the roster stands. -/
theorem leads_notify {s : Gathering α} (h : s.Faithful) :
    Leads s ((notify (answer call) (s.note (.began s.roster.live))).note .ended) := by
  have running : runningAfter (s.log ++ [.began s.roster.live]) =
      s.roster.live :: runningAfter s.log := runningAfter_concat s.log _
  obtain ⟨calls, names, within, faithful, told⟩ :=
    leads_callEach leads s.roster.live h.begun running
  have ended : runningAfter (notify (answer call) (s.note (.began s.roster.live))).log =
      [] :: runningAfter s.log := by
    have made := engage_transcripts (fun c member => (within c member).engage) []
      (runningAfter s.log)
    rw [names, List.append_nil] at made
    refine (congrArg runningAfter told).trans ?_
    rw [runningAfter, List.foldl_append]
    exact (congrArg (List.foldl Happening.engage · _) running).trans made
  refine ⟨faithful.noted (by simp) rfl rfl ?_, _, .notification within .nothing, ?_⟩
  · refine (congrArg (fun r => (Happening.engage r .ended).flatten) ended).trans ?_
    exact (congrArg List.flatten ended).symm
  · refine (congrArg (· ++ [.ended]) told).trans ?_
    rw [names]
    simp [note, HasRoster.modify, HasRoster.withRoster]

end Calls

/-- **Whatever is done, its notifications make their calls, and the log tells how the roster
stands.** -/
theorem run_enclosed (conduct : Conduct α) {s : Gathering α} (h : s.Faithful) :
    Leads s (conduct.run s) := by
  induction conduct generalizing s with
  | rest => exact ⟨h, [], .nothing, (List.append_nil _).symm⟩
  | errand d next ih => exact (h.leads_errand d).trans (ih (h.leads_errand d).1)
  | tell call next called ih =>
      have told := leads_notify (fun n s faithful => called n faithful) h
      exact told.trans (ih told.1)
  | look next ih => exact ih s h

/-- In the midst of a call, the notification is calling that observer, and still has to call those
behind it. -/
theorem runningAfter_midst (past : List Happening) {made : List (Nat × List Happening)}
    (within : ∀ call ∈ made, Enclosed call.2) (n : Nat) (left : List Nat) {body : List Happening}
    (enclosed : Enclosed body) :
    runningAfter (past ++ .began (made.map Prod.fst ++ n :: left) ::
      (made.flatMap transcript ++ .called n :: body)) = (n :: left) :: runningAfter past := by
  have calls := engage_transcripts (fun call member => (within call member).engage) (n :: left)
    (runningAfter past)
  rw [runningAfter, List.foldl_append, List.foldl_cons, List.foldl_append]
  refine (congrArg (List.foldl Happening.engage · _) calls).trans ?_
  exact enclosed.engage _

/-- **Whom a notification calls, whatever its calls do.**  A register is used in any way from the
beginning on, by those who are called in the midst of their calls, and by others in between.
Whenever a notification begins, be it in the midst of others,

* it calls those registrations that were made since the register was last cleared and whose observer
  is alive, in order, one after the other, and each call is over, with all that it does, before the
  next one; what happens in the meantime makes no difference;
* a registration that was made at any time before, be it in a call of a notification that is still
  running, and has not been cleared since, is among them, in its place, if its observer is alive;
* if it begins in the midst of a call, an observer is alive that has an owner, that is being called,
  or that is still to be called by the notification around it or by those around that one.

In the end, when no notification is running, the register stands as it would be notified. -/
theorem snapshot_of_history (conduct : Conduct α) :
    let s := conduct.run {}
    (∀ past called future, s.log = past ++ .began called :: future →
      called = (standing past).filter (aliveAfter past) ∧
      ∃ (calls : List (Nat × List Happening)) (later : List Happening),
        calls.map Prod.fst = called ∧ (∀ call ∈ calls, Enclosed call.2) ∧
          future = calls.flatMap transcript ++ .ended :: later) ∧
    (∀ past n between called future, let before := past ++ .registered n :: between
      s.log = before ++ .began called :: future → .cleared ∉ between →
      aliveAfter before n = true →
      called = (standing past).filter (aliveAfter before) ++
        n :: (standing between).filter (aliveAfter before)) ∧
    (∀ past (made : List (Nat × List Happening)) n left body called future,
      let before := past ++ .began (made.map Prod.fst ++ n :: left) ::
        (made.flatMap transcript ++ .called n :: body)
      s.log = before ++ .began called :: future → (∀ call ∈ made, Enclosed call.2) →
      Enclosed body →
      ∀ m, m ∈ called ↔ m ∈ standing before ∧
        ((∃ owner ∈ ownersAfter before, owner.2 = m) ∨ m = n ∨ m ∈ left ∨
          ∃ around ∈ runningAfter past, m ∈ around)) ∧
    runningAfter s.log = [] ∧ s.roster.live = (standing s.log).filter (aliveAfter s.log) := by
  obtain ⟨faithful, log, enclosed, whole⟩ := run_enclosed conduct faithful_empty
  have own : (conduct.run {}).log = log := whole
  have snapshot : ∀ past called future, log = past ++ .began called :: future →
      called = (standing past).filter (aliveAfter past) := fun past called future split =>
    (own ▸ faithful.told) past (.began called) future split called rfl
  simp only [own]
  refine ⟨fun past called future split => ?_,
    fun past n between called future split kept alive => ?_,
    fun past made n left body called future split within inner m => ?_, ?_, ?_⟩
  · exact ⟨snapshot past called future split, enclosed.fulfilled past called future split⟩
  · have entered : standing (past ++ .registered n :: between) =
        standing past ++ n :: standing between := by
      rw [standing_append past (by simpa using kept), ← List.singleton_append,
        standing_append [.registered n] kept]
      rfl
    rw [snapshot _ called future split, entered, List.filter_append, List.filter_cons_of_pos alive]
  · rw [snapshot _ called future split, List.mem_filter, aliveAfter,
      runningAfter_midst past within n left inner]
    simp
  · exact enclosed.engage []
  · rw [faithful.live, faithful.isAlive, own]

/-- Two observers are called.  The first one lets the owner of the second one go, clears the
register, registers the second one again and a new one, and notifies; so does the second one.  Both
times the second one is called, for it is still to be called and is being called; once it has
returned it is gone. -/
theorem snapshot_of_history_nested :
    let notifies : Conduct Unit := .tell (fun _ => .rest) .rest
    let call : Nat → Conduct Unit := fun n =>
      if n = 0 then .errand (.release "b") <| .errand .clear <| .errand (.welcome "c" ()) <|
        .errand (.register 1) <| .errand (.register 2) notifies
      else notifies
    let conduct : Conduct Unit := .errand (.welcome "a" ()) <| .errand (.welcome "b" ()) <|
      .errand (.register 0) <| .errand (.register 1) <| .tell call notifies
    let past : List Happening := [.owned "a" 0, .owned "b" 1, .registered 0, .registered 1]
    let body : List Happening := [.released "b", .cleared, .owned "c" 2, .registered 1,
      .registered 2]
    let calls : List Happening := [.called 1, .returned 1, .called 2, .returned 2, .ended]
    let later : List Happening := [.returned 0, .called 1, .began [1, 2]] ++ calls ++
      [.returned 1, .ended, .began [2], .called 2, .returned 2, .ended]
    let before := past ++ .began [0, 1] :: .called 0 :: body
    (conduct.run {}).log = before ++ .began [1, 2] :: (calls ++ later) ∧
      [0, 1] = (standing past).filter (aliveAfter past) ∧
      [1, 2] = (standing (before.take 9)).filter (aliveAfter before) ++
        1 :: (standing [.registered 2]).filter (aliveAfter before) ∧
      (∀ m, m ∈ [1, 2] ↔ m ∈ standing before ∧
        ((∃ owner ∈ ownersAfter before, owner.2 = m) ∨ m = 0 ∨ m ∈ [1] ∨
          ∃ around ∈ runningAfter past, m ∈ around)) ∧
      (conduct.run {}).roster.live = [2] := by
  intro notifies call conduct past body calls later before
  have whole : (conduct.run {}).log = before ++ .began [1, 2] :: (calls ++ later) := by
    decide +kernel
  obtain ⟨begins, keeps, midst, -, stands⟩ := snapshot_of_history conduct
  have outer :=
    (begins past [0, 1] (.called 0 :: body ++ .began [1, 2] :: (calls ++ later)) whole).1
  have kept := keeps (before.take 9) 1 [.registered 2] [1, 2] (calls ++ later) whole (by decide)
    (by decide)
  have enclosed : Enclosed body :=
    .errand rfl (.errand rfl (.errand rfl (.errand rfl (.errand rfl .nothing))))
  have alive := midst past [] 0 [1] body [1, 2] (calls ++ later) whole (by simp) enclosed
  refine ⟨whole, outer, kept, alive, stands.trans ?_⟩
  rw [whole]
  decide

end Gathering

end BridgeChannel
