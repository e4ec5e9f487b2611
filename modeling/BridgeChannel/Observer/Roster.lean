/-
Observers that come and go, and the register that knows them.

An observer is kept alive by its owner, and by a notification as long as the observer is being
called or still to be called. The register only lists observers; what it lists may be gone.
Observers are numbered in the order in which they came into being, and a number is never used again,
so that an observer that comes back under the same name is another one.

A notification calls the observers that are registered and alive when it starts, one after the
other, as often as each is registered. What a call registers or clears takes effect with the next
one.

Main definitions:

* `Roster` — everyone that came into being, who owns whom, whom notifications keep, who is
  registered;
* `Roster.isAlive`, `Roster.live` — who can be called;
* `HasRoster`, `notify` — a notification in any state that holds a roster.

Main results: `live_register`, `live_prune`.
-/

set_option autoImplicit false

namespace BridgeChannel

/-- Observers by number, with everything that keeps them alive or lists them. -/
structure Roster (α : Type) where
  /-- Everyone that came into being, in order; the place is the number. -/
  everyone : List α := []
  /-- The names under which observers are owned. -/
  owned : List (String × Nat) := []
  /-- The observers that running notifications keep, once for each call to come. -/
  kept : List Nat := []
  /-- The register, in the order of registration. -/
  registered : List Nat := []
  deriving Inhabited

namespace Roster

variable {α : Type}

/-- The number of the next observer to come into being. -/
def next (r : Roster α) : Nat := r.everyone.length

/-- The observer of a name. -/
def owned? (name : String) (r : Roster α) : Option Nat := r.owned.lookup name

/-- Whether anything keeps an observer alive. -/
def isAlive (r : Roster α) (n : Nat) : Bool :=
  r.owned.any (fun o => o.2 == n) || r.kept.contains n

/-- The observers that a notification would call, in order. -/
def live (r : Roster α) : List Nat := r.registered.filter r.isAlive

/-- A new observer comes into being; nobody owns it yet. -/
def create (a : α) (r : Roster α) : Roster α := { r with everyone := r.everyone ++ [a] }

/-- The owner of a name lets go. -/
def release (name : String) (r : Roster α) : Roster α :=
  { r with owned := r.owned.filter fun o => o.1 != name }

/-- An observer becomes the one of a name, in the place of the one before. -/
def own (name : String) (n : Nat) (r : Roster α) : Roster α :=
  { r with owned := (name, n) :: (r.release name).owned }

/-- An observer is registered, once more if it is already. -/
def register (n : Nat) (r : Roster α) : Roster α := { r with registered := r.registered ++ [n] }

/-- The register is emptied. -/
def clear (r : Roster α) : Roster α := { r with registered := [] }

/-- The register forgets the observers that are gone. -/
def prune (r : Roster α) : Roster α := { r with registered := r.live }

/-- A notification keeps the observers that it is going to call. -/
def keep (ns : List Nat) (r : Roster α) : Roster α := { r with kept := ns ++ r.kept }

/-- A notification lets go of an observer that it has called. -/
def letGo (n : Nat) (r : Roster α) : Roster α := { r with kept := r.kept.erase n }

/-- Changes an observer. -/
def update (n : Nat) (f : α → α) (r : Roster α) : Roster α :=
  { r with everyone := r.everyone.modify n f }

/-! ### Who is called after each operation -/

@[simp] theorem isAlive_register (n : Nat) (r : Roster α) :
    (r.register n).isAlive = r.isAlive := rfl

@[simp] theorem isAlive_prune (r : Roster α) : r.prune.isAlive = r.isAlive := rfl

@[simp] theorem live_register (n : Nat) (r : Roster α) :
    (r.register n).live = r.live ++ if r.isAlive n then [n] else [] := by
  rw [live, isAlive_register, register, List.filter_append, live]
  simp [List.filter_cons]

/-- Forgetting who is gone changes nobody that is called. -/
@[simp] theorem live_prune (r : Roster α) : r.prune.live = r.live := by
  rw [live, isAlive_prune, prune]
  exact List.filter_eq_self.2 fun n h => (List.mem_filter.1 h).2

/-! ### Who owns whom after each operation -/

/-- Whoever is owned is alive. -/
theorem isAlive_of_owner {owner : String × Nat} {r : Roster α} (h : owner ∈ r.owned) :
    r.isAlive owner.2 = true := by
  simp only [isAlive, Bool.or_eq_true, List.any_eq_true, beq_iff_eq]
  exact .inl ⟨owner, h, rfl⟩

/-- Where nobody is kept, whoever is alive is owned. -/
theorem isAlive_iff_of_idle {r : Roster α} (idle : r.kept = []) {n : Nat} :
    r.isAlive n = true ↔ ∃ owner ∈ r.owned, owner.2 = n := by
  simp [isAlive, idle]

theorem mem_of_owned? {name : String} {n : Nat} {r : Roster α}
    (owned : r.owned? name = some n) : (name, n) ∈ r.owned := by
  obtain ⟨before, after, owners, -⟩ := List.lookup_eq_some_iff.1 owned
  simp [owners]

theorem ne_of_owned?_eq_none {name : String} {r : Roster α} (free : r.owned? name = none)
    {owner : String × Nat} (h : owner ∈ r.owned) : owner.1 ≠ name := by
  have other := List.lookup_eq_none_iff.1 free owner h
  exact fun same => bne_iff_ne.1 other same.symm

theorem lookup_owners (name other : String) (n : Nat) (owners : List (String × Nat)) :
    ((other, n) :: owners).lookup name = if name = other then some n else owners.lookup name := by
  by_cases same : name = other
  · simp [same]
  · have unequal : (name == other) = false := beq_false_of_ne same
    simp [List.lookup_cons, unequal, same]

theorem owned?_release (name other : String) (r : Roster α) :
    (r.release other).owned? name = if name = other then none else r.owned? name := by
  simp only [owned?, Roster.release]
  induction r.owned with
  | nil => simp
  | cons o owners ih =>
      obtain ⟨first, n⟩ := o
      rw [List.filter_cons, lookup_owners]
      by_cases here : first = other
      · subst here
        by_cases same : name = first <;> simpa [same] using ih
      · by_cases same : name = first
        · subst same
          simp [here]
        · simp [here, same, lookup_owners, ih]

theorem owned?_own (name other : String) (n : Nat) (r : Roster α) :
    (r.own other n).owned? name = if name = other then some n else r.owned? name := by
  have released := owned?_release name other r
  rw [owned?] at released ⊢
  rw [own, lookup_owners, released]
  split <;> rfl

theorem owned?_own_self (name : String) (n : Nat) (r : Roster α) :
    (r.own name n).owned? name = some n :=
  (owned?_own name name n r).trans (if_pos rfl)

end Roster

/-! ### Notifications -/

/-- A state that holds a roster. -/
class HasRoster (σ : Type) (α : outParam Type) where
  roster : σ → Roster α
  withRoster : σ → Roster α → σ

/-- Changes the roster of a state. -/
def HasRoster.modify {σ α : Type} [HasRoster σ α] (f : Roster α → Roster α) (s : σ) : σ :=
  withRoster s (f (roster s))

open HasRoster in
/-- Calls the given observers one after the other, and lets go of each when its call is over. -/
def callEach {σ α : Type} [HasRoster σ α] (call : Nat → σ → σ) (ns : List Nat) (s : σ) : σ :=
  ns.foldl (fun s n => modify (Roster.letGo n) (call n s)) s

open HasRoster in
/-- A notification: the register forgets who is gone, and everyone left in it is kept and called. -/
def notify {σ α : Type} [HasRoster σ α] (call : Nat → σ → σ) (s : σ) : σ :=
  let s := modify Roster.prune s
  let called := (roster s).registered
  callEach call called (modify (Roster.keep called) s)

@[simp] theorem callEach_nil {σ α : Type} [HasRoster σ α] (call : Nat → σ → σ) (s : σ) :
    callEach call [] s = s := rfl

@[simp] theorem callEach_cons {σ α : Type} [HasRoster σ α] (call : Nat → σ → σ) (n : Nat)
    (ns : List Nat) (s : σ) :
    callEach call (n :: ns) s =
      callEach call ns (HasRoster.modify (Roster.letGo n) (call n s)) := rfl

end BridgeChannel
