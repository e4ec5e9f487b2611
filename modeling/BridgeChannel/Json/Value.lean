/-
JSON values.

The members of an object are a list of keys and values in rising order of the keys, each key once;
the order of texts is that of their code points. The raw type admits any list, and `Json.Sorted`
says that a value and all its parts keep the order. What is read from a text is built by
`Json.ofMembers`, which sorts the members and keeps the last value of a repeated key.

Main definitions:

* `Json`, `Json.Member`;
* `Json.insert`, `Json.ofMembers`, `Json.find?`, `Json.without` — objects as maps;
* `Json.Sorted` — every object inside keeps the order;
* `Json.same` — equality that compares doubles as numbers;
* `Json.Exact` — no double occurs.

Main results: `find?_insert_self`, `find?_insert_of_ne`, `sortedKeys_ofMembers`, `mem_of_find?`.
-/
import BridgeChannel.Json.Number

set_option autoImplicit false

namespace BridgeChannel

/-- A JSON value. -/
inductive Json where
  | null
  | bool (value : Bool)
  | num (value : Json.Number)
  | str (value : String)
  | arr (elements : List Json)
  | obj (members : List (String × Json))

namespace Json

instance : Inhabited Json := ⟨.null⟩

/-- A key and its value. -/
abbrev Member := String × Json

/-! ### Objects as maps -/

/-- Puts a member at its place; the value of a key that is there already is replaced. -/
def insert (key : String) (value : Json) : List Member → List Member
  | [] => [(key, value)]
  | (k, v) :: ms =>
    if key < k then (key, value) :: (k, v) :: ms
    else if key = k then (key, value) :: ms
    else (k, v) :: insert key value ms

/-- The members of an object as they are written: a repeated key keeps its last value. -/
def ofMembers (ms : List Member) : List Member :=
  ms.foldl (fun sorted m => insert m.1 m.2 sorted) []

/-- The value of a key. -/
def find? (key : String) : List Member → Option Json
  | [] => none
  | (k, v) :: ms => if k = key then some v else find? key ms

/-- All members except those of a key. -/
def without (key : String) (ms : List Member) : List Member := ms.filter fun m => m.1 != key

/-- The keys are in rising order, each of them once. -/
def SortedKeys (ms : List Member) : Prop := (ms.map Prod.fst).Pairwise (· < ·)

instance (ms : List Member) : Decidable (SortedKeys ms) :=
  inferInstanceAs (Decidable (List.Pairwise _ _))

@[simp] theorem find?_insert_self (key : String) (value : Json) (ms : List Member) :
    find? key (insert key value ms) = some value := by
  induction ms with
  | nil => simp [insert, find?]
  | cons m ms ih =>
    obtain ⟨k, v⟩ := m
    unfold insert
    split
    next => simp [find?]
    next =>
      split
      next => simp [find?]
      next different =>
        have : ¬k = key := fun h => different h.symm
        simp [find?, this, ih]

/-- Putting a member changes the value of no other key. -/
theorem find?_insert_of_ne {key other : String} (h : other ≠ key) (value : Json)
    (ms : List Member) : find? other (insert key value ms) = find? other ms := by
  have h' : ¬key = other := fun e => h e.symm
  induction ms with
  | nil => simp [insert, find?, h']
  | cons m ms ih =>
    obtain ⟨k, v⟩ := m
    unfold insert
    split
    next => simp [find?, h']
    next =>
      split
      next same => subst same; simp [find?, h']
      next => simp [find?, ih]

/-- A key that is found belongs to a member. -/
theorem mem_of_find? {key : String} {value : Json} {ms : List Member}
    (h : find? key ms = some value) : (key, value) ∈ ms := by
  induction ms with
  | nil => simp [find?] at h
  | cons m ms ih =>
    obtain ⟨k, v⟩ := m
    unfold find? at h
    split at h
    next same => simp_all
    next => exact List.mem_cons_of_mem _ (ih h)

theorem mem_keys_insert {key k : String} {value : Json} {ms : List Member}
    (h : k ∈ (insert key value ms).map Prod.fst) : k = key ∨ k ∈ ms.map Prod.fst := by
  induction ms with
  | nil => simpa [insert] using h
  | cons m ms ih =>
    obtain ⟨k', v'⟩ := m
    unfold insert at h
    split at h
    next => simpa using h
    next =>
      split at h
      next same =>
        subst same
        simp only [List.map_cons, List.mem_cons] at h ⊢
        exact h.elim Or.inl fun hm => Or.inr (Or.inr hm)
      next =>
        simp only [List.map_cons, List.mem_cons] at h ⊢
        rcases h with h | h
        · exact Or.inr (Or.inl h)
        · exact (ih h).elim Or.inl fun hm => Or.inr (Or.inr hm)

/-- Putting a member keeps the order of the keys. -/
theorem sortedKeys_insert {ms : List Member} (h : SortedKeys ms) (key : String) (value : Json) :
    SortedKeys (insert key value ms) := by
  induction ms with
  | nil => simp [insert, SortedKeys]
  | cons m ms ih =>
    obtain ⟨k, v⟩ := m
    have hk : (∀ k' ∈ ms.map Prod.fst, k < k') ∧ SortedKeys ms := by
      simpa [SortedKeys] using h
    unfold insert
    split
    next lower =>
      simp only [SortedKeys, List.map_cons, List.pairwise_cons, List.mem_cons]
      refine ⟨?_, hk.1, hk.2⟩
      rintro k' (rfl | hm)
      · exact lower
      · exact String.lt_trans lower (hk.1 k' hm)
    next notLower =>
      split
      next same =>
        subst same
        simpa [SortedKeys] using h
      next different =>
        have greater : k < key := Decidable.byContradiction fun h =>
          different (String.le_antisymm (String.not_lt.1 h) (String.not_lt.1 notLower))
        simp only [SortedKeys, List.map_cons, List.pairwise_cons]
        refine ⟨fun k' hm => ?_, ih hk.2⟩
        rcases mem_keys_insert hm with rfl | hm
        · exact greater
        · exact hk.1 k' hm

/-- The members of an object are in rising order of their keys, however they were written. -/
theorem sortedKeys_ofMembers (ms : List Member) : SortedKeys (ofMembers ms) := by
  have key : ∀ sorted, SortedKeys sorted →
      SortedKeys (ms.foldl (fun sorted m => insert m.1 m.2 sorted) sorted) := by
    induction ms with
    | nil => exact fun _ h => h
    | cons m ms ih => exact fun sorted h => ih _ (sortedKeys_insert h m.1 m.2)
  exact key [] List.Pairwise.nil

/-! ### Properties of a value and all its parts -/

mutual

/-- Every object inside lists its members in rising order of their keys. -/
def Sorted : Json → Prop
  | .arr es => SortedElements es
  | .obj ms => SortedKeys ms ∧ SortedMembers ms
  | _ => True

def SortedElements : List Json → Prop
  | [] => True
  | e :: es => e.Sorted ∧ SortedElements es

def SortedMembers : List Member → Prop
  | [] => True
  | (_, v) :: ms => v.Sorted ∧ SortedMembers ms

end

mutual

/-- No double occurs inside. -/
def Exact : Json → Prop
  | .num (.double _) => False
  | .arr es => ExactElements es
  | .obj ms => ExactMembers ms
  | _ => True

def ExactElements : List Json → Prop
  | [] => True
  | e :: es => e.Exact ∧ ExactElements es

def ExactMembers : List Member → Prop
  | [] => True
  | (_, v) :: ms => v.Exact ∧ ExactMembers ms

end

mutual

/-- How deep arrays and objects are nested. -/
def depth : Json → Nat
  | .arr es => depthElements es + 1
  | .obj ms => depthMembers ms + 1
  | _ => 0

def depthElements : List Json → Nat
  | [] => 0
  | e :: es => max e.depth (depthElements es)

def depthMembers : List Member → Nat
  | [] => 0
  | (_, v) :: ms => max v.depth (depthMembers ms)

end

/-! ### Equality -/

mutual

/-- Equality of values, with numbers compared by `Number.same`. -/
def same : Json → Json → Bool
  | .null, .null => true
  | .bool a, .bool b => a == b
  | .num a, .num b => a.same b
  | .str a, .str b => a == b
  | .arr a, .arr b => sameElements a b
  | .obj a, .obj b => sameMembers a b
  | _, _ => false

def sameElements : List Json → List Json → Bool
  | [], [] => true
  | a :: as, b :: bs => a.same b && sameElements as bs
  | _, _ => false

def sameMembers : List Member → List Member → Bool
  | [], [] => true
  | (k, a) :: as, (l, b) :: bs => k == l && a.same b && sameMembers as bs
  | _, _ => false

end

end Json

end BridgeChannel
