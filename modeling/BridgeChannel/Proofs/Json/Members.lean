/-
**The members of an object.**

Members that keep the order of their keys are determined by the values of the keys, so that an
object is a map.  What is written may repeat a key: the last value counts, and the members of an
object in order are what they are read as.

Main results:

* `find?_ofMembers` — the last value of a repeated key counts;
* `sortedKeys_ext` — **members in order are determined by what is found in them**;
* `ofMembers_of_sortedKeys` — members in order stay as they are;
* `exactElements_iff`, `sortedElements_iff`, `depthElements_le_iff` and those for members — what is
  said of a value and all its parts is said of each part.
-/
import BridgeChannel.Json.Value
import Mathlib.Tactic.ByContra

set_option autoImplicit false

namespace BridgeChannel.Json

/-! ### Finding -/

@[simp] theorem find?_nil (key : String) : find? key [] = none := rfl

theorem find?_cons_self (key : String) (value : Json) (ms : List Member) :
    find? key ((key, value) :: ms) = some value := by
  rw [find?, if_pos rfl]

theorem find?_cons_of_ne {key other : String} (h : other ≠ key) (value : Json)
    (ms : List Member) : find? key ((other, value) :: ms) = find? key ms := by
  rw [find?, if_neg h]

theorem find?_append (key : String) (ms ns : List Member) :
    find? key (ms ++ ns) = (find? key ms).or (find? key ns) := by
  induction ms with
  | nil => rfl
  | cons m ms ih =>
      obtain ⟨k, v⟩ := m
      by_cases same : k = key
      · subst same
        rw [List.cons_append, find?_cons_self, find?_cons_self]
        rfl
      · rw [List.cons_append, find?_cons_of_ne same, find?_cons_of_ne same, ih]

/-- Nothing is found exactly if no member has the key. -/
theorem find?_eq_none_iff {key : String} {ms : List Member} :
    find? key ms = none ↔ key ∉ ms.map Prod.fst := by
  induction ms with
  | nil => simp
  | cons m ms ih =>
      obtain ⟨k, v⟩ := m
      by_cases same : k = key
      · subst same
        simp [find?_cons_self]
      · have same' : ¬key = k := fun h => same h.symm
        rw [find?_cons_of_ne same, ih]
        simp [same']

theorem find?_without (key other : String) (ms : List Member) :
    find? key (without other ms) = if key = other then none else find? key ms := by
  induction ms with
  | nil => simp [without]
  | cons m ms ih =>
      obtain ⟨k, v⟩ := m
      have rest : without other ((k, v) :: ms) =
          if k = other then without other ms else (k, v) :: without other ms := by
        by_cases taken : k = other
        · simp [without, taken]
        · simp [without, taken]
      rw [rest]
      by_cases taken : k = other
      · rw [if_pos taken, ih]
        by_cases same : key = other
        · rw [if_pos same, if_pos same]
        · have different : k ≠ key := fun h => same (h.symm.trans taken)
          rw [if_neg same, if_neg same, find?_cons_of_ne different]
      · rw [if_neg taken]
        by_cases found : k = key
        · subst found
          rw [find?_cons_self, find?_cons_self, if_neg taken]
        · rw [find?_cons_of_ne found, find?_cons_of_ne found, ih]

/-! ### Members in order -/

/-- **The last value of a repeated key counts.** -/
theorem find?_ofMembers (key : String) (ms : List Member) :
    find? key (ofMembers ms) = find? key ms.reverse := by
  have gathered : ∀ sorted : List Member,
      find? key (ms.foldl (fun sorted m => insert m.1 m.2 sorted) sorted) =
        (find? key ms.reverse).or (find? key sorted) := by
    induction ms with
    | nil => exact fun sorted => rfl
    | cons m ms ih =>
        obtain ⟨k, v⟩ := m
        intro sorted
        rw [List.foldl_cons, ih, List.reverse_cons, find?_append]
        by_cases same : k = key
        · subst same
          rw [find?_insert_self, find?_cons_self]
          cases find? k ms.reverse <;> rfl
        · have other : key ≠ k := fun h => same h.symm
          rw [find?_insert_of_ne other, find?_cons_of_ne same, find?_nil, Option.or_none]
  have all := gathered []
  rw [find?_nil, Option.or_none] at all
  exact all

theorem SortedKeys.tail {m : Member} {ms : List Member} (h : SortedKeys (m :: ms)) :
    SortedKeys ms := by
  unfold SortedKeys at h ⊢
  rw [List.map_cons, List.pairwise_cons] at h
  exact h.2

theorem SortedKeys.lt {m : Member} {ms : List Member} (h : SortedKeys (m :: ms)) {k : String}
    (hk : k ∈ ms.map Prod.fst) : m.1 < k := by
  unfold SortedKeys at h
  rw [List.map_cons, List.pairwise_cons] at h
  exact h.1 k hk

theorem SortedKeys.find?_tail {m : Member} {ms : List Member} (h : SortedKeys (m :: ms)) :
    find? m.1 ms = none := by
  rw [find?_eq_none_iff]
  intro hm
  exact String.lt_irrefl _ (h.lt hm)

/-- **Members in order are determined by what is found in them.** -/
theorem sortedKeys_ext {ms ns : List Member} (hms : SortedKeys ms) (hns : SortedKeys ns)
    (same : ∀ key, find? key ms = find? key ns) : ms = ns := by
  induction ms generalizing ns with
  | nil =>
      cases ns with
      | nil => rfl
      | cons n ns =>
          have absent := same n.1
          rw [find?_nil, find?_cons_self] at absent
          exact absurd absent (by simp)
  | cons m ms ih =>
      obtain ⟨k, v⟩ := m
      cases ns with
      | nil =>
          have absent := same k
          rw [find?_nil, find?_cons_self] at absent
          exact absurd absent (by simp)
      | cons n ns =>
          obtain ⟨l, w⟩ := n
          -- each of the two first keys occurs on the other side, so that neither is the lower one
          have first : k = l := by
            by_contra different
            have different' : ¬l = k := fun h => different h.symm
            have hk := same k
            rw [find?_cons_self, find?_cons_of_ne different'] at hk
            have hl := same l
            rw [find?_cons_self, find?_cons_of_ne different] at hl
            have later : l < k := hns.lt (List.mem_map_of_mem (mem_of_find? hk.symm))
            have earlier : k < l := hms.lt (List.mem_map_of_mem (mem_of_find? hl))
            exact String.lt_irrefl _ (String.lt_trans later earlier)
          subst first
          have value : v = w := by
            have hk := same k
            rw [find?_cons_self, find?_cons_self] at hk
            exact Option.some.inj hk
          subst value
          have rest : ∀ key, find? key ms = find? key ns := by
            intro key
            by_cases hkey : k = key
            · subst hkey
              rw [hms.find?_tail, hns.find?_tail]
            · have hk := same key
              rw [find?_cons_of_ne hkey, find?_cons_of_ne hkey] at hk
              exact hk
          rw [ih hms.tail hns.tail rest]

theorem find?_reverse {ms : List Member} (sorted : SortedKeys ms) (key : String) :
    find? key ms.reverse = find? key ms := by
  induction ms with
  | nil => rfl
  | cons m ms ih =>
      obtain ⟨k, v⟩ := m
      rw [List.reverse_cons, find?_append, ih sorted.tail]
      by_cases same : k = key
      · subst same
        rw [sorted.find?_tail, find?_cons_self, find?_cons_self]
        rfl
      · rw [find?_cons_of_ne same, find?_cons_of_ne same, find?_nil, Option.or_none]

/-- Members in order stay as they are. -/
theorem ofMembers_of_sortedKeys {ms : List Member} (sorted : SortedKeys ms) :
    ofMembers ms = ms := by
  refine sortedKeys_ext (sortedKeys_ofMembers ms) sorted fun key => ?_
  rw [find?_ofMembers, find?_reverse sorted]

theorem sortedKeys_without {ms : List Member} (sorted : SortedKeys ms) (key : String) :
    SortedKeys (without key ms) := by
  unfold SortedKeys without at *
  exact List.Pairwise.sublist (List.Sublist.map _ List.filter_sublist) sorted

theorem mem_of_mem_without {key : String} {m : Member} {ms : List Member}
    (h : m ∈ without key ms) : m ∈ ms := (List.mem_filter.1 h).1

theorem mem_of_mem_insert {key : String} {value : Json} {m : Member} {ms : List Member}
    (h : m ∈ insert key value ms) : m = (key, value) ∨ m ∈ ms := by
  induction ms with
  | nil => exact Or.inl (List.mem_singleton.1 h)
  | cons n ms ih =>
      obtain ⟨k, v⟩ := n
      unfold insert at h
      split at h
      · rcases List.mem_cons.1 h with h | h
        · exact Or.inl h
        · exact Or.inr h
      · split at h
        · rcases List.mem_cons.1 h with h | h
          · exact Or.inl h
          · exact Or.inr (List.mem_cons_of_mem _ h)
        · rcases List.mem_cons.1 h with h | h
          · exact Or.inr (h ▸ List.mem_cons_self)
          · exact (ih h).imp id (List.mem_cons_of_mem _)

/-- Nothing is among the members in order that is not among those that were written. -/
theorem mem_of_mem_ofMembers {ms : List Member} {m : Member} (h : m ∈ ofMembers ms) : m ∈ ms := by
  have gathered : ∀ sorted : List Member,
      m ∈ ms.foldl (fun sorted m => insert m.1 m.2 sorted) sorted → m ∈ ms ∨ m ∈ sorted := by
    clear h
    induction ms with
    | nil => exact fun sorted h => Or.inr h
    | cons n ms ih =>
        intro sorted h
        rcases ih (insert n.1 n.2 sorted) h with h | h
        · exact Or.inl (List.mem_cons_of_mem _ h)
        · rcases mem_of_mem_insert h with h | h
          · exact Or.inl (h ▸ List.mem_cons_self)
          · exact Or.inr h
  rcases gathered [] h with h | h
  · exact h
  · exact absurd h (by simp)

/-! ### Part by part -/

theorem exactElements_iff {es : List Json} : ExactElements es ↔ ∀ e ∈ es, e.Exact := by
  induction es with
  | nil => simp [ExactElements]
  | cons e es ih => simp [ExactElements, ih]

theorem exactMembers_iff {ms : List Member} : ExactMembers ms ↔ ∀ m ∈ ms, m.2.Exact := by
  induction ms with
  | nil => simp [ExactMembers]
  | cons m ms ih => simp [ExactMembers, ih]

theorem sortedElements_iff {es : List Json} : SortedElements es ↔ ∀ e ∈ es, e.Sorted := by
  induction es with
  | nil => simp [SortedElements]
  | cons e es ih => simp [SortedElements, ih]

theorem sortedMembers_iff {ms : List Member} : SortedMembers ms ↔ ∀ m ∈ ms, m.2.Sorted := by
  induction ms with
  | nil => simp [SortedMembers]
  | cons m ms ih => simp [SortedMembers, ih]

theorem depthElements_le_iff {es : List Json} {d : Nat} :
    depthElements es ≤ d ↔ ∀ e ∈ es, e.depth ≤ d := by
  induction es with
  | nil => simp [depthElements]
  | cons e es ih => rw [depthElements, Nat.max_le, ih, List.forall_mem_cons]

theorem depthMembers_le_iff {ms : List Member} {d : Nat} :
    depthMembers ms ≤ d ↔ ∀ m ∈ ms, m.2.depth ≤ d := by
  induction ms with
  | nil => simp [depthMembers]
  | cons m ms ih =>
      obtain ⟨k, v⟩ := m
      rw [depthMembers, Nat.max_le, ih, List.forall_mem_cons]

end BridgeChannel.Json
