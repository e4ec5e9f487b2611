/-
**How deep the values are that a text holds.**

A reader that may open some number of levels answers with values of at most that depth, whatever
text it is given.  No value that is read from a text nests deeper than `Json.maxDepth`.

Main results:

* `depth_of_readValue` — **a reader never answers with a value that is deeper than its levels**;
* `depth_of_parse` — the value of a text nests at most `maxDepth` deep.
-/
import BridgeChannel.Json.Parser
import BridgeChannel.Proofs.Json.Members

set_option autoImplicit false

namespace BridgeChannel.Json

/-- If what follows on a step succeeds, the step has succeeded. -/
theorem read_of_bind {ε α β : Type} {first : Except ε α} {next : α → Except ε β} {result : β}
    (done : (first >>= next) = .ok result) : ∃ a, first = .ok a ∧ next a = .ok result := by
  match first, done with
  | .ok a, done => exact ⟨a, rfl, done⟩

theorem stopAt_ne_ok {α : Type} {fault : Fault} {s : List Char} {a : α} :
    stopAt fault s ≠ .ok a := by
  simp [stopAt]

/-- The values that a reader answers with are at most so deep. -/
def Shallow (item : Reader Json) (d : Nat) : Prop :=
  ∀ s j rest, item s = .ok (j, rest) → j.depth ≤ d

variable {item : Reader Json} {d : Nat}

theorem depth_of_readElements (shallow : Shallow item d) {steps : Nat} {read es : List Json}
    {s rest : List Char} (h : readElements item steps read s = .ok (es, rest))
    (before : ∀ e ∈ read, e.depth ≤ d) : ∀ e ∈ es, e.depth ≤ d := by
  induction steps generalizing read s with
  | zero => exact absurd h stopAt_ne_ok
  | succ steps ih =>
      -- what was read so far is bounded, and so is the element that comes next
      rw [readElements] at h
      obtain ⟨⟨e, s'⟩, first, h⟩ := read_of_bind h
      have all : ∀ x ∈ e :: read, x.depth ≤ d := by
        intro x hx
        rcases List.mem_cons.1 hx with rfl | hx
        · exact shallow _ _ _ first
        · exact before x hx
      dsimp only at h
      split at h
      · exact absurd h stopAt_ne_ok
      · -- the closing bracket
        obtain ⟨rfl, -⟩ := Prod.mk.inj (Except.ok.inj h)
        intro x hx
        exact all x (List.mem_reverse.1 hx)
      · split at h
        · exact absurd h stopAt_ne_ok
        · exact ih h all
      · exact absurd h stopAt_ne_ok

theorem depth_of_readMembers (shallow : Shallow item d) {steps : Nat} {read ms : List Member}
    {s rest : List Char} (h : readMembers item steps read s = .ok (ms, rest))
    (before : ∀ m ∈ read, m.2.depth ≤ d) : ∀ m ∈ ms, m.2.depth ≤ d := by
  induction steps generalizing read s with
  | zero => exact absurd h stopAt_ne_ok
  | succ steps ih =>
      rw [readMembers] at h
      obtain ⟨⟨k, s'⟩, -, h⟩ := read_of_bind h
      dsimp only at h
      split at h
      · exact absurd h stopAt_ne_ok
      · obtain ⟨⟨v, s''⟩, value, h⟩ := read_of_bind h
        have all : ∀ x ∈ (k, v) :: read, x.2.depth ≤ d := by
          intro x hx
          rcases List.mem_cons.1 hx with rfl | hx
          · exact shallow _ _ _ value
          · exact before x hx
        dsimp only at h
        split at h
        · exact absurd h stopAt_ne_ok
        · -- the closing brace
          obtain ⟨rfl, -⟩ := Prod.mk.inj (Except.ok.inj h)
          intro x hx
          exact all x (List.mem_reverse.1 hx)
        · split at h
          · exact absurd h stopAt_ne_ok
          · exact ih h all
          · exact absurd h stopAt_ne_ok
          · exact absurd h stopAt_ne_ok
        · exact absurd h stopAt_ne_ok
      · exact absurd h stopAt_ne_ok

theorem depth_of_readArray (shallow : Shallow item d) : Shallow (readArray item) (d + 1) := by
  intro s j rest h
  unfold readArray at h
  split at h
  · exact absurd h stopAt_ne_ok
  · obtain ⟨rfl, -⟩ := Prod.mk.inj (Except.ok.inj h)
    simp [depth, depthElements]
  · obtain ⟨⟨es, s'⟩, elements, h⟩ := read_of_bind h
    obtain ⟨rfl, -⟩ := Prod.mk.inj (Except.ok.inj h)
    rw [depth, Nat.add_le_add_iff_right, depthElements_le_iff]
    exact depth_of_readElements shallow elements (by simp)

theorem depth_of_readObject (shallow : Shallow item d) : Shallow (readObject item) (d + 1) := by
  intro s j rest h
  unfold readObject at h
  split at h
  · exact absurd h stopAt_ne_ok
  · obtain ⟨rfl, -⟩ := Prod.mk.inj (Except.ok.inj h)
    simp [depth, depthMembers]
  · obtain ⟨⟨ms, s'⟩, members, h⟩ := read_of_bind h
    obtain ⟨rfl, -⟩ := Prod.mk.inj (Except.ok.inj h)
    rw [depth, Nat.add_le_add_iff_right, depthMembers_le_iff]
    intro m hm
    exact depth_of_readMembers shallow members (by simp) m (mem_of_mem_ofMembers hm)
  · exact absurd h stopAt_ne_ok

theorem eq_of_readWord {value j : Json} {word s rest : List Char}
    (h : readWord value word s = .ok (j, rest)) : j = value := by
  induction word generalizing s with
  | nil =>
      obtain ⟨rfl, -⟩ := Prod.mk.inj (Except.ok.inj h)
      rfl
  | cons w word ih =>
      cases s with
      | nil => exact absurd h stopAt_ne_ok
      | cons c s =>
          rw [readWord] at h
          split at h
          · exact ih h
          · exact absurd h stopAt_ne_ok

theorem depth_of_readNumber {negative : Bool} {s rest : List Char} {j : Json}
    (h : readNumber negative s = .ok (j, rest)) : j.depth = 0 := by
  unfold readNumber at h
  obtain ⟨⟨numeral, s'⟩, -, h⟩ := read_of_bind h
  dsimp only at h
  split at h
  · obtain ⟨rfl, -⟩ := Prod.mk.inj (Except.ok.inj h)
    rfl
  · exact absurd h (by simp)

/-- A value is no deeper than the levels that are left for its parts, and one more. -/
theorem depth_of_readValueWith {levels : Option (Reader Json)} {d : Nat}
    (array : ∀ item, levels = some item → Shallow (readArray item) d)
    (object : ∀ item, levels = some item → Shallow (readObject item) d) :
    Shallow (readValueWith levels) d := by
  intro s j rest h
  have word : ∀ {value : Json} {w t}, value.depth = 0 → readWord value w t = .ok (j, rest) →
      j.depth ≤ d := by
    intro value w t flat hw
    rw [eq_of_readWord hw, flat]
    exact Nat.zero_le _
  unfold readValueWith at h
  split at h
  · exact absurd h stopAt_ne_ok
  · exact word rfl h
  · exact word rfl h
  · exact word rfl h
  · obtain ⟨⟨t, s'⟩, -, h⟩ := read_of_bind h
    obtain ⟨rfl, -⟩ := Prod.mk.inj (Except.ok.inj h)
    exact Nat.zero_le _
  · rw [depth_of_readNumber h]
    exact Nat.zero_le _
  · split at h
    next item => exact array item rfl _ _ _ h
    · exact absurd h stopAt_ne_ok
  · split at h
    next item => exact object item rfl _ _ _ h
    · exact absurd h stopAt_ne_ok
  · split at h
    · rw [depth_of_readNumber h]
      exact Nat.zero_le _
    · exact absurd h stopAt_ne_ok

/-- **A reader never answers with a value that is deeper than its levels.** -/
theorem depth_of_readValue (levels : Nat) : Shallow (readValue levels) levels := by
  induction levels with
  | zero =>
      -- without a level left, neither an array nor an object is opened
      refine depth_of_readValueWith (fun item h => ?_) (fun item h => ?_)
      · exact absurd h (by simp)
      · exact absurd h (by simp)
  | succ levels ih =>
      refine depth_of_readValueWith (fun item h => ?_) (fun item h => ?_)
      · exact Option.some.inj h ▸ depth_of_readArray ih
      · exact Option.some.inj h ▸ depth_of_readObject ih

/-- The value of a text nests at most `maxDepth` deep. -/
theorem depth_of_parse {s : String} {j : Json} (h : parse s = .ok j) : j.depth ≤ maxDepth := by
  unfold parse at h
  split at h
  next read =>
    obtain rfl := Except.ok.inj h
    unfold readDocument at read
    obtain ⟨⟨j', s'⟩, value, read⟩ := read_of_bind read
    dsimp only at read
    split at read
    · obtain rfl := Except.ok.inj read
      exact depth_of_readValue maxDepth _ _ _ value
    · exact absurd read stopAt_ne_ok
  · exact absurd h (by simp)

end BridgeChannel.Json
