/-
**The characters of a written number.**

The written form of a number has digits, points, signs and the letter of an exponent only, unless it
is a double that is no number, which is written as null.  Nothing else is known here of the digits
of a double.

Main definition: `isNumeric` — the characters that a number may have.

Main result: `Number.chars_numeric` — the written form of a number has no others.
-/
import BridgeChannel.Json.Printer

set_option autoImplicit false

namespace BridgeChannel

/-! ### The characters of a number -/

/-- The characters that a number may have. -/
def isNumeric (c : Char) : Bool :=
  c.isDigit || c == '.' || c == 'e' || c == 'E' || c == '+' || c == '-'

theorem isNumeric_of_isDigit {c : Char} (h : c.isDigit = true) : isNumeric c = true := by
  simp [isNumeric, h]

theorem isNumeric_toDigits (n : Nat) : ∀ c ∈ Nat.toDigits 10 n, isNumeric c = true := fun _ hc =>
  isNumeric_of_isDigit (Nat.isDigit_of_mem_toDigits (by omega) (by omega) hc)

namespace Decimal

theorem isNumeric_positional {digits : List Char} (h : ∀ c ∈ digits, isNumeric c = true)
    (e : Int) : ∀ c ∈ positional digits e, isNumeric c = true := by
  have zero : isNumeric '0' = true := by decide
  have point : isNumeric '.' = true := by decide
  intro c hc
  unfold positional at hc
  split at hc
  · simp only [List.cons_append, List.mem_cons, List.mem_append] at hc
    obtain rfl | rfl | hc | hc := hc
    · exact zero
    · exact point
    · exact List.eq_of_mem_replicate hc ▸ zero
    · exact h c hc
  · simp only [List.mem_append, List.mem_cons] at hc
    obtain (hc | hc) | rfl | hc := hc
    · exact h c (List.mem_of_mem_take hc)
    · exact List.eq_of_mem_replicate hc ▸ zero
    · exact point
    · split at hc
      · exact List.mem_singleton.1 hc ▸ zero
      · exact h c (List.mem_of_mem_drop hc)

theorem isNumeric_scientific {digits : List Char} (h : ∀ c ∈ digits, isNumeric c = true)
    (e : Int) : ∀ c ∈ scientific digits e, isNumeric c = true := by
  intro c hc
  simp only [scientific, List.mem_append, List.mem_cons] at hc
  obtain (hc | hc) | rfl | rfl | hc := hc
  · exact h c (List.mem_of_mem_take hc)
  · split at hc
    · obtain rfl | hc := List.mem_cons.1 hc
      · decide
      · exact h c (List.mem_of_mem_drop hc)
    · exact absurd hc List.not_mem_nil
  · decide
  · split <;> decide
  · exact isNumeric_toDigits _ c hc

theorem positional_ne_nil (digits : List Char) (e : Int) : positional digits e ≠ [] := by
  unfold positional
  split <;> simp

theorem scientific_ne_nil (digits : List Char) (e : Int) : scientific digits e ≠ [] := by
  simp [scientific]

theorem isNumeric_render (layout : Layout) (factor : Nat) (power : Int) :
    ∀ c ∈ layout.render factor power, isNumeric c = true := by
  have digits : ∀ c ∈ ((Nat.toDigits 10 factor).reverse.dropWhile (· == '0')).reverse,
      isNumeric c = true := by
    intro c hc
    exact isNumeric_toDigits factor c
      (List.mem_reverse.1 ((List.dropWhile_sublist _).subset (List.mem_reverse.1 hc)))
  unfold Layout.render
  dsimp only
  split
  · exact isNumeric_positional digits _
  · exact isNumeric_scientific digits _

theorem render_ne_nil (layout : Layout) (factor : Nat) (power : Int) :
    layout.render factor power ≠ [] := by
  unfold Layout.render
  dsimp only
  split
  · exact positional_ne_nil _ _
  · exact scientific_ne_nil _ _

end Decimal

namespace Json

/-- The written form of a double is null, or it has characters of a number only. -/
theorem doubleChars_numeric (x : Float) : Number.doubleChars x = "null".toList ∨
    Number.doubleChars x ≠ [] ∧ ∀ c ∈ Number.doubleChars x, isNumeric c = true := by
  have signed : ∀ (negative : Prop) [Decidable negative] (magnitude : List Char),
      magnitude ≠ [] → (∀ c ∈ magnitude, isNumeric c = true) →
      (if negative then ['-'] else []) ++ magnitude ≠ [] ∧
        ∀ c ∈ (if negative then ['-'] else []) ++ magnitude, isNumeric c = true := by
    intro negative _ magnitude some all
    refine ⟨by simp [some], fun c hc => ?_⟩
    obtain hc | hc := List.mem_append.1 hc
    · split at hc
      · exact List.mem_singleton.1 hc ▸ by decide
      · exact absurd hc List.not_mem_nil
    · exact all c hc
  unfold Number.doubleChars
  dsimp only
  split
  · exact .inl rfl
  · split
    · exact .inr (signed _ _ (by decide) (List.all_eq_true.1 (by decide)))
    · exact .inr (signed _ _ (Decimal.render_ne_nil _ _ _) (Decimal.isNumeric_render _ _ _))

/-- The same for any number. -/
theorem Number.chars_numeric (n : Number) : n.chars = "null".toList ∨
    n.chars ≠ [] ∧ ∀ c ∈ n.chars, isNumeric c = true := by
  cases n with
  | double x => exact doubleChars_numeric x
  | integer n fits =>
      right
      rw [Number.chars]
      split
      · refine ⟨List.cons_ne_nil _ _, ?_⟩
        rw [List.forall_mem_cons]
        exact ⟨by decide, isNumeric_toDigits _⟩
      · exact ⟨Nat.toDigits_ne_nil, isNumeric_toDigits _⟩

end Json

end BridgeChannel
