/-
**A number of any length is read exactly, or not as an integer.**

The digits of a number are gathered one by one in a word of 64 bits, and each step tests whether the
word still holds.  All digits are gathered exactly if the number that they write is below `2^64`, so
no number wraps around on the way.  Which number a token means depends on the token alone, not on
what stands before or after it.

Main definition: `Grammar.Token` — a number with its sign, as it is written.

Main results:

* `gather_of_fits`, `gather_eq_nil_iff` — **which digits are gathered**;
* `Grammar.Token.append` — what follows a token is no part of it;
* `Grammar.Token.negativeZero_iff` — the one integer that is read as a double is `-0`;
* `readValue_of_token` — what is read from a token.
-/
import BridgeChannel.Proofs.Json.Reading

set_option autoImplicit false

namespace BridgeChannel.Json

open Grammar

/-! ### Digits are gathered -/

/-- Digits that come later never make a number smaller. -/
theorem le_ofDigitChars (n : Nat) (ds : List Char) : n ≤ Nat.ofDigitChars 10 ds n := by
  induction ds generalizing n with
  | nil => exact Nat.le_refl n
  | cons d ds ih =>
      rw [Nat.ofDigitChars_cons]
      exact Nat.le_trans (by omega) (ih _)

/-- Digits are gathered as long as they write a number below `2^64`, and make up that number. -/
theorem gather_of_fits {significand : Nat} {ds : List Char}
    (fits : Nat.ofDigitChars 10 ds significand < UInt64.size) :
    gather significand ds = (Nat.ofDigitChars 10 ds significand, []) := by
  induction ds generalizing significand with
  | nil => rfl
  | cons d ds ih =>
      rw [Nat.ofDigitChars_cons] at fits ⊢
      -- a step overflows only if the whole number does
      have step := Nat.lt_of_le_of_lt (le_ofDigitChars _ ds) fits
      rw [gather, if_pos step, ih fits]

/-- **All digits are gathered exactly if the number that they write is below `2^64`.** -/
theorem gather_eq_nil_iff {significand : Nat} {ds : List Char} (h : significand < UInt64.size) :
    (gather significand ds).2 = [] ↔ Nat.ofDigitChars 10 ds significand < UInt64.size := by
  refine ⟨fun all => ?_, fun fits => by rw [gather_of_fits fits]⟩
  induction ds generalizing significand with
  | nil => exact h
  | cons d ds ih =>
      rw [Nat.ofDigitChars_cons]
      rw [gather] at all
      split at all
      next step => exact ih step all
      · exact absurd all (List.cons_ne_nil _ _)

/-! ### Tokens -/

/-- A number with its sign. -/
inductive Grammar.Token : Spelling Numeral
  | natural {s rest : List Char} {numeral : Numeral} : Unsigned false s numeral rest →
      Token s numeral rest
  | negative {s rest : List Char} {numeral : Numeral} : Unsigned true s numeral rest →
      Token ('-' :: s) numeral rest

namespace Grammar

variable {s rest : List Char}

theorem Digits.append {ds : List Char} (h : Digits s ds rest) (more : List Char) :
    Digits (s ++ more) ds (rest ++ more) where
  split := by rw [h.split, List.append_assoc]
  some := h.some
  all := h.all

theorem Whole.append {whole : List Char} (h : Whole s whole rest) (more : List Char) :
    Whole (s ++ more) whole (rest ++ more) := by
  cases h with
  | zero => exact .zero _
  | digits nonzero digits => exact .digits nonzero (digits.append more)

theorem Fraction.append {fraction : Option (List Char)} (h : Fraction s fraction rest)
    (more : List Char) : Fraction (s ++ more) fraction (rest ++ more) := by
  cases h with
  | none => exact .none _
  | some digits => exact .some (digits.append more)

theorem Exponent.append {exponent : Option (Bool × List Char)} (h : Exponent s exponent rest)
    (more : List Char) : Exponent (s ++ more) exponent (rest ++ more) := by
  cases h with
  | none => exact .none _
  | bare letter digits => exact .bare letter (digits.append more)
  | plus letter digits => exact .plus letter (digits.append more)
  | minus letter digits => exact .minus letter (digits.append more)

theorem Unsigned.append {negative : Bool} {numeral : Numeral} (h : Unsigned negative s numeral rest)
    (more : List Char) : Unsigned negative (s ++ more) numeral (rest ++ more) := by
  cases h with
  | mk whole fraction exponent =>
      exact .mk (whole.append more) (fraction.append more) (exponent.append more)

/-- What follows a token is no part of it. -/
theorem Token.append {numeral : Numeral} (h : Token s numeral rest) (more : List Char) :
    Token (s ++ more) numeral (rest ++ more) := by
  cases h with
  | natural number => exact .natural (number.append more)
  | negative number => exact .negative (number.append more)

/-- A value without parts is one at every level of nesting. -/
theorem Plain.value {j : Json} (h : Plain s j rest) (levels : Nat) : Value levels s j rest := by
  cases levels with
  | zero => exact h
  | succ levels => exact .inl h

/-- A token that is in range is a value. -/
theorem Token.plain {numeral : Numeral} {n : Number} (h : Token s numeral rest)
    (value : numeral.value? = some n) : Plain s (.num n) rest := by
  cases h with
  | natural number => exact .natural number value
  | negative number => exact .negative number value

/-- A whole part stands for zero exactly if it is the zero alone. -/
theorem Whole.eq_zero_iff {whole : List Char} (h : Whole s whole rest) :
    Nat.ofDigitChars 10 whole 0 = 0 ↔ s = '0' :: rest := by
  cases h with
  | zero => exact iff_of_true rfl rfl
  | @digits d _ ds _ nonzero digits =>
      have least := le_ofDigitChars (10 * 0 + (d.toNat - '0'.toNat)) ds
      have digit := Char.isDigit_iff_toNat.1 (digits.all d List.mem_cons_self)
      have other : d.toNat ≠ '0'.toNat := fun same => nonzero (Char.toNat_inj.1 same)
      refine iff_of_false ?_ ?_
      · rw [Nat.ofDigitChars_cons]
        omega
      · rw [digits.split]
        exact fun same => nonzero (List.cons.inj same).1

/-- **The one token without fraction and exponent that means no integer, whatever the range, is
`-0`.** -/
theorem Token.negativeZero_iff {numeral : Numeral} (h : Token s numeral [])
    (fraction : numeral.fraction = none) (exponent : numeral.exponent = none) :
    numeral.negative = true ∧ numeral.integer = 0 ↔ s = "-0".toList := by
  cases h with
  | natural number =>
      obtain ⟨d, s', rfl, digit⟩ := number.cons.1
      cases number
      refine iff_of_false (fun signed => Bool.false_ne_true signed.1) fun same => ?_
      obtain ⟨rfl, -⟩ := List.cons.inj same
      exact absurd digit (by decide)
  | negative number =>
      cases number with
      | mk whole fraction' exponent' =>
          obtain rfl := fraction
          obtain rfl := exponent
          cases fraction'
          cases exponent'
          have zero := whole.eq_zero_iff
          simpa [Numeral.integer] using zero

end Grammar

/-! ### What is read from a token -/

variable {s rest : List Char} {numeral : Numeral}

/-- **What is read from a token**: the number that it means, or that it is out of range. -/
theorem readValue_of_token {t : List Char} (levels : Nat) (blanks : Blanks t s)
    (h : Token s numeral rest) (detached : Detached rest) : readValue levels t =
      match numeral.value? with
      | some n => .ok (.num n, rest)
      | none => .error ⟨.numberOutOfRange, byteCount rest + numeral.excess⟩ := by
  have read : ∀ item, readValueWith item t =
      match numeral.value? with
      | some n => .ok (.num n, rest)
      | none => .error ⟨.numberOutOfRange, byteCount rest + numeral.excess⟩ := by
    intro item
    rw [readValueWith_of_blanks blanks]
    cases h with
    | natural number =>
        obtain ⟨d, s', rfl, digit⟩ := number.cons.1
        rw [readValueWith_digit item digit]
        exact readNumber_of_unsigned number detached
    | negative number => exact readNumber_of_unsigned number detached
  cases levels <;> exact read _

end BridgeChannel.Json
