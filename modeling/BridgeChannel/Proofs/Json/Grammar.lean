/-
**The grammar of JSON texts, and what a text says.**

The grammar tells which texts spell a value.  A spelling is a relation between the characters that
are left before and after it, with the value that stands in between: the front of the first list
spells the value, and the second list is what follows.  Nothing is said of the order in which
characters are looked at, nor of what is wrong with a text that spells nothing.

The members of an object are spelled in some order, and keys may be repeated; as a value, the object
is the map in which the last value of each key counts.

Main definitions:

* `Json.Spelling` — relations between the characters before, a value, and the characters after;
* `Grammar.Content`, `Grammar.Digits`, `Grammar.Unsigned` — strings and numbers;
* `Grammar.Elements`, `Grammar.Members`, `Grammar.Object` — the inside of arrays and objects, where
  the spelling of their parts is given;
* `Grammar.Value` — values in which arrays and objects nest so many levels deep;
* `Json.Spells`, `Json.SpellsObject` — texts that spell a value, or an object with its members as
  they are written.

Main results: `Firm.value` — a spelling starts with a character that is no blank, and is not empty;
`exists_value?_eq_integer_iff` — which numerals mean an integer.
-/
import BridgeChannel.Json.Parser
import BridgeChannel.Proofs.Json.RoundTrip

set_option autoImplicit false

namespace BridgeChannel.Json

/-- What may stand at the front of a text: `P s a rest` says that `s` starts with a spelling of `a`,
and that `rest` follows it. -/
abbrev Spelling (α : Type) := List Char → α → List Char → Prop

namespace Grammar

/-! ### Blanks -/

/-- Any number of blanks. -/
inductive Blanks : List Char → List Char → Prop
  | none (s : List Char) : Blanks s s
  | one {c : Char} {s rest : List Char} : isBlank c = true → Blanks s rest → Blanks (c :: s) rest

/-- A spelling with blanks on both sides. -/
def Padded {α : Type} (spelling : Spelling α) : Spelling α := fun s a rest =>
  ∃ first last, Blanks s first ∧ spelling first a last ∧ Blanks last rest

/-! ### Strings -/

/-- The content of a string, up to and including the closing quote. -/
inductive Content : Spelling (List Char)
  | close (rest : List Char) : Content ('"' :: rest) [] rest
  | plain {c : Char} {s content rest : List Char} : 0x20 ≤ c.toNat → c ≠ '"' → c ≠ '\\' →
      Content s content rest → Content (c :: s) (c :: content) rest
  | short {letter c : Char} {s content rest : List Char} : shortEscape? letter = some c →
      Content s content rest → Content ('\\' :: letter :: s) (c :: content) rest
  /-- Four hexadecimal digits that are no part of a pair of surrogates. -/
  | unit {a b c d : Char} {n : Nat} {s content rest : List Char} : hexFour? a b c d = some n →
      isLeadingSurrogate n = false → isTrailingSurrogate n = false → Content s content rest →
      Content ('\\' :: 'u' :: a :: b :: c :: d :: s) (Char.ofNat n :: content) rest
  | pair {a b c d a' b' c' d' : Char} {n m : Nat} {s content rest : List Char} :
      hexFour? a b c d = some n → isLeadingSurrogate n = true →
      hexFour? a' b' c' d' = some m → isTrailingSurrogate m = true → Content s content rest →
      Content ('\\' :: 'u' :: a :: b :: c :: d :: '\\' :: 'u' :: a' :: b' :: c' :: d' :: s)
        (ofSurrogates n m :: content) rest

/-! ### Numbers -/

/-- One digit or more. -/
structure Digits (s digits rest : List Char) : Prop where
  split : s = digits ++ rest
  some : digits ≠ []
  all : ∀ c ∈ digits, c.isDigit = true

/-- The whole part of a number: a zero alone, or digits of which the first is no zero. -/
inductive Whole : Spelling (List Char)
  | zero (rest : List Char) : Whole ('0' :: rest) ['0'] rest
  | digits {d : Char} {s ds rest : List Char} : d ≠ '0' → Digits s (d :: ds) rest →
      Whole s (d :: ds) rest

/-- The fraction of a number, if there is one. -/
inductive Fraction : Spelling (Option (List Char))
  | none (s : List Char) : Fraction s none s
  | some {s ds rest : List Char} : Digits s ds rest → Fraction ('.' :: s) (some ds) rest

/-- The exponent of a number, if there is one, and whether it is negative. -/
inductive Exponent : Spelling (Option (Bool × List Char))
  | none (s : List Char) : Exponent s none s
  | bare {e : Char} {s ds rest : List Char} : e = 'e' ∨ e = 'E' → Digits s ds rest →
      Exponent (e :: s) (some (false, ds)) rest
  | plus {e : Char} {s ds rest : List Char} : e = 'e' ∨ e = 'E' → Digits s ds rest →
      Exponent (e :: '+' :: s) (some (false, ds)) rest
  | minus {e : Char} {s ds rest : List Char} : e = 'e' ∨ e = 'E' → Digits s ds rest →
      Exponent (e :: '-' :: s) (some (true, ds)) rest

/-- A number after its sign. -/
inductive Unsigned (negative : Bool) : Spelling Numeral
  | mk {s s' s'' whole rest : List Char} {fraction : Option (List Char)}
      {exponent : Option (Bool × List Char)} : Whole s whole s' → Fraction s' fraction s'' →
      Exponent s'' exponent rest → Unsigned negative s ⟨negative, whole, fraction, exponent⟩ rest

/-! ### Values -/

/-- A value without parts.  A number has to be in range. -/
inductive Plain : Spelling Json
  | null (rest : List Char) : Plain ("null".toList ++ rest) .null rest
  | true_ (rest : List Char) : Plain ("true".toList ++ rest) (.bool true) rest
  | false_ (rest : List Char) : Plain ("false".toList ++ rest) (.bool false) rest
  | string {s content rest : List Char} : Content s content rest →
      Plain ('"' :: s) (.str (String.ofList content)) rest
  | natural {s rest : List Char} {numeral : Numeral} {n : Number} :
      Unsigned false s numeral rest → numeral.value? = some n → Plain s (.num n) rest
  | negative {s rest : List Char} {numeral : Numeral} {n : Number} :
      Unsigned true s numeral rest → numeral.value? = some n → Plain ('-' :: s) (.num n) rest

/-- One element or more with commas in between, up to and including the closing bracket. -/
inductive Elements (part : Spelling Json) : Spelling (List Json)
  | last {s rest : List Char} {e : Json} : Padded part s e (']' :: rest) → Elements part s [e] rest
  | more {s s' rest : List Char} {e : Json} {es : List Json} : Padded part s e (',' :: s') →
      Elements part s' es rest → Elements part s (e :: es) rest

/-- A key with its quotes and a colon. -/
def Key (s : List Char) (key : String) (rest : List Char) : Prop :=
  ∃ first content last, Blanks s ('"' :: first) ∧ Content first content last ∧
    key = String.ofList content ∧ Blanks last (':' :: rest)

/-- One member or more with commas in between, up to and including the closing brace. -/
inductive Members (part : Spelling Json) : Spelling (List Member)
  | last {s s' rest : List Char} {k : String} {v : Json} : Key s k s' →
      Padded part s' v ('\x7d' :: rest) → Members part s [(k, v)] rest
  | more {s s' s'' rest : List Char} {k : String} {v : Json} {ms : List Member} : Key s k s' →
      Padded part s' v (',' :: s'') → Members part s'' ms rest →
      Members part s ((k, v) :: ms) rest

/-- An array. -/
inductive Array (part : Spelling Json) : Spelling (List Json)
  | empty {s rest : List Char} : Blanks s (']' :: rest) → Array part ('[' :: s) [] rest
  | elements {s rest : List Char} {es : List Json} : Elements part s es rest →
      Array part ('[' :: s) es rest

/-- An object, with its members as they are written. -/
inductive Object (part : Spelling Json) : Spelling (List Member)
  | empty {s rest : List Char} : Blanks s ('\x7d' :: rest) → Object part ('\x7b' :: s) [] rest
  | members {s rest : List Char} {ms : List Member} : Members part s ms rest →
      Object part ('\x7b' :: s) ms rest

/-- A value with parts.  The last value of a repeated key counts. -/
inductive Compound (part : Spelling Json) : Spelling Json
  | array {s rest : List Char} {es : List Json} : Array part s es rest →
      Compound part s (.arr es) rest
  | object {s rest : List Char} {ms : List Member} : Object part s ms rest →
      Compound part s (.obj (ofMembers ms)) rest

/-- A value in which arrays and objects nest at most so many levels deep. -/
def Value : Nat → Spelling Json
  | 0 => Plain
  | levels + 1 => fun s j rest => Plain s j rest ∨ Compound (Value levels) s j rest

end Grammar

/-- A text spells a value: it holds that value and blanks, and nothing else.  Arrays and objects
nest at most 127 levels deep. -/
def Spells (text : String) (j : Json) : Prop :=
  Grammar.Padded (Grammar.Value 127) text.toList j []

/-- A text spells an object with its members as they are written, in their order and with keys
repeated. -/
def SpellsObject (text : String) (ms : List Member) : Prop :=
  Grammar.Padded (Grammar.Object (Grammar.Value 126)) text.toList ms []

namespace Grammar

/-! ### Blanks are skipped -/

namespace Blanks

theorem trans {s t u : List Char} (h : Blanks s t) (h' : Blanks t u) : Blanks s u := by
  induction h with
  | none => exact h'
  | one hc _ ih => exact one hc (ih h')

theorem length {s rest : List Char} (h : Blanks s rest) : rest.length ≤ s.length := by
  induction h with
  | none => exact Nat.le_refl _
  | one _ _ ih => exact Nat.le_succ_of_le ih

theorem skipBlanks (s : List Char) : Blanks s (skipBlanks s) := by
  induction s with
  | nil => exact none []
  | cons c s ih =>
      cases hc : isBlank c with
      | true =>
          have skipped : Json.skipBlanks (c :: s) = Json.skipBlanks s := by
            simp [Json.skipBlanks, hc]
          rw [skipped]
          exact one hc ih
      | false =>
          rw [skipBlanks_cons hc]
          exact none _

/-- Blanks make no difference to what is left without them. -/
theorem skipBlanks_eq {s rest : List Char} (h : Blanks s rest) :
    Json.skipBlanks s = Json.skipBlanks rest := by
  induction h with
  | none => rfl
  | one hc _ ih =>
      rw [← ih]
      simp [Json.skipBlanks, hc]

theorem skipBlanks_cons_eq {c : Char} {s rest : List Char} (h : Blanks s (c :: rest))
    (visible : isBlank c = false) : Json.skipBlanks s = c :: rest := by
  rw [h.skipBlanks_eq, skipBlanks_cons visible]

/-- What is left without the blanks is left after the blanks alone. -/
theorem of_skipBlanks {s rest : List Char} (h : Json.skipBlanks s = rest) : Blanks s rest :=
  h ▸ skipBlanks s

end Blanks

/-- Blanks, and the marks between values, end a number. -/
theorem detached_of_blanks {s : List Char} {c : Char} {rest : List Char} (h : Blanks s (c :: rest))
    (detached : Detached (c :: rest)) : Detached s := by
  cases h with
  | none => exact detached
  | @one b s _ hb _ =>
      simp only [isBlank, Bool.or_eq_true, beq_iff_eq] at hb
      rcases hb with ((rfl | rfl) | rfl) | rfl <;>
        exact detached_cons s (by decide) (by decide) (by decide)

theorem detached_of_blanks_nil {s : List Char} (h : Blanks s []) : Detached s := by
  cases h with
  | none => trivial
  | @one b s _ hb _ =>
      simp only [isBlank, Bool.or_eq_true, beq_iff_eq] at hb
      rcases hb with ((rfl | rfl) | rfl) | rfl <;>
        exact detached_cons s (by decide) (by decide) (by decide)

/-! ### How a spelling starts, and that it takes characters -/

/-- A spelling takes at least one character, and the first one is no blank and closes nothing. -/
structure Firm {α : Type} (spelling : Spelling α) : Prop where
  shorter : ∀ {s a rest}, spelling s a rest → rest.length < s.length
  visible : ∀ {s a rest}, spelling s a rest →
    ∃ c s', s = c :: s' ∧ isBlank c = false ∧ c ≠ ']'

theorem Content.shorter {s content rest : List Char} (h : Content s content rest) :
    rest.length < s.length := by
  induction h with
  | close => exact Nat.lt_succ_self _
  | plain _ _ _ _ ih => exact Nat.lt_succ_of_lt ih
  | short _ _ ih => simp only [List.length_cons]; omega
  | unit _ _ _ _ ih => simp only [List.length_cons]; omega
  | pair _ _ _ _ _ ih => simp only [List.length_cons]; omega

theorem Digits.shorter {s ds rest : List Char} (h : Digits s ds rest) : rest.length < s.length := by
  have positive : 0 < ds.length := List.length_pos_iff.2 h.some
  rw [h.split, List.length_append]
  omega

/-- A whole part starts with a digit. -/
theorem Whole.cons {s whole rest : List Char} (h : Whole s whole rest) :
    (∃ d s', s = d :: s' ∧ d.isDigit = true) ∧ rest.length < s.length := by
  cases h with
  | zero => exact ⟨⟨'0', rest, rfl, by decide⟩, Nat.lt_succ_self _⟩
  | @digits d s ds _ _ digits =>
      exact ⟨⟨d, ds ++ rest, digits.split, digits.all d List.mem_cons_self⟩, digits.shorter⟩

theorem Fraction.length {s rest : List Char} {fraction : Option (List Char)}
    (h : Fraction s fraction rest) : rest.length ≤ s.length := by
  cases h with
  | none => exact Nat.le_refl _
  | some digits => exact Nat.le_succ_of_le (Nat.le_of_lt digits.shorter)

theorem Exponent.length {s rest : List Char} {exponent : Option (Bool × List Char)}
    (h : Exponent s exponent rest) : rest.length ≤ s.length := by
  cases h with
  | none => exact Nat.le_refl _
  | bare _ digits => have := digits.shorter; simp only [List.length_cons]; omega
  | plus _ digits => have := digits.shorter; simp only [List.length_cons]; omega
  | minus _ digits => have := digits.shorter; simp only [List.length_cons]; omega

theorem Unsigned.cons {negative : Bool} {s rest : List Char} {numeral : Numeral}
    (h : Unsigned negative s numeral rest) :
    (∃ d s', s = d :: s' ∧ d.isDigit = true) ∧ rest.length < s.length := by
  cases h with
  | mk whole fraction exponent =>
      obtain ⟨first, shorter⟩ := whole.cons
      have fraction := fraction.length
      have exponent := exponent.length
      exact ⟨first, by omega⟩

theorem Firm.plain : Firm Plain where
  shorter h := by
    cases h with
    | null => simp; omega
    | true_ => simp; omega
    | false_ => simp; omega
    | string content => exact Nat.lt_succ_of_lt content.shorter
    | natural number => exact number.cons.2
    | negative number => exact Nat.lt_succ_of_lt number.cons.2
  visible h := by
    cases h with
    | null => exact ⟨'n', _, rfl, by decide, by decide⟩
    | true_ => exact ⟨'t', _, rfl, by decide, by decide⟩
    | false_ => exact ⟨'f', _, rfl, by decide, by decide⟩
    | string => exact ⟨'"', _, rfl, by decide, by decide⟩
    | natural number =>
        obtain ⟨d, s', rfl, hd⟩ := number.cons.1
        exact ⟨d, s', rfl, plain_of_isDigit hd⟩
    | negative => exact ⟨'-', _, rfl, by decide, by decide⟩

theorem Key.shorter {s rest : List Char} {key : String} (h : Key s key rest) :
    rest.length + 2 < s.length := by
  obtain ⟨first, content, last, before, spelled, -, after⟩ := h
  have start := before.length
  have middle := spelled.shorter
  have end_ := after.length
  simp only [List.length_cons] at start end_
  omega

section Parts

variable {part : Spelling Json} (firm : Firm part)

include firm

theorem Firm.padded_shorter {s rest : List Char} {j : Json} (h : Padded part s j rest) :
    rest.length < s.length := by
  obtain ⟨first, last, before, spelled, after⟩ := h
  have start := before.length
  have middle := firm.shorter spelled
  have end_ := after.length
  omega

/-- There are at least as many characters as elements. -/
theorem Firm.elements_shorter {s rest : List Char} {es : List Json} (h : Elements part s es rest) :
    es.length + rest.length < s.length := by
  induction h with
  | last padded =>
      have shorter := firm.padded_shorter padded
      simp only [List.length_cons, List.length_nil] at shorter ⊢
      omega
  | more padded _ ih =>
      have shorter := firm.padded_shorter padded
      simp only [List.length_cons] at shorter ⊢
      omega

theorem Firm.members_shorter {s rest : List Char} {ms : List Member} (h : Members part s ms rest) :
    ms.length + rest.length < s.length := by
  induction h with
  | last key padded =>
      have first := key.shorter
      have shorter := firm.padded_shorter padded
      simp only [List.length_cons, List.length_nil] at shorter ⊢
      omega
  | more key padded _ ih =>
      have first := key.shorter
      have shorter := firm.padded_shorter padded
      simp only [List.length_cons] at shorter ⊢
      omega

theorem Firm.compound : Firm (Compound part) where
  shorter h := by
    cases h with
    | array array =>
        cases array with
        | empty blanks =>
            have shorter := blanks.length
            simp only [List.length_cons] at shorter ⊢
            omega
        | elements elements =>
            have shorter := firm.elements_shorter elements
            simp only [List.length_cons]
            omega
    | object object =>
        cases object with
        | empty blanks =>
            have shorter := blanks.length
            simp only [List.length_cons] at shorter ⊢
            omega
        | members members =>
            have shorter := firm.members_shorter members
            simp only [List.length_cons]
            omega
  visible h := by
    cases h with
    | array array => cases array <;> exact ⟨'[', _, rfl, by decide, by decide⟩
    | object object => cases object <;> exact ⟨'\x7b', _, rfl, by decide, by decide⟩

end Parts

/-- A value is spelled with at least one character, the first of which is no blank. -/
theorem Firm.value (levels : Nat) : Firm (Value levels) := by
  induction levels with
  | zero => exact Firm.plain
  | succ levels ih =>
      have compound := Firm.compound ih
      constructor
      · rintro s j rest (plain | parts)
        · exact Firm.plain.shorter plain
        · exact compound.shorter parts
      · rintro s j rest (plain | parts)
        · exact Firm.plain.visible plain
        · exact compound.visible parts

end Grammar

/-! ### Numerals that mean an integer -/

theorem Numeral.value?_eq_integer_iff {numeral : Numeral} {n : Int} {fits : FitsWord n} :
    numeral.value? = some (.integer n fits) ↔
      numeral.fraction = none ∧ numeral.exponent = none ∧
        ¬(numeral.negative = true ∧ numeral.integer = 0) ∧ numeral.integer = n := by
  have double : ∀ x : Option Float, x.map Number.double ≠ some (.integer n fits) := by
    intro x
    cases x <;> simp
  unfold Numeral.value?
  by_cases written : numeral.isInteger = true
  · obtain ⟨fraction, exponent⟩ : numeral.fraction = none ∧ numeral.exponent = none := by
      simpa [Numeral.isInteger] using written
    by_cases zero : numeral.negative = true ∧ numeral.integer = 0
    · simp [written, zero, double]
    · have kept : (numeral.negative && numeral.integer == 0) = false := by simpa using zero
      rw [written, kept]
      simp only [Bool.not_false, Bool.and_self, if_true, fraction, exponent, zero,
        not_false_eq_true, true_and]
      by_cases within : FitsWord numeral.integer
      · simp [Number.ofInt?_of_fits within]
      · rw [Number.ofInt?_eq_none within]
        constructor
        · exact fun h => absurd h (double _)
        · rintro rfl
          exact absurd fits within
  · have unwritten : ¬(numeral.fraction = none ∧ numeral.exponent = none) := by
      simpa [Numeral.isInteger] using written
    constructor
    · intro h
      rw [Bool.not_eq_true] at written
      rw [written] at h
      exact absurd h (double _)
    · rintro ⟨fraction, exponent, -⟩
      exact absurd ⟨fraction, exponent⟩ unwritten

/-- **A numeral means an integer exactly if it is written without fraction and exponent, is no
negative zero, and fits a word.** -/
theorem Numeral.exists_value?_eq_integer_iff {numeral : Numeral} {n : Int} :
    (∃ fits, numeral.value? = some (.integer n fits)) ↔
      numeral.fraction = none ∧ numeral.exponent = none ∧
        ¬(numeral.negative = true ∧ numeral.integer = 0) ∧ numeral.integer = n ∧ FitsWord n := by
  constructor
  · rintro ⟨fits, h⟩
    obtain ⟨fraction, exponent, nonzero, value⟩ := Numeral.value?_eq_integer_iff.1 h
    exact ⟨fraction, exponent, nonzero, value, fits⟩
  · rintro ⟨fraction, exponent, nonzero, value, fits⟩
    exact ⟨fits, Numeral.value?_eq_integer_iff.2 ⟨fraction, exponent, nonzero, value⟩⟩

end BridgeChannel.Json
