/-
Numbers of a JSON text.

A number written as an integer between `-2^63` and `2^64 - 1` is kept exactly, with the one
exception of `-0`; every other number is a double. Doubles are not rounded correctly: the digits are
gathered in a 64-bit significand, digits that no longer fit are dropped, and the significand is then
scaled by a power of ten.

Main definitions:

* `Json.Number` — an exact integer or a double;
* `Json.Number.same` — equality that compares doubles as numbers;
* `Json.Number.text` — the written form;
* `Json.Numeral` — a number as it is written;
* `Json.Numeral.value?` — the number that is meant, unless it is too large.

Main results: `Number.same_integer_iff`, `Numeral.value?_integer`.
-/
import BridgeChannel.Decimal.Shortest

set_option autoImplicit false

namespace BridgeChannel

namespace Json

/-- Whether an integer fits a word of 64 bits, with a sign if it is negative and without one if it
is not: it is at least `-2^63` and less than `2^64`. -/
def FitsWord (n : Int) : Prop := -9223372036854775808 ≤ n ∧ n < 18446744073709551616

instance (n : Int) : Decidable (FitsWord n) := inferInstanceAs (Decidable (_ ∧ _))

/-- A number: an integer that fits a word, kept exactly, or a double. -/
inductive Number where
  | integer (value : Int) (fits : FitsWord value)
  | double (value : Float)
  deriving DecidableEq

namespace Number

/-- The number of an integer that fits. -/
def ofInt? (n : Int) : Option Number :=
  if h : FitsWord n then some (.integer n h) else none

theorem ofInt?_of_fits {n : Int} (h : FitsWord n) : ofInt? n = some (.integer n h) := by
  simp [ofInt?, h]

theorem ofInt?_eq_none {n : Int} (h : ¬FitsWord n) : ofInt? n = none := by
  simp [ofInt?, h]

/-- Equality of numbers: integers are compared as integers and doubles as doubles, so that the two
zeros agree; an integer is no double. -/
def same : Number → Number → Bool
  | integer m _, integer n _ => m == n
  | double x, double y => x == y
  | _, _ => false

@[simp] theorem same_integer_iff (m n : Int) (hm : FitsWord m) (hn : FitsWord n) :
    same (.integer m hm) (.integer n hn) = true ↔ m = n := by
  simp [same]

/-- Doubles are written in positional notation from `10^-5` to below `10^16`. -/
def layout : Decimal.Layout := ⟨-5, 15⟩

/-- The written form of a double: a sign, then the shortest decimal that reads back. What is no
number has no form of its own. -/
def doubleChars (x : Float) : List Char :=
  let bits := x.toBits
  let sign := if 0x8000000000000000 ≤ bits then ['-'] else []
  if Decimal.Dyadic.biasedExponent bits = 2047 then "null".toList
  else if bits = 0 ∨ bits = 0x8000000000000000 then sign ++ "0.0".toList
  else
    let (factor, power) := (Decimal.Dyadic.ofBits bits).shortest
    sign ++ layout.render factor power

/-- The written form of a number. -/
def chars : Number → List Char
  | integer n _ => if n < 0 then '-' :: Nat.toDigits 10 n.natAbs else Nat.toDigits 10 n.natAbs
  | double x => doubleChars x

/-- The written form of a number, as a text. -/
def text (n : Number) : String := String.ofList n.chars

end Number

/-! ### Numbers as they are written -/

/-- A number as it is written: the digits of its whole part, of its fraction if there is a point,
and of its exponent if there is one, with the sign of that exponent. -/
structure Numeral where
  negative : Bool
  whole : List Char
  fraction : Option (List Char)
  exponent : Option (Bool × List Char)
  deriving DecidableEq, Repr

/-- Appends digits to a significand as long as it stays below `2^64`; the digits that are left over
are returned with it. -/
def gather (significand : Nat) : List Char → Nat × List Char
  | [] => (significand, [])
  | c :: cs =>
    let next := 10 * significand + (c.toNat - '0'.toNat)
    if next < UInt64.size then gather next cs else (significand, c :: cs)

/-- The double nearest to `10^k`. -/
def tenTo (k : Nat) : Float := Float.ofScientific 1 false k

/-- Divides by `10^k`, in steps of `10^308`. -/
def shrink (x : Float) (k : Nat) : Float :=
  if k ≤ 308 then x / tenTo k
  else if x == 0 then x
  else shrink (x / tenTo 308) (k - 308)
termination_by k

/-- Multiplies by `10^e`; there is no result beyond the largest double. -/
def scaled? (x : Float) (e : Int) : Option Float :=
  if e < 0 then some (shrink x e.natAbs)
  else if e ≤ 308 then
    let y := x * tenTo e.natAbs
    if y.isInf then none else some y
  else if x == 0 then some x
  else none

namespace Numeral

/-- Whether a number is written as an integer. -/
def isInteger (n : Numeral) : Bool := n.fraction.isNone && n.exponent.isNone

/-- The integer that the whole part stands for, with its sign. -/
def integer (n : Numeral) : Int :=
  let magnitude : Nat := Nat.ofDigitChars 10 n.whole 0
  if n.negative then -magnitude else magnitude

/-- The written exponent, with its sign. -/
def written (n : Numeral) : Int :=
  match n.exponent with
  | none => 0
  | some (negative, digits) =>
    let magnitude : Nat := Nat.ofDigitChars 10 digits 0
    if negative then -magnitude else magnitude

/-- The significand, and the power of ten that its digits call for: one for each digit dropped from
the whole part, less one for each digit used of the fraction. -/
def significand (n : Numeral) : Nat × Int :=
  let (whole, dropped) := gather 0 n.whole
  let fraction := n.fraction.getD []
  let (all, unused) := gather whole fraction
  (all, dropped.length - (fraction.length - unused.length : Nat))

/-- The double that is meant, unless it is too large. -/
def double? (n : Numeral) : Option Float :=
  let (digits, power) := n.significand
  (scaled? (UInt64.ofNat digits).toFloat (power + n.written)).map fun x =>
    if n.negative then -x else x

/-- The number that is meant, unless it is too large. -/
def value? (n : Numeral) : Option Number :=
  if n.isInteger && !(n.negative && n.integer == 0) then
    match Number.ofInt? n.integer with
    | some x => some x
    | none => n.double?.map .double
  else n.double?.map .double

/-- An integer that fits, and is not a negative zero, is kept exactly. -/
theorem value?_integer {n : Numeral} (written : n.isInteger = true)
    (zero : (n.negative && n.integer == 0) = false) (fits : FitsWord n.integer) :
    n.value? = some (.integer n.integer fits) := by
  simp [value?, written, zero, Number.ofInt?_of_fits fits]

/-- The number of digits of the exponent after which it is out of range: an exponent beyond 32 bits
of a significand other than zero is refused as soon as it is read. -/
def excess (n : Numeral) : Nat :=
  match n.exponent with
  | some (false, digits) =>
    match (List.range digits.length).find? fun k =>
      2147483648 ≤ Nat.ofDigitChars 10 (digits.take (k + 1)) 0 with
    | some k => digits.length - (k + 1)
    | none => 0
  | _ => 0

end Numeral

end Json

end BridgeChannel
