/-
The shortest decimal that reads back as a given double.

A double stands for every real number that rounds to it. Among the multiples of `10^p` in that
interval, for the largest `p` that has one, the decimal chosen is the one nearest to the double; of
two equally near the even one is chosen.

Main definitions:

* `Decimal.Dyadic` — a number `m · 2^q` with the quarter steps to the ends of its interval;
* `Decimal.Dyadic.ofBits` — the magnitude that the bits of a double stand for;
* `Decimal.Dyadic.nearest` — the nearest multiple of a power of ten inside the interval;
* `Decimal.Dyadic.shortest` — that of the coarsest power of ten, as an integer and an exponent;
* `Decimal.Layout` — where positional notation ends;
* `Decimal.Layout.render` — the written form of an integer times a power of ten.
-/

set_option autoImplicit false

namespace BridgeChannel.Decimal

/-- A positive number `significand · 2^exponent` and the interval of reals that round to it. The
interval reaches half a unit up, and half a unit down, or a quarter where the unit below is half as
large. -/
structure Dyadic where
  significand : Nat
  exponent : Int
  /-- Whether the neighbour below is half a unit away. -/
  closeBelow : Bool
  deriving DecidableEq, Repr

namespace Dyadic

/-- What the bits of a double before its fraction count, `2^52`. -/
def one : Nat := 0x10000000000000

/-- The exponent that the bits of a double hold, without the sign in front of it. -/
def biasedExponent (bits : UInt64) : Nat := bits.toNat / one % 0x800

/-- The magnitude of a finite double, from its bits; the sign is left out. -/
def ofBits (bits : UInt64) : Dyadic :=
  let fraction := bits.toNat % one
  let biased := biasedExponent bits
  if biased = 0 then ⟨fraction, -1074, false⟩
  else ⟨fraction + one, (biased : Int) - 1075, fraction == 0 && decide (1 < biased)⟩

/-- `n` quarter units as a multiple of the common measure of quarter units and `10^p`. -/
def quarters (x : Dyadic) (p : Int) (n : Nat) : Nat :=
  n * Nat.pow 2 (x.exponent - 2).toNat * Nat.pow 10 (-p).toNat

/-- `d · 10^p` as a multiple of the same measure. -/
def grid (x : Dyadic) (p : Int) (d : Nat) : Nat :=
  d * Nat.pow 10 p.toNat * Nat.pow 2 (2 - x.exponent).toNat

/-- Whether `d · 10^p` rounds to the number. Ends of the interval round to an even significand. -/
def contains (x : Dyadic) (p : Int) (d : Nat) : Bool :=
  let low := x.quarters p (4 * x.significand - if x.closeBelow then 1 else 2)
  let high := x.quarters p (4 * x.significand + 2)
  let point := x.grid p d
  if x.significand % 2 = 0 then low ≤ point && point ≤ high else low < point && point < high

/-- The multiple of `10^p` that rounds to the number and is nearest to it, as a factor; the even one
of two equally near. Only the two neighbours of the number have to be tried. -/
def nearest (x : Dyadic) (p : Int) : Option Nat :=
  let value := x.quarters p (4 * x.significand)
  let below := value / x.grid p 1
  let above := below + 1
  match x.contains p below, x.contains p above with
  | false, false => none
  | true, false => some below
  | false, true => some above
  | true, true =>
    let down := value - x.grid p below
    let up := x.grid p above - value
    some (if down < up ∨ (down = up ∧ below % 2 = 0) then below else above)

/-- Searches downwards from `10^p`, for `steps` powers of ten, for one with a multiple that rounds
to the number. -/
def coarsest (x : Dyadic) : Nat → Int → Option (Nat × Int)
  | 0, _ => none
  | steps + 1, p =>
    match x.nearest p with
    | some d => some (d, p)
    | none => coarsest x steps (p - 1)

/-- The shortest decimal that rounds to a positive number: a factor and a power of ten. No double
reaches `10^309`, and every double is a multiple of `10^-1074`. -/
def shortest (x : Dyadic) : Nat × Int := (x.coarsest 1384 309).getD (x.significand, 0)

end Dyadic

/-- How a decimal is laid out: the exponents of the first digit for which positional notation is
used. Outside of them one digit stands before the point, followed by `e` and a signed exponent. -/
structure Layout where
  least : Int
  greatest : Int
  deriving DecidableEq, Repr

/-- Positional notation, with at least one digit on each side of the point. `e` is the exponent of
the first digit. -/
def positional (digits : List Char) (e : Int) : List Char :=
  if e < 0 then '0' :: '.' :: List.replicate (-e - 1).toNat '0' ++ digits
  else
    let whole := digits.take (e + 1).toNat
    let fraction := digits.drop (e + 1).toNat
    whole ++ List.replicate ((e + 1).toNat - whole.length) '0' ++
      '.' :: (if fraction.isEmpty then ['0'] else fraction)

/-- One digit before the point, none after it if it is the only one, and a signed exponent. -/
def scientific (digits : List Char) (e : Int) : List Char :=
  digits.take 1 ++ (if 1 < digits.length then '.' :: digits.drop 1 else []) ++
    'e' :: (if e < 0 then '-' else '+') :: Nat.toDigits 10 e.natAbs

/-- The written form of `factor · 10^power` for a positive factor. -/
def Layout.render (layout : Layout) (factor : Nat) (power : Int) : List Char :=
  let all := Nat.toDigits 10 factor
  let e : Int := power + all.length - 1
  let digits := (all.reverse.dropWhile (· == '0')).reverse
  if layout.least ≤ e ∧ e ≤ layout.greatest then positional digits e else scientific digits e

end BridgeChannel.Decimal
