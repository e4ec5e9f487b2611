/-
Lengths of time, and the way log lines and error messages write them.

A length is a number of seconds and a number of nanoseconds below one second. It is written in the
largest of the units `s`, `ms`, `µs` and `ns` in which it is at least one, with the fraction that is
left and without trailing zeros.

Main definitions:

* `Duration` — seconds and nanoseconds;
* `Duration.text` — the written form, such as `10s`, `1.5s`, `300ms` or `1.5µs`.
-/

set_option autoImplicit false

namespace BridgeChannel

/-- A length of time. -/
structure Duration where
  seconds : UInt64
  nanos : Fin 1000000000
  deriving DecidableEq, Repr, Inhabited

namespace Duration

/-- A whole number of seconds. -/
def ofSeconds (n : UInt64) : Duration := ⟨n, 0⟩

/-- A whole number of milliseconds. -/
def ofMillis (n : Nat) : Duration :=
  have small : n % 1000 < 1000 := Nat.mod_lt n (by decide)
  ⟨UInt64.ofNat (n / 1000), ⟨n % 1000 * 1000000, by omega⟩⟩

/-- The digits of a fraction of `width` places, without the zeros at its end. -/
def fractionDigits (width n : Nat) : List Char :=
  let digits := Nat.toDigits 10 n
  let padded := List.replicate (width - digits.length) '0' ++ digits
  (padded.reverse.dropWhile (· == '0')).reverse

/-- A quantity in some unit: its whole part, and the `width` places of its fraction. -/
def quantity (whole width fraction : Nat) (unit : String) : String :=
  let places := fractionDigits width fraction
  toString whole ++ (if places.isEmpty then "" else "." ++ String.ofList places) ++ unit

/-- The written form of a length of time. -/
def text (d : Duration) : String :=
  let n := d.nanos.val
  if d.seconds ≠ 0 then quantity d.seconds.toNat 9 n "s"
  else if 1000000 ≤ n then quantity (n / 1000000) 6 (n % 1000000) "ms"
  else if 1000 ≤ n then quantity (n / 1000) 3 (n % 1000) "µs"
  else quantity n 0 0 "ns"

end Duration

end BridgeChannel
