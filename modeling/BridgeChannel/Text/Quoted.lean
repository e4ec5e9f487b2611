/-
Quoted text, as it appears in log lines and error messages.

A quoted text stands between double quotes. A quote, a backslash, a line feed, a carriage return, a
tab and a null have a two-character escape; any other character without a shape of its own is
written as its code point in hexadecimal.

Main definitions:

* `Text.escaped` — the written form of one character;
* `Text.quoted` — the written form of a text.
-/
import BridgeChannel.Text.Extender

set_option autoImplicit false

namespace BridgeChannel.Text

/-- A code point in hexadecimal, between braces. -/
def codePoint (c : Char) : List Char :=
  "\\u\x7b".toList ++ Nat.toDigits 16 c.toNat ++ ['\x7d']

/-- Whether a character is written as it is; the visible part of ASCII needs no table. -/
def standsAlone (c : Char) : Bool :=
  if c.toNat < 0x7f then 0x20 ≤ c.toNat else !isExtender c && isPrintable c

/-- The written form of one character inside a quoted text. -/
def escaped (c : Char) : List Char :=
  match c with
  | '"' => ['\\', '"']
  | '\\' => ['\\', '\\']
  | '\n' => ['\\', 'n']
  | '\r' => ['\\', 'r']
  | '\t' => ['\\', 't']
  | '\x00' => ['\\', '0']
  | c => if standsAlone c then [c] else codePoint c

/-- A text between double quotes, with every character in its written form. -/
def quoted (s : String) : String :=
  String.ofList ('"' :: s.toList.flatMap escaped ++ ['"'])

end BridgeChannel.Text
