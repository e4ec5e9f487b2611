/-
The compact written form of a JSON value.

No blank is written between tokens. In a string a quote, a backslash and the controls below U+0020
are escaped, with a two-character escape where JSON has one; everything else is written as it is.

Main definitions:

* `Json.escaped`, `Json.quote` — strings;
* `Json.chars`, `Json.text` — the written form of a value.
-/
import BridgeChannel.Json.Value

set_option autoImplicit false

namespace BridgeChannel.Json

/-- The lower-case hexadecimal digit of a number below sixteen. -/
def hexDigit (n : Nat) : Char := Nat.digitChar (n % 16)

/-- The written form of one character of a string. -/
def escaped (c : Char) : List Char :=
  match c with
  | '"' => ['\\', '"']
  | '\\' => ['\\', '\\']
  | '\x08' => ['\\', 'b']
  | '\t' => ['\\', 't']
  | '\n' => ['\\', 'n']
  | '\x0c' => ['\\', 'f']
  | '\r' => ['\\', 'r']
  | c =>
    if c.toNat < 0x20 then ['\\', 'u', '0', '0', hexDigit (c.toNat / 16), hexDigit c.toNat] else [c]

/-- The written form of a string. -/
def quote (s : String) : List Char := '"' :: s.toList.flatMap escaped ++ ['"']

mutual

/-- The written form of a value. -/
def chars : Json → List Char
  | .null => "null".toList
  | .bool true => "true".toList
  | .bool false => "false".toList
  | .num n => n.chars
  | .str s => quote s
  | .arr [] => ['[', ']']
  | .arr (e :: es) => '[' :: e.chars ++ charsElements es ++ [']']
  | .obj [] => ['{', '}']
  | .obj ((k, v) :: ms) => '{' :: quote k ++ ':' :: v.chars ++ charsMembers ms ++ ['}']

/-- The elements after the first, each behind a comma. -/
def charsElements : List Json → List Char
  | [] => []
  | e :: es => ',' :: e.chars ++ charsElements es

/-- The members after the first, each behind a comma. -/
def charsMembers : List Member → List Char
  | [] => []
  | (k, v) :: ms => ',' :: quote k ++ ':' :: v.chars ++ charsMembers ms

end

/-- The compact written form of a value. -/
def text (j : Json) : String := String.ofList j.chars

end BridgeChannel.Json
