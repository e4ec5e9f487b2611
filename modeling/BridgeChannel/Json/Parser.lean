/-
Reading a JSON value from a text.

Blank space, strings, numbers and the nesting of values follow the standard. Arrays and objects nest
at most `maxDepth` deep. Members of an object are sorted by key, and the last of a repeated key
counts.

Every reader takes the characters that are left and answers either with what it has read and the
characters after it, or with a `Stop`: the fault, and the number of bytes that nobody has looked at.

Main definitions:

* `Json.Stop`, `Json.Reader`;
* `Json.readText`, `Json.readNumeral` — strings and numbers;
* `Json.readElements`, `Json.readMembers` — the inside of arrays and objects;
* `Json.readValue`, `Json.parse` — values, and texts that hold exactly one.
-/
import BridgeChannel.Json.Value
import BridgeChannel.Json.SyntaxError

set_option autoImplicit false

namespace BridgeChannel.Json

/-- How deep arrays and objects may nest. -/
def maxDepth : Nat := 127

/-- Why reading ended, and how many bytes of the text had not been looked at. -/
structure Stop where
  fault : Fault
  left : Nat
  deriving DecidableEq, Repr

/-- Reads something from the front of a text and returns what is left of it. -/
abbrev Reader (α : Type) := List Char → Except Stop (α × List Char)

/-- A fault at the first byte of what is left, or at the end if nothing is left. -/
def stopAt {α : Type} (fault : Fault) (s : List Char) : Except Stop α :=
  .error ⟨fault, byteCount s - 1⟩

/-- The blanks between tokens. -/
def isBlank (c : Char) : Bool := c == ' ' || c == '\n' || c == '\t' || c == '\r'

def skipBlanks (s : List Char) : List Char := s.dropWhile isBlank

/-! ### Strings -/

/-- The value of a hexadecimal digit. -/
def hexValue? (c : Char) : Option Nat :=
  if '0' ≤ c ∧ c ≤ '9' then some (c.toNat - '0'.toNat)
  else if 'a' ≤ c ∧ c ≤ 'f' then some (c.toNat - 'a'.toNat + 10)
  else if 'A' ≤ c ∧ c ≤ 'F' then some (c.toNat - 'A'.toNat + 10)
  else none

/-- The number that four hexadecimal digits write. -/
def hexFour? (a b c d : Char) : Option Nat := do
  let a ← hexValue? a
  let b ← hexValue? b
  let c ← hexValue? c
  let d ← hexValue? d
  return ((a * 16 + b) * 16 + c) * 16 + d

/-- The character of a two-character escape. -/
def shortEscape? : Char → Option Char
  | '"' => some '"'
  | '\\' => some '\\'
  | '/' => some '/'
  | 'b' => some '\x08'
  | 'f' => some '\x0c'
  | 'n' => some '\n'
  | 'r' => some '\r'
  | 't' => some '\t'
  | _ => none

/-- Four digits were needed at the front of `s` and are not there: fewer than four bytes are a text
that ends too soon, four other bytes are no escape. -/
def stopAtHex {α : Type} (s : List Char) : Except Stop α :=
  if byteCount s < 4 then .error ⟨.endInString, 0⟩ else .error ⟨.invalidEscape, byteCount s - 4⟩

def isLeadingSurrogate (n : Nat) : Bool := 0xd800 ≤ n && n ≤ 0xdbff

def isTrailingSurrogate (n : Nat) : Bool := 0xdc00 ≤ n && n ≤ 0xdfff

/-- The character of a pair of surrogates. -/
def ofSurrogates (leading trailing : Nat) : Char :=
  Char.ofNat ((leading - 0xd800) * 0x400 + (trailing - 0xdc00) + 0x10000)

/-- Reads the rest of a string, up to and including its closing quote. `read` holds the characters
before, the last one first. -/
def readText (read : List Char) : Reader String
  | [] => stopAt .endInString []
  | '"' :: s => .ok (String.ofList read.reverse, s)
  | '\\' :: [] => stopAt .endInString []
  | '\\' :: 'u' :: s =>
    match s with
    | a :: b :: c :: d :: s' =>
      match hexFour? a b c d with
      | none => stopAtHex s
      | some n =>
        if isTrailingSurrogate n then .error ⟨.loneSurrogate, byteCount s'⟩
        else if isLeadingSurrogate n then
          match s' with
          | '\\' :: 'u' :: t =>
            match t with
            | a :: b :: c :: d :: t' =>
              match hexFour? a b c d with
              | none => stopAtHex t
              | some m =>
                if isTrailingSurrogate m then readText (ofSurrogates n m :: read) t'
                else .error ⟨.loneSurrogate, byteCount t'⟩
            | _ => stopAtHex t
          | [] | '\\' :: [] => stopAt .endInString []
          | '\\' :: t => stopAt .brokenSurrogatePair t
          | t => stopAt .brokenSurrogatePair t
        else readText (Char.ofNat n :: read) s'
    | _ => stopAtHex s
  | '\\' :: c :: s =>
    match shortEscape? c with
    | some e => readText (e :: read) s
    | none => stopAt .invalidEscape (c :: s)
  | c :: s => if c.toNat < 0x20 then stopAt .controlCharacter (c :: s) else readText (c :: read) s

/-! ### Numbers -/

/-- The digits at the front of a text, and the rest of it. -/
def digits (s : List Char) : List Char × List Char :=
  (s.takeWhile Char.isDigit, s.dropWhile Char.isDigit)

/-- Reads the whole part of a number: a zero alone, or digits of which the first is no zero. -/
def readWhole : Reader (List Char)
  | [] => stopAt .endInValue []
  | '0' :: s =>
    match s with
    | c :: _ => if c.isDigit then stopAt .invalidNumber s else .ok (['0'], s)
    | [] => .ok (['0'], s)
  | s => if (digits s).1.isEmpty then stopAt .invalidNumber s else .ok (digits s)

/-- Reads the fraction of a number, if there is a point. -/
def readFraction : Reader (Option (List Char))
  | '.' :: s =>
    match digits s with
    | ([], []) => stopAt .endInValue []
    | ([], rest) => stopAt .invalidNumber rest
    | (ds, rest) => .ok (some ds, rest)
  | s => .ok (none, s)

/-- Reads the digits of an exponent. -/
def readExponentDigits (negative : Bool) (s : List Char) :
    Except Stop (Option (Bool × List Char) × List Char) :=
  match digits s with
  | ([], []) => stopAt .endInValue []
  | ([], rest) => stopAt .invalidNumber rest
  | (ds, rest) => .ok (some (negative, ds), rest)

/-- Reads the exponent of a number, if there is one. -/
def readExponent : Reader (Option (Bool × List Char))
  | c :: s =>
    if c = 'e' ∨ c = 'E' then
      match s with
      | '+' :: s => readExponentDigits false s
      | '-' :: s => readExponentDigits true s
      | s => readExponentDigits false s
    else .ok (none, c :: s)
  | [] => .ok (none, [])

/-- Reads a number as it is written, after its sign. -/
def readNumeral (negative : Bool) (s : List Char) : Except Stop (Numeral × List Char) := do
  let (whole, s) ← readWhole s
  let (fraction, s) ← readFraction s
  let (exponent, s) ← readExponent s
  return (⟨negative, whole, fraction, exponent⟩, s)

/-- Reads a number, after its sign. -/
def readNumber (negative : Bool) (s : List Char) : Except Stop (Json × List Char) := do
  let (numeral, s) ← readNumeral negative s
  match numeral.value? with
  | some n => return (.num n, s)
  | none => .error ⟨.numberOutOfRange, byteCount s + numeral.excess⟩

/-! ### Values -/

/-- Reads the rest of a word of letters. -/
def readWord (value : Json) : List Char → Reader Json
  | [], s => .ok (value, s)
  | _ :: _, [] => stopAt .endInValue []
  | w :: word, c :: s => if w = c then readWord value word s else stopAt .expectedIdent (c :: s)

/-- Reads the elements of an array from the first one on, up to and including the closing bracket.
`read` holds the elements before, the last one first; each step takes an element off the text, so
that as many steps as the text has characters are enough. -/
def readElements (item : Reader Json) : Nat → List Json → Reader (List Json)
  | 0, _, s => stopAt .endInList s
  | steps + 1, read, s => do
    let (e, s) ← item s
    match skipBlanks s with
    | [] => stopAt .endInList []
    | ']' :: s => return ((e :: read).reverse, s)
    | ',' :: s =>
      match skipBlanks s with
      | ']' :: s => stopAt .trailingComma (']' :: s)
      | s => readElements item steps (e :: read) s
    | s => stopAt .expectedCommaOrBracket s

/-- Reads an array after its opening bracket. -/
def readArray (item : Reader Json) : Reader Json := fun s =>
  match skipBlanks s with
  | [] => stopAt .endInList []
  | ']' :: s => .ok (.arr [], s)
  | s => do
    let (es, s) ← readElements item s.length [] s
    return (.arr es, s)

/-- Reads the members of an object from the first one on, whose opening quote is gone, up to and
including the closing brace. `read` holds the members before, the last one first; the number of
steps is as for elements. -/
def readMembers (item : Reader Json) : Nat → List Member → Reader (List Member)
  | 0, _, s => stopAt .endInObject s
  | steps + 1, read, s => do
    let (k, s) ← readText [] s
    match skipBlanks s with
    | [] => stopAt .endInObject []
    | ':' :: s =>
      let (v, s) ← item s
      match skipBlanks s with
      | [] => stopAt .endInObject []
      | '}' :: s => return (((k, v) :: read).reverse, s)
      | ',' :: s =>
        match skipBlanks s with
        | [] => stopAt .endInValue []
        | '"' :: s => readMembers item steps ((k, v) :: read) s
        | '}' :: s => stopAt .trailingComma ('}' :: s)
        | s => stopAt .keyNotAString s
      | s => stopAt .expectedCommaOrBrace s
    | s => stopAt .expectedColon s

/-- Reads an object after its opening brace. -/
def readObject (item : Reader Json) : Reader Json := fun s =>
  match skipBlanks s with
  | [] => stopAt .endInObject []
  | '}' :: s => .ok (.obj [], s)
  | '"' :: s => do
    let (ms, s) ← readMembers item (s.length + 1) [] s
    return (.obj (ofMembers ms), s)
  | s => stopAt .keyNotAString s

/-- Reads a value; `item` reads the parts of arrays and objects, if another level may be opened. -/
def readValueWith (item : Option (Reader Json)) : Reader Json := fun s =>
  match skipBlanks s with
  | [] => stopAt .endInValue []
  | 'n' :: s => readWord .null "ull".toList s
  | 't' :: s => readWord (.bool true) "rue".toList s
  | 'f' :: s => readWord (.bool false) "alse".toList s
  | '"' :: s => do
    let (t, s) ← readText [] s
    return (.str t, s)
  | '-' :: s => readNumber true s
  | '[' :: s =>
    match item with
    | some item => readArray item s
    | none => stopAt .nestedTooDeep ('[' :: s)
  | '{' :: s =>
    match item with
    | some item => readObject item s
    | none => stopAt .nestedTooDeep ('{' :: s)
  | c :: s => if c.isDigit then readNumber false (c :: s) else stopAt .expectedValue (c :: s)

/-- Reads a value in which arrays and objects nest at most `levels` deep. -/
def readValue : Nat → Reader Json
  | 0 => readValueWith none
  | levels + 1 => readValueWith (some (readValue levels))

/-- Reads a text that holds one value and nothing else. -/
def readDocument (s : List Char) : Except Stop Json := do
  let (j, s) ← readValue maxDepth s
  match skipBlanks s with
  | [] => return j
  | s => stopAt .trailingCharacters s

/-- The value that a text holds, or the first fault in it and its place. -/
def parse (s : String) : Except SyntaxError Json :=
  match readDocument s.toList with
  | .ok j => .ok j
  | .error stop => .error ⟨stop.fault, position s.toList (byteCount s.toList - stop.left)⟩

end BridgeChannel.Json
