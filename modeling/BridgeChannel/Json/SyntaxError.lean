/-
Faults of a text that is not JSON, and where they are found.

A fault is reported with a line and a column. Lines are counted from one; the column is the number
of bytes of the line, in UTF-8, that have been looked at. A byte that does not fit has been looked
at; a character that takes several bytes may thus be cut in two.

Main definitions:

* `Json.Fault`, `Json.Fault.message` — what can be wrong, and the wording;
* `Json.byteCount` — the length of a text in UTF-8;
* `Json.position` — line and column after some number of bytes;
* `Json.SyntaxError`, `Json.SyntaxError.message`.
-/

set_option autoImplicit false

namespace BridgeChannel.Json

/-- What can be wrong with a text that should be JSON. -/
inductive Fault where
  | endInValue
  | endInList
  | endInObject
  | endInString
  | expectedValue
  | expectedIdent
  | invalidNumber
  | numberOutOfRange
  | controlCharacter
  | invalidEscape
  | loneSurrogate
  | brokenSurrogatePair
  | expectedCommaOrBracket
  | expectedCommaOrBrace
  | expectedColon
  | trailingComma
  | keyNotAString
  | nestedTooDeep
  | trailingCharacters
  deriving DecidableEq, Repr

/-- The wording of a fault. -/
def Fault.message : Fault → String
  | endInValue => "EOF while parsing a value"
  | endInList => "EOF while parsing a list"
  | endInObject => "EOF while parsing an object"
  | endInString => "EOF while parsing a string"
  | expectedValue => "expected value"
  | expectedIdent => "expected ident"
  | invalidNumber => "invalid number"
  | numberOutOfRange => "number out of range"
  | controlCharacter => "control character (\\u0000-\\u001F) found while parsing a string"
  | invalidEscape => "invalid escape"
  | loneSurrogate => "lone leading surrogate in hex escape"
  | brokenSurrogatePair => "unexpected end of hex escape"
  | expectedCommaOrBracket => "expected `,` or `]`"
  | expectedCommaOrBrace => "expected `,` or `\x7d`"
  | expectedColon => "expected `:`"
  | trailingComma => "trailing comma"
  | keyNotAString => "key must be a string"
  | nestedTooDeep => "recursion limit exceeded"
  | trailingCharacters => "trailing characters"

/-- The length of a text in UTF-8. -/
def byteCount : List Char → Nat
  | [] => 0
  | c :: s => c.utf8Size + byteCount s

/-- A place in a text. -/
structure Position where
  line : Nat
  column : Nat
  deriving DecidableEq, Repr

/-- The place reached after `bytes` more bytes of a text. -/
def Position.advance (p : Position) : List Char → Nat → Position
  | [], _ => p
  | c :: s, bytes =>
    if bytes = 0 then p
    else if c = '\n' then advance ⟨p.line + 1, 0⟩ s (bytes - 1)
    else advance ⟨p.line, p.column + min c.utf8Size bytes⟩ s (bytes - c.utf8Size)

/-- Line and column after `bytes` bytes of a text. -/
def position (s : List Char) (bytes : Nat) : Position := Position.advance ⟨1, 0⟩ s bytes

/-- A fault and its place. -/
structure SyntaxError where
  fault : Fault
  place : Position
  deriving DecidableEq, Repr

def SyntaxError.message (e : SyntaxError) : String :=
  e.fault.message ++ " at line " ++ toString e.place.line ++ " column " ++ toString e.place.column

end BridgeChannel.Json
