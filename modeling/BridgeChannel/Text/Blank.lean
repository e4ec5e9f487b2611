/-
Blank text: the characters that the Unicode property `White_Space` contains.

An address that consists of such characters alone says nothing about where to connect.

Main definitions:

* `Text.isBlank` — the twenty-five blank characters;
* `Text.isBlankText` — a text with no other character.
-/

set_option autoImplicit false

namespace BridgeChannel.Text

/-- The characters with the Unicode property `White_Space`. -/
def isBlank (c : Char) : Bool :=
  let n := c.toNat
  (0x9 ≤ n && n ≤ 0xd) || n == 0x20 || n == 0x85 || n == 0xa0 || n == 0x1680 ||
    (0x2000 ≤ n && n ≤ 0x200a) || n == 0x2028 || n == 0x2029 || n == 0x202f || n == 0x205f ||
    n == 0x3000

/-- A text without any character that is not blank. -/
def isBlankText (s : String) : Bool := s.toList.all isBlank

end BridgeChannel.Text
