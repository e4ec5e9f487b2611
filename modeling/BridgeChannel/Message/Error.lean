/-
Why a frame is refused.

Main definitions:

* `Shape`, `Wanted` — what was found in a field, and what it should have been;
* `BodyFault` — what is wrong with the fields of a class;
* `FrameError`, `FrameError.message` — why a frame is no message, or a message no frame.
-/
import BridgeChannel.Json.SyntaxError
import BridgeChannel.Message.Basic
import BridgeChannel.Text.Quoted

set_option autoImplicit false

namespace BridgeChannel

/-- The outside of a JSON value: what is said of it when it has the wrong type. -/
inductive Shape where
  | null
  | bool (value : Bool)
  | number (value : Json.Number)
  | string (value : String)
  | sequence
  | map
  deriving DecidableEq

/-- The outside of a value. -/
def Json.shape : Json → Shape
  | .null => .null
  | .bool b => .bool b
  | .num n => .number n
  | .str s => .string s
  | .arr _ => .sequence
  | .obj _ => .map

/-- How a shape is described. -/
def Shape.description : Shape → String
  | null => "null"
  | bool true => "boolean `true`"
  | bool false => "boolean `false`"
  | number (.integer n h) => "integer `" ++ Json.Number.text (.integer n h) ++ "`"
  | number (.double x) => "floating point `" ++ Json.Number.text (.double x) ++ "`"
  | string s => "string " ++ Text.quoted s
  | sequence => "sequence"
  | map => "map"

/-- What a field should have held. -/
inductive Wanted where
  | string
  | sequence
  | map
  | int32
  deriving DecidableEq, Repr

def Wanted.description : Wanted → String
  | string => "a string"
  | sequence => "a sequence"
  | map => "a map"
  | int32 => "i32"

/-- What is wrong with the fields of a message. -/
inductive BodyFault where
  /-- A required field is absent. -/
  | missing (field : String)
  /-- A field holds a value of another type. -/
  | wrongType (found : Shape) (wanted : Wanted)
  /-- An integer does not fit 32 bits. -/
  | outOfRange (value : Int)
  /-- A flag is neither a truth value nor a text. -/
  | notAFlag
  /-- A flag is a text that names no truth value. -/
  | unknownFlag (text : String)
  deriving DecidableEq

def BodyFault.message : BodyFault → String
  | missing field => "missing field `" ++ field ++ "`"
  | wrongType found wanted =>
    "invalid type: " ++ found.description ++ ", expected " ++ wanted.description
  | outOfRange n =>
    "invalid value: integer `" ++ toString n ++ "`, expected " ++ Wanted.int32.description
  | notAFlag => "data did not match any variant of untagged enum Flag"
  | unknownFlag text => "expected \"true\" or \"false\", got " ++ Text.quoted text

/-- Why a frame is no message, or a message no frame. -/
inductive FrameError where
  /-- The text is not JSON. -/
  | notJson (error : Json.SyntaxError)
  /-- The text is JSON, but no object. -/
  | notAnObject
  /-- No class is named. -/
  | missingClass
  /-- The class is known and the fields are not those of the class. -/
  | malformed (expected : MessageClass) (fault : BodyFault)
  /-- The message is of a class that is not modelled. -/
  | unencodable
  deriving DecidableEq

def FrameError.message : FrameError → String
  | notJson e => "invalid JSON: " ++ e.message
  | notAnObject => "frame is not a JSON object"
  | missingClass => "frame has no colibriClass"
  | malformed c fault => "malformed " ++ c.name ++ ": " ++ fault.message
  | unencodable =>
    "failed to encode message: the enum variant ColibriMessage::Unknown cannot be serialized"

end BridgeChannel
