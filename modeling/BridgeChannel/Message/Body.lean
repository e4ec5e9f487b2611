/-
The fields of each class of message.

The fields of a body that are present are read in the order of their keys, and the first fault
counts. Only then is an absent field missed, in the order in which the class lists its fields.
Fields that the class does not have are ignored, but for an endpoint message, which collects them.

Main definitions:

* `Field.text`, `Field.texts`, `Field.flag`, `Field.int32`, `Field.object`, `Field.orNull` — what a
  field may hold;
* `Field.present`, `Field.required` — fields of a body;
* `Message.ofBody` — the message of a class and a body.
-/
import BridgeChannel.Message.Error

set_option autoImplicit false

namespace BridgeChannel

namespace Field

/-- A text. -/
def text : Json → Except BodyFault String
  | .str s => .ok s
  | j => .error (.wrongType j.shape .string)

/-- A sequence of texts; the first element that is none is at fault. -/
def texts : Json → Except BodyFault (List String)
  | .arr es => es.mapM text
  | j => .error (.wrongType j.shape .sequence)

/-- The truth value that a text names, with no regard to the case of ASCII letters. -/
def flagNamed? (s : String) : Option Bool :=
  let lower := s.toList.map Char.toLower
  if lower = "true".toList then some true
  else if lower = "false".toList then some false
  else none

/-- A truth value, or a text that names one. -/
def flag : Json → Except BodyFault Bool
  | .bool b => .ok b
  | .str s =>
    match flagNamed? s with
    | some b => .ok b
    | none => .error (.unknownFlag s)
  | _ => .error .notAFlag

/-- An integer of 32 bits. -/
def int32 : Json → Except BodyFault Int32
  | .num (.integer n _) =>
    if -2147483648 ≤ n ∧ n < 2147483648 then .ok (Int32.ofInt n) else .error (.outOfRange n)
  | j => .error (.wrongType j.shape .int32)

/-- An object. -/
def object : Json → Except BodyFault (List Json.Member)
  | .obj ms => .ok ms
  | j => .error (.wrongType j.shape .map)

/-- What `read` accepts, or null for nothing. -/
def orNull {α : Type} (read : Json → Except BodyFault α) : Json → Except BodyFault (Option α)
  | .null => .ok none
  | j => (read j).map some

/-- A field of a body, if it is there. -/
def present {α : Type} (key : String) (read : Json → Except BodyFault α) (body : List Json.Member) :
    Except BodyFault (Option α) :=
  match Json.find? key body with
  | none => .ok none
  | some j => (read j).map some

/-- A field that has to be there. -/
def required {α : Type} (key : String) : Option α → Except BodyFault α
  | some a => .ok a
  | none => .error (.missing key)

theorem present_of_absent {α : Type} {key : String} {body : List Json.Member}
    (h : Json.find? key body = none) (read : Json → Except BodyFault α) :
    present key read body = .ok none := by simp [present, h]

end Field

open BridgeChannel.Field in
/-- The message of a class that a body describes. -/
def Message.ofBody (body : List Json.Member) : MessageClass → Except BodyFault Message
  | .serverHello => do
    let version ← present "version" (orNull text) body
    return .serverHello version.join
  | .clientHello => return .clientHello
  | .endpointMessage => do
    let sender ← present "from" (orNull text) body
    let recipient ← present "to" (orNull text) body
    let payload := Json.without "to" (Json.without "from" body)
    return .endpointMessage ⟨sender.join, recipient.join, payload⟩
  | .dominantSpeaker => do
    let endpoint ← present "dominantSpeakerEndpoint" text body
    let previous ← present "previousSpeakers" texts body
    return .dominantSpeaker (← required "dominantSpeakerEndpoint" endpoint) (previous.getD [])
  | .connectivity => do
    let active ← present "active" flag body
    let endpoint ← present "endpoint" text body
    let endpoint ← required "endpoint" endpoint
    return .connectivity endpoint (← required "active" active)
  | .senderVideoConstraints =>
    match Json.find? "videoConstraints" body with
    | none | some .null => return .senderVideoConstraints none
    | some j => return .senderVideoConstraints (some j)
  | .receiverVideoConstraints => do
    let defaults ← present "defaultConstraints" object body
    let lastN ← present "lastN" int32 body
    return .receiverVideoConstraints (← required "lastN" lastN) (defaults.getD [])

end BridgeChannel
