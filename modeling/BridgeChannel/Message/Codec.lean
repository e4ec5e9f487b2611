/-
Messages as frames.

A frame is the text of a JSON object. Reading takes the class off the object and hands the rest to
the class; writing puts the class in front and the fields after it in the order in which the class
lists them, without those that are absent.

Main definitions:

* `discriminator` — the member that names the class;
* `Message.ofMembers`, `Message.decode` — the message of an object, and of a text;
* `Message.members?`, `Message.encode` — the members that are written, and the text.

Main results: `decode_of_parse`, `encode_unknown`.
-/
import BridgeChannel.Json.Parser
import BridgeChannel.Json.Printer
import BridgeChannel.Message.Body

set_option autoImplicit false

namespace BridgeChannel

/-- The member that names the class of a message. -/
def discriminator : String := "colibriClass"

namespace Message

/-! ### Reading -/

/-- The message that the members of an object describe. -/
def ofMembers (ms : List Json.Member) : Except FrameError Message :=
  match Json.find? discriminator ms with
  | some (.str name) =>
    let body := Json.without discriminator ms
    match MessageClass.ofName? name with
    | none => .ok (.unknown name (.obj body))
    | some c => (ofBody body c).mapError (.malformed c)
  | _ => .error .missingClass

/-- The message that a frame holds. -/
def decode (frame : String) : Except FrameError Message :=
  match Json.parse frame with
  | .error e => .error (.notJson e)
  | .ok (.obj ms) => ofMembers ms
  | .ok _ => .error .notAnObject

/-- What a frame means depends on its members alone. -/
theorem decode_of_parse {frame : String} {ms : List Json.Member}
    (h : Json.parse frame = .ok (.obj ms)) : decode frame = ofMembers ms := by
  simp [decode, h]

/-! ### Writing -/

/-- An integer of 32 bits fits a word. -/
theorem fitsWord_int32 (n : Int32) : Json.FitsWord n.toInt := by
  have low := n.le_toInt
  have high := n.toInt_lt
  constructor
  · exact Int.le_trans (by decide) low
  · exact Int.lt_of_lt_of_le high (by decide)

/-- A member that is written if there is a value for it. -/
def member? (key : String) (value : Option Json) : List Json.Member :=
  (value.map fun j => (key, j)).toList

/-- The members that are written for the fields of a message; a message of an unknown class has
none. -/
def fields? : Message → Option (List Json.Member)
  | serverHello version => some (member? "version" (version.map .str))
  | clientHello => some []
  | endpointMessage m =>
    some (member? "from" (m.sender.map .str) ++ member? "to" (m.recipient.map .str) ++ m.payload)
  | dominantSpeaker endpoint previous =>
    some (("dominantSpeakerEndpoint", .str endpoint) ::
      if previous.isEmpty then [] else [("previousSpeakers", .arr (previous.map .str))])
  | connectivity endpoint active =>
    some [("endpoint", .str endpoint), ("active", .str (if active then "true" else "false"))]
  | senderVideoConstraints constraints => some (member? "videoConstraints" constraints)
  | receiverVideoConstraints lastN defaults =>
    some [("lastN", .num (.integer lastN.toInt (fitsWord_int32 lastN))),
      ("defaultConstraints", .obj defaults)]
  | unknown _ _ => none

/-- The members that are written for a message, the class first. -/
def members? (m : Message) : Option (List Json.Member) :=
  m.fields?.map fun fields => (discriminator, .str m.className) :: fields

/-- The frame that says a message. -/
def encode (m : Message) : Except FrameError String :=
  match m.members? with
  | some ms => .ok (Json.obj ms).text
  | none => .error .unencodable

theorem encode_unknown (name : String) (body : Json) :
    encode (.unknown name body) = .error .unencodable := rfl

end Message

end BridgeChannel
