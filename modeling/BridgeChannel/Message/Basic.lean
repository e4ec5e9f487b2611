/-
Messages of a channel.

Every frame is a JSON object whose member `colibriClass` names the class of the message. A class
that is not modelled is kept with its body, and such a message is never written.

Main definitions:

* `MessageClass`, `MessageClass.name`, `MessageClass.ofName?` — the classes with a type of their
  own;
* `EndpointMessage`, `Message` — what a frame says;
* `Message.className` — the class that a message names;
* `Message.noVideo` — the wish for no video at all;
* `Message.same` — equality that compares doubles as numbers.

Main result: `MessageClass.ofName?_eq_some_iff`.
-/
import BridgeChannel.Json.Value

set_option autoImplicit false

namespace BridgeChannel

/-- The classes of message that have a type of their own. -/
inductive MessageClass where
  | serverHello
  | clientHello
  | endpointMessage
  | dominantSpeaker
  | connectivity
  | senderVideoConstraints
  | receiverVideoConstraints
  deriving DecidableEq, Repr

namespace MessageClass

/-- The name of a class on the wire. -/
def name : MessageClass → String
  | serverHello => "ServerHello"
  | clientHello => "ClientHello"
  | endpointMessage => "EndpointMessage"
  | dominantSpeaker => "DominantSpeakerEndpointChangeEvent"
  | connectivity => "EndpointConnectivityStatusChangeEvent"
  | senderVideoConstraints => "SenderVideoConstraints"
  | receiverVideoConstraints => "ReceiverVideoConstraints"

/-- All classes. -/
def all : List MessageClass :=
  [serverHello, clientHello, endpointMessage, dominantSpeaker, connectivity,
    senderVideoConstraints, receiverVideoConstraints]

theorem mem_all (c : MessageClass) : c ∈ all := by cases c <;> decide

/-- The class of a name. -/
def ofName? (s : String) : Option MessageClass := all.find? fun c => c.name == s

theorem ofName?_eq_some_iff {s : String} {c : MessageClass} : ofName? s = some c ↔ c.name = s := by
  constructor
  · intro h
    simpa using List.find?_some h
  · rintro rfl
    cases c <;> decide

theorem ofName?_eq_none_iff {s : String} : ofName? s = none ↔ ∀ c : MessageClass, c.name ≠ s := by
  simp [ofName?, mem_all]

end MessageClass

/-- Free-form data passed on between the participants. The payload holds every member of the frame
that is not one of the others. -/
structure EndpointMessage where
  sender : Option String
  recipient : Option String
  payload : List Json.Member

/-- What a frame says. -/
inductive Message where
  /-- The greeting of the bridge. -/
  | serverHello (version : Option String)
  /-- The answer to the greeting. -/
  | clientHello
  | endpointMessage (message : EndpointMessage)
  | dominantSpeaker (endpoint : String) (previous : List String)
  | connectivity (endpoint : String) (active : Bool)
  /-- Limits on what this endpoint sends; it sends no video. -/
  | senderVideoConstraints (constraints : Option Json)
  /-- How much video this endpoint wants. -/
  | receiverVideoConstraints (lastN : Int32) (defaults : List Json.Member)
  /-- A class that is not modelled. -/
  | unknown (className : String) (body : Json)

namespace Message

/-- The class of a message, if it is one of those with a type of their own. -/
def class? : Message → Option MessageClass
  | serverHello _ => some .serverHello
  | clientHello => some .clientHello
  | endpointMessage _ => some .endpointMessage
  | dominantSpeaker _ _ => some .dominantSpeaker
  | connectivity _ _ => some .connectivity
  | senderVideoConstraints _ => some .senderVideoConstraints
  | receiverVideoConstraints _ _ => some .receiverVideoConstraints
  | unknown _ _ => none

/-- The name of the class of a message. -/
def className : Message → String
  | unknown name _ => name
  | serverHello _ => MessageClass.serverHello.name
  | clientHello => MessageClass.clientHello.name
  | endpointMessage _ => MessageClass.endpointMessage.name
  | dominantSpeaker _ _ => MessageClass.dominantSpeaker.name
  | connectivity _ _ => MessageClass.connectivity.name
  | senderVideoConstraints _ => MessageClass.senderVideoConstraints.name
  | receiverVideoConstraints _ _ => MessageClass.receiverVideoConstraints.name

theorem className_of_class? {m : Message} {c : MessageClass} (h : m.class? = some c) :
    m.className = c.name := by
  cases m <;> simp [class?] at h <;> subst h <;> rfl

/-- The wish for no video at all. -/
def noVideo : Message := .receiverVideoConstraints 0 []

/-- Equality of messages, with numbers compared by `Json.Number.same`. -/
def same : Message → Message → Bool
  | serverHello a, serverHello b => a == b
  | clientHello, clientHello => true
  | endpointMessage a, endpointMessage b =>
    a.sender == b.sender && a.recipient == b.recipient && Json.sameMembers a.payload b.payload
  | dominantSpeaker a ps, dominantSpeaker b qs => a == b && ps == qs
  | connectivity a x, connectivity b y => a == b && x == y
  | senderVideoConstraints none, senderVideoConstraints none => true
  | senderVideoConstraints (some a), senderVideoConstraints (some b) => a.same b
  | receiverVideoConstraints m a, receiverVideoConstraints n b => m == n && Json.sameMembers a b
  | unknown c a, unknown d b => c == d && a.same b
  | _, _ => false

end Message

end BridgeChannel
