/-
**The class that a frame is read as.**

A frame names its class in front of its fields, and the payload of an endpoint message follows with
whatever members it has.  No text in a message, and nothing that is nested in its payload, is ever
taken for the name of the class; but a member of the payload itself that bears that name stands
behind the one in front, and of a repeated member the last one counts.  Such a message is written
as a frame of another class, or as one that no message is read from.

Main definition: `Message.payload` — the free-form data of a message.

Main results:

* `named_of_decode_text` — what is read from the frame of a message has the class that was written
  last;
* `className_decode_iff` — **which messages keep their class**.
-/
import BridgeChannel.Proofs.Json.Outline
import BridgeChannel.Proofs.Message.Grammar

set_option autoImplicit false

namespace BridgeChannel

open Json (Member SpellsObject find?)

namespace Message

/-- The free-form data of a message; only an endpoint message has any. -/
def payload : Message → List Member
  | endpointMessage e => e.payload
  | _ => []

/-- A message is read from members that end up naming its class. -/
theorem className_of_decode {frame : String} {m : Message} (h : decode frame = .ok m) :
    ∃ written, SpellsObject frame written ∧
      find? discriminator written.reverse = some (.str m.className) := by
  obtain ⟨written, name, spelled, named, read⟩ := named_of_decode h (by simp) (by simp) (by simp)
  have same : m.className = name := by
    split at read
    · obtain rfl := Except.ok.inj read
      rfl
    next c found =>
      cases fields : ofBody (body written) c with
      | error fault => simp [fields, Except.mapError] at read
      | ok m' =>
          rw [fields] at read
          obtain rfl : m' = m := Except.ok.inj read
          rw [className_of_class? (describes_of_ofBody fields).class?]
          exact MessageClass.ofName?_eq_some_iff.1 found
  exact ⟨written, spelled, same ▸ named⟩

/-- **What is read from members as they were written has the class that was written last.** -/
theorem named_of_decode_text {ms : List Member} {m : Message}
    (h : decode (Json.obj ms).text = .ok m) :
    find? discriminator ms.reverse = some (.str m.className) := by
  obtain ⟨written, spelled, named⟩ := className_of_decode h
  have same : Json.outline written.reverse = Json.outline ms.reverse := by
    rw [Json.outline_reverse, Json.outline_reverse, Json.outline_of_spellsObject spelled]
  have text := Json.find?_of_outline same discriminator
  rw [named] at text
  obtain ⟨j, found, string⟩ := Option.map_eq_some_iff.1 text.symm
  rw [found, Json.text?_eq_some_iff.1 string]

/-- Of the fields of a message only those of its payload may bear the name of the class. -/
theorem find?_discriminator_fields {m : Message} {fields : List Member}
    (h : m.fields? = some fields) :
    find? discriminator fields.reverse = find? discriminator m.payload.reverse := by
  have absent : ∀ {key : String} (value : Option Json), key ≠ discriminator →
      find? discriminator (member? key value).reverse = none :=
    fun value other => find?_member?_of_ne other value
  cases m with
  | unknown name body => exact absurd h (by simp [fields?])
  | serverHello version =>
      obtain rfl := Option.some.inj h
      exact absent _ (by decide)
  | clientHello =>
      obtain rfl := Option.some.inj h
      rfl
  | endpointMessage e =>
      obtain rfl := Option.some.inj h
      rw [List.reverse_append, List.reverse_append, Json.find?_append, Json.find?_append,
        absent _ (by decide), absent _ (by decide)]
      exact Option.or_none
  | dominantSpeaker endpoint previous =>
      obtain rfl := Option.some.inj h
      cases previous <;> rfl
  | connectivity endpoint active =>
      obtain rfl := Option.some.inj h
      rfl
  | senderVideoConstraints constraints =>
      obtain rfl := Option.some.inj h
      exact absent _ (by decide)
  | receiverVideoConstraints lastN defaults =>
      obtain rfl := Option.some.inj h
      rfl

/-- **Exactly those messages keep their class whose payload gives no other one.**  Every message of
a known class is written, whatever its texts and its payload contain; and whatever is read from the
frame has the class of the message, unless its payload has a member that bears the name of the
class: then it has the class that this member gives, and nothing is read if that is no text. -/
theorem className_decode_iff (m : Message) (known : ∀ name body, m ≠ .unknown name body) :
    ∃ frame, m.encode = .ok frame ∧ ∀ m', decode frame = .ok m' →
      (m'.className = m.className ↔
        ∀ j, find? "colibriClass" m.payload.reverse = some j → j = .str m.className) ∧
      ∀ j, find? "colibriClass" m.payload.reverse = some j → j = .str m'.className := by
  cases written : m.fields? with
  | none =>
      cases m with
      | unknown name body => exact absurd rfl (known name body)
      | _ => exact absurd written (by simp [fields?])
  | some fields =>
      have encoded :
          m.encode = .ok (Json.obj ((discriminator, .str m.className) :: fields)).text := by
        rw [encode, members?, written]
        rfl
      refine ⟨_, encoded, fun m' read => ?_⟩
      have named := named_of_decode_text read
      rw [List.reverse_cons, Json.find?_append, find?_discriminator_fields written,
        Json.find?_cons_self] at named
      have given :
          ∀ j, find? "colibriClass" m.payload.reverse = some j → j = .str m'.className := by
        intro j found
        rw [show discriminator = "colibriClass" from rfl, found] at named
        exact Option.some.inj named
      refine ⟨⟨fun same j found => same ▸ given j found, fun kept => ?_⟩, given⟩
      cases found : find? discriminator m.payload.reverse with
      | none =>
          rw [found] at named
          exact (Json.str.inj (Option.some.inj named)).symm
      | some j =>
          have same := (given j found).symm.trans (kept j found)
          exact Json.str.inj same

/-- Quotes and the name of the class inside a text of the payload, and inside an object, leave the
class as it is. -/
theorem className_decode_quoted :
    (∀ name body, Message.endpointMessage ⟨none, none,
      [("data", .obj [("colibriClass", .str "\",\"colibriClass\":\"ServerHello")])]⟩ ≠
        .unknown name body) ∧
    ∃ frame, encode (.endpointMessage ⟨none, none,
        [("data", .obj [("colibriClass", .str "\",\"colibriClass\":\"ServerHello")])]⟩) =
          .ok frame ∧
      (∃ m', decode frame = .ok m') ∧
      ∀ m', decode frame = .ok m' → m'.className = "EndpointMessage" := by
  refine ⟨by simp, ?_⟩
  obtain ⟨frame, encoded, read⟩ := className_decode_iff (.endpointMessage ⟨none, none,
    [("data", .obj [("colibriClass", .str "\",\"colibriClass\":\"ServerHello")])]⟩) (by simp)
  refine ⟨frame, encoded, ?_, fun m' decoded => (read m' decoded).1.2 fun j found => ?_⟩
  · have parsed : Json.parse (Json.obj [("colibriClass", .str "EndpointMessage"),
        ("data", .obj [("colibriClass", .str "\",\"colibriClass\":\"ServerHello")])]).text =
          .ok (.obj (Json.ofMembers [("colibriClass", .str "EndpointMessage"),
            ("data", .obj [("colibriClass", .str "\",\"colibriClass\":\"ServerHello")])])) :=
      Json.parse_text_obj (by simp [Json.ExactMembers, Json.Exact])
        (by simp [Json.SortedMembers, Json.Sorted, Json.SortedKeys]) (by decide)
    have rules : ∃ m', Describes (body [("colibriClass", .str "EndpointMessage"),
        ("data", .obj [("colibriClass", .str "\",\"colibriClass\":\"ServerHello")])])
          .endpointMessage m' :=
      ⟨_, .endpointMessage (.absent rfl) (.absent rfl)⟩
    obtain ⟨m', rules⟩ := rules
    obtain rfl := Except.ok.inj encoded
    refine ⟨m', (decode_of_parse parsed).trans ?_⟩
    rw [ofMembers_known (c := .endpointMessage) rfl, ofBody_of_describes rules]
    rfl
  · exact absurd found (by simp [payload, find?])

/-- A member of the payload that bears the name of the class turns the message into another one. -/
theorem endpoint_message_read_as_greeting :
    ∃ frame, encode (.endpointMessage ⟨some "ep1", none,
        [("colibriClass", .str "ServerHello")]⟩) = .ok frame ∧
      decode frame = .ok (.serverHello none) := by
  have written : members? (.endpointMessage ⟨some "ep1", none,
      [("colibriClass", .str "ServerHello")]⟩) =
        some [("colibriClass", .str "EndpointMessage"), ("from", .str "ep1"),
          ("colibriClass", .str "ServerHello")] := rfl
  have parsed : Json.parse (Json.obj [("colibriClass", .str "EndpointMessage"),
      ("from", .str "ep1"), ("colibriClass", .str "ServerHello")]).text =
        .ok (.obj (Json.ofMembers [("colibriClass", .str "EndpointMessage"),
          ("from", .str "ep1"), ("colibriClass", .str "ServerHello")])) :=
    Json.parse_text_obj (by simp [Json.ExactMembers, Json.Exact])
      (by simp [Json.SortedMembers, Json.Sorted]) (by decide)
  have rules : Describes (body [("colibriClass", .str "EndpointMessage"), ("from", .str "ep1"),
      ("colibriClass", .str "ServerHello")]) .serverHello (.serverHello none) :=
    .serverHello (.absent rfl)
  refine ⟨_, by rw [encode, written], ?_⟩
  rw [decode_of_parse parsed, ofMembers_known (c := .serverHello) rfl, ofBody_of_describes rules]
  rfl

end Message

end BridgeChannel
