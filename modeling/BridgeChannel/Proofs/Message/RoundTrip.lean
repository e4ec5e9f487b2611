/-
**Messages that survive being written and read.**

The frame of a message names its class and lists its fields; reading the frame gives the message
back unless something of it cannot be told from something else.  A payload that has one of the
members which the frame uses for itself is written with that member twice, constraints that are null
are read as none, and what nests too deep is not read at all.  No message that is read from a frame
has any of these faults.

Main definitions:

* `Message.passedOn` — the values that a message passes on as they are;
* `Message.Exact`, `Message.Sorted` — no double occurs in a message; its objects are in order;
* `Message.Unreserved` — a payload has none of the members that the frame uses for itself.

Main results:

* `ofMembers_of_members?` — the members of a frame stand for the message that they were written for;
* `forall_fields?` — what holds of all that a message passes on holds of all that is written for it;
* `sound_of_decode` — **what every message has that is read from some frame**;
* `decode_encode_iff` — **which messages survive**.
-/
import BridgeChannel.Message.Codec
import BridgeChannel.Proofs.Json.Nesting
import BridgeChannel.Proofs.Json.RoundTrip

set_option autoImplicit false

namespace BridgeChannel

open Json (Member)

/-! ### What is found in the members of a frame -/

namespace Field

/-- A field that was written as a text, or left out, is read as it was. -/
theorem present_text {key : String} {body : List Member} {value : Option String}
    (h : Json.find? key body = value.map Json.str) :
    present key (orNull text) body = .ok (value.map some) := by
  unfold present
  rw [h]
  cases value <;> rfl

theorem texts_of_map_str (ss : List String) : texts (.arr (ss.map Json.str)) = .ok ss := by
  have each : ∀ ss : List String, (ss.map Json.str).mapM text = .ok ss := by
    intro ss
    induction ss with
    | nil => rfl
    | cons s ss ih =>
        rw [List.map_cons, List.mapM_cons, ih]
        rfl
  exact each ss

/-- An integer of 32 bits is read as it was. -/
theorem int32_toInt (n : Int32) (fits : Json.FitsWord n.toInt) :
    int32 (.num (.integer n.toInt fits)) = .ok n := by
  have low := n.le_toInt
  have high := n.toInt_lt
  have within : -2147483648 ≤ n.toInt ∧ n.toInt < 2147483648 := ⟨low, high⟩
  simp only [int32, if_pos within, Int32.ofInt_toInt]

end Field

namespace Message

/-- The members of a frame without the class, in order. -/
def body (ms : List Member) : List Member := Json.without discriminator (Json.ofMembers ms)

theorem find?_member? (key : String) (value : Option Json) :
    Json.find? key (member? key value).reverse = value := by
  cases value with
  | none => rfl
  | some j => exact Json.find?_cons_self key j []

theorem find?_member?_of_ne {key other : String} (h : other ≠ key) (value : Option Json) :
    Json.find? key (member? other value).reverse = none := by
  cases value with
  | none => rfl
  | some j => exact Json.find?_cons_of_ne h j []

/-- Of a field that is written more than once, the last value is found. -/
theorem find?_body {key : String} (h : key ≠ discriminator) (name : Json) (fields : List Member) :
    Json.find? key (body ((discriminator, name) :: fields)) = Json.find? key fields.reverse := by
  have h' : discriminator ≠ key := fun e => h e.symm
  rw [body, Json.find?_without, if_neg h, Json.find?_ofMembers, List.reverse_cons,
    Json.find?_append, Json.find?_cons_of_ne h', Json.find?_nil, Option.or_none]

/-- The class in front of the fields decides how they are read. -/
theorem ofMembers_of_ofBody {c : MessageClass} {fields : List Member} {m : Message}
    (free : Json.find? discriminator fields.reverse = none)
    (read : ofBody (body ((discriminator, .str c.name) :: fields)) c = .ok m) :
    ofMembers (Json.ofMembers ((discriminator, .str c.name) :: fields)) = .ok m := by
  have named : Json.find? discriminator
      (Json.ofMembers ((discriminator, .str c.name) :: fields)) = some (.str c.name) := by
    rw [Json.find?_ofMembers, List.reverse_cons, Json.find?_append, free,
      Json.find?_cons_self]
    rfl
  have known : MessageClass.ofName? c.name = some c := MessageClass.ofName?_eq_some_iff.2 rfl
  unfold ofMembers
  rw [named]
  dsimp only
  rw [known]
  dsimp only
  rw [show Json.without discriminator _ = body _ from rfl, read]
  rfl

/-! ### Reading what was written -/

/-- The members that a frame uses for itself, where it passes a payload on. -/
def reserved : List String := [discriminator, "from", "to"]

/-- The payload of an endpoint message has none of the members that the frame uses for itself. -/
def Unreserved : Message → Prop
  | endpointMessage e => ∀ key ∈ reserved, key ∉ e.payload.map Prod.fst
  | _ => True

/-- The values that a message passes on as they are. -/
def passedOn : Message → List Json
  | endpointMessage e => e.payload.map Prod.snd
  | senderVideoConstraints constraints => constraints.toList
  | receiverVideoConstraints _ defaults => [.obj defaults]
  | unknown _ body => [body]
  | _ => []

/-- No double occurs in a message. -/
def Exact (m : Message) : Prop := ∀ j ∈ m.passedOn, j.Exact

/-- The objects in a message, and its payload, keep the order of their keys. -/
def Sorted (m : Message) : Prop :=
  (∀ e, m = .endpointMessage e → Json.SortedKeys e.payload) ∧ ∀ j ∈ m.passedOn, j.Sorted

theorem ofBody_serverHello (version : Option String) (name : Json) :
    ofBody (body ((discriminator, name) :: member? "version" (version.map .str))) .serverHello =
      .ok (.serverHello version) := by
  have found : Json.find? "version" (body ((discriminator, name) ::
      member? "version" (version.map .str))) = version.map .str := by
    rw [find?_body (by decide), find?_member?]
  rw [ofBody, Field.present_text found]
  cases version <;> rfl

/-- The payload that is read is the one that was written. -/
theorem payload_of_body {e : EndpointMessage} (sorted : Json.SortedKeys e.payload)
    (unreserved : Unreserved (.endpointMessage e)) (name : Json) :
    Json.without "to" (Json.without "from" (body ((discriminator, name) ::
      (member? "from" (e.sender.map .str) ++ member? "to" (e.recipient.map .str) ++
        e.payload)))) = e.payload := by
  have absent : ∀ key ∈ reserved, Json.find? key e.payload = none := fun key hkey =>
    Json.find?_eq_none_iff.2 (unreserved key hkey)
  -- both are in order, so that it suffices to look every key up
  refine Json.sortedKeys_ext ?_ sorted fun key => ?_
  · exact Json.sortedKeys_without (Json.sortedKeys_without
      (Json.sortedKeys_without (Json.sortedKeys_ofMembers _) _) _) _
  · rw [Json.find?_without, Json.find?_without]
    by_cases recipient : key = "to"
    · rw [if_pos recipient, recipient, absent "to" (by decide)]
    · by_cases sender : key = "from"
      · rw [if_neg recipient, if_pos sender, sender, absent "from" (by decide)]
      · rw [if_neg recipient, if_neg sender]
        by_cases named : key = discriminator
        · -- the class has been taken off the members, and the payload has none
          rw [named, absent discriminator (by decide), body, Json.find?_without, if_pos rfl]
        · rw [find?_body named, List.reverse_append, List.reverse_append, Json.find?_append,
            Json.find?_append, Json.find?_reverse sorted,
            find?_member?_of_ne fun h => recipient h.symm,
            find?_member?_of_ne fun h => sender h.symm]
          simp

theorem ofBody_endpointMessage {e : EndpointMessage} (sorted : Json.SortedKeys e.payload)
    (unreserved : Unreserved (.endpointMessage e)) (name : Json) :
    ofBody (body ((discriminator, name) ::
      (member? "from" (e.sender.map .str) ++ member? "to" (e.recipient.map .str) ++
        e.payload))) .endpointMessage = .ok (.endpointMessage e) := by
  have absent : ∀ key ∈ reserved, Json.find? key e.payload.reverse = none := by
    intro key hkey
    rw [Json.find?_reverse sorted]
    exact Json.find?_eq_none_iff.2 (unreserved key hkey)
  have sender : Json.find? "from" (body ((discriminator, name) ::
      (member? "from" (e.sender.map .str) ++ member? "to" (e.recipient.map .str) ++
        e.payload))) = e.sender.map .str := by
    rw [find?_body (by decide), List.reverse_append, List.reverse_append, Json.find?_append,
      Json.find?_append, absent "from" (by decide), find?_member?_of_ne (by decide), find?_member?]
    rfl
  have recipient : Json.find? "to" (body ((discriminator, name) ::
      (member? "from" (e.sender.map .str) ++ member? "to" (e.recipient.map .str) ++
        e.payload))) = e.recipient.map .str := by
    rw [find?_body (by decide), List.reverse_append, List.reverse_append, Json.find?_append,
      Json.find?_append, absent "to" (by decide), find?_member?,
      find?_member?_of_ne (by decide), Option.or_none]
    rfl
  have payload := payload_of_body sorted unreserved name
  rw [ofBody, Field.present_text sender, Field.present_text recipient]
  dsimp only [bind, Except.bind]
  rw [payload]
  obtain ⟨s, r, p⟩ := e
  cases s <;> cases r <;> rfl

theorem ofBody_dominantSpeaker (endpoint : String) (previous : List String) (name : Json) :
    ofBody (body ((discriminator, name) :: ("dominantSpeakerEndpoint", .str endpoint) ::
      if previous.isEmpty then [] else [("previousSpeakers", .arr (previous.map .str))]))
        .dominantSpeaker = .ok (.dominantSpeaker endpoint previous) := by
  cases previous with
  | nil =>
      have speaker : Json.find? "dominantSpeakerEndpoint" (body ((discriminator, name) ::
          [("dominantSpeakerEndpoint", .str endpoint)])) = some (.str endpoint) := by
        rw [find?_body (by decide)]
        rfl
      have earlier : Json.find? "previousSpeakers" (body ((discriminator, name) ::
          [("dominantSpeakerEndpoint", .str endpoint)])) = none := by
        rw [find?_body (by decide)]
        rfl
      simp only [List.isEmpty_nil, if_true, ofBody, Field.present, speaker, earlier]
      rfl
  | cons s ss =>
      have speaker : Json.find? "dominantSpeakerEndpoint" (body ((discriminator, name) ::
          [("dominantSpeakerEndpoint", .str endpoint),
            ("previousSpeakers", .arr ((s :: ss).map .str))])) = some (.str endpoint) := by
        rw [find?_body (by decide)]
        rfl
      have earlier : Json.find? "previousSpeakers" (body ((discriminator, name) ::
          [("dominantSpeakerEndpoint", .str endpoint),
            ("previousSpeakers", .arr ((s :: ss).map .str))])) =
              some (.arr ((s :: ss).map .str)) := by
        rw [find?_body (by decide)]
        rfl
      simp only [List.isEmpty_cons, Bool.false_eq_true, if_false, ofBody, Field.present, speaker,
        earlier, Field.texts_of_map_str]
      rfl

theorem ofBody_connectivity (endpoint : String) (active : Bool) (name : Json) :
    ofBody (body ((discriminator, name) :: [("endpoint", .str endpoint),
      ("active", .str (if active then "true" else "false"))])) .connectivity =
        .ok (.connectivity endpoint active) := by
  have found : Json.find? "endpoint" (body ((discriminator, name) :: [("endpoint", .str endpoint),
      ("active", .str (if active then "true" else "false"))])) = some (.str endpoint) := by
    rw [find?_body (by decide)]
    rfl
  have flag : Json.find? "active" (body ((discriminator, name) :: [("endpoint", .str endpoint),
      ("active", .str (if active then "true" else "false"))])) =
        some (.str (if active then "true" else "false")) := by
    rw [find?_body (by decide)]
    rfl
  simp only [ofBody, Field.present, found, flag]
  cases active <;> rfl

/-- Constraints that are null are read as none. -/
theorem ofBody_senderVideoConstraints {constraints : Option Json} (some_ : constraints ≠ some .null)
    (name : Json) :
    ofBody (body ((discriminator, name) :: member? "videoConstraints" constraints))
      .senderVideoConstraints = .ok (.senderVideoConstraints constraints) := by
  have found : Json.find? "videoConstraints" (body ((discriminator, name) ::
      member? "videoConstraints" constraints)) = constraints := by
    rw [find?_body (by decide), find?_member?]
  rw [ofBody, found]
  cases constraints with
  | none => rfl
  | some j =>
      cases j with
      | null => exact absurd rfl some_
      | _ => rfl

theorem ofBody_receiverVideoConstraints (lastN : Int32) (defaults : List Member) (name : Json) :
    ofBody (body ((discriminator, name) ::
      [("lastN", .num (.integer lastN.toInt (fitsWord_int32 lastN))),
        ("defaultConstraints", .obj defaults)])) .receiverVideoConstraints =
          .ok (.receiverVideoConstraints lastN defaults) := by
  have object : Json.find? "defaultConstraints" (body ((discriminator, name) ::
      [("lastN", .num (.integer lastN.toInt (fitsWord_int32 lastN))),
        ("defaultConstraints", .obj defaults)])) = some (.obj defaults) := by
    rw [find?_body (by decide)]
    rfl
  have count : Json.find? "lastN" (body ((discriminator, name) ::
      [("lastN", .num (.integer lastN.toInt (fitsWord_int32 lastN))),
        ("defaultConstraints", .obj defaults)])) =
          some (.num (.integer lastN.toInt (fitsWord_int32 lastN))) := by
    rw [find?_body (by decide)]
    rfl
  simp only [ofBody, Field.present, object, count, Field.int32_toInt]
  rfl

/-- **The members of a frame stand for the message that they were written for.** -/
theorem ofMembers_of_members? {m : Message} {ms : List Member} (written : m.members? = some ms)
    (sorted : m.Sorted) (unreserved : m.Unreserved)
    (some_ : m ≠ .senderVideoConstraints (some .null)) :
    ofMembers (Json.ofMembers ms) = .ok m := by
  obtain ⟨fields, hfields, rfl⟩ := Option.map_eq_some_iff.1 written
  cases m with
  | unknown name body => exact absurd hfields (by simp [fields?])
  | serverHello version =>
      obtain rfl := Option.some.inj hfields
      exact ofMembers_of_ofBody (c := .serverHello) (find?_member?_of_ne (by decide) _)
        (ofBody_serverHello version _)
  | clientHello =>
      obtain rfl := Option.some.inj hfields
      exact ofMembers_of_ofBody (c := .clientHello) rfl rfl
  | endpointMessage e =>
      obtain rfl := Option.some.inj hfields
      have free : Json.find? discriminator (member? "from" (e.sender.map .str) ++
          member? "to" (e.recipient.map .str) ++ e.payload).reverse = none := by
        have absent := Json.find?_eq_none_iff.2 (unreserved discriminator (by decide))
        rw [List.reverse_append, List.reverse_append, Json.find?_append, Json.find?_append,
          Json.find?_reverse (sorted.1 e rfl), absent, find?_member?_of_ne (by decide),
          find?_member?_of_ne (by decide)]
        rfl
      exact ofMembers_of_ofBody (c := .endpointMessage) free
        (ofBody_endpointMessage (sorted.1 e rfl) unreserved _)
  | dominantSpeaker endpoint previous =>
      obtain rfl := Option.some.inj hfields
      have free : Json.find? discriminator (("dominantSpeakerEndpoint", Json.str endpoint) ::
          if previous.isEmpty then []
          else [("previousSpeakers", .arr (previous.map .str))]).reverse = none := by
        cases previous <;> rfl
      exact ofMembers_of_ofBody (c := .dominantSpeaker) free
        (ofBody_dominantSpeaker endpoint previous _)
  | connectivity endpoint active =>
      obtain rfl := Option.some.inj hfields
      exact ofMembers_of_ofBody (c := .connectivity) rfl (ofBody_connectivity endpoint active _)
  | senderVideoConstraints constraints =>
      obtain rfl := Option.some.inj hfields
      have there : constraints ≠ some .null := fun h => some_ (h ▸ rfl)
      exact ofMembers_of_ofBody (c := .senderVideoConstraints)
        (find?_member?_of_ne (by decide) _) (ofBody_senderVideoConstraints there _)
  | receiverVideoConstraints lastN defaults =>
      obtain rfl := Option.some.inj hfields
      exact ofMembers_of_ofBody (c := .receiverVideoConstraints) rfl
        (ofBody_receiverVideoConstraints lastN defaults _)

/-! ### The values of a frame -/

/-- **What holds of texts, of lists of texts, of integers and of everything that a message passes
on holds of all that is written for its fields.** -/
theorem forall_fields? {P : Json → Prop} (text : ∀ s, P (.str s))
    (texts : ∀ ss : List String, P (.arr (ss.map .str)))
    (integer : ∀ n fits, P (.num (.integer n fits))) {m : Message}
    (passed : ∀ j ∈ m.passedOn, P j) {fields : List Member} (written : m.fields? = some fields) :
    ∀ f ∈ fields, P f.2 := by
  -- a field that may be absent is a text where it is there
  have optional : ∀ (key : String) (value : Option String),
      ∀ f ∈ member? key (value.map .str), P f.2 := by
    intro key value f hf
    cases value with
    | none => exact absurd hf (by simp [member?])
    | some s =>
        obtain rfl := List.mem_singleton.1 hf
        exact text s
  intro f hf
  cases m with
  | unknown name body => exact absurd written (by simp [fields?])
  | serverHello version =>
      obtain rfl := Option.some.inj written
      exact optional _ _ f hf
  | clientHello =>
      obtain rfl := Option.some.inj written
      exact absurd hf (by simp)
  | endpointMessage e =>
      obtain rfl := Option.some.inj written
      rcases List.mem_append.1 hf with hf | hf
      · rcases List.mem_append.1 hf with hf | hf
        · exact optional _ _ f hf
        · exact optional _ _ f hf
      · exact passed _ (List.mem_map_of_mem hf)
  | dominantSpeaker endpoint previous =>
      obtain rfl := Option.some.inj written
      rcases List.mem_cons.1 hf with rfl | hf
      · exact text endpoint
      · split at hf
        · exact absurd hf (by simp)
        · obtain rfl := List.mem_singleton.1 hf
          exact texts previous
  | connectivity endpoint active =>
      obtain rfl := Option.some.inj written
      rcases List.mem_cons.1 hf with rfl | hf
      · exact text endpoint
      · obtain rfl := List.mem_singleton.1 hf
        exact text _
  | senderVideoConstraints constraints =>
      obtain rfl := Option.some.inj written
      cases constraints with
      | none => exact absurd hf (by simp [member?])
      | some j =>
          obtain rfl := List.mem_singleton.1 hf
          exact passed _ (List.mem_singleton.2 rfl)
  | receiverVideoConstraints lastN defaults =>
      obtain rfl := Option.some.inj written
      rcases List.mem_cons.1 hf with rfl | hf
      · exact integer _ _
      · obtain rfl := List.mem_singleton.1 hf
        exact passed _ (List.mem_singleton.2 rfl)

theorem exactMembers_of_members? {m : Message} {ms : List Member} (written : m.members? = some ms)
    (exact : m.Exact) : Json.ExactMembers ms := by
  obtain ⟨fields, hfields, rfl⟩ := Option.map_eq_some_iff.1 written
  have texts : ∀ ss : List String, (Json.arr (ss.map .str)).Exact := by
    intro ss
    rw [Json.Exact, Json.exactElements_iff, List.forall_mem_map]
    exact fun s _ => trivial
  have all := forall_fields? (P := Json.Exact) (fun s => trivial) texts (fun n fits => trivial)
    exact hfields
  rw [Json.exactMembers_iff, List.forall_mem_cons]
  exact ⟨trivial, all⟩

theorem sortedMembers_of_members? {m : Message} {ms : List Member}
    (written : m.members? = some ms) (sorted : m.Sorted) : Json.SortedMembers ms := by
  obtain ⟨fields, hfields, rfl⟩ := Option.map_eq_some_iff.1 written
  have texts : ∀ ss : List String, (Json.arr (ss.map .str)).Sorted := by
    intro ss
    rw [Json.Sorted, Json.sortedElements_iff, List.forall_mem_map]
    exact fun s _ => trivial
  have all := forall_fields? (P := Json.Sorted) (fun s => trivial) texts (fun n fits => trivial)
    sorted.2 hfields
  rw [Json.sortedMembers_iff, List.forall_mem_cons]
  exact ⟨trivial, all⟩

/-- A frame is at most one level deeper than what its message passes on, or than a list. -/
theorem depth_of_members? {m : Message} {ms : List Member} {d : Nat}
    (written : m.members? = some ms) (positive : 0 < d)
    (shallow : ∀ j ∈ m.passedOn, j.depth ≤ d) : (Json.obj ms).depth ≤ d + 1 := by
  obtain ⟨fields, hfields, rfl⟩ := Option.map_eq_some_iff.1 written
  have texts : ∀ ss : List String, (Json.arr (ss.map .str)).depth ≤ d := by
    intro ss
    have flat : Json.depthElements (ss.map .str) ≤ 0 := by
      rw [Json.depthElements_le_iff, List.forall_mem_map]
      exact fun s _ => Nat.zero_le _
    rw [Json.depth]
    omega
  have all := forall_fields? (P := fun j => j.depth ≤ d) (fun s => Nat.zero_le d) texts
    (fun n fits => Nat.zero_le d) shallow hfields
  rw [Json.depth, Nat.add_le_add_iff_right, Json.depthMembers_le_iff, List.forall_mem_cons]
  exact ⟨Nat.zero_le d, all⟩

/-! ### What is read from a frame -/

/-- A field that was there has been read. -/
theorem eq_of_present {α : Type} {key : String} {read : Json → Except BodyFault α}
    {body : List Member} {value : Option α} (h : Field.present key read body = .ok value) {a : α}
    (there : value = some a) : ∃ j, Json.find? key body = some j ∧ read j = .ok a := by
  subst there
  unfold Field.present at h
  split at h
  · exact absurd h (by simp)
  next j found =>
    refine ⟨j, found, ?_⟩
    cases hj : read j with
    | error e => rw [hj] at h; exact absurd h (by simp [Except.map])
    | ok b =>
        rw [hj] at h
        obtain rfl := Option.some.inj (Except.ok.inj h)
        rfl

section Reading

variable {body : List Member} {d : Nat} {m : Message}

/-- What is left of a body is free of the members that the frame uses for itself. -/
theorem unreserved_rest {key : String} (unnamed : Json.find? discriminator body = none)
    (hkey : key ∈ reserved) :
    key ∉ (Json.without "to" (Json.without "from" body)).map Prod.fst := by
  rw [← Json.find?_eq_none_iff, Json.find?_without, Json.find?_without]
  simp only [reserved, List.mem_cons, List.not_mem_nil, or_false] at hkey
  rcases hkey with rfl | rfl | rfl
  · rw [unnamed]
    rfl
  · rfl
  · rfl

/-- The defaults of a message are an object of its body, or there are none. -/
theorem depth_of_defaults {defaults : Option (List Member)} (positive : 0 < d)
    (shallow : ∀ f ∈ body, f.2.depth ≤ d)
    (read : Field.present "defaultConstraints" Field.object body = .ok defaults) :
    (Json.obj (defaults.getD [])).depth ≤ d := by
  cases defaults with
  | none => exact positive
  | some ms =>
      obtain ⟨j, found, object⟩ := eq_of_present read rfl
      have depth := shallow _ (Json.mem_of_find? found)
      unfold Field.object at object
      split at object
      · obtain rfl := Except.ok.inj object
        exact depth
      · exact absurd object (by simp)

/-- **The message of a body has what its frame gives it**: the class and the addresses are not in a
payload, constraints are not null, and nothing nests deeper than the values of the body. -/
theorem sound_of_ofBody {c : MessageClass} (read : ofBody body c = .ok m)
    (unnamed : Json.find? discriminator body = none) (positive : 0 < d)
    (shallow : ∀ f ∈ body, f.2.depth ≤ d) :
    m.Unreserved ∧ m ≠ .senderVideoConstraints (some .null) ∧ ∀ j ∈ m.passedOn, j.depth ≤ d := by
  cases c with
  | serverHello =>
      obtain ⟨version, -, read⟩ := Json.read_of_bind read
      obtain rfl := Except.ok.inj read
      exact ⟨trivial, by simp, by simp [passedOn]⟩
  | clientHello =>
      obtain rfl := Except.ok.inj read
      exact ⟨trivial, by simp, by simp [passedOn]⟩
  | endpointMessage =>
      obtain ⟨sender, -, read⟩ := Json.read_of_bind read
      obtain ⟨recipient, -, read⟩ := Json.read_of_bind read
      obtain rfl := Except.ok.inj read
      refine ⟨fun key hkey => unreserved_rest unnamed hkey, by simp, ?_⟩
      rw [passedOn, List.forall_mem_map]
      exact fun f hf => shallow f (Json.mem_of_mem_without (Json.mem_of_mem_without hf))
  | dominantSpeaker =>
      obtain ⟨endpoint, -, read⟩ := Json.read_of_bind read
      obtain ⟨previous, -, read⟩ := Json.read_of_bind read
      obtain ⟨endpoint, -, read⟩ := Json.read_of_bind read
      obtain rfl := Except.ok.inj read
      exact ⟨trivial, by simp, by simp [passedOn]⟩
  | connectivity =>
      obtain ⟨active, -, read⟩ := Json.read_of_bind read
      obtain ⟨endpoint, -, read⟩ := Json.read_of_bind read
      obtain ⟨endpoint, -, read⟩ := Json.read_of_bind read
      obtain ⟨active, -, read⟩ := Json.read_of_bind read
      obtain rfl := Except.ok.inj read
      exact ⟨trivial, by simp, by simp [passedOn]⟩
  | senderVideoConstraints =>
      rw [ofBody] at read
      split at read
      · -- absent constraints and those that are null are both read as none
        obtain rfl := Except.ok.inj read
        exact ⟨trivial, by simp, by simp [passedOn]⟩
      · obtain rfl := Except.ok.inj read
        exact ⟨trivial, by simp, by simp [passedOn]⟩
      next j there found =>
        obtain rfl := Except.ok.inj read
        refine ⟨trivial, fun h => ?_, fun j' hj => ?_⟩
        · exact there (Option.some.inj (senderVideoConstraints.inj h))
        · obtain rfl := List.mem_singleton.1 hj
          exact shallow _ (Json.mem_of_find? found)
  | receiverVideoConstraints =>
      obtain ⟨defaults, object, read⟩ := Json.read_of_bind read
      obtain ⟨lastN, -, read⟩ := Json.read_of_bind read
      obtain ⟨lastN, -, read⟩ := Json.read_of_bind read
      obtain rfl := Except.ok.inj read
      refine ⟨trivial, by simp, fun j hj => ?_⟩
      obtain rfl := List.mem_singleton.1 hj
      exact depth_of_defaults positive shallow object

end Reading

/-- **What every message has that is read from some frame.** -/
theorem sound_of_decode {frame : String} {m : Message} (h : decode frame = .ok m) :
    m.Unreserved ∧ m ≠ .senderVideoConstraints (some .null) ∧
      ∀ ms, m.members? = some ms → (Json.obj ms).depth ≤ Json.maxDepth := by
  unfold decode at h
  split at h
  · exact absurd h (by simp)
  next ms parsed =>
    have shallow : ∀ f ∈ ms, f.2.depth ≤ 126 := by
      have depth : Json.depthMembers ms + 1 ≤ 126 + 1 := Json.depth_of_parse parsed
      exact Json.depthMembers_le_iff.1 (Nat.le_of_succ_le_succ depth)
    unfold ofMembers at h
    split at h
    next name _ =>
      dsimp only at h
      split at h
      · -- a class that is not known is written by no frame
        obtain rfl := Except.ok.inj h
        exact ⟨trivial, by simp, fun ms hms => absurd hms (by simp [members?, fields?])⟩
      next c _ =>
        have read : ofBody (Json.without discriminator ms) c = .ok m := by
          cases read : ofBody (Json.without discriminator ms) c with
          | error fault => rw [read] at h; exact absurd h (by simp [Except.mapError])
          | ok m' =>
              rw [read] at h
              exact congrArg _ (Except.ok.inj h)
        have unnamed : Json.find? discriminator (Json.without discriminator ms) = none := by
          rw [Json.find?_without, if_pos rfl]
        obtain ⟨unreserved, constrained, depth⟩ := sound_of_ofBody read unnamed (by decide)
          fun f hf => shallow f (Json.mem_of_mem_without hf)
        exact ⟨unreserved, constrained, fun ms written =>
          depth_of_members? written (by decide) depth⟩
    · exact absurd h (by simp)
  · exact absurd h (by simp)

/-! ### Which messages survive -/

/-- **Exactly those messages without doubles survive being written and read** that are of a known
class, whose payload has none of the members that the frame uses for itself, whose constraints are
not null, and whose frame nests at most 127 levels deep. -/
theorem decode_encode_iff (m : Message) (exact : m.Exact) (sorted : m.Sorted) :
    (∃ frame, m.encode = .ok frame ∧ decode frame = .ok m) ↔
      (∀ name body, m ≠ .unknown name body) ∧
      (∀ e, m = .endpointMessage e →
        ∀ key ∈ ["colibriClass", "from", "to"], key ∉ e.payload.map Prod.fst) ∧
      m ≠ .senderVideoConstraints (some .null) ∧
      ∀ ms, m.members? = some ms → (Json.obj ms).depth ≤ 127 := by
  constructor
  · rintro ⟨frame, encoded, decoded⟩
    obtain ⟨unreserved, constrained, depth⟩ := sound_of_decode decoded
    refine ⟨?_, ?_, constrained, depth⟩
    · rintro name body rfl
      rw [encode_unknown] at encoded
      exact absurd encoded (by simp)
    · rintro e rfl
      exact unreserved
  · -- the text is read as the members in order, and these are read as the message
    rintro ⟨known, unreserved, constrained, depth⟩
    have unreserved : m.Unreserved := by
      cases m with
      | endpointMessage e => exact unreserved e rfl
      | _ => trivial
    cases written : m.members? with
    | none =>
        cases m with
        | unknown name body => exact absurd rfl (known name body)
        | _ => exact absurd written (by simp [members?, fields?])
    | some ms =>
        have encoded : m.encode = .ok (Json.obj ms).text := by
          rw [encode, written]
        have parsed := Json.parse_text_obj (exactMembers_of_members? written exact)
          (sortedMembers_of_members? written sorted) (depth ms written)
        refine ⟨_, encoded, ?_⟩
        rw [decode_of_parse parsed]
        exact ofMembers_of_members? written sorted unreserved constrained

/-- A payload survives with keys and texts that have to be escaped, with both limits of integers and
with objects in arrays; with a member `to` it does not. -/
theorem decode_encode_endpoint :
    (∃ frame, encode (.endpointMessage ⟨some "a\"\u0001", none,
        [("", .arr [.num (.integer (-9223372036854775808) (by decide)),
            .num (.integer 18446744073709551615 (by decide))]),
          ("\\é", .obj [("to", .arr [.obj [], .null])])]⟩) = .ok frame ∧
      decode frame = .ok (.endpointMessage ⟨some "a\"\u0001", none,
        [("", .arr [.num (.integer (-9223372036854775808) (by decide)),
            .num (.integer 18446744073709551615 (by decide))]),
          ("\\é", .obj [("to", .arr [.obj [], .null])])]⟩)) ∧
    ¬∃ frame, encode (.endpointMessage ⟨none, none, [("to", .bool true)]⟩) = .ok frame ∧
      decode frame = .ok (.endpointMessage ⟨none, none, [("to", .bool true)]⟩) := by
  constructor
  · refine (decode_encode_iff _ ?_ ?_).2 ⟨by simp, ?_, by simp, ?_⟩
    · simp [Exact, passedOn, Json.Exact, Json.ExactElements, Json.ExactMembers]
    · refine ⟨?_, ?_⟩
      · rintro _ ⟨⟩
        decide
      · simp [passedOn, Json.Sorted, Json.SortedElements, Json.SortedMembers, Json.SortedKeys]
    · rintro _ ⟨⟩
      decide
    · intro ms written
      obtain rfl := Option.some.inj written
      decide
  · refine fun survives => ?_
    have clean := ((decode_encode_iff _ ?_ ?_).1 survives).2.1 _ rfl "to" (by decide)
    · exact clean (by decide)
    · simp [Exact, passedOn, Json.Exact]
    · refine ⟨?_, by simp [passedOn, Json.Sorted]⟩
      rintro _ ⟨⟩
      decide

end Message

end BridgeChannel
