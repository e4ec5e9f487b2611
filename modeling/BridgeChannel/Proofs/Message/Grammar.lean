/-
**Which frames are read, and as what.**

The rules of a class tell which bodies hold its fields and what message these make up.  In some
fields null stands for an absent value, in others it is refused; of a field that is written more
than once the last value counts; fields that no rule mentions may hold anything.  Reading answers
with a message exactly where the rules of its class are met, and what it answers otherwise tells
which part of the frame breaks the rules: the text, the object, its class, or a field of the class.

Main definitions:

* `Field.TextOrNothing` — a text that may be absent or null;
* `Message.Describes` — the rules of every class.

Main results:

* `ofBody_eq_ok_iff` — a body is read as the message that the rules of the class make of it;
* `decode_iff_grammar` — **what reading answers with, for every text**.
-/
import BridgeChannel.Proofs.Json.Reading
import BridgeChannel.Proofs.Message.RoundTrip

set_option autoImplicit false

namespace BridgeChannel

open Json (Member)

/-! ### The rules -/

/-- A text that may be absent, or null in its place. -/
inductive Field.TextOrNothing (key : String) (body : List Member) : Option String → Prop
  | absent : Json.find? key body = none → TextOrNothing key body none
  | null : Json.find? key body = some .null → TextOrNothing key body none
  | text {s : String} : Json.find? key body = some (.str s) → TextOrNothing key body (some s)

open BridgeChannel.Field in
/-- A body holds the fields of a class, and these make up the message. -/
inductive Message.Describes (body : List Member) : MessageClass → Message → Prop
  | serverHello {version : Option String} : TextOrNothing "version" body version →
      Describes body .serverHello (.serverHello version)
  | clientHello : Describes body .clientHello .clientHello
  /-- All members but the two are the payload. -/
  | endpointMessage {sender recipient : Option String} : TextOrNothing "from" body sender →
      TextOrNothing "to" body recipient →
      Describes body .endpointMessage
        (.endpointMessage ⟨sender, recipient, Json.without "to" (Json.without "from" body)⟩)
  | firstSpeaker {endpoint : String} :
      Json.find? "dominantSpeakerEndpoint" body = some (.str endpoint) →
      Json.find? "previousSpeakers" body = none →
      Describes body .dominantSpeaker (.dominantSpeaker endpoint [])
  | nextSpeaker {endpoint : String} {previous : List String} :
      Json.find? "dominantSpeakerEndpoint" body = some (.str endpoint) →
      Json.find? "previousSpeakers" body = some (.arr (previous.map .str)) →
      Describes body .dominantSpeaker (.dominantSpeaker endpoint previous)
  | connectivity {endpoint : String} {active : Bool} :
      Json.find? "endpoint" body = some (.str endpoint) →
      Json.find? "active" body = some (.bool active) →
      Describes body .connectivity (.connectivity endpoint active)
  /-- The truth value may be written as a text, in letters of any case. -/
  | namedConnectivity {endpoint name : String} {active : Bool} :
      Json.find? "endpoint" body = some (.str endpoint) →
      Json.find? "active" body = some (.str name) →
      name.toLower = (if active then "true" else "false") →
      Describes body .connectivity (.connectivity endpoint active)
  | unconstrained : Json.find? "videoConstraints" body = none ∨
        Json.find? "videoConstraints" body = some .null →
      Describes body .senderVideoConstraints (.senderVideoConstraints none)
  | constrained {constraints : Json} :
      Json.find? "videoConstraints" body = some constraints → constraints ≠ .null →
      Describes body .senderVideoConstraints (.senderVideoConstraints (some constraints))
  /-- The number is an integer of 32 bits. -/
  | withoutDefaults {lastN : Int32} {fits : Json.FitsWord lastN.toInt} :
      Json.find? "lastN" body = some (.num (.integer lastN.toInt fits)) →
      Json.find? "defaultConstraints" body = none →
      Describes body .receiverVideoConstraints (.receiverVideoConstraints lastN [])
  | withDefaults {lastN : Int32} {fits : Json.FitsWord lastN.toInt} {defaults : List Member} :
      Json.find? "lastN" body = some (.num (.integer lastN.toInt fits)) →
      Json.find? "defaultConstraints" body = some (.obj defaults) →
      Describes body .receiverVideoConstraints (.receiverVideoConstraints lastN defaults)

/-! ### What a field may hold -/

namespace Field

theorem text_eq_ok_iff {j : Json} {s : String} : text j = .ok s ↔ j = .str s := by
  cases j <;> simp [text]

theorem mapM_text_eq_ok_iff {es : List Json} {ss : List String} :
    es.mapM text = .ok ss ↔ es = ss.map .str := by
  induction es generalizing ss with
  | nil => cases ss <;> simp [pure, Except.pure]
  | cons e es ih =>
      constructor
      · intro h
        rw [List.mapM_cons] at h
        obtain ⟨s, first, h⟩ := Json.read_of_bind h
        obtain ⟨ss, others, h⟩ := Json.read_of_bind h
        obtain rfl := Except.ok.inj h
        rw [text_eq_ok_iff.1 first, ih.1 others, List.map_cons]
      · intro h
        cases ss with
        | nil => exact absurd h (List.cons_ne_nil _ _)
        | cons s ss =>
            obtain ⟨first, others⟩ := List.cons.inj h
            rw [List.mapM_cons, text_eq_ok_iff.2 first, ih.2 others]
            rfl

theorem texts_eq_ok_iff {j : Json} {ss : List String} :
    texts j = .ok ss ↔ j = .arr (ss.map .str) := by
  cases j <;> simp [texts, mapM_text_eq_ok_iff]

/-- Case is folded for ASCII letters, and for no others. -/
theorem flagNamed?_eq_some_iff {s : String} {b : Bool} :
    flagNamed? s = some b ↔ s.toLower = (if b then "true" else "false") := by
  have folded : ∀ word : String, s.toList.map Char.toLower = word.toList ↔ s.toLower = word := by
    intro word
    have lowered : s.toLower = s.map Char.toLower := rfl
    rw [← String.toList_inj, lowered, String.toList_map]
  unfold flagNamed?
  simp only [folded]
  by_cases yes : s.toLower = "true"
  · cases b <;> simp [yes]
  · by_cases no : s.toLower = "false"
    · cases b <;> simp [no]
    · cases b <;> simp [yes, no]

theorem flag_eq_ok_iff {j : Json} {b : Bool} :
    flag j = .ok b ↔ j = .bool b ∨
      ∃ name, j = .str name ∧ name.toLower = (if b then "true" else "false") := by
  cases j with
  | str s =>
      have named := flagNamed?_eq_some_iff (s := s) (b := b)
      cases found : flagNamed? s <;> simp_all [flag]
  | _ => simp [flag]

theorem int32_eq_ok_iff {j : Json} {n : Int32} :
    int32 j = .ok n ↔ ∃ fits, j = .num (.integer n.toInt fits) := by
  constructor
  · intro h
    unfold int32 at h
    split at h
    next value fits =>
      split at h
      next within =>
        obtain rfl := Except.ok.inj h
        have same : (Int32.ofInt value).toInt = value := Int32.toInt_ofInt_of_le within.1 within.2
        exact ⟨same.symm ▸ fits, by simp [same]⟩
      · exact absurd h (by simp)
    · exact absurd h (by simp)
  · rintro ⟨fits, rfl⟩
    exact int32_toInt n fits

theorem object_eq_ok_iff {j : Json} {ms : List Member} : object j = .ok ms ↔ j = .obj ms := by
  cases j <;> simp [object]

section Fields

variable {α : Type} {read : Json → Except BodyFault α} {key : String} {body : List Member}

theorem present_eq_none_iff : present key read body = .ok none ↔ Json.find? key body = none := by
  unfold present
  cases Json.find? key body with
  | none => simp
  | some j => cases h : read j <;> simp [h, Except.map]

theorem present_eq_some_iff {a : α} :
    present key read body = .ok (some a) ↔
      ∃ j, Json.find? key body = some j ∧ read j = .ok a := by
  unfold present
  cases Json.find? key body with
  | none => simp
  | some j => cases h : read j <;> simp [h, Except.map]

theorem present_of_found {j : Json} {a : α} (found : Json.find? key body = some j)
    (h : read j = .ok a) : present key read body = .ok (some a) :=
  present_eq_some_iff.2 ⟨j, found, h⟩

theorem required_eq_ok_iff {value : Option α} {a : α} :
    required key value = .ok a ↔ value = some a := by
  cases value <;> simp [required]

end Fields

theorem orNull_text_eq_ok_iff {j : Json} {s : Option String} :
    orNull text j = .ok s ↔ (j = .null ∧ s = none) ∨ ∃ t, j = .str t ∧ s = some t := by
  cases j <;> simp [orNull, text, Except.map, eq_comm]

/-- A text that is absent and one that is null are both read as none. -/
theorem textOrNothing_of_present {key : String} {body : List Member}
    {found : Option (Option String)} (h : present key (orNull text) body = .ok found) :
    TextOrNothing key body found.join := by
  cases found with
  | none => exact .absent (present_eq_none_iff.1 h)
  | some s =>
      obtain ⟨j, there, read⟩ := present_eq_some_iff.1 h
      obtain ⟨rfl, rfl⟩ | ⟨t, rfl, rfl⟩ := orNull_text_eq_ok_iff.1 read
      · exact .null there
      · exact .text there

theorem present_of_textOrNothing {key : String} {body : List Member} {s : Option String}
    (h : TextOrNothing key body s) :
    ∃ found, present key (orNull text) body = .ok found ∧ found.join = s := by
  cases h with
  | absent none_ => exact ⟨none, present_eq_none_iff.2 none_, rfl⟩
  | null there =>
      exact ⟨some none, present_of_found there (orNull_text_eq_ok_iff.2 (by simp)), rfl⟩
  | @text t there =>
      exact ⟨some (some t), present_of_found there (orNull_text_eq_ok_iff.2 (by simp)),
        rfl⟩

end Field

/-! ### Bodies -/

namespace Message

open BridgeChannel.Field

section Bodies

variable {body : List Member}

/-- The rules of a class make messages of that class. -/
theorem Describes.class? {c : MessageClass} {m : Message} (h : Describes body c m) :
    m.class? = some c := by
  cases h <;> rfl

/-- What is read from a body follows the rules of its class. -/
theorem describes_of_ofBody {c : MessageClass} {m : Message} (h : ofBody body c = .ok m) :
    Describes body c m := by
  cases c with
  | serverHello =>
      obtain ⟨version, found, h⟩ := Json.read_of_bind h
      obtain rfl := Except.ok.inj h
      exact .serverHello (textOrNothing_of_present found)
  | clientHello =>
      obtain rfl := Except.ok.inj h
      exact .clientHello
  | endpointMessage =>
      obtain ⟨sender, hsender, h⟩ := Json.read_of_bind h
      obtain ⟨recipient, hrecipient, h⟩ := Json.read_of_bind h
      obtain rfl := Except.ok.inj h
      exact .endpointMessage (textOrNothing_of_present hsender)
        (textOrNothing_of_present hrecipient)
  | dominantSpeaker =>
      obtain ⟨endpoint, hendpoint, h⟩ := Json.read_of_bind h
      obtain ⟨previous, hprevious, h⟩ := Json.read_of_bind h
      obtain ⟨endpoint, needed, h⟩ := Json.read_of_bind h
      obtain rfl := Except.ok.inj h
      obtain rfl := required_eq_ok_iff.1 needed
      obtain ⟨_, there, read⟩ := present_eq_some_iff.1 hendpoint
      obtain rfl := text_eq_ok_iff.1 read
      cases previous with
      | none => exact .firstSpeaker there (present_eq_none_iff.1 hprevious)
      | some previous =>
          obtain ⟨_, earlier, read⟩ := present_eq_some_iff.1 hprevious
          obtain rfl := texts_eq_ok_iff.1 read
          exact .nextSpeaker there earlier
  | connectivity =>
      obtain ⟨active, hactive, h⟩ := Json.read_of_bind h
      obtain ⟨endpoint, hendpoint, h⟩ := Json.read_of_bind h
      obtain ⟨endpoint, needed, h⟩ := Json.read_of_bind h
      obtain ⟨active, needed', h⟩ := Json.read_of_bind h
      obtain rfl := Except.ok.inj h
      obtain rfl := required_eq_ok_iff.1 needed
      obtain rfl := required_eq_ok_iff.1 needed'
      obtain ⟨_, there, read⟩ := present_eq_some_iff.1 hendpoint
      obtain rfl := text_eq_ok_iff.1 read
      obtain ⟨_, flag, read⟩ := present_eq_some_iff.1 hactive
      obtain rfl | ⟨name, rfl, named⟩ := flag_eq_ok_iff.1 read
      · exact .connectivity there flag
      · exact .namedConnectivity there flag named
  | senderVideoConstraints =>
      rw [ofBody] at h
      split at h
      next absent =>
        obtain rfl := Except.ok.inj h
        exact .unconstrained (.inl absent)
      next null =>
        obtain rfl := Except.ok.inj h
        exact .unconstrained (.inr null)
      next j some found =>
        obtain rfl := Except.ok.inj h
        exact .constrained found some
  | receiverVideoConstraints =>
      obtain ⟨defaults, hdefaults, h⟩ := Json.read_of_bind h
      obtain ⟨lastN, hlastN, h⟩ := Json.read_of_bind h
      obtain ⟨lastN, needed, h⟩ := Json.read_of_bind h
      obtain rfl := Except.ok.inj h
      obtain rfl := required_eq_ok_iff.1 needed
      obtain ⟨_, there, read⟩ := present_eq_some_iff.1 hlastN
      obtain ⟨fits, rfl⟩ := int32_eq_ok_iff.1 read
      cases defaults with
      | none => exact .withoutDefaults there (present_eq_none_iff.1 hdefaults)
      | some defaults =>
          obtain ⟨_, object, read⟩ := present_eq_some_iff.1 hdefaults
          obtain rfl := object_eq_ok_iff.1 read
          exact .withDefaults there object

/-- What follows the rules of a class is read, each rule by its fields. -/
theorem ofBody_of_describes {c : MessageClass} {m : Message} (h : Describes body c m) :
    ofBody body c = .ok m := by
  cases h with
  | serverHello version =>
      obtain ⟨found, read, rfl⟩ := present_of_textOrNothing version
      rw [ofBody, read]
      rfl
  | clientHello => rfl
  | endpointMessage sender recipient =>
      obtain ⟨sender, hsender, rfl⟩ := present_of_textOrNothing sender
      obtain ⟨recipient, hrecipient, rfl⟩ := present_of_textOrNothing recipient
      rw [ofBody, hsender, hrecipient]
      rfl
  | firstSpeaker endpoint absent =>
      rw [ofBody, present_of_found endpoint (text_eq_ok_iff.2 rfl), present_of_absent absent]
      rfl
  | nextSpeaker endpoint previous =>
      rw [ofBody, present_of_found endpoint (text_eq_ok_iff.2 rfl),
        present_of_found previous (texts_of_map_str _)]
      rfl
  | connectivity endpoint active =>
      rw [ofBody, present_of_found endpoint (text_eq_ok_iff.2 rfl),
        present_of_found active (flag_eq_ok_iff.2 (.inl rfl))]
      rfl
  | namedConnectivity endpoint active named =>
      rw [ofBody, present_of_found endpoint (text_eq_ok_iff.2 rfl),
        present_of_found active (flag_eq_ok_iff.2 (.inr ⟨_, rfl, named⟩))]
      rfl
  | unconstrained none_ =>
      rw [ofBody]
      rcases none_ with none_ | none_ <;> rw [none_] <;> rfl
  | constrained found some =>
      rw [ofBody, found]
      split
      next none_ => exact absurd none_ (Option.some_ne_none _)
      next null => exact absurd (Option.some.inj null) some
      next same => rw [Option.some.inj same]; rfl
  | withoutDefaults lastN absent =>
      rw [ofBody, present_of_absent absent,
        present_of_found lastN (int32_toInt _ _)]
      rfl
  | withDefaults lastN defaults =>
      rw [ofBody, present_of_found defaults (object_eq_ok_iff.2 rfl),
        present_of_found lastN (int32_toInt _ _)]
      rfl

/-- **A body is read as the message that the rules of the class make of it**, and as no other. -/
theorem ofBody_eq_ok_iff {c : MessageClass} {m : Message} :
    ofBody body c = .ok m ↔ Describes body c m :=
  ⟨describes_of_ofBody, ofBody_of_describes⟩

end Bodies

/-! ### Frames -/

open Json (Spells SpellsObject find?)

/-- The last value that a frame gives to its class. -/
theorem find?_discriminator (written : List Member) :
    find? discriminator (Json.ofMembers written) = find? discriminator written.reverse :=
  Json.find?_ofMembers discriminator written

/-- A text that spells an object is read by its members. -/
theorem decode_of_spells {frame : String} {written : List Member}
    (h : SpellsObject frame written) : decode frame = ofMembers (Json.ofMembers written) :=
  decode_of_parse (Json.parse_eq_obj_iff.2 ⟨written, h, rfl⟩)

/-- What the members of a frame are read as, by the last value of its class. -/
theorem ofMembers_named {written : List Member} {name : String}
    (named : find? discriminator written.reverse = some (.str name)) :
    ofMembers (Json.ofMembers written) =
      match MessageClass.ofName? name with
      | none => .ok (.unknown name (.obj (body written)))
      | some c => (ofBody (body written) c).mapError (.malformed c) := by
  unfold ofMembers
  rw [find?_discriminator, named]
  rfl

theorem ofMembers_known {written : List Member} {c : MessageClass}
    (named : find? discriminator written.reverse = some (.str c.name)) :
    ofMembers (Json.ofMembers written) =
      (ofBody (body written) c).mapError (.malformed c) := by
  rw [ofMembers_named named, MessageClass.ofName?_eq_some_iff.2 rfl]

theorem ofMembers_unnamed {written : List Member}
    (unnamed : ∀ name, find? discriminator written.reverse ≠ some (.str name)) :
    ofMembers (Json.ofMembers written) = .error .missingClass := by
  unfold ofMembers
  rw [find?_discriminator]
  split
  next name named => exact absurd named (unnamed name)
  · rfl

/-- A text with any other answer than these two spells an object. -/
theorem spellsObject_of_decode {frame : String} {answer : Except FrameError Message}
    (h : decode frame = answer) (json : ∀ e, answer ≠ .error (.notJson e))
    (object : answer ≠ .error .notAnObject) :
    ∃ written, SpellsObject frame written ∧ ofMembers (Json.ofMembers written) = answer := by
  unfold decode at h
  split at h
  next e _ => exact absurd h.symm (json e)
  next ms parsed =>
    obtain ⟨written, spelled, rfl⟩ := Json.parse_eq_obj_iff.1 parsed
    exact ⟨written, spelled, h⟩
  · exact absurd h.symm object

/-- The members of an object are never at fault as a text. -/
theorem ofMembers_ne {ms : List Member} :
    (∀ e, ofMembers ms ≠ .error (.notJson e)) ∧ ofMembers ms ≠ .error .notAnObject := by
  unfold ofMembers
  split
  next name _ =>
    dsimp only
    split
    · simp
    next c _ => cases ofBody (Json.without discriminator ms) c <;> simp [Except.mapError]
  · simp

theorem decode_eq_notJson_iff {frame : String} :
    (∃ e, decode frame = .error (.notJson e)) ↔ ¬∃ j, Spells frame j := by
  constructor
  · rintro ⟨e, h⟩ ⟨j, spelled⟩
    unfold decode at h
    rw [Json.parse_eq_ok_iff.2 spelled] at h
    cases j with
    | obj ms => exact ofMembers_ne.1 e h
    | _ => simp at h
  · intro none_
    cases parsed : Json.parse frame with
    | ok j => exact absurd ⟨j, Json.parse_eq_ok_iff.1 parsed⟩ none_
    | error e => exact ⟨e, by simp [decode, parsed]⟩

theorem decode_eq_notAnObject_iff {frame : String} :
    decode frame = .error .notAnObject ↔ ∃ j, Spells frame j ∧ ∀ ms, j ≠ .obj ms := by
  constructor
  · intro h
    unfold decode at h
    split at h
    · exact absurd h (by simp)
    · exact absurd h ofMembers_ne.2
    next j other parsed =>
      refine ⟨j, Json.parse_eq_ok_iff.1 parsed, ?_⟩
      rintro ms rfl
      exact other ms rfl
  · rintro ⟨j, spelled, other⟩
    unfold decode
    rw [Json.parse_eq_ok_iff.2 spelled]
    cases j with
    | obj ms => exact absurd rfl (other ms)
    | _ => rfl

theorem decode_eq_missingClass_iff {frame : String} :
    decode frame = .error .missingClass ↔ ∃ written, SpellsObject frame written ∧
      ∀ name, find? discriminator written.reverse ≠ some (.str name) := by
  constructor
  · intro h
    obtain ⟨written, spelled, read⟩ := spellsObject_of_decode h (by simp) (by simp)
    refine ⟨written, spelled, fun name named => ?_⟩
    rw [ofMembers_named named] at read
    split at read
    · exact absurd read (by simp)
    next c _ => cases fields : ofBody (body written) c <;> simp [fields, Except.mapError] at read
  · rintro ⟨written, spelled, unnamed⟩
    rw [decode_of_spells spelled, ofMembers_unnamed unnamed]

/-- A frame that names a class is read by the rules of that class. -/
theorem named_of_decode {frame : String} {answer : Except FrameError Message}
    (h : decode frame = answer) (json : ∀ e, answer ≠ .error (.notJson e))
    (object : answer ≠ .error .notAnObject) (named : answer ≠ .error .missingClass) :
    ∃ written name, SpellsObject frame written ∧
      find? discriminator written.reverse = some (.str name) ∧
      (match MessageClass.ofName? name with
        | none => .ok (.unknown name (.obj (body written)))
        | some c => (ofBody (body written) c).mapError (.malformed c)) = answer := by
  obtain ⟨written, spelled, read⟩ := spellsObject_of_decode h json object
  by_cases name : ∃ name, find? discriminator written.reverse = some (.str name)
  · obtain ⟨name, found⟩ := name
    exact ⟨written, name, spelled, found, ofMembers_named found ▸ read⟩
  · rw [ofMembers_unnamed fun n found => name ⟨n, found⟩] at read
    exact absurd read.symm named

theorem decode_eq_unknown_iff {frame name : String} {rest : Json} :
    decode frame = .ok (.unknown name rest) ↔ ∃ written, SpellsObject frame written ∧
      find? discriminator written.reverse = some (.str name) ∧
      (∀ c : MessageClass, c.name ≠ name) ∧ rest = .obj (body written) := by
  constructor
  · intro h
    obtain ⟨written, n, spelled, named, read⟩ :=
      named_of_decode h (by simp) (by simp) (by simp)
    split at read
    next none_ =>
      obtain ⟨rfl, rfl⟩ := unknown.inj (Except.ok.inj read)
      exact ⟨written, spelled, named, MessageClass.ofName?_eq_none_iff.1 none_, rfl⟩
    next c _ =>
      cases fields : ofBody (body written) c with
      | error fault => simp [fields, Except.mapError] at read
      | ok m =>
          rw [fields] at read
          obtain rfl := Except.ok.inj read
          have rules := describes_of_ofBody fields
          cases rules
  · rintro ⟨written, spelled, named, other, rfl⟩
    rw [decode_of_spells spelled, ofMembers_named named, MessageClass.ofName?_eq_none_iff.2 other]

theorem decode_eq_known_iff {frame : String} {c : MessageClass} {m : Message} :
    (decode frame = .ok m ∧ m.class? = some c) ↔ ∃ written, SpellsObject frame written ∧
      find? discriminator written.reverse = some (.str c.name) ∧ Describes (body written) c m := by
  constructor
  · rintro ⟨h, known⟩
    obtain ⟨written, n, spelled, named, read⟩ :=
      named_of_decode h (by simp) (by simp) (by simp)
    split at read
    · obtain rfl := Except.ok.inj read
      exact absurd known (by simp [class?])
    next c' found =>
      obtain rfl := MessageClass.ofName?_eq_some_iff.1 found
      cases fields : ofBody (body written) c' with
      | error fault => simp [fields, Except.mapError] at read
      | ok m' =>
          rw [fields] at read
          obtain rfl : m' = m := Except.ok.inj read
          have rules := describes_of_ofBody fields
          obtain rfl : c' = c := Option.some.inj (rules.class?.symm.trans known)
          exact ⟨written, spelled, named, rules⟩
  · rintro ⟨written, spelled, named, rules⟩
    refine ⟨?_, rules.class?⟩
    rw [decode_of_spells spelled, ofMembers_known named, ofBody_of_describes rules]
    rfl

/-- A frame is malformed by what is wrong with the members beside its class. -/
theorem decode_eq_malformed_iff_ofBody {frame : String} {c : MessageClass} {fault : BodyFault} :
    decode frame = .error (.malformed c fault) ↔ ∃ written, SpellsObject frame written ∧
      find? discriminator written.reverse = some (.str c.name) ∧
      ofBody (body written) c = .error fault := by
  constructor
  · intro h
    obtain ⟨written, n, spelled, named, read⟩ :=
      named_of_decode h (by simp) (by simp) (by simp)
    split at read
    · exact absurd read (by simp)
    next c' found =>
      obtain rfl := MessageClass.ofName?_eq_some_iff.1 found
      cases fields : ofBody (body written) c' with
      | ok m => simp [fields, Except.mapError] at read
      | error fault' =>
          rw [fields] at read
          obtain ⟨rfl, rfl⟩ : c' = c ∧ fault' = fault := by simpa [Except.mapError] using read
          exact ⟨written, spelled, named, fields⟩
  · rintro ⟨written, spelled, named, fields⟩
    rw [decode_of_spells spelled, ofMembers_known named, fields]
    rfl

theorem decode_eq_malformed_iff {frame : String} {c : MessageClass} :
    (∃ fault, decode frame = .error (.malformed c fault)) ↔ ∃ written,
      SpellsObject frame written ∧ find? discriminator written.reverse = some (.str c.name) ∧
      ¬∃ m, Describes (body written) c m := by
  simp only [decode_eq_malformed_iff_ofBody]
  constructor
  · rintro ⟨fault, written, spelled, named, fields⟩
    refine ⟨written, spelled, named, ?_⟩
    rintro ⟨m, rules⟩
    rw [ofBody_of_describes rules] at fields
    exact absurd fields (by simp)
  · rintro ⟨written, spelled, named, broken⟩
    cases fields : ofBody (body written) c with
    | ok m => exact absurd ⟨m, describes_of_ofBody fields⟩ broken
    | error fault => exact ⟨fault, written, spelled, named, fields⟩

/-- **What reading answers with, for every text**: the text is no JSON exactly if it spells no
value, no object exactly if it spells another value, without a class exactly if the last member of
that name is no string, a message of an unknown class, with its other members, exactly if no class
has that name, and else a message of its class exactly if the rules of the class make that message
of the other members, and malformed exactly if they make none.  What counts as an integer in all
this has neither fraction nor exponent, is no negative zero, and fits a word. -/
theorem decode_iff_grammar (frame : String) :
    ((∃ e, decode frame = .error (.notJson e)) ↔ ¬∃ j, Spells frame j) ∧
    (decode frame = .error .notAnObject ↔ ∃ j, Spells frame j ∧ ∀ ms, j ≠ .obj ms) ∧
    (decode frame = .error .missingClass ↔ ∃ written, SpellsObject frame written ∧
      ∀ name, find? "colibriClass" written.reverse ≠ some (.str name)) ∧
    (∀ name rest, decode frame = .ok (.unknown name rest) ↔
      ∃ written, SpellsObject frame written ∧
        find? "colibriClass" written.reverse = some (.str name) ∧
        (∀ c : MessageClass, c.name ≠ name) ∧ rest = .obj (body written)) ∧
    (∀ c m, (decode frame = .ok m ∧ m.class? = some c) ↔
      ∃ written, SpellsObject frame written ∧
        find? "colibriClass" written.reverse = some (.str c.name) ∧
        Describes (body written) c m) ∧
    (∀ c, (∃ fault, decode frame = .error (.malformed c fault)) ↔
      ∃ written, SpellsObject frame written ∧
        find? "colibriClass" written.reverse = some (.str c.name) ∧
        ¬∃ m, Describes (body written) c m) ∧
    ∀ (numeral : Json.Numeral) (n : Int), (∃ fits, numeral.value? = some (.integer n fits)) ↔
      numeral.fraction = none ∧ numeral.exponent = none ∧
        ¬(numeral.negative = true ∧ numeral.integer = 0) ∧ numeral.integer = n ∧
        Json.FitsWord n :=
  ⟨decode_eq_notJson_iff, decode_eq_notAnObject_iff, decode_eq_missingClass_iff,
    fun _ _ => decode_eq_unknown_iff, fun _ _ => decode_eq_known_iff,
    fun _ => decode_eq_malformed_iff, fun _ _ => Json.Numeral.exists_value?_eq_integer_iff⟩

end Message

end BridgeChannel
