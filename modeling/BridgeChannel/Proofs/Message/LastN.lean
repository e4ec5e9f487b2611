/-
**How many streams are wanted, for every number that can be written.**

A wish for video holds a number of streams of 32 bits.  The number may be written with any number of
digits, and on its way it passes four limits: those of 32 bits, of 64 bits with a sign, of 64 bits
without one, and the one behind which numbers are doubles.  At none of them does it wrap around, and
nothing is rounded or cut off to fit.

Main definition: `WishFrame` — a wish for video, with a token for the number of streams.

Main results:

* `decode_eq_ok_iff_value` — such a frame is read exactly if the token means an integer of 32 bits;
* `decode_wish_iff` — **which tokens are read, and as what number**.
-/
import BridgeChannel.Proofs.Json.Token
import BridgeChannel.Proofs.Message.Grammar
import Mathlib

set_option autoImplicit false

namespace BridgeChannel.Message

open Json (Member find? Numeral skipBlanks)
open Json.Grammar

/-! ### Frames with a token -/

/-- The member that names a class. -/
def ClassMember (c : MessageClass) (s rest : List Char) : Prop :=
  ∃ s', Key s "colibriClass" s' ∧ Padded Plain s' (.str c.name) rest

/-- A member whose value is written as a token, be it in range or not. -/
def TokenMember (key : String) (token s rest : List Char) : Prop :=
  ∃ s' s'', Key s key s' ∧ Blanks s' (token ++ s'') ∧ Blanks s'' rest

/-- A wish for video whose only field is the number of streams, which is written as a token. -/
inductive WishFrame (token : List Char) (frame : String) : Prop
  | classFirst {s s' s'' : List Char} : Blanks frame.toList ('\x7b' :: s) →
      ClassMember .receiverVideoConstraints s (',' :: s') →
      TokenMember "lastN" token s' ('\x7d' :: s'') → Blanks s'' [] → WishFrame token frame
  | classLast {s s' s'' : List Char} : Blanks frame.toList ('\x7b' :: s) →
      TokenMember "lastN" token s (',' :: s') →
      ClassMember .receiverVideoConstraints s' ('\x7d' :: s'') → Blanks s'' [] →
      WishFrame token frame

/-! ### Tokens in range -/

section Spelled

variable {token : List Char} {frame : String} {numeral : Numeral} {n : Json.Number}

theorem TokenMember.padded {key : String} {s rest : List Char} (h : TokenMember key token s rest)
    (spelled : Token token numeral []) (value : numeral.value? = some n) :
    ∃ s', Key s key s' ∧ Padded (Value 126) s' (.num n) rest := by
  obtain ⟨s', s'', named, before, after⟩ := h
  exact ⟨s', named, _, s'', before, ((spelled.append s'').plain value).value _, after⟩

theorem ClassMember.padded {c : MessageClass} {s rest : List Char} (h : ClassMember c s rest) :
    ∃ s', Key s "colibriClass" s' ∧ Padded (Value 126) s' (.str c.name) rest := by
  obtain ⟨s', named, first, last, before, name, after⟩ := h
  exact ⟨s', named, first, last, before, name.value _, after⟩

/-- A frame whose token is in range spells an object of the two members. -/
theorem WishFrame.spellsObject (h : WishFrame token frame) (spelled : Token token numeral [])
    (value : numeral.value? = some n) : ∃ written, Json.SpellsObject frame written ∧
      find? "colibriClass" written.reverse =
        some (.str MessageClass.receiverVideoConstraints.name) ∧
      find? "lastN" written.reverse = some (.num n) ∧
      find? "defaultConstraints" written.reverse = none := by
  cases h with
  | classFirst before class_ lastN after =>
      obtain ⟨_, named, name⟩ := class_.padded
      obtain ⟨_, key, number⟩ := lastN.padded spelled value
      exact ⟨_, ⟨_, _, before, .members (.more named name (.last key number)), after⟩, rfl, rfl,
        rfl⟩
  | classLast before lastN class_ after =>
      obtain ⟨_, named, name⟩ := class_.padded
      obtain ⟨_, key, number⟩ := lastN.padded spelled value
      exact ⟨_, ⟨_, _, before, .members (.more key number (.last named name)), after⟩, rfl, rfl,
        rfl⟩

end Spelled

/-! ### Tokens out of range -/

section Refused

variable {token : List Char} {frame : String} {numeral : Numeral}

/-- Members of which one is out of range are refused, however many of them are read. -/
def Refused (s : List Char) : Prop :=
  ∀ steps read, ∃ stop, Json.readMembers (Json.readValue 126) steps read s = .error stop

theorem TokenMember.refused {key : String} {s rest : List Char} {c : Char}
    (h : TokenMember key token ('"' :: s) (c :: rest)) (mark : c = ',' ∨ c = ']' ∨ c = '\x7d')
    (spelled : Token token numeral []) (value : numeral.value? = none) : Refused s := by
  obtain ⟨s', s'', named, before, after⟩ := h
  intro steps read
  have stopped := Json.readValue_of_token 126 before (spelled.append s'')
    (Json.detached_of_mark after mark)
  rw [value] at stopped
  cases steps with
  | zero => exact ⟨_, rfl⟩
  | succ steps => exact ⟨_, named.readMembers_stop steps read stopped⟩

theorem ClassMember.refused {c : MessageClass} {s t u : List Char}
    (h : ClassMember c ('"' :: s) (',' :: t)) (quote : skipBlanks t = '"' :: u)
    (refused : Refused u) : Refused s := by
  obtain ⟨s', named, padded⟩ := h.padded
  obtain ⟨last, read, comma⟩ := (Json.reads_value 126).of_padded padded (.inl rfl)
  rintro (_ | steps) members
  · exact ⟨_, rfl⟩
  · obtain ⟨stop, stopped⟩ := refused steps (("colibriClass", .str c.name) :: members)
    exact ⟨stop, (named.readMembers_more steps members read comma quote).trans stopped⟩

theorem TokenMember.quote {key : String} {s rest : List Char} (h : TokenMember key token s rest) :
    ∃ t, skipBlanks s = '"' :: t ∧ TokenMember key token ('"' :: t) rest := by
  obtain ⟨s', s'', named, number⟩ := h
  obtain ⟨t, quote, named⟩ := named.quote
  exact ⟨t, quote, s', s'', named, number⟩

theorem ClassMember.quote {c : MessageClass} {s rest : List Char} (h : ClassMember c s rest) :
    ∃ t, skipBlanks s = '"' :: t ∧ ClassMember c ('"' :: t) rest := by
  obtain ⟨s', named, name⟩ := h
  obtain ⟨t, quote, named⟩ := named.quote
  exact ⟨t, quote, s', named, name⟩

/-- An object whose members are refused is no value, whatever comes behind it. -/
theorem decode_ne_ok_of_refused {s t : List Char} (before : Blanks frame.toList ('\x7b' :: s))
    (quote : skipBlanks s = '"' :: t) (refused : Refused t) (m : Message) :
    decode frame ≠ .ok m := by
  obtain ⟨stop, stopped⟩ := refused (t.length + 1) []
  have object : Json.readObject (Json.readValue 126) s = .error stop := by
    unfold Json.readObject
    rw [quote]
    simp only [stopped]
    rfl
  have value : Json.readValue Json.maxDepth frame.toList = .error stop := by
    rw [Json.maxDepth, Json.readValue, Json.readValueWith_of_blanks before,
      Json.readValueWith_brace, object]
  have document : Json.readDocument frame.toList = .error stop := by
    rw [Json.readDocument, value]
    rfl
  simp [decode, Json.parse, document]

/-- A frame whose token is out of range is no message. -/
theorem WishFrame.decode_ne_ok (h : WishFrame token frame) (spelled : Token token numeral [])
    (value : numeral.value? = none) (m : Message) : decode frame ≠ .ok m := by
  cases h with
  | classFirst before class_ lastN after =>
      obtain ⟨t, quote, class_⟩ := class_.quote
      obtain ⟨u, quote', lastN⟩ := lastN.quote
      have refused := lastN.refused (.inr (.inr rfl)) spelled value
      exact decode_ne_ok_of_refused before quote (class_.refused quote' refused) m
  | classLast before lastN class_ after =>
      obtain ⟨t, quote, lastN⟩ := lastN.quote
      exact decode_ne_ok_of_refused before quote (lastN.refused (.inl rfl) spelled value) m

end Refused

/-! ### Which tokens are read -/

section Read

variable {token : List Char} {frame : String} {numeral : Numeral}

/-- A body with a number of streams alone is read exactly if that is an integer of 32 bits. -/
theorem ofBody_lastN_eq_ok_iff {ms : List Member} {n : Json.Number} {m : Message}
    (lastN : find? "lastN" ms = some (.num n)) (others : find? "defaultConstraints" ms = none) :
    ofBody ms .receiverVideoConstraints = .ok m ↔
      ∃ (k : Int32) (fits : Json.FitsWord k.toInt),
        n = .integer k.toInt fits ∧ m = .receiverVideoConstraints k [] := by
  rw [ofBody_eq_ok_iff]
  constructor
  · intro h
    cases h with
    | @withoutDefaults k fits found _ =>
        rw [lastN] at found
        exact ⟨k, fits, Json.num.inj (Option.some.inj found), rfl⟩
    | withDefaults _ found => exact absurd (others.symm.trans found) (Option.some_ne_none _).symm
  · rintro ⟨k, fits, rfl, rfl⟩
    exact .withoutDefaults lastN others

/-- **A wish is read exactly if its token means an integer of 32 bits.** -/
theorem decode_eq_ok_iff_value (h : WishFrame token frame) (spelled : Token token numeral [])
    {m : Message} : decode frame = .ok m ↔ ∃ (k : Int32) (fits : Json.FitsWord k.toInt),
      numeral.value? = some (.integer k.toInt fits) ∧ m = .receiverVideoConstraints k [] := by
  cases value : numeral.value? with
  | none =>
      refine iff_of_false (h.decode_ne_ok spelled value m) ?_
      rintro ⟨k, fits, none_, -⟩
      exact absurd none_.symm (Option.some_ne_none _)
  | some n =>
      obtain ⟨written, object, named, lastN, others⟩ := h.spellsObject spelled value
      have inBody : ∀ key, key ≠ discriminator →
          find? key (body written) = find? key written.reverse := by
        intro key other
        rw [body, Json.find?_without, if_neg other, Json.find?_ofMembers]
      have fields := ofBody_lastN_eq_ok_iff (m := m) ((inBody "lastN" (by decide)).trans lastN)
        ((inBody "defaultConstraints" (by decide)).trans others)
      rw [decode_of_spells object, ofMembers_known named]
      have kept : ∀ x : Except BodyFault Message,
          x.mapError (FrameError.malformed .receiverVideoConstraints) = .ok m ↔ x = .ok m := by
        rintro (fault | m') <;> simp [Except.mapError]
      rw [kept, fields]
      simp only [Option.some.injEq]

/-- **Which tokens are read, and as what number.**  Of all tokens of any length, a wish for video is
read with those that have neither fraction nor exponent, are not `-0`, and write a number between
`-2^31` and `2^31 - 1`; the number of streams is then the one that is written.  The word in which
the digits are gathered holds them all exactly if their number is below `2^64`, and holds that
number then. -/
theorem decode_wish_iff (h : WishFrame token frame) (spelled : Token token numeral []) :
    ((∃ m, decode frame = .ok m) ↔ numeral.fraction = none ∧ numeral.exponent = none ∧
      token ≠ "-0".toList ∧ -2147483648 ≤ numeral.integer ∧ numeral.integer ≤ 2147483647) ∧
    (∀ m, decode frame = .ok m →
      ∃ k : Int32, m = .receiverVideoConstraints k [] ∧ k.toInt = numeral.integer) ∧
    ((Json.gather 0 numeral.whole).2 = [] ↔ numeral.integer.natAbs < UInt64.size) ∧
    (numeral.integer.natAbs < UInt64.size →
      (Json.gather 0 numeral.whole).1 = numeral.integer.natAbs) := by
  have magnitude : numeral.integer.natAbs = Nat.ofDigitChars 10 numeral.whole 0 := by
    unfold Numeral.integer
    cases numeral.negative <;> simp
  refine ⟨⟨?_, ?_⟩, ?_, ?_, ?_⟩
  · rintro ⟨m, read⟩
    obtain ⟨k, fits, value, -⟩ := (decode_eq_ok_iff_value h spelled).1 read
    obtain ⟨fraction, exponent, nonzero, same, -⟩ :=
      Numeral.exists_value?_eq_integer_iff.1 ⟨fits, value⟩
    have low := k.le_toInt
    have high := k.toInt_lt
    refine ⟨fraction, exponent, fun zero => ?_, by omega, by omega⟩
    exact nonzero ((spelled.negativeZero_iff fraction exponent).2 zero)
  · rintro ⟨fraction, exponent, nonzero, low, high⟩
    have same : (Int32.ofInt numeral.integer).toInt = numeral.integer :=
      Int32.toInt_ofInt_of_le low (by omega)
    have negative : ¬(numeral.negative = true ∧ numeral.integer = 0) := fun zero =>
      nonzero ((spelled.negativeZero_iff fraction exponent).1 zero)
    obtain ⟨fits, value⟩ := Numeral.exists_value?_eq_integer_iff.2
      ⟨fraction, exponent, negative, same.symm, fitsWord_int32 _⟩
    exact ⟨_, (decode_eq_ok_iff_value h spelled).2 ⟨_, fits, value, rfl⟩⟩
  · intro m read
    obtain ⟨k, fits, value, rfl⟩ := (decode_eq_ok_iff_value h spelled).1 read
    obtain ⟨-, -, -, same, -⟩ := Numeral.exists_value?_eq_integer_iff.1 ⟨fits, value⟩
    exact ⟨k, rfl, same.symm⟩
  · rw [magnitude]
    exact Json.gather_eq_nil_iff (by decide)
  · intro fits
    rw [magnitude] at fits ⊢
    rw [Json.gather_of_fits fits]

end Read

/-- The least number of 32 bits is read, in front of the class and behind a blank. -/
theorem decode_wish_iff_least :
    let frame := "\x7b\"lastN\": -2147483648," ++
      "\"colibriClass\":\"ReceiverVideoConstraints\"\x7d"
    WishFrame "-2147483648".toList frame ∧
      ∃ k : Int32, decode frame = .ok (.receiverVideoConstraints k []) ∧ k.toInt = -2147483648 := by
  intro frame
  have key : Json.readText [] ("lastN\": -2147483648," ++
      "\"colibriClass\":\"ReceiverVideoConstraints\"\x7d").toList = .ok ("lastN", ':' ::
        ' ' :: ("-2147483648".toList ++
          ",\"colibriClass\":\"ReceiverVideoConstraints\"\x7d".toList)) := by cbv
  have named : Json.readText [] "colibriClass\":\"ReceiverVideoConstraints\"\x7d".toList =
      .ok ("colibriClass", ':' :: '"' :: "ReceiverVideoConstraints\"\x7d".toList) := by cbv
  have name : Json.readText [] "ReceiverVideoConstraints\"\x7d".toList =
      .ok ("ReceiverVideoConstraints", ['\x7d']) := by cbv
  have spelled : Token "-2147483648".toList ⟨true, "2147483648".toList, none, none⟩ [] :=
    .negative (.mk (.digits (by decide) (Json.digits_of_eq (by cbv) (by decide))) (.none _)
      (.none _))
  have text : ("\x7b\"lastN\": -2147483648," ++
      "\"colibriClass\":\"ReceiverVideoConstraints\"\x7d").toList =
        '\x7b' :: '"' :: ("lastN\": -2147483648," ++
          "\"colibriClass\":\"ReceiverVideoConstraints\"\x7d").toList := by cbv
  have wish : WishFrame "-2147483648".toList frame :=
    .classLast (text ▸ .none _)
      ⟨_, _, Key.of_readText key, .one rfl (.none _), .none _⟩
      ⟨_, Key.of_readText named, _, _, .none _, Plain.of_readText name, .none _⟩ (.none _)
  obtain ⟨m, read⟩ := (decode_wish_iff wish spelled).1.2 (by decide)
  obtain ⟨k, rfl, same⟩ := (decode_wish_iff wish spelled).2.1 m read
  exact ⟨wish, k, read, same⟩

end BridgeChannel.Message
