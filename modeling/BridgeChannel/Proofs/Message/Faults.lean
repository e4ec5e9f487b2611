/-
**Which fault of a body is reported.**

A body may break the rules of its class in several fields at once, and the answer tells of one.  Two
orders decide which: the fields that are present are read in the order of their keys, byte by byte,
and the first that holds the wrong thing is at fault; only if none does is a field missed, the
first in the order in which the class lists its fields.

Main definitions:

* `Field.Kind`, `Field.Wrong` — what a field may hold, and how another value is at fault;
* `Field.Rule`, `MessageClass.rules` — the fields of a class, as the class lists them;
* `MessageClass.Reports` — **the fault that a class has with a body**.

Main results:

* `Field.Kind.fault?_eq_some_iff` — what each kind of field refuses;
* `Message.faultOf_ofBody` — reading a body goes through the two orders;
* `Message.ofBody_eq_error_iff`, `Message.decode_eq_malformed_iff_reports` — **a body and a frame
  are malformed with exactly the fault that the class reports**.
-/
import BridgeChannel.Proofs.Message.Grammar

set_option autoImplicit false

namespace BridgeChannel

open Json (Member find?)

/-! ### The kinds of field -/

namespace Field

/-- What a field may hold. -/
inductive Kind where
  | text
  | textOrNull
  | texts
  | flag
  | int32
  | object
  | anything
  deriving DecidableEq

/-- How a value that a kind of field refuses is at fault. -/
inductive Wrong : Kind → Json → BodyFault → Prop
  | text {j : Json} : (∀ s, j ≠ .str s) → Wrong .text j (.wrongType j.shape .string)
  | textOrNull {j : Json} : j ≠ .null → (∀ s, j ≠ .str s) →
      Wrong .textOrNull j (.wrongType j.shape .string)
  | texts {j : Json} : (∀ es, j ≠ .arr es) → Wrong .texts j (.wrongType j.shape .sequence)
  /-- The first element that is no text is at fault. -/
  | element {first : List String} {e : Json} {rest : List Json} : (∀ s, e ≠ .str s) →
      Wrong .texts (.arr (first.map .str ++ e :: rest)) (.wrongType e.shape .string)
  | flag {j : Json} : (∀ b, j ≠ .bool b) → (∀ s, j ≠ .str s) → Wrong .flag j .notAFlag
  /-- A text names a truth value in letters of any case. -/
  | flagText {s : String} : s.toLower ≠ "true" → s.toLower ≠ "false" →
      Wrong .flag (.str s) (.unknownFlag s)
  | int32 {j : Json} : (∀ n fits, j ≠ .num (.integer n fits)) →
      Wrong .int32 j (.wrongType j.shape .int32)
  | range {n : Int} {fits : Json.FitsWord n} : ¬(-2147483648 ≤ n ∧ n ≤ 2147483647) →
      Wrong .int32 (.num (.integer n fits)) (.outOfRange n)
  | object {j : Json} : (∀ ms, j ≠ .obj ms) → Wrong .object j (.wrongType j.shape .map)

section FaultOf

variable {α β : Type}

/-- The fault with which something is refused. -/
def faultOf : Except BodyFault α → Option BodyFault
  | .ok _ => none
  | .error fault => some fault

@[simp] theorem faultOf_ok (a : α) : faultOf (.ok a) = none := rfl

@[simp] theorem faultOf_pure (a : α) : faultOf (pure a) = none := rfl

@[simp] theorem faultOf_error (fault : BodyFault) :
    faultOf (.error fault : Except BodyFault α) = some fault := rfl

theorem faultOf_eq_some_iff {x : Except BodyFault α} {fault : BodyFault} :
    faultOf x = some fault ↔ x = .error fault := by
  cases x <;> simp

@[simp] theorem faultOf_map (f : α → β) (x : Except BodyFault α) :
    faultOf (x.map f) = faultOf x := by
  cases x <;> rfl

/-- The first fault counts; what comes after may depend on what was read only in its result. -/
theorem faultOf_bind {x : Except BodyFault α} {next : α → Except BodyFault β}
    {rest : Option BodyFault} (h : ∀ a, x = .ok a → faultOf (next a) = rest) :
    faultOf (x >>= next) = (faultOf x).or rest := by
  cases x with
  | ok a => exact h a rfl
  | error fault => rfl

end FaultOf

theorem faultOf_text {j : Json} {fault : BodyFault} :
    faultOf (text j) = some fault ↔
      (∀ s, j ≠ .str s) ∧ fault = .wrongType j.shape .string := by
  cases j <;> simp [text, eq_comm]

theorem faultOf_mapM_text {es : List Json} {fault : BodyFault} :
    faultOf (es.mapM text) = some fault ↔
      ∃ (first : List String) (e : Json) (rest : List Json),
        es = first.map .str ++ e :: rest ∧ faultOf (text e) = some fault := by
  induction es with
  | nil => simp [pure, Except.pure]
  | cons e es ih =>
      cases read : text e with
      | error fault' =>
          have refused : faultOf (text e) = some fault' := faultOf_eq_some_iff.2 read
          have reported : (e :: es).mapM text = .error fault' := by
            rw [List.mapM_cons, read]
            rfl
          rw [reported, faultOf_error, ← refused]
          constructor
          · exact fun h => ⟨[], e, es, rfl, h⟩
          · rintro ⟨_ | ⟨s, first⟩, e', rest, split, h⟩
            · obtain ⟨rfl, -⟩ := List.cons.inj split
              exact h
            · obtain ⟨rfl, -⟩ := List.cons.inj split
              exact absurd refused (by simp [text])
      | ok s =>
          obtain rfl := text_eq_ok_iff.1 read
          have later : faultOf ((Json.str s :: es).mapM text) = faultOf (es.mapM text) := by
            rw [List.mapM_cons, read]
            exact (faultOf_bind fun _ _ => faultOf_pure _).trans Option.or_none
          rw [later, ih]
          constructor
          · rintro ⟨first, e, rest, rfl, h⟩
            exact ⟨s :: first, e, rest, rfl, h⟩
          · rintro ⟨_ | ⟨s', first⟩, e, rest, split, h⟩
            · obtain ⟨rfl, -⟩ := List.cons.inj split
              exact absurd h (by simp [text])
            · exact ⟨first, e, rest, (List.cons.inj split).2, h⟩

namespace Kind

/-- The fault of a value that a kind of field refuses. -/
def fault? : Kind → Json → Option BodyFault
  | text, j => faultOf (Field.text j)
  | textOrNull, j => faultOf (orNull Field.text j)
  | texts, j => faultOf (Field.texts j)
  | flag, j => faultOf (Field.flag j)
  | int32, j => faultOf (Field.int32 j)
  | object, j => faultOf (Field.object j)
  | anything, _ => none

theorem fault?_texts {j : Json} {fault : BodyFault} :
    texts.fault? j = some fault ↔ Wrong .texts j fault := by
  cases j with
  | arr es =>
      constructor
      · intro h
        obtain ⟨first, e, rest, rfl, refused⟩ := faultOf_mapM_text.1 h
        obtain ⟨other, rfl⟩ := faultOf_text.1 refused
        exact .element other
      · generalize shape : Json.arr es = j
        intro h
        cases h with
        | texts other => exact absurd shape.symm (other es)
        | element other =>
            exact faultOf_mapM_text.2 ⟨_, _, _, rfl, faultOf_text.2 ⟨other, rfl⟩⟩
  | _ =>
      constructor
      · intro h
        obtain rfl := Option.some.inj h
        exact .texts (by simp)
      · intro h
        cases h
        rfl

theorem fault?_flag {j : Json} {fault : BodyFault} :
    flag.fault? j = some fault ↔ Wrong .flag j fault := by
  cases j with
  | bool b =>
      constructor
      · exact fun h => absurd h (by simp [fault?, Field.flag])
      · intro h
        cases h with
        | flag other => exact absurd rfl (other b)
  | str s =>
      have yes := flagNamed?_eq_some_iff (s := s) (b := true)
      have no := flagNamed?_eq_some_iff (s := s) (b := false)
      constructor
      · intro h
        cases named : flagNamed? s with
        | some b => exact absurd h (by simp [fault?, Field.flag, named])
        | none =>
            obtain rfl : BodyFault.unknownFlag s = fault := by
              simpa [fault?, Field.flag, named] using h
            exact .flagText (fun h => by simp [named, h] at yes) fun h => by
              simp [named, h] at no
      · intro h
        cases h with
        | flag _ other => exact absurd rfl (other s)
        | flagText notTrue notFalse =>
            cases named : flagNamed? s with
            | some b => cases b <;> simp_all
            | none => simp [fault?, Field.flag, named]
  | _ =>
      constructor
      · intro h
        obtain rfl := Option.some.inj h
        exact .flag (by simp) (by simp)
      · intro h
        cases h
        rfl

theorem fault?_int32 {j : Json} {fault : BodyFault} :
    int32.fault? j = some fault ↔ Wrong .int32 j fault := by
  have limits : ∀ n : Int,
      -2147483648 ≤ n ∧ n < 2147483648 ↔ -2147483648 ≤ n ∧ n ≤ 2147483647 := by
    intro n
    omega
  by_cases integer : ∃ n fits, j = .num (.integer n fits)
  · obtain ⟨n, fits, rfl⟩ := integer
    constructor
    · intro h
      by_cases within : -2147483648 ≤ n ∧ n < 2147483648
      · exact absurd h (by simp [fault?, Field.int32, within])
      · obtain rfl : BodyFault.outOfRange n = fault := by
          simpa [fault?, Field.int32, within] using h
        exact .range fun h => within ((limits n).2 h)
    · intro h
      cases h with
      | int32 other => exact absurd rfl (other n fits)
      | range outside => simp only [fault?, Field.int32, limits, if_neg outside, faultOf_error]
  · have refused : Field.int32 j = .error (.wrongType j.shape .int32) := by
      unfold Field.int32
      split
      next n fits => exact absurd ⟨n, fits, rfl⟩ integer
      · rfl
    constructor
    · intro h
      obtain rfl : BodyFault.wrongType j.shape .int32 = fault := by
        simpa [fault?, refused] using h
      exact .int32 fun n fits h => integer ⟨n, fits, h⟩
    · intro h
      cases h with
      | int32 _ => simp [fault?, refused]
      | range _ => exact absurd ⟨_, _, rfl⟩ integer

/-- **What each kind of field refuses**, and the fault of it. -/
theorem fault?_eq_some_iff {kind : Kind} {j : Json} {fault : BodyFault} :
    kind.fault? j = some fault ↔ Wrong kind j fault := by
  cases kind with
  | text =>
      rw [fault?, faultOf_text]
      constructor
      · rintro ⟨other, rfl⟩
        exact .text other
      · intro h
        cases h with
        | text other => exact ⟨other, rfl⟩
  | textOrNull =>
      constructor
      · intro h
        cases j with
        | null => exact absurd h (by simp [fault?, orNull])
        | str s => exact absurd h (by simp [fault?, orNull, Field.text])
        | _ =>
            obtain rfl := Option.some.inj h
            exact .textOrNull (by simp) (by simp)
      · intro h
        cases h with
        | textOrNull null other =>
            cases j with
            | null => exact absurd rfl null
            | str s => exact absurd rfl (other s)
            | _ => rfl
  | texts => exact fault?_texts
  | flag => exact fault?_flag
  | int32 => exact fault?_int32
  | object =>
      constructor
      · intro h
        cases j with
        | obj ms => exact absurd h (by simp [fault?, Field.object])
        | _ =>
            obtain rfl := Option.some.inj h
            exact .object (by simp)
      · intro h
        cases h with
        | object other =>
            cases j with
            | obj ms => exact absurd rfl (other ms)
            | _ => rfl
  | anything =>
      constructor
      · exact fun h => absurd h (by simp [fault?])
      · intro h
        cases h

end Kind

/-! ### The fields of a class -/

/-- A field that a class has. -/
structure Rule where
  key : String
  kind : Kind
  /-- A message of the class is nothing without the field. -/
  needed : Bool
  deriving DecidableEq

/-- The bytes of a key. -/
def bytes (key : String) : List UInt8 := key.toUTF8.data.toList

namespace Rule

variable {r : Rule} {body : List Member} {fault : BodyFault}

/-- The field is there and holds what it should not. -/
def Broken (r : Rule) (body : List Member) (fault : BodyFault) : Prop :=
  ∃ j, find? r.key body = some j ∧ Wrong r.kind j fault

/-- The field should be there and is not. -/
def Missed (r : Rule) (body : List Member) : Prop :=
  r.needed = true ∧ find? r.key body = none

instance : Decidable (r.Missed body) :=
  inferInstanceAs (Decidable (_ ∧ _))

/-- The fault of a field that is there. -/
def wrong? (r : Rule) (body : List Member) : Option BodyFault :=
  (find? r.key body).bind r.kind.fault?

/-- The fault of a field that is not there. -/
def missed? (r : Rule) (body : List Member) : Option BodyFault :=
  if r.Missed body then some (.missing r.key) else none

theorem wrong?_eq_some_iff : r.wrong? body = some fault ↔ r.Broken body fault := by
  simp only [wrong?, Option.bind_eq_some_iff, Kind.fault?_eq_some_iff, Broken]

theorem wrong?_eq_none_iff : r.wrong? body = none ↔ ∀ fault, ¬r.Broken body fault := by
  simp only [Option.eq_none_iff_forall_ne_some, ← wrong?_eq_some_iff, ne_eq]

theorem missed?_eq_some_iff :
    r.missed? body = some fault ↔ r.Missed body ∧ fault = .missing r.key := by
  by_cases missed : r.Missed body <;> simp [missed?, missed, eq_comm]

theorem missed?_eq_none_iff : r.missed? body = none ↔ ¬r.Missed body := by
  by_cases missed : r.Missed body <;> simp [missed?, missed]

/-- A field that the class can do without is never missed. -/
@[simp] theorem missed?_optional (key : String) (kind : Kind) :
    missed? ⟨key, kind, false⟩ body = none :=
  missed?_eq_none_iff.2 fun missed => Bool.false_ne_true missed.1

end Rule

end Field

namespace Field

variable {α β : Type} {body : List Member} {rest : Option BodyFault}

theorem faultOf_present (r : Rule) {read : Json → Except BodyFault α}
    (h : ∀ j, faultOf (read j) = r.kind.fault? j) :
    faultOf (present r.key read body) = r.wrong? body := by
  unfold present Rule.wrong?
  cases find? r.key body with
  | none => rfl
  | some j => exact (faultOf_map some (read j)).trans (h j)

/-- Reading goes on behind a field that is not at fault. -/
theorem faultOf_present_bind (r : Rule) {read : Json → Except BodyFault α}
    {next : Option α → Except BodyFault β} (h : ∀ j, faultOf (read j) = r.kind.fault? j)
    (later : ∀ value, present r.key read body = .ok value → faultOf (next value) = rest) :
    faultOf (present r.key read body >>= next) = (r.wrong? body).or rest := by
  rw [faultOf_bind later, faultOf_present r h]

theorem faultOf_required (r : Rule) (needed : r.needed = true) {read : Json → Except BodyFault α}
    {value : Option α} (h : present r.key read body = .ok value) :
    faultOf (required r.key value) = r.missed? body := by
  cases value with
  | none =>
      have absent : r.Missed body := ⟨needed, present_eq_none_iff.1 h⟩
      exact (Rule.missed?_eq_some_iff.2 ⟨absent, rfl⟩).symm
  | some a =>
      obtain ⟨j, found, -⟩ := present_eq_some_iff.1 h
      have there : ¬r.Missed body := fun missed =>
        Option.some_ne_none j (found.symm.trans missed.2)
      exact (Rule.missed?_eq_none_iff.2 there).symm

theorem faultOf_required_bind (r : Rule) (needed : r.needed = true)
    {read : Json → Except BodyFault α} {value : Option α} {next : α → Except BodyFault β}
    (h : present r.key read body = .ok value) (later : ∀ a, faultOf (next a) = rest) :
    faultOf (required r.key value >>= next) = (r.missed? body).or rest := by
  rw [faultOf_bind fun a _ => later a, faultOf_required r needed h]

end Field

namespace MessageClass

open BridgeChannel.Field

/-- The fields of a class, in the order in which the class lists them. -/
def rules : MessageClass → List Rule
  | serverHello => [⟨"version", .textOrNull, false⟩]
  | clientHello => []
  | endpointMessage => [⟨"from", .textOrNull, false⟩, ⟨"to", .textOrNull, false⟩]
  | dominantSpeaker =>
    [⟨"dominantSpeakerEndpoint", .text, true⟩, ⟨"previousSpeakers", .texts, false⟩]
  | connectivity => [⟨"endpoint", .text, true⟩, ⟨"active", .flag, true⟩]
  | senderVideoConstraints => [⟨"videoConstraints", .anything, false⟩]
  | receiverVideoConstraints => [⟨"lastN", .int32, true⟩, ⟨"defaultConstraints", .object, false⟩]

/-- The fields of a class, in the order in which they are read. -/
def readingOrder : MessageClass → List Rule
  | connectivity => connectivity.rules.reverse
  | receiverVideoConstraints => receiverVideoConstraints.rules.reverse
  | c => c.rules

/-- Fields are read in the order of their keys. -/
theorem readingOrder_sorted (c : MessageClass) :
    c.readingOrder.Pairwise fun r r' => bytes r.key < bytes r'.key := by
  cases c <;> decide

theorem mem_readingOrder {c : MessageClass} {r : Rule} : r ∈ c.readingOrder ↔ r ∈ c.rules := by
  cases c with
  | connectivity => exact List.mem_reverse
  | receiverVideoConstraints => exact List.mem_reverse
  | _ => exact Iff.rfl

/-- **The fault that a class has with a body.** -/
inductive Reports (c : MessageClass) (body : List Member) : BodyFault → Prop
  /-- Of the fields that hold the wrong thing, the one with the least key is at fault. -/
  | wrong {r : Rule} {fault : BodyFault} : r ∈ c.rules → r.Broken body fault →
      (∀ r' ∈ c.rules, ∀ fault', r'.Broken body fault' → r' = r ∨ bytes r.key < bytes r'.key) →
      Reports c body fault
  /-- Where none does, the first needed field that is absent is. -/
  | missing {before after : List Rule} {r : Rule} :
      (∀ r' ∈ c.rules, ∀ fault', ¬r'.Broken body fault') → c.rules = before ++ r :: after →
      r.Missed body → (∀ r' ∈ before, ¬r'.Missed body) → Reports c body (.missing r.key)

end MessageClass

/-! ### Bodies and frames -/

namespace Message

open BridgeChannel.Field

variable {body : List Member} {c : MessageClass} {fault : BodyFault}

/-- **Reading a body goes through the two orders**: first the fields that are there, by their keys,
then those that are not, as the class lists them. -/
theorem faultOf_ofBody : faultOf (ofBody body c) =
    (c.readingOrder.findSome? (·.wrong? body)).or (c.rules.findSome? (·.missed? body)) := by
  have found : ∀ {α β : Type} (f : α → Option β) (a : α) (l : List α),
      (a :: l).findSome? f = (f a).or (l.findSome? f) := by
    intro α β f a l
    rw [List.findSome?_cons]
    cases f a <;> rfl
  cases c with
  | serverHello =>
      rw [ofBody, faultOf_present_bind ⟨"version", .textOrNull, false⟩ (fun _ => rfl) fun _ _ =>
        faultOf_pure _]
      simp [MessageClass.readingOrder, MessageClass.rules, found]
  | clientHello => rfl
  | endpointMessage =>
      rw [ofBody, faultOf_present_bind ⟨"from", .textOrNull, false⟩ (fun _ => rfl) fun _ _ =>
        faultOf_present_bind ⟨"to", .textOrNull, false⟩ (fun _ => rfl) fun _ _ => faultOf_pure _]
      simp [MessageClass.readingOrder, MessageClass.rules, found]
  | dominantSpeaker =>
      rw [ofBody, faultOf_present_bind ⟨"dominantSpeakerEndpoint", .text, true⟩ (fun _ => rfl)
        fun _ endpoint => faultOf_present_bind ⟨"previousSpeakers", .texts, false⟩ (fun _ => rfl)
        fun _ _ => faultOf_required_bind ⟨_, .text, true⟩ rfl endpoint fun _ => faultOf_pure _]
      simp [MessageClass.readingOrder, MessageClass.rules, found, Option.or_assoc]
  | connectivity =>
      rw [ofBody, faultOf_present_bind ⟨"active", .flag, true⟩ (fun _ => rfl) fun _ active =>
        faultOf_present_bind ⟨"endpoint", .text, true⟩ (fun _ => rfl) fun _ endpoint =>
        faultOf_required_bind ⟨_, .text, true⟩ rfl endpoint fun _ =>
        faultOf_required_bind ⟨_, .flag, true⟩ rfl active fun _ => faultOf_pure _]
      simp [MessageClass.readingOrder, MessageClass.rules, found, Option.or_assoc]
  | senderVideoConstraints =>
      have never : Rule.wrong? ⟨"videoConstraints", .anything, false⟩ body = none := by
        refine Rule.wrong?_eq_none_iff.2 ?_
        rintro fault ⟨_, _, wrong⟩
        cases wrong
      simp only [MessageClass.readingOrder, MessageClass.rules, found, never, Rule.missed?_optional,
        List.findSome?_nil, Option.or_none]
      rw [ofBody]
      split <;> rfl
  | receiverVideoConstraints =>
      rw [ofBody, faultOf_present_bind ⟨"defaultConstraints", .object, false⟩ (fun _ => rfl)
        fun _ _ => faultOf_present_bind ⟨"lastN", .int32, true⟩ (fun _ => rfl) fun _ lastN =>
        faultOf_required_bind ⟨_, .int32, true⟩ rfl lastN fun _ => faultOf_pure _]
      simp [MessageClass.readingOrder, MessageClass.rules, found, Option.or_assoc]

/-- The first field in reading order that holds the wrong thing is the one with the least key. -/
theorem findSome?_wrong?_eq_some_iff :
    c.readingOrder.findSome? (·.wrong? body) = some fault ↔
      ∃ r ∈ c.rules, r.Broken body fault ∧ ∀ r' ∈ c.rules, ∀ fault', r'.Broken body fault' →
        r' = r ∨ bytes r.key < bytes r'.key := by
  rw [List.findSome?_eq_some_iff]
  constructor
  · rintro ⟨before, r, after, split, broken, sound⟩
    have sorted := c.readingOrder_sorted
    rw [split, List.pairwise_append, List.pairwise_cons] at sorted
    refine ⟨r, MessageClass.mem_readingOrder.1 (by simp [split]), Rule.wrong?_eq_some_iff.1 broken,
      fun r' member fault' broken' => ?_⟩
    rw [← MessageClass.mem_readingOrder, split] at member
    rcases List.mem_append.1 member with earlier | here
    · exact absurd broken' (Rule.wrong?_eq_none_iff.1 (sound r' earlier) fault')
    · rcases List.mem_cons.1 here with same | later
      · exact .inl same
      · exact .inr (sorted.2.1.1 r' later)
  · rintro ⟨r, member, broken, least⟩
    obtain ⟨before, after, split⟩ := List.append_of_mem (MessageClass.mem_readingOrder.2 member)
    have sorted := c.readingOrder_sorted
    rw [split, List.pairwise_append] at sorted
    refine ⟨before, r, after, split, Rule.wrong?_eq_some_iff.2 broken, fun r' earlier => ?_⟩
    -- a field that is read earlier has a lesser key, and none with a lesser key is at fault
    have lesser := sorted.2.2 r' earlier r List.mem_cons_self
    have member' : r' ∈ c.rules := MessageClass.mem_readingOrder.1 (by simp [split, earlier])
    refine Rule.wrong?_eq_none_iff.2 fun fault' broken' => ?_
    rcases least r' member' fault' broken' with same | greater
    · exact List.lt_irrefl _ (same ▸ lesser)
    · exact List.lt_asymm lesser greater

theorem findSome?_missed?_eq_some_iff {rules : List Rule} :
    rules.findSome? (·.missed? body) = some fault ↔
      ∃ before r after, rules = before ++ r :: after ∧ r.Missed body ∧
        (∀ r' ∈ before, ¬r'.Missed body) ∧ fault = .missing r.key := by
  simp only [List.findSome?_eq_some_iff, Rule.missed?_eq_some_iff, Rule.missed?_eq_none_iff]
  constructor
  · rintro ⟨before, r, after, split, ⟨missed, named⟩, there⟩
    exact ⟨before, r, after, split, missed, there, named⟩
  · rintro ⟨before, r, after, split, missed, there, named⟩
    exact ⟨before, r, after, split, ⟨missed, named⟩, there⟩

/-- **A body is refused with exactly the fault that the class reports.** -/
theorem ofBody_eq_error_iff : ofBody body c = .error fault ↔ c.Reports body fault := by
  rw [← faultOf_eq_some_iff, faultOf_ofBody, Option.or_eq_some_iff, findSome?_wrong?_eq_some_iff,
    findSome?_missed?_eq_some_iff, List.findSome?_eq_none_iff]
  simp only [MessageClass.mem_readingOrder, Rule.wrong?_eq_none_iff]
  constructor
  · rintro (⟨r, member, broken, least⟩ | ⟨sound, before, r, after, split, missed, there, rfl⟩)
    · exact .wrong member broken least
    · exact .missing sound split missed there
  · rintro (⟨member, broken, least⟩ | ⟨sound, split, missed, there⟩)
    · exact .inl ⟨_, member, broken, least⟩
    · exact .inr ⟨sound, _, _, _, split, missed, there, rfl⟩

-- the two orders differ: of two wrong fields the second is at fault, of two absent ones the first
example : ofBody [("active", .null), ("endpoint", .bool true)] .connectivity = .error .notAFlag :=
  rfl

example : ofBody [] .connectivity = .error (.missing "endpoint") := rfl

/-- **Which fault is reported, for every text**: a frame is malformed with a fault exactly if it
names the class with the last member of that name and the class reports the fault of the other
members.  That is the fault of the field with the least key, in the order of bytes, among those that
hold the wrong thing, in a list of texts of the first element that is none; and where no field holds
the wrong thing, it is the first of the needed fields, as the class lists them, that is absent. -/
theorem decode_eq_malformed_iff_reports {frame : String} :
    decode frame = .error (.malformed c fault) ↔ ∃ written,
      Json.SpellsObject frame written ∧
        find? "colibriClass" written.reverse = some (.str c.name) ∧
        c.Reports (Message.body written) fault := by
  simp only [← ofBody_eq_error_iff]
  exact decode_eq_malformed_iff_ofBody

end Message

end BridgeChannel
