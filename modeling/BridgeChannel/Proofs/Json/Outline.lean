/-
**The members of an object, read from its written form.**

Whatever the values of an object are, a text that was written for it spells its members with the
same keys, in the same order and as often as they were written, and each text among the values as
that text.  Doubles may be read as other doubles, and it is not said that there is a reading at
all; but nothing that stands inside a value, be it a key or a text, comes out as a member of the
object.

A number is followed up to the first character that no number has, so that nothing has to be known
of the digits of a double.  The induction is on the number of levels; a spelling of a value goes
exactly as far as the value was written, unless it stops inside a number.

Main definitions:

* `Json.text?` — the text that a value is;
* `Json.outline` — the keys of members, and the texts among their values;
* `Json.Faithful` — a spelling follows the written form of every value.

Main results:

* `faithful_value` — **the written form of a value is spelled as far as it goes**;
* `outline_of_spellsObject` — **an object is spelled with its own keys and texts**.
-/
import BridgeChannel.Proofs.Json.Reading

set_option autoImplicit false

namespace BridgeChannel

namespace Json

open Grammar

/-! ### How far a number goes -/

/-- What follows starts with no character of a number. -/
def Bounded : List Char → Prop
  | [] => True
  | c :: _ => isNumeric c = false

/-- What is left starts with a character of a number. -/
def Stuck : List Char → Prop
  | [] => False
  | c :: _ => isNumeric c = true

/-- A spelling takes characters of a number only. -/
def Takes (s rest : List Char) : Prop :=
  ∃ front, s = front ++ rest ∧ ∀ c ∈ front, isNumeric c = true

theorem Takes.refl (s : List Char) : Takes s s := ⟨[], rfl, fun _ h => absurd h List.not_mem_nil⟩

theorem Takes.trans {s t rest : List Char} (first : Takes s t) (second : Takes t rest) :
    Takes s rest := by
  obtain ⟨front, rfl, hfront⟩ := first
  obtain ⟨front', rfl, hfront'⟩ := second
  refine ⟨front ++ front', (List.append_assoc ..).symm, fun c hc => ?_⟩
  exact (List.mem_append.1 hc).elim (hfront c) (hfront' c)

theorem Takes.cons {s rest : List Char} {c : Char} (hc : isNumeric c = true)
    (h : Takes s rest) : Takes (c :: s) rest := by
  obtain ⟨front, rfl, hfront⟩ := h
  exact ⟨c :: front, rfl, List.forall_mem_cons.2 ⟨hc, hfront⟩⟩

/-- From the characters of a number nothing is taken behind them. -/
theorem Takes.ends {ns rest last : List Char} (h : Takes (ns ++ rest) last)
    (numeric : ∀ c ∈ ns, isNumeric c = true) (bounded : Bounded rest) :
    last = rest ∨ Stuck last := by
  obtain ⟨front, split, hfront⟩ := h
  obtain ⟨more, rfl, hlast⟩ | ⟨more, rfl, hrest⟩ := List.append_eq_append_iff.1 split
  · -- what is taken behind the number would start with one of its characters
    cases more with
    | nil => exact .inl hlast.symm
    | cons c more =>
        subst hlast
        have numeric := hfront c (List.mem_append_right _ List.mem_cons_self)
        exact absurd (numeric.symm.trans bounded) (by decide)
  · cases more with
    | nil => exact .inl hrest
    | cons c more =>
        subst hrest
        exact .inr (numeric c (List.mem_append_right _ List.mem_cons_self))

theorem Grammar.Digits.takes {s ds rest : List Char} (h : Digits s ds rest) : Takes s rest :=
  ⟨ds, h.split, fun c hc => isNumeric_of_isDigit (h.all c hc)⟩

theorem Grammar.Whole.takes {s whole rest : List Char} (h : Whole s whole rest) :
    Takes s rest := by
  cases h with
  | zero => exact .cons (by decide) (.refl _)
  | digits _ run => exact run.takes

theorem Grammar.Fraction.takes {s rest : List Char} {fraction : Option (List Char)}
    (h : Fraction s fraction rest) : Takes s rest := by
  cases h with
  | none => exact .refl _
  | some run => exact .cons (by decide) run.takes

theorem Grammar.Exponent.takes {s rest : List Char} {exponent : Option (Bool × List Char)}
    (h : Exponent s exponent rest) : Takes s rest := by
  have letters : ∀ {e : Char}, e = 'e' ∨ e = 'E' → isNumeric e = true := by
    rintro e (rfl | rfl) <;> decide
  cases h with
  | none => exact .refl _
  | bare letter run => exact .cons (letters letter) run.takes
  | plus letter run => exact .cons (letters letter) (.cons (by decide) run.takes)
  | minus letter run => exact .cons (letters letter) (.cons (by decide) run.takes)

theorem Grammar.Unsigned.takes {negative : Bool} {s rest : List Char} {numeral : Numeral}
    (h : Unsigned negative s numeral rest) : Takes s rest := by
  cases h with
  | mk whole fraction exponent => exact (whole.takes.trans fraction.takes).trans exponent.takes

/-! ### Texts among values -/

/-- The text that a value is, if it is one. -/
def text? : Json → Option String
  | .str s => some s
  | _ => none

/-- The keys of members in their order, and the texts among their values. -/
def outline (ms : List Member) : List (String × Option String) :=
  ms.map fun m => (m.1, m.2.text?)

theorem outline_cons (m : Member) (ms : List Member) :
    outline (m :: ms) = (m.1, m.2.text?) :: outline ms := rfl

theorem text?_eq_some_iff {j : Json} {s : String} : j.text? = some s ↔ j = .str s := by
  cases j <;> simp [text?]

/-- Members with one outline have the same text, or none, at a key. -/
theorem find?_of_outline {ms ns : List Member} (same : outline ms = outline ns) (key : String) :
    (find? key ms).map text? = (find? key ns).map text? := by
  induction ms generalizing ns with
  | nil =>
      obtain rfl := List.map_eq_nil_iff.1 same.symm
      rfl
  | cons m ms ih =>
      cases ns with
      | nil => exact absurd same (List.cons_ne_nil _ _)
      | cons n ns =>
          rw [outline_cons, outline_cons] at same
          obtain ⟨first, others⟩ := List.cons.inj same
          obtain ⟨keys, texts⟩ := Prod.mk.inj first
          obtain ⟨k, v⟩ := m
          obtain ⟨l, w⟩ := n
          obtain rfl : k = l := keys
          by_cases found : k = key
          · subst found
            rw [find?_cons_self, find?_cons_self]
            exact congrArg some texts
          · rw [find?_cons_of_ne found, find?_cons_of_ne found, ih others]

theorem outline_reverse (ms : List Member) : outline ms.reverse = (outline ms).reverse :=
  List.map_reverse

/-! ### What a value is spelled as -/

/-- A spelling follows the written form of every value: it goes as far as what was written, or stops
inside a number, and a text is spelled as that text, and nothing else is. -/
structure Faithful (part : Spelling Json) : Prop where
  follows : ∀ {j j' : Json} {rest last : List Char}, Bounded rest → part (j.chars ++ rest) j' last →
    j'.text? = j.text? ∧ (last = rest ∨ Stuck last)

/-- What the first character of a spelling says of the value. -/
inductive Opening (levels : Nat) : Spelling Json
  | null (rest : List Char) : Opening levels ("null".toList ++ rest) .null rest
  | bool (b : Bool) (rest : List Char) : Opening levels ((Json.bool b).chars ++ rest) (.bool b) rest
  | text {s content rest : List Char} : Content s content rest →
      Opening levels ('"' :: s) (.str (String.ofList content)) rest
  | number {c : Char} {s rest : List Char} (n : Number) : isNumeric c = true →
      Takes (c :: s) rest → Opening levels (c :: s) (.num n) rest
  | array {below : Nat} {s rest : List Char} {es : List Json} : levels = below + 1 →
      Array (Value below) ('[' :: s) es rest → Opening levels ('[' :: s) (.arr es) rest
  | object {below : Nat} {s rest : List Char} {ms : List Member} : levels = below + 1 →
      Object (Value below) ('\x7b' :: s) ms rest →
      Opening levels ('\x7b' :: s) (.obj (ofMembers ms)) rest

theorem opening_of_plain {s last : List Char} {j : Json} (h : Plain s j last) (levels : Nat) :
    Opening levels s j last := by
  cases h with
  | null => exact .null _
  | true_ => exact .bool true _
  | false_ => exact .bool false _
  | string content => exact .text content
  | natural number _ =>
      obtain ⟨d, t, rfl, hd⟩ := number.cons.1
      exact .number _ (isNumeric_of_isDigit hd) number.takes
  | negative number _ => exact .number _ (by decide) (.cons (by decide) number.takes)

theorem opening_of_value {levels : Nat} {s last : List Char} {j : Json}
    (h : Value levels s j last) : Opening levels s j last := by
  cases levels with
  | zero => exact opening_of_plain h 0
  | succ below =>
      obtain plain | array | object := h
      · exact opening_of_plain plain _
      next array =>
        obtain ⟨t, rfl⟩ := array.cons
        exact .array rfl array
      next object =>
        obtain ⟨t, rfl⟩ := object.cons
        exact .object rfl object

/-! ### Inside arrays and objects -/

/-- The marks that may follow a value inside an array or an object. -/
def IsMark (c : Char) : Prop := c = ',' ∨ c = ']' ∨ c = '\x7d'

theorem IsMark.visible {c : Char} (h : IsMark c) : isBlank c = false ∧ isNumeric c = false := by
  obtain rfl | rfl | rfl := h <;> exact ⟨by decide, by decide⟩

section Parts

variable {part : Spelling Json} (faithful : Faithful part)

include faithful

/-- Behind a value the mark is found that was written behind it. -/
theorem Faithful.padded {j j' : Json} {c d : Char} {rest last : List Char} (hc : IsMark c)
    (hd : IsMark d) (h : Padded part (j.chars ++ c :: rest) j' (d :: last)) :
    j'.text? = j.text? ∧ c = d ∧ rest = last := by
  obtain ⟨first, left, before, spelled, after⟩ := h
  -- no blanks have been written on either side
  obtain rfl : j.chars ++ c :: rest = first := by
    obtain ⟨b, s, written, visible, -⟩ := chars_eq_cons j
    rw [written, List.cons_append] at before ⊢
    cases before with
    | none => rfl
    | one blank _ => exact absurd (blank.symm.trans visible) (by decide)
  have bounded : Bounded (c :: rest) := hc.visible.2
  obtain ⟨texts, rfl | stuck⟩ := faithful.follows bounded spelled
  · cases after with
    | none => exact ⟨texts, rfl, rfl⟩
    | one blank _ => exact absurd (blank.symm.trans hc.visible.1) (by decide)
  · -- inside a number there is neither a blank nor a mark
    cases after with
    | none => exact absurd (hd.visible.2.symm.trans stuck) (by decide)
    | one blank _ =>
        have numeric : isNumeric _ = true := stuck
        exact absurd (blank.symm.trans (plain_of_isNumeric numeric).1) (by decide)

/-- The elements of an array go up to the closing bracket that was written. -/
theorem Faithful.elements {e : Json} {es es' : List Json} {rest last : List Char}
    (h : Elements part (e.chars ++ (charsElements es ++ ']' :: rest)) es' last) : last = rest := by
  induction es generalizing e es' with
  | nil =>
      cases h with
      | last padded =>
          obtain ⟨-, -, rfl⟩ := faithful.padded (.inr (.inl rfl)) (.inr (.inl rfl)) padded
          rfl
      | more padded _ =>
          obtain ⟨-, clash, -⟩ := faithful.padded (.inr (.inl rfl)) (.inl rfl) padded
          exact absurd clash (by decide)
  | cons e₂ es ih =>
      have written : charsElements (e₂ :: es) ++ ']' :: rest =
          ',' :: (e₂.chars ++ (charsElements es ++ ']' :: rest)) := by
        rw [charsElements]
        simp
      rw [written] at h
      cases h with
      | last padded =>
          obtain ⟨-, clash, -⟩ := faithful.padded (.inl rfl) (.inr (.inl rfl)) padded
          exact absurd clash (by decide)
      | more padded others =>
          obtain ⟨-, -, rfl⟩ := faithful.padded (.inl rfl) (.inl rfl) padded
          exact ih others

theorem Faithful.array (firm : Firm part) {es es' : List Json} {rest last : List Char}
    (h : Array part ((Json.arr es).chars ++ rest) es' last) : last = rest := by
  cases es with
  | nil =>
      have written : (Json.arr []).chars ++ rest = '[' :: ']' :: rest := rfl
      have visible := skipBlanks_cons (c := ']') (by decide) rest
      rw [written] at h
      cases h with
      | empty blanks =>
          rw [blanks.skipBlanks_cons_eq (by decide)] at visible
          exact (List.cons.inj visible).2
      | elements elements =>
          obtain ⟨c, t, front, open_, -⟩ := firm.elements_visible elements
          rw [front] at visible
          exact absurd (List.cons.inj visible).1 open_
  | cons e es =>
      have written : (Json.arr (e :: es)).chars ++ rest =
          '[' :: (e.chars ++ (charsElements es ++ ']' :: rest)) := by
        rw [chars]
        simp
      rw [written] at h
      cases h with
      | empty blanks =>
          obtain ⟨c, s, hc, visible, open_⟩ := chars_eq_cons e
          rw [hc, List.cons_append] at blanks
          have front := skipBlanks_cons visible (s ++ (charsElements es ++ ']' :: rest))
          rw [blanks.skipBlanks_cons_eq (by decide)] at front
          exact absurd (List.cons.inj front).1.symm open_
      | elements elements => exact faithful.elements elements

omit faithful in
/-- A key is found as it was written. -/
theorem key_of_quote {k key : String} {s rest : List Char}
    (h : Key (quote k ++ ':' :: s) key rest) : key = k ∧ rest = s := by
  have written : quote k ++ ':' :: s = '"' :: (k.toList.flatMap escaped ++ '"' :: ':' :: s) := by
    rw [quote]
    simp
  rw [written] at h
  obtain ⟨left, text, colon⟩ := h.readText
  rw [readText_quoted] at text
  obtain ⟨rfl, rfl⟩ := Prod.mk.inj (Except.ok.inj text)
  rw [skipBlanks_cons (by decide)] at colon
  exact ⟨by simp, (List.cons.inj colon).2.symm⟩

/-- The members of an object are found with their keys and texts, up to the closing brace that was
written. -/
theorem Faithful.members {k : String} {v : Json} {ms ms' : List Member} {rest last : List Char}
    (h : Members part (quote k ++ ':' :: (v.chars ++ (charsMembers ms ++ '\x7d' :: rest))) ms'
      last) :
    outline ms' = outline ((k, v) :: ms) ∧ last = rest := by
  induction ms generalizing k v ms' with
  | nil =>
      cases h with
      | last key padded =>
          obtain ⟨rfl, rfl⟩ := key_of_quote key
          obtain ⟨text, -, rfl⟩ := faithful.padded (.inr (.inr rfl)) (.inr (.inr rfl)) padded
          rw [outline_cons, outline_cons, text]
          exact ⟨rfl, rfl⟩
      | more key padded _ =>
          obtain ⟨rfl, rfl⟩ := key_of_quote key
          obtain ⟨-, clash, -⟩ := faithful.padded (.inr (.inr rfl)) (.inl rfl) padded
          exact absurd clash (by decide)
  | cons m ms ih =>
      obtain ⟨k₂, v₂⟩ := m
      have written : charsMembers ((k₂, v₂) :: ms) ++ '\x7d' :: rest =
          ',' :: (quote k₂ ++ ':' :: (v₂.chars ++ (charsMembers ms ++ '\x7d' :: rest))) := by
        rw [charsMembers]
        simp
      rw [written] at h
      cases h with
      | last key padded =>
          obtain ⟨rfl, rfl⟩ := key_of_quote key
          obtain ⟨-, clash, -⟩ := faithful.padded (.inl rfl) (.inr (.inr rfl)) padded
          exact absurd clash (by decide)
      | more key padded others =>
          obtain ⟨rfl, rfl⟩ := key_of_quote key
          obtain ⟨text, -, rfl⟩ := faithful.padded (.inl rfl) (.inl rfl) padded
          obtain ⟨same, rfl⟩ := ih others
          rw [outline_cons, outline_cons (_, v), text, same]
          exact ⟨rfl, rfl⟩

theorem Faithful.object {ms ms' : List Member} {rest last : List Char}
    (h : Object part ((Json.obj ms).chars ++ rest) ms' last) :
    outline ms' = outline ms ∧ last = rest := by
  cases ms with
  | nil =>
      have written : (Json.obj []).chars ++ rest = '\x7b' :: '\x7d' :: rest := rfl
      have visible := skipBlanks_cons (c := '\x7d') (by decide) rest
      rw [written] at h
      cases h with
      | empty blanks =>
          rw [blanks.skipBlanks_cons_eq (by decide)] at visible
          exact ⟨rfl, (List.cons.inj visible).2⟩
      | members members =>
          obtain ⟨t, front, -⟩ := members.quote
          rw [front] at visible
          exact absurd (List.cons.inj visible).1 (by decide)
  | cons m ms =>
      obtain ⟨k, v⟩ := m
      have written : (Json.obj ((k, v) :: ms)).chars ++ rest =
          '\x7b' :: (quote k ++ ':' :: (v.chars ++ (charsMembers ms ++ '\x7d' :: rest))) := by
        rw [chars]
        simp
      rw [written] at h
      cases h with
      | empty blanks =>
          rw [quote, List.cons_append, List.cons_append] at blanks
          have front := blanks.skipBlanks_cons_eq (by decide)
          rw [skipBlanks_cons (by decide)] at front
          exact absurd (List.cons.inj front).1 (by decide)
      | members members => exact faithful.members members

end Parts

/-! ### Values and texts -/

section Opening

variable {levels : Nat} {s rest last : List Char} {j : Json}

theorem opening_null (h : Opening levels ("null".toList ++ rest) j last) :
    j.text? = none ∧ last = rest := by
  generalize hs : "null".toList ++ rest = s at h
  cases h with
  | null => exact ⟨rfl, (List.append_cancel_left hs).symm⟩
  | bool b => cases b <;> simp [chars] at hs
  | text => simp at hs
  | number n numeric =>
      rw [← (List.cons.inj hs).1] at numeric
      exact absurd numeric (by decide)
  | array => simp at hs
  | object => simp at hs

theorem opening_bool {b : Bool} (h : Opening levels ((Json.bool b).chars ++ rest) j last) :
    j.text? = none ∧ last = rest := by
  generalize hs : (Json.bool b).chars ++ rest = s at h
  cases h with
  | null => cases b <;> simp [chars] at hs
  | bool b' =>
      cases b <;> cases b'
      · exact ⟨rfl, (List.append_cancel_left hs).symm⟩
      · simp [chars] at hs
      · simp [chars] at hs
      · exact ⟨rfl, (List.append_cancel_left hs).symm⟩
  | text => cases b <;> simp [chars] at hs
  | number n numeric =>
      cases b <;> rw [← (List.cons.inj hs).1] at numeric <;> exact absurd numeric (by decide)
  | array => cases b <;> simp [chars] at hs
  | object => cases b <;> simp [chars] at hs

theorem opening_quote (h : Opening levels ('"' :: s) j last) :
    ∃ content, Content s content last ∧ j = .str (String.ofList content) := by
  generalize hs : '"' :: s = s' at h
  cases h with
  | null => simp at hs
  | bool b => cases b <;> simp [chars] at hs
  | text content =>
      obtain ⟨-, rfl⟩ := List.cons.inj hs
      exact ⟨_, content, rfl⟩
  | number n numeric =>
      rw [← (List.cons.inj hs).1] at numeric
      exact absurd numeric (by decide)
  | array => simp at hs
  | object => simp at hs

theorem opening_bracket (h : Opening levels ('[' :: s) j last) :
    ∃ below es, levels = below + 1 ∧ Array (Value below) ('[' :: s) es last ∧ j = .arr es := by
  generalize hs : '[' :: s = s' at h
  cases h with
  | null => simp at hs
  | bool b => cases b <;> simp [chars] at hs
  | text => simp at hs
  | number n numeric =>
      rw [← (List.cons.inj hs).1] at numeric
      exact absurd numeric (by decide)
  | array below array => exact ⟨_, _, below, array, rfl⟩
  | object => simp at hs

theorem opening_brace (h : Opening levels ('\x7b' :: s) j last) :
    ∃ below ms, levels = below + 1 ∧ Object (Value below) ('\x7b' :: s) ms last ∧
      j = .obj (ofMembers ms) := by
  generalize hs : '\x7b' :: s = s' at h
  cases h with
  | null => simp at hs
  | bool b => cases b <;> simp [chars] at hs
  | text => simp at hs
  | number n numeric =>
      rw [← (List.cons.inj hs).1] at numeric
      exact absurd numeric (by decide)
  | array => simp at hs
  | object below object => exact ⟨_, _, below, object, rfl⟩

/-- The digits that were written are followed up to their end, or into them. -/
theorem opening_numeric {ns : List Char} (some : ns ≠ []) (all : ∀ c ∈ ns, isNumeric c = true)
    (bounded : Bounded rest) (h : Opening levels (ns ++ rest) j last) :
    j.text? = none ∧ (last = rest ∨ Stuck last) := by
  generalize hs : ns ++ rest = s at h
  obtain ⟨c, t, rfl⟩ := List.exists_cons_of_ne_nil some
  have clash : ∀ {d : Char} {u : List Char}, c :: t ++ rest = d :: u → isNumeric d = true := by
    intro d u same
    rw [← (List.cons.inj same).1]
    exact all c List.mem_cons_self
  cases h with
  | null => exact absurd (clash hs) (by decide)
  | bool b => cases b <;> exact absurd (clash hs) (by decide)
  | text => exact absurd (clash hs) (by decide)
  | number _ _ takes =>
      rw [← hs] at takes
      exact ⟨rfl, takes.ends all bounded⟩
  | array => exact absurd (clash hs) (by decide)
  | object => exact absurd (clash hs) (by decide)

end Opening

/-- **The written form of a value is spelled as far as it goes**, at every depth of nesting. -/
theorem faithful_value (levels : Nat) : Faithful (Value levels) := by
  induction levels using Nat.strongRecOn with
  | ind levels ih =>
      refine ⟨fun {j j' rest last} bounded h => ?_⟩
      have opening := opening_of_value h
      cases j with
      | null =>
          obtain ⟨text, ends⟩ := opening_null opening
          exact ⟨text, .inl ends⟩
      | bool b =>
          obtain ⟨text, ends⟩ := opening_bool opening
          exact ⟨text, .inl ends⟩
      | num n =>
          rw [chars] at opening
          obtain null | ⟨some, all⟩ := n.chars_numeric
          · rw [null] at opening
            obtain ⟨text, ends⟩ := opening_null opening
            exact ⟨text, .inl ends⟩
          · exact opening_numeric some all bounded opening
      | str t =>
          have written : (Json.str t).chars ++ rest =
              '"' :: (t.toList.flatMap escaped ++ '"' :: rest) := by
            rw [chars, quote]
            simp
          rw [written] at opening
          obtain ⟨content, spelled, rfl⟩ := opening_quote opening
          have read := readText_of_content spelled []
          rw [readText_quoted] at read
          obtain ⟨same, ends⟩ := Prod.mk.inj (Except.ok.inj read)
          rw [List.reverse_nil, List.nil_append, List.nil_append, String.ofList_toList] at same
          rw [← same]
          exact ⟨rfl, .inl ends.symm⟩
      | arr es =>
          obtain ⟨s, written⟩ : ∃ s, (Json.arr es).chars ++ rest = '[' :: s := by
            cases es <;> exact ⟨_, rfl⟩
          rw [written] at opening
          obtain ⟨below, es', rfl, array, rfl⟩ := opening_bracket opening
          rw [← written] at array
          exact ⟨rfl, .inl ((ih below (Nat.lt_succ_self _)).array (Firm.value below) array)⟩
      | obj ms =>
          obtain ⟨s, written⟩ : ∃ s, (Json.obj ms).chars ++ rest = '\x7b' :: s := by
            cases ms <;> exact ⟨_, rfl⟩
          rw [written] at opening
          obtain ⟨below, ms', rfl, object, rfl⟩ := opening_brace opening
          rw [← written] at object
          exact ⟨rfl, .inl ((ih below (Nat.lt_succ_self _)).object object).2⟩

/-- **What a text spells that was written for an object has the keys of that object, and its
texts**, in the same order and as often. -/
theorem outline_of_spellsObject {ms written : List Member}
    (h : SpellsObject (Json.obj ms).text written) : outline written = outline ms := by
  obtain ⟨first, last, before, object, -⟩ := h
  rw [text, String.toList_ofList] at before
  obtain rfl : (Json.obj ms).chars = first := by
    obtain ⟨c, s, written, visible, -⟩ := chars_eq_cons (Json.obj ms)
    rw [written] at before ⊢
    cases before with
    | none => rfl
    | one blank _ => exact absurd (blank.symm.trans visible) (by decide)
  have whole := List.append_nil (Json.obj ms).chars
  rw [← whole] at object
  exact ((faithful_value 126).object object).1

end Json

end BridgeChannel
