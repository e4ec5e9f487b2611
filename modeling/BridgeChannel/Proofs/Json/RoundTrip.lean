/-
**Reading a JSON value back from its written form.**

A value without doubles, whose objects keep their members in order, is read back as it was, if the
reader may open as many levels as the value has.  The written form may be followed by anything that
does not continue a number; this is what carries the induction, on the number of levels.

Main definitions:

* `Json.Detached` — what may follow a value;
* `Json.ReadsBack` — a reader reads a value back from its written form.

Main results:

* `readText_quoted` — strings, with every character escaped as it has to be;
* `readNumber_digits` — integers, up to both limits;
* `readMembers_charsMembers` — the members of an object, in any order and with keys repeated;
* `readsBack_readValue` — **every value is read back, and nothing of what follows it is touched**;
* `parse_text_obj` — the same for the text of an object.
-/
import BridgeChannel.Json.Parser
import BridgeChannel.Json.Printer
import BridgeChannel.Proofs.Json.Members
import BridgeChannel.Proofs.Json.Numeric

set_option autoImplicit false

namespace BridgeChannel.Json

/-! ### Strings -/

/-- The escape of a control character stands for it. -/
theorem hexFour?_control {n : Nat} (control : n < 0x20) :
    hexFour? '0' '0' (hexDigit (n / 16)) (hexDigit n) = some n := by
  have all : ∀ n < 0x20, hexFour? '0' '0' (hexDigit (n / 16)) (hexDigit n) = some n := by decide
  exact all n control

/-- The written form of a character is read as that character. -/
theorem readText_escaped (read : List Char) (c : Char) (s : List Char) :
    readText read (escaped c ++ s) = readText (c :: read) s := by
  unfold escaped
  split
  · rfl
  · rfl
  · rfl
  · rfl
  · rfl
  · rfl
  · rfl
  next quote backslash _ _ _ _ _ =>
    split
    next control =>
      -- four digits that name a control character are no part of a surrogate pair
      have value := hexFour?_control control
      have trailing : isTrailingSurrogate c.toNat = false := by
        simp [isTrailingSurrogate]
        omega
      have leading : isLeadingSurrogate c.toNat = false := by
        simp [isLeadingSurrogate]
        omega
      simp only [List.cons_append, List.nil_append]
      rw [readText]
      simp [value, trailing, leading]
    next plain =>
      rw [List.singleton_append, readText]
      · rw [if_neg plain]
      all_goals simp_all

/-- **A string is read back, whatever characters it has.** -/
theorem readText_quoted (read s rest : List Char) :
    readText read (s.flatMap escaped ++ '"' :: rest) =
      .ok (String.ofList (read.reverse ++ s), rest) := by
  induction s generalizing read with
  | nil =>
      rw [List.flatMap_nil, List.nil_append, List.append_nil]
      rfl
  | cons c s ih =>
      rw [List.flatMap_cons, List.append_assoc, readText_escaped, ih]
      simp

/-! ### Integers -/

/-- What may follow a value: nothing, or something that does not continue a number. -/
def Detached : List Char → Prop
  | [] => True
  | c :: _ => c.isDigit = false ∧ c ≠ '.' ∧ c ≠ 'e' ∧ c ≠ 'E'

/-- What may follow a run of digits: nothing, or something that is no digit. -/
def EndsDigits : List Char → Prop
  | [] => True
  | c :: _ => c.isDigit = false

theorem Detached.endsDigits {rest : List Char} (detached : Detached rest) : EndsDigits rest := by
  cases rest with
  | nil => trivial
  | cons c rest => exact detached.1

/-- Digits are taken up to the first character that is none. -/
theorem digits_append {ds rest : List Char} (hds : ∀ c ∈ ds, c.isDigit = true)
    (ends : EndsDigits rest) : digits (ds ++ rest) = (ds, rest) := by
  have taken : rest.takeWhile Char.isDigit = [] ∧ rest.dropWhile Char.isDigit = rest := by
    cases rest with
    | nil => exact ⟨rfl, rfl⟩
    | cons c rest =>
        have other : c.isDigit = false := ends
        simp [other]
  unfold digits
  rw [List.takeWhile_append_of_pos hds, List.dropWhile_append_of_pos hds, taken.1, taken.2,
    List.append_nil]

/-- The first digit of a positive number is no zero. -/
theorem toDigits_eq_cons {n : Nat} (positive : 0 < n) :
    ∃ d ds, Nat.toDigits 10 n = d :: ds ∧ d.isDigit = true ∧ d ≠ '0' := by
  induction n using Nat.strongRecOn with
  | ind n ih =>
      by_cases small : n < 10
      · refine ⟨n.digitChar, [], Nat.toDigits_of_lt_base small, ?_⟩
        have all : ∀ n < 10, 0 < n → n.digitChar.isDigit = true ∧ n.digitChar ≠ '0' := by decide
        exact all n small positive
      · -- the first digit stays the first one without the last one
        have below : n / 10 < n := by omega
        have positive' : 0 < n / 10 := by omega
        obtain ⟨d, ds, hds, hd⟩ := ih (n / 10) below positive'
        refine ⟨d, ds ++ [Nat.digitChar (n % 10)], ?_, hd⟩
        rw [Nat.toDigits_of_base_le (by omega) (by omega), hds]
        rfl

/-- The digits of a number are read back as its whole part. -/
theorem readWhole_toDigits (n : Nat) {rest : List Char} (detached : Detached rest) :
    readWhole (Nat.toDigits 10 n ++ rest) = .ok (Nat.toDigits 10 n, rest) := by
  rcases Nat.eq_zero_or_pos n with rfl | positive
  · -- a zero ends the whole part, unless a digit comes next
    rw [Nat.toDigits_zero]
    cases rest with
    | nil => rfl
    | cons c rest =>
        have single : ['0'] ++ c :: rest = '0' :: c :: rest := rfl
        rw [single, readWhole, detached.1]
        rfl
  · obtain ⟨d, ds, hds, -, nonzero⟩ := toDigits_eq_cons positive
    have all : ∀ c ∈ Nat.toDigits 10 n, c.isDigit = true := fun c hc =>
      Nat.isDigit_of_mem_toDigits (by omega) (by omega) hc
    have taken := digits_append all detached.endsDigits
    rw [hds] at taken ⊢
    rw [List.cons_append] at taken ⊢
    rw [readWhole]
    · rw [taken]
      rfl
    · exact List.cons_ne_nil _ _
    · intro s same
      exact nonzero (List.cons.inj same).1

theorem readFraction_detached {rest : List Char} (detached : Detached rest) :
    readFraction rest = .ok (none, rest) := by
  cases rest with
  | nil => rfl
  | cons c rest =>
      unfold readFraction
      split
      next same => exact absurd (List.cons.inj same).1 detached.2.1
      · rfl

theorem readExponent_detached {rest : List Char} (detached : Detached rest) :
    readExponent rest = .ok (none, rest) := by
  cases rest with
  | nil => rfl
  | cons c rest =>
      have none_ : ¬(c = 'e' ∨ c = 'E') := not_or.2 detached.2.2
      exact if_neg none_

/-- **The digits of an integer that fits are read back as that integer**, unless it is a zero with a
sign. -/
theorem readNumber_digits {negative : Bool} {n : Nat} {value : Int} {rest : List Char}
    (signed : negative = true → n ≠ 0) (meant : (if negative then -(n : Int) else n) = value)
    (fits : FitsWord value) (detached : Detached rest) :
    readNumber negative (Nat.toDigits 10 n ++ rest) =
      .ok (.num (.integer value fits), rest) := by
  subst meant
  have numeral : readNumeral negative (Nat.toDigits 10 n ++ rest) =
      .ok (⟨negative, Nat.toDigits 10 n, none, none⟩, rest) := by
    unfold readNumeral
    rw [readWhole_toDigits n detached]
    dsimp only [bind, Except.bind]
    rw [readFraction_detached detached]
    dsimp only [bind, Except.bind]
    rw [readExponent_detached detached]
    rfl
  have integer : Numeral.integer ⟨negative, Nat.toDigits 10 n, none, none⟩ =
      if negative then -(n : Int) else n := by
    simp only [Numeral.integer, Nat.ofDigitChars_ten_toDigits]
  have value : Numeral.value? ⟨negative, Nat.toDigits 10 n, none, none⟩ =
      some (.integer (if negative then -(n : Int) else n) fits) := by
    have zero : (negative && (if negative then -(n : Int) else n) == 0) = false := by
      cases negative with
      | false => rfl
      | true =>
          have nonzero := signed rfl
          simpa using nonzero
    have fits' : FitsWord (Numeral.integer ⟨negative, Nat.toDigits 10 n, none, none⟩) := by
      rw [integer]
      exact fits
    rw [Numeral.value?_integer rfl (by rw [integer]; exact zero) fits']
    simp only [integer]
  unfold readNumber
  rw [numeral]
  dsimp only [bind, Except.bind]
  rw [value]
  rfl

/-! ### Values -/

/-- A reader reads a value back from its written form, and leaves what follows. -/
def ReadsBack (item : Reader Json) (j : Json) : Prop :=
  ∀ rest, Detached rest → item (j.chars ++ rest) = .ok (j, rest)

theorem skipBlanks_cons {c : Char} (visible : isBlank c = false) (s : List Char) :
    skipBlanks (c :: s) = c :: s := by
  simp [skipBlanks, visible]

/-- A digit is no blank and closes nothing. -/
theorem plain_of_isDigit {c : Char} (hc : c.isDigit = true) : isBlank c = false ∧ c ≠ ']' := by
  have other : ∀ d : Char, d.isDigit = false → c ≠ d := by
    rintro d hd rfl
    rw [hc] at hd
    exact absurd hd (by decide)
  have space := other ' ' (by decide)
  have line := other '\n' (by decide)
  have tab := other '\t' (by decide)
  have feed := other '\r' (by decide)
  exact ⟨by simp [isBlank, space, line, tab, feed], other ']' (by decide)⟩

/-- A character of a number is no blank and closes nothing. -/
theorem plain_of_isNumeric {c : Char} (hc : isNumeric c = true) : isBlank c = false ∧ c ≠ ']' := by
  simp only [isNumeric, Bool.or_eq_true, beq_iff_eq] at hc
  obtain ((((hc | rfl) | rfl) | rfl) | rfl) | rfl := hc
  · exact plain_of_isDigit hc
  all_goals exact ⟨by decide, by decide⟩

/-- The written form of a value starts with a character that is no blank and closes nothing. -/
theorem chars_eq_cons (j : Json) : ∃ c s, j.chars = c :: s ∧ isBlank c = false ∧ c ≠ ']' := by
  cases j with
  | null => exact ⟨'n', _, rfl, by decide, by decide⟩
  | bool b =>
      cases b with
      | true => exact ⟨'t', _, rfl, by decide, by decide⟩
      | false => exact ⟨'f', _, rfl, by decide, by decide⟩
  | num n =>
      rw [chars]
      obtain null | ⟨some, all⟩ := n.chars_numeric
      · rw [null]
        exact ⟨'n', _, rfl, by decide, by decide⟩
      · obtain ⟨c, s, written⟩ := List.exists_cons_of_ne_nil some
        rw [written] at all ⊢
        exact ⟨c, s, rfl, plain_of_isNumeric (all c List.mem_cons_self)⟩
  | str s => exact ⟨'"', _, rfl, by decide, by decide⟩
  | arr es =>
      cases es with
      | nil => exact ⟨'[', _, rfl, by decide, by decide⟩
      | cons e es => exact ⟨'[', _, rfl, by decide, by decide⟩
  | obj ms =>
      cases ms with
      | nil => exact ⟨'\x7b', _, rfl, by decide, by decide⟩
      | cons m ms => exact ⟨'\x7b', _, rfl, by decide, by decide⟩

theorem detached_cons {c : Char} (s : List Char) (h : c.isDigit = false) (point : c ≠ '.')
    (exponent : c ≠ 'e' ∧ c ≠ 'E') : Detached (c :: s) := ⟨h, point, exponent⟩

/-- What starts with a digit is a number. -/
theorem readValueWith_digit (item : Option (Reader Json)) {d : Char} (hd : d.isDigit = true)
    (s : List Char) : readValueWith item (d :: s) = readNumber false (d :: s) := by
  have visible : isBlank d = false := (plain_of_isDigit hd).1
  have clash : ∀ {c : Char} {s' : List Char}, d :: s = c :: s' → c.isDigit = true := by
    intro c s' same
    rw [← (List.cons.inj same).1]
    exact hd
  unfold readValueWith
  rw [skipBlanks_cons visible]
  split
  next none_ => exact absurd none_ (List.cons_ne_nil _ _)
  next same => exact absurd (clash same) (by decide)
  next same => exact absurd (clash same) (by decide)
  next same => exact absurd (clash same) (by decide)
  next same => exact absurd (clash same) (by decide)
  next same => exact absurd (clash same) (by decide)
  next same => exact absurd (clash same) (by decide)
  next same => exact absurd (clash same) (by decide)
  next c s' _ _ _ _ _ _ _ same =>
    rw [if_pos (clash same), ← same]

/-- Integers are read back. -/
theorem readsBack_integer (item : Option (Reader Json)) {n : Int} (fits : FitsWord n) :
    ReadsBack (readValueWith item) (.num (.integer n fits)) := by
  intro rest detached
  rw [chars, Number.chars]
  split
  next negative =>
    have meant : (if true = true then -(n.natAbs : Int) else n.natAbs) = n := by
      rw [if_pos rfl]
      omega
    exact readNumber_digits (fun _ => by omega) meant fits detached
  next natural =>
    have meant : (if false = true then -(n.natAbs : Int) else n.natAbs) = n := by
      rw [if_neg (by decide)]
      omega
    have read := readNumber_digits (fun h => absurd h (by decide)) meant fits detached
    rcases Nat.eq_zero_or_pos n.natAbs with zero | positive
    · rw [zero, Nat.toDigits_zero] at read ⊢
      exact read
    · obtain ⟨d, ds, hds, hd, -⟩ := toDigits_eq_cons positive
      rw [hds] at read ⊢
      exact (readValueWith_digit item hd _).trans read

/-! ### What the first character says -/

theorem readValueWith_quote (item : Option (Reader Json)) (s : List Char) :
    readValueWith item ('"' :: s) = (readText [] s).map fun p => (.str p.1, p.2) := by
  have unfolded : readValueWith item ('"' :: s) =
      (readText [] s >>= fun p => pure (.str p.1, p.2)) := rfl
  rw [unfolded]
  cases readText [] s <;> rfl

theorem readValueWith_bracket (item : Reader Json) (s : List Char) :
    readValueWith (some item) ('[' :: s) = readArray item s := rfl

theorem readValueWith_brace (item : Reader Json) (s : List Char) :
    readValueWith (some item) ('\x7b' :: s) = readObject item s := rfl

/-- Strings are read back. -/
theorem readsBack_str (item : Option (Reader Json)) (s : String) :
    ReadsBack (readValueWith item) (.str s) := by
  intro rest _
  have written : (Json.str s).chars ++ rest = '"' :: (s.toList.flatMap escaped ++ '"' :: rest) := by
    rw [chars, quote]
    simp
  have text := readText_quoted [] s.toList rest
  rw [List.reverse_nil, List.nil_append, String.ofList_toList] at text
  rw [written, readValueWith_quote, text]
  rfl

/-- Words are read back. -/
theorem readsBack_word (item : Option (Reader Json)) :
    ReadsBack (readValueWith item) .null ∧ ∀ b, ReadsBack (readValueWith item) (.bool b) := by
  refine ⟨fun rest _ => rfl, fun b rest _ => ?_⟩
  cases b <;> rfl

/-! ### Arrays -/

theorem length_charsElements (es : List Json) : es.length ≤ (charsElements es).length := by
  induction es with
  | nil => exact Nat.le_refl _
  | cons e es ih =>
      rw [charsElements]
      simp only [List.cons_append, List.length_cons, List.length_append]
      omega

/-- A closing bracket ends the elements. -/
theorem readElements_close {item : Reader Json} {s rest : List Char} {e : Json}
    (first : item s = .ok (e, ']' :: rest)) (steps : Nat) (read : List Json) :
    readElements item (steps + 1) read s = .ok ((e :: read).reverse, rest) := by
  rw [readElements, first]
  rfl

/-- A comma leads to the next element. -/
theorem readElements_comma {item : Reader Json} {s s' s'' rest : List Char} {e : Json} {c : Char}
    (first : item s = .ok (e, s')) (comma : skipBlanks s' = ',' :: s'')
    (front : skipBlanks s'' = c :: rest) (more : c ≠ ']') (steps : Nat) (read : List Json) :
    readElements item (steps + 1) read s = readElements item steps (e :: read) (c :: rest) := by
  rw [readElements, first]
  simp only [bind, Except.bind, comma, front]
  split
  next same => exact absurd (List.cons.inj same).1 more
  next => rfl

/-- The elements of an array are read back, in as many steps as there are elements. -/
theorem readElements_charsElements {item : Reader Json} {e : Json} {es : List Json}
    (reads : ∀ x ∈ e :: es, ReadsBack item x) {steps : Nat} (enough : es.length < steps)
    (read : List Json) (rest : List Char) :
    readElements item steps read (e.chars ++ (charsElements es ++ ']' :: rest)) =
      .ok (read.reverse ++ e :: es, rest) := by
  induction es generalizing e steps read with
  | nil =>
      obtain ⟨steps, rfl⟩ := Nat.exists_eq_succ_of_ne_zero (Nat.ne_of_gt enough)
      have first := reads e List.mem_cons_self (']' :: rest)
        (detached_cons rest (by decide) (by decide) (by decide))
      rw [charsElements, List.nil_append, readElements_close first]
      simp
  | cons e' es ih =>
      obtain ⟨steps, rfl⟩ := Nat.exists_eq_succ_of_ne_zero
        (Nat.ne_of_gt (Nat.lt_of_le_of_lt (Nat.zero_le _) enough))
      have first := reads e List.mem_cons_self
        (',' :: (e'.chars ++ (charsElements es ++ ']' :: rest)))
        (detached_cons _ (by decide) (by decide) (by decide))
      have reads' : ∀ x ∈ e' :: es, ReadsBack item x := fun x hx =>
        reads x (List.mem_cons_of_mem _ hx)
      have enough' : es.length < steps := by
        rw [List.length_cons] at enough
        omega
      have others := ih reads' enough' (e :: read)
      -- behind the comma the next element starts, so that the comma is not a trailing one
      obtain ⟨c, s, hc, visible, more⟩ := chars_eq_cons e'
      have written : charsElements (e' :: es) ++ ']' :: rest =
          ',' :: (e'.chars ++ (charsElements es ++ ']' :: rest)) := by
        rw [charsElements]
        simp
      rw [hc, List.cons_append] at others first
      have comma := skipBlanks_cons (c := ',') (by decide)
        (c :: (s ++ (charsElements es ++ ']' :: rest)))
      rw [written, hc, List.cons_append,
        readElements_comma first comma (skipBlanks_cons visible _) more, others]
      simp

theorem readsBack_arr {item : Reader Json} {es : List Json}
    (reads : ∀ x ∈ es, ReadsBack item x) : ReadsBack (readValueWith (some item)) (.arr es) := by
  intro rest _
  cases es with
  | nil => rfl
  | cons e es =>
      have written : (Json.arr (e :: es)).chars ++ rest =
          '[' :: (e.chars ++ (charsElements es ++ ']' :: rest)) := by
        rw [chars]
        simp
      obtain ⟨c, s, hc, visible, open_⟩ := chars_eq_cons e
      -- the length of the text is steps enough, for every element has a character
      have enough : es.length < (e.chars ++ (charsElements es ++ ']' :: rest)).length := by
        have long := length_charsElements es
        rw [hc]
        simp only [List.cons_append, List.length_cons, List.length_append]
        omega
      have elements := readElements_charsElements reads enough [] rest
      rw [written, readValueWith_bracket]
      unfold readArray
      rw [hc, List.cons_append] at elements ⊢
      rw [skipBlanks_cons visible]
      split
      next none_ => exact absurd none_ (List.cons_ne_nil _ _)
      next same => exact absurd (List.cons.inj same).1 open_
      next =>
        rw [elements]
        rfl

/-! ### Objects -/

/-- A key and its value are read, whatever stands before them and whatever comes of them. -/
theorem readMembers_key {item : Reader Json} (k : String) {v : Json} (readsV : ReadsBack item v)
    {after : List Char} (detached : Detached after) (steps : Nat) (read : List Member) :
    readMembers item (steps + 1) read
        (k.toList.flatMap escaped ++ '"' :: ':' :: (v.chars ++ after)) =
      match skipBlanks after with
      | [] => stopAt .endInObject []
      | '\x7d' :: s => .ok (((k, v) :: read).reverse, s)
      | ',' :: s =>
        match skipBlanks s with
        | [] => stopAt .endInValue []
        | '"' :: s => readMembers item steps ((k, v) :: read) s
        | '\x7d' :: s => stopAt .trailingComma ('\x7d' :: s)
        | s => stopAt .keyNotAString s
      | s => stopAt .expectedCommaOrBrace s := by
  have key := readText_quoted [] k.toList (':' :: (v.chars ++ after))
  rw [List.reverse_nil, List.nil_append, String.ofList_toList] at key
  have value := readsV after detached
  rw [readMembers, key]
  dsimp only [bind, Except.bind]
  rw [skipBlanks_cons (by decide)]
  simp only [value]
  rfl

theorem length_charsMembers (ms : List Member) : ms.length ≤ (charsMembers ms).length := by
  induction ms with
  | nil => exact Nat.le_refl _
  | cons m ms ih =>
      obtain ⟨k, v⟩ := m
      rw [charsMembers]
      simp only [List.cons_append, List.length_cons, List.length_append]
      omega

/-- **The members of an object are read back as they are written**, in any order and with keys
repeated, in as many steps as there are members. -/
theorem readMembers_charsMembers {item : Reader Json} {k : String} {v : Json} {ms : List Member}
    (readsV : ReadsBack item v) (reads : ∀ m ∈ ms, ReadsBack item m.2) {steps : Nat}
    (enough : ms.length < steps) (read : List Member) (rest : List Char) :
    readMembers item steps read
        (k.toList.flatMap escaped ++
          '"' :: ':' :: (v.chars ++ (charsMembers ms ++ '\x7d' :: rest))) =
      .ok (read.reverse ++ (k, v) :: ms, rest) := by
  induction ms generalizing k v steps read with
  | nil =>
      obtain ⟨steps, rfl⟩ := Nat.exists_eq_succ_of_ne_zero (Nat.ne_of_gt enough)
      have closing : Detached ('\x7d' :: rest) :=
        detached_cons rest (by decide) (by decide) (by decide)
      rw [charsMembers, List.nil_append, readMembers_key k readsV closing]
      rw [skipBlanks_cons (by decide)]
      simp
  | cons m ms ih =>
      obtain ⟨k', v'⟩ := m
      obtain ⟨steps, rfl⟩ := Nat.exists_eq_succ_of_ne_zero
        (Nat.ne_of_gt (Nat.lt_of_le_of_lt (Nat.zero_le _) enough))
      have enough' : ms.length < steps := by
        rw [List.length_cons] at enough
        omega
      have others := ih (k := k') (reads (k', v') List.mem_cons_self)
        (fun m hm => reads m (List.mem_cons_of_mem _ hm)) enough' ((k, v) :: read)
      have written : charsMembers ((k', v') :: ms) ++ '\x7d' :: rest =
          ',' :: '"' :: (k'.toList.flatMap escaped ++
            '"' :: ':' :: (v'.chars ++ (charsMembers ms ++ '\x7d' :: rest))) := by
        rw [charsMembers, quote]
        simp
      -- the value ends at the comma, even if it is a number
      have comma : Detached (charsMembers ((k', v') :: ms) ++ '\x7d' :: rest) := by
        rw [written]
        exact detached_cons _ (by decide) (by decide) (by decide)
      rw [readMembers_key k readsV comma, written]
      rw [skipBlanks_cons (by decide)]
      change readMembers item steps ((k, v) :: read) _ = _
      rw [others]
      simp

theorem readObject_quote (item : Reader Json) (s : List Char) :
    readObject item ('"' :: s) =
      (readMembers item (s.length + 1) [] s).map fun p => (.obj (ofMembers p.1), p.2) := by
  have unfolded : readObject item ('"' :: s) =
      (readMembers item (s.length + 1) [] s >>= fun p => pure (.obj (ofMembers p.1), p.2)) := rfl
  rw [unfolded]
  cases readMembers item (s.length + 1) [] s <;> rfl

/-- The members of an object are sorted once they are read. -/
theorem readObject_charsMembers {item : Reader Json} {ms : List Member}
    (reads : ∀ m ∈ ms, ReadsBack item m.2) (rest : List Char) :
    readValueWith (some item) ((Json.obj ms).chars ++ rest) = .ok (.obj (ofMembers ms), rest) := by
  cases ms with
  | nil => rfl
  | cons m ms =>
      obtain ⟨k, v⟩ := m
      have written : (Json.obj ((k, v) :: ms)).chars ++ rest =
          '\x7b' :: '"' :: (k.toList.flatMap escaped ++
            '"' :: ':' :: (v.chars ++ (charsMembers ms ++ '\x7d' :: rest))) := by
        rw [chars, quote]
        simp
      have enough : ms.length < (k.toList.flatMap escaped ++
          '"' :: ':' :: (v.chars ++ (charsMembers ms ++ '\x7d' :: rest))).length + 1 := by
        have long := length_charsMembers ms
        simp only [List.length_cons, List.length_append]
        omega
      have members := readMembers_charsMembers (k := k) (reads (k, v) List.mem_cons_self)
        (fun m hm => reads m (List.mem_cons_of_mem _ hm)) enough [] rest
      rw [written, readValueWith_brace, readObject_quote, members]
      rfl

/-! ### Any value -/

/-- A value without parts is read back, whether or not levels may be opened. -/
theorem readsBack_flat (item : Option (Reader Json)) {j : Json} (exact : j.Exact)
    (flat : j.depth = 0) : ReadsBack (readValueWith item) j := by
  cases j with
  | null => exact (readsBack_word item).1
  | bool b => exact (readsBack_word item).2 b
  | num n =>
      cases n with
      | double x => exact absurd exact (by simp [Exact])
      | integer n fits => exact readsBack_integer item fits
  | str s => exact readsBack_str item s
  | arr es => exact absurd flat (by simp [depth])
  | obj ms => exact absurd flat (by simp [depth])

/-- **A value without doubles, whose objects are in order, is read back from its written form**, if
as many levels may be opened as it has. -/
theorem readsBack_readValue {levels : Nat} {j : Json} (exact : j.Exact) (sorted : j.Sorted)
    (shallow : j.depth ≤ levels) : ReadsBack (readValue levels) j := by
  induction levels generalizing j with
  | zero => exact readsBack_flat none exact (Nat.le_zero.1 shallow)
  | succ levels ih =>
      cases j with
      | null => exact readsBack_flat _ exact rfl
      | bool b => exact readsBack_flat _ exact rfl
      | num n => exact readsBack_flat _ exact rfl
      | str s => exact readsBack_flat _ exact rfl
      | arr es =>
          rw [Exact, exactElements_iff] at exact
          rw [Sorted, sortedElements_iff] at sorted
          rw [depth, Nat.add_le_add_iff_right, depthElements_le_iff] at shallow
          exact readsBack_arr fun e he => ih (exact e he) (sorted e he) (shallow e he)
      | obj ms =>
          rw [Exact, exactMembers_iff] at exact
          rw [Sorted, sortedMembers_iff] at sorted
          rw [depth, Nat.add_le_add_iff_right, depthMembers_le_iff] at shallow
          intro rest _
          have read := readObject_charsMembers
            (fun m hm => ih (exact m hm) (sorted.2 m hm) (shallow m hm)) rest
          rw [ofMembers_of_sortedKeys sorted.1] at read
          exact read

/-! ### Texts -/

/-- A text that is read to its end holds what was read. -/
theorem parse_of_readValue {j : Json} {s : List Char} (read : readValue maxDepth s = .ok (j, [])) :
    parse (String.ofList s) = .ok j := by
  have document : readDocument s = .ok j := by
    unfold readDocument
    rw [read]
    rfl
  unfold parse
  rw [String.toList_ofList, document]

/-- **An object whose values have no doubles and are in order is read back from its text, with its
members sorted**: if a key is repeated, its last value counts. -/
theorem parse_text_obj {ms : List Member} (exact : ExactMembers ms) (sorted : SortedMembers ms)
    (shallow : (Json.obj ms).depth ≤ maxDepth) :
    parse (Json.obj ms).text = .ok (.obj (ofMembers ms)) := by
  rw [exactMembers_iff] at exact
  rw [sortedMembers_iff] at sorted
  have levels : maxDepth = 126 + 1 := rfl
  rw [depth, levels, Nat.add_le_add_iff_right, depthMembers_le_iff] at shallow
  refine parse_of_readValue ?_
  have read := readObject_charsMembers
    (fun m hm => readsBack_readValue (exact m hm) (sorted m hm) (shallow m hm)) []
  rw [List.append_nil] at read
  rw [levels]
  exact read

end BridgeChannel.Json
