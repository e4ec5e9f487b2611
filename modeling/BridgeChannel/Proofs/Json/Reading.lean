/-
**Reading accepts exactly the texts of the grammar.**

Each reader is tied to the spelling of what it reads: what it answers with is spelled in front of
what it leaves, and what is spelled is answered with.  For numbers, the second half needs that what
follows does not continue them.

Main definitions:

* `Json.Reads` — a reader of values accepts a spelling, and nothing else.

Main results:

* `content_of_readText`, `readText_of_content` — strings;
* `unsigned_of_readNumber`, `readNumber_of_unsigned` — numbers;
* `Reads.readElements`, `Reads.readMembers` — the inside of arrays and objects;
* `reads_value` — **values, at every depth of nesting**;
* `parse_eq_ok_iff`, `parse_eq_obj_iff` — **a text is read as a value exactly if it spells it**;
* `sorted_of_parse` — every object in what is read has its members in order.
-/
import BridgeChannel.Proofs.Json.Grammar
import BridgeChannel.Proofs.Json.Nesting

set_option autoImplicit false

namespace BridgeChannel.Json

open Grammar

/-! ### Strings -/

theorem stopAtHex_ne_ok {α : Type} {s rest : List Char} {a : α} :
    stopAtHex s ≠ (.ok (a, rest) : Except Stop (α × List Char)) := by
  unfold stopAtHex
  split <;> simp

/-- What is read as a string is spelled. -/
theorem content_of_readText {read s rest : List Char} {t : String}
    (h : readText read s = .ok (t, rest)) :
    ∃ content, Content s content rest ∧ t = String.ofList (read.reverse ++ content) := by
  fun_induction readText read s with
  | case2 read s =>
      obtain ⟨rfl, rfl⟩ := Prod.mk.inj (Except.ok.inj h)
      exact ⟨[], .close s, by rw [List.append_nil]⟩
  | case7 read a b c d n first lone leading a' b' c' d' s m second trailing ih =>
      obtain ⟨content, spelled, rfl⟩ := ih h
      exact ⟨_, .pair first leading second trailing spelled, by simp⟩
  | case14 read a b c d s n value trailing leading ih =>
      obtain ⟨content, spelled, rfl⟩ := ih h
      rw [Bool.not_eq_true] at trailing leading
      exact ⟨_, .unit value leading trailing spelled, by simp⟩
  | case16 read letter s other c escape ih =>
      obtain ⟨content, spelled, rfl⟩ := ih h
      exact ⟨_, .short escape spelled, by simp⟩
  | case19 read c s quote lone unit escape visible ih =>
      obtain ⟨content, spelled, rfl⟩ := ih h
      -- a backslash is never alone, for something stands before the closing quote
      have backslash : c ≠ '\\' := by
        intro hc
        cases s with
        | nil => exact lone hc rfl
        | cons letter s => exact escape letter s hc rfl
      exact ⟨_, .plain (Nat.le_of_not_lt visible) quote backslash spelled, by simp⟩
  | _ => first
    | exact absurd h stopAtHex_ne_ok
    | exact absurd h (by simp [stopAt])

/-- What is spelled is read as a string. -/
theorem readText_of_content {s content rest : List Char} (h : Content s content rest)
    (read : List Char) : readText read s = .ok (String.ofList (read.reverse ++ content), rest) := by
  induction h generalizing read with
  | close rest => rw [readText, List.append_nil]
  | @plain c s content rest visible quote backslash _ ih =>
      rw [readText]
      · rw [if_neg (Nat.not_lt.2 visible), ih]
        simp
      all_goals simp_all
  | @short letter c s content rest escape _ ih =>
      have other : letter ≠ 'u' := by
        rintro rfl
        simp [shortEscape?] at escape
      rw [readText]
      · rw [escape]
        dsimp only
        rw [ih]
        simp
      · exact other
  | unit value leading trailing _ ih =>
      rw [readText]
      simp only [value, leading, trailing, Bool.false_eq_true, if_false]
      rw [ih]
      simp
  | @pair a b c d a' b' c' d' n m s content rest first leading second trailing _ ih =>
      -- a leading surrogate is no trailing one
      have lone : isTrailingSurrogate n = false := by
        simp only [isLeadingSurrogate, isTrailingSurrogate, Bool.and_eq_true,
          decide_eq_true_eq] at leading ⊢
        simp
        omega
      rw [readText]
      simp only [first, leading, second, trailing, lone, Bool.false_eq_true, if_false, if_true]
      rw [ih]
      simp

/-! ### Numbers -/

theorem digits_of_eq {s ds rest : List Char} (h : digits s = (ds, rest)) (some : ds ≠ []) :
    Digits s ds rest := by
  obtain ⟨taken, left⟩ := Prod.mk.inj h
  refine ⟨?_, some, fun c hc => ?_⟩
  · rw [← taken, ← left, List.takeWhile_append_dropWhile]
  · rw [← taken] at hc
    exact List.all_eq_true.1 List.all_takeWhile c hc

theorem Grammar.Digits.digits_eq {s ds rest : List Char} (h : Digits s ds rest)
    (ends : EndsDigits rest) : digits s = (ds, rest) := by
  rw [h.split]
  exact digits_append h.all ends

theorem whole_of_readWhole {s whole rest : List Char} (h : readWhole s = .ok (whole, rest)) :
    Whole s whole rest := by
  unfold readWhole at h
  split at h
  · exact absurd h stopAt_ne_ok
  · split at h
    · split at h
      · exact absurd h stopAt_ne_ok
      · obtain ⟨rfl, rfl⟩ := Prod.mk.inj (Except.ok.inj h)
        exact .zero _
    · obtain ⟨rfl, rfl⟩ := Prod.mk.inj (Except.ok.inj h)
      exact .zero _
  next other =>
    split at h
    · exact absurd h stopAt_ne_ok
    next some =>
      have read := Except.ok.inj h
      rw [read, List.isEmpty_iff] at some
      have digits := digits_of_eq read some
      cases whole with
      | nil => exact absurd rfl some
      | cons d ds =>
          refine .digits ?_ digits
          rintro rfl
          exact other _ digits.split

theorem readWhole_of_whole {s whole rest : List Char} (h : Whole s whole rest)
    (ends : EndsDigits rest) : readWhole s = .ok (whole, rest) := by
  cases h with
  | zero =>
      cases rest with
      | nil => rfl
      | cons c rest =>
          have other : c.isDigit = false := ends
          rw [readWhole, other]
          rfl
  | @digits d _ ds _ nonzero run =>
      have read := run.digits_eq ends
      rw [run.split, List.cons_append] at read ⊢
      rw [readWhole]
      · rw [read]
        rfl
      · exact List.cons_ne_nil _ _
      · intro s same
        exact nonzero (List.cons.inj same).1

theorem fraction_of_readFraction {s rest : List Char} {fraction : Option (List Char)}
    (h : readFraction s = .ok (fraction, rest)) : Fraction s fraction rest := by
  unfold readFraction at h
  split at h
  · split at h
    · exact absurd h stopAt_ne_ok
    · exact absurd h stopAt_ne_ok
    next ds _ _ some read =>
      obtain ⟨rfl, rfl⟩ := Prod.mk.inj (Except.ok.inj h)
      exact .some (digits_of_eq read some)
  · obtain ⟨rfl, rfl⟩ := Prod.mk.inj (Except.ok.inj h)
    exact .none _

theorem readFraction_of_fraction {s rest : List Char} {fraction : Option (List Char)}
    (h : Fraction s fraction rest) (ends : EndsDigits rest) (pointless : ∀ t, rest ≠ '.' :: t) :
    readFraction s = .ok (fraction, rest) := by
  cases h with
  | none =>
      unfold readFraction
      split
      next t => exact absurd rfl (pointless t)
      · rfl
  | @some s ds _ run =>
      rw [readFraction, run.digits_eq ends]
      cases ds with
      | nil => exact absurd rfl run.some
      | cons d ds => rfl

theorem run_of_readExponentDigits {negative : Bool} {s rest : List Char}
    {exponent : Option (Bool × List Char)}
    (h : readExponentDigits negative s = .ok (exponent, rest)) :
    ∃ ds, exponent = some (negative, ds) ∧ Digits s ds rest := by
  unfold readExponentDigits at h
  split at h
  · exact absurd h stopAt_ne_ok
  · exact absurd h stopAt_ne_ok
  next ds _ _ some read =>
    obtain ⟨rfl, rfl⟩ := Prod.mk.inj (Except.ok.inj h)
    exact ⟨ds, rfl, digits_of_eq read some⟩

theorem readExponentDigits_of_run {s ds rest : List Char} (run : Digits s ds rest)
    (ends : EndsDigits rest) (negative : Bool) :
    readExponentDigits negative s = .ok (some (negative, ds), rest) := by
  unfold readExponentDigits
  rw [run.digits_eq ends]
  cases ds with
  | nil => exact absurd rfl run.some
  | cons d ds => rfl

theorem exponent_of_readExponent {s rest : List Char} {exponent : Option (Bool × List Char)}
    (h : readExponent s = .ok (exponent, rest)) : Exponent s exponent rest := by
  unfold readExponent at h
  split at h
  · split at h
    next letter =>
      split at h
      · obtain ⟨ds, rfl, run⟩ := run_of_readExponentDigits h
        exact .plus letter run
      · obtain ⟨ds, rfl, run⟩ := run_of_readExponentDigits h
        exact .minus letter run
      · obtain ⟨ds, rfl, run⟩ := run_of_readExponentDigits h
        exact .bare letter run
    · obtain ⟨rfl, rfl⟩ := Prod.mk.inj (Except.ok.inj h)
      exact .none _
  · obtain ⟨rfl, rfl⟩ := Prod.mk.inj (Except.ok.inj h)
    exact .none _

theorem readExponent_of_exponent {s rest : List Char} {exponent : Option (Bool × List Char)}
    (h : Exponent s exponent rest) (detached : Detached rest) :
    readExponent s = .ok (exponent, rest) := by
  have ends := detached.endsDigits
  cases h with
  | none => exact readExponent_detached detached
  | @bare e s ds _ letter run =>
      -- the first digit is no sign
      have first : ∀ c t, s = c :: t → c.isDigit = true := by
        rintro c t rfl
        cases ds with
        | nil => exact absurd rfl run.some
        | cons d ds =>
            obtain ⟨rfl, -⟩ := List.cons.inj run.split
            exact run.all _ List.mem_cons_self
      rw [readExponent, if_pos letter]
      · exact readExponentDigits_of_run run ends false
      · exact fun t same => absurd (first _ t same) (by decide)
      · exact fun t same => absurd (first _ t same) (by decide)
  | plus letter run =>
      rw [readExponent, if_pos letter]
      exact readExponentDigits_of_run run ends false
  | minus letter run =>
      rw [readExponent, if_pos letter]
      exact readExponentDigits_of_run run ends true

/-- What stands in front of an exponent ends a run of digits, and is no point. -/
theorem Grammar.Exponent.front {s rest : List Char} {exponent : Option (Bool × List Char)}
    (h : Exponent s exponent rest) (detached : Detached rest) :
    EndsDigits s ∧ ∀ t, s ≠ '.' :: t := by
  have letters : ∀ {e : Char}, e = 'e' ∨ e = 'E' → e.isDigit = false ∧ e ≠ '.' := by
    rintro e (rfl | rfl) <;> decide
  have start : ∀ {e : Char} {s : List Char}, e = 'e' ∨ e = 'E' →
      EndsDigits (e :: s) ∧ ∀ t, e :: s ≠ '.' :: t := by
    intro e s letter
    exact ⟨(letters letter).1, fun t same => (letters letter).2 (List.cons.inj same).1⟩
  cases h with
  | none =>
      refine ⟨detached.endsDigits, ?_⟩
      rintro t rfl
      exact detached.2.1 rfl
  | bare letter => exact start letter
  | plus letter => exact start letter
  | minus letter => exact start letter

theorem Grammar.Fraction.front {s rest : List Char} {fraction : Option (List Char)}
    (h : Fraction s fraction rest) (ends : EndsDigits rest) : EndsDigits s := by
  cases h with
  | none => exact ends
  | some => exact rfl

/-- What is read as a number is spelled, and in range. -/
theorem unsigned_of_readNumber {negative : Bool} {s rest : List Char} {j : Json}
    (h : readNumber negative s = .ok (j, rest)) :
    ∃ numeral n, Unsigned negative s numeral rest ∧ numeral.value? = some n ∧ j = .num n := by
  unfold readNumber at h
  obtain ⟨⟨numeral, s'⟩, read, h⟩ := read_of_bind h
  unfold readNumeral at read
  obtain ⟨⟨whole, s₁⟩, hwhole, read⟩ := read_of_bind read
  obtain ⟨⟨fraction, s₂⟩, hfraction, read⟩ := read_of_bind read
  obtain ⟨⟨exponent, s₃⟩, hexponent, read⟩ := read_of_bind read
  obtain ⟨rfl, rfl⟩ := Prod.mk.inj (Except.ok.inj read)
  dsimp only at h
  split at h
  next n value =>
    obtain ⟨rfl, rfl⟩ := Prod.mk.inj (Except.ok.inj h)
    exact ⟨_, n, ⟨whole_of_readWhole hwhole, fraction_of_readFraction hfraction,
      exponent_of_readExponent hexponent⟩, value, rfl⟩
  · exact absurd h (by simp)

/-- What is spelled as a number after its sign is read as it is written. -/
theorem readNumeral_of_unsigned {negative : Bool} {s rest : List Char} {numeral : Numeral}
    (h : Unsigned negative s numeral rest) (detached : Detached rest) :
    readNumeral negative s = .ok (numeral, rest) := by
  cases h with
  | mk hwhole hfraction hexponent =>
      obtain ⟨ends, pointless⟩ := hexponent.front detached
      unfold readNumeral
      rw [readWhole_of_whole hwhole (hfraction.front ends)]
      dsimp only [bind, Except.bind]
      rw [readFraction_of_fraction hfraction ends pointless]
      dsimp only [bind, Except.bind]
      rw [readExponent_of_exponent hexponent detached]
      rfl

/-- What is spelled as a number is read as the number that it means, or is out of range. -/
theorem readNumber_of_unsigned {negative : Bool} {s rest : List Char} {numeral : Numeral}
    (h : Unsigned negative s numeral rest) (detached : Detached rest) : readNumber negative s =
      match numeral.value? with
      | some n => .ok (.num n, rest)
      | none => .error ⟨.numberOutOfRange, byteCount rest + numeral.excess⟩ := by
  unfold readNumber
  rw [readNumeral_of_unsigned h detached]
  rfl

/-! ### Words -/

theorem split_of_readWord {value j : Json} {word s rest : List Char}
    (h : readWord value word s = .ok (j, rest)) : s = word ++ rest := by
  induction word generalizing s with
  | nil =>
      obtain ⟨-, rfl⟩ := Prod.mk.inj (Except.ok.inj h)
      rfl
  | cons w word ih =>
      cases s with
      | nil => exact absurd h stopAt_ne_ok
      | cons c s =>
          rw [readWord] at h
          split at h
          next same => rw [ih h, same, List.cons_append]
          · exact absurd h stopAt_ne_ok

theorem readWord_append (value : Json) (word rest : List Char) :
    readWord value word (word ++ rest) = .ok (value, rest) := by
  induction word with
  | nil => rfl
  | cons w word ih => rw [List.cons_append, readWord, if_pos rfl, ih]

/-! ### Values without parts -/

/-- Blanks in front of a value make no difference. -/
theorem readValueWith_of_blanks {s t : List Char} (blanks : Blanks s t)
    (levels : Option (Reader Json)) : readValueWith levels s = readValueWith levels t := by
  unfold readValueWith
  rw [blanks.skipBlanks_eq]

/-- What is read as a value is spelled as one without parts, or has been read as an array or an
object behind its opening mark. -/
theorem plain_or_parts_of_readValueWith {levels : Option (Reader Json)} {s rest : List Char}
    {j : Json} (h : readValueWith levels s = .ok (j, rest)) :
    ∃ first, Blanks s first ∧ (Plain first j rest ∨ ∃ item, levels = some item ∧
      ((∃ t, first = '[' :: t ∧ readArray item t = .ok (j, rest)) ∨
        ∃ t, first = '\x7b' :: t ∧ readObject item t = .ok (j, rest))) := by
  refine ⟨skipBlanks s, Blanks.skipBlanks s, ?_⟩
  unfold readValueWith at h
  split at h
  · exact absurd h stopAt_ne_ok
  next t front =>
    rw [front, split_of_readWord h, eq_of_readWord h]
    exact .inl (.null rest)
  next t front =>
    rw [front, split_of_readWord h, eq_of_readWord h]
    exact .inl (.true_ rest)
  next t front =>
    rw [front, split_of_readWord h, eq_of_readWord h]
    exact .inl (.false_ rest)
  next t front =>
    obtain ⟨⟨text, t'⟩, read, h⟩ := read_of_bind h
    obtain ⟨rfl, rfl⟩ := Prod.mk.inj (Except.ok.inj h)
    obtain ⟨content, spelled, rfl⟩ := content_of_readText read
    rw [front]
    exact .inl (.string spelled)
  next t front =>
    obtain ⟨numeral, n, spelled, value, rfl⟩ := unsigned_of_readNumber h
    rw [front]
    exact .inl (.negative spelled value)
  next t front =>
    split at h
    next item => exact .inr ⟨item, rfl, .inl ⟨t, front, h⟩⟩
    · exact absurd h stopAt_ne_ok
  next t front =>
    split at h
    next item => exact .inr ⟨item, rfl, .inr ⟨t, front, h⟩⟩
    · exact absurd h stopAt_ne_ok
  next c t _ _ _ _ _ _ _ front =>
    split at h
    · obtain ⟨numeral, n, spelled, value, rfl⟩ := unsigned_of_readNumber h
      rw [front]
      exact .inl (.natural spelled value)
    · exact absurd h stopAt_ne_ok

/-- What is spelled as a value without parts is read as it. -/
theorem readValueWith_of_plain {first rest : List Char} {j : Json} (h : Plain first j rest)
    (detached : Detached rest) (levels : Option (Reader Json)) :
    readValueWith levels first = .ok (j, rest) := by
  cases h with
  | null => exact readWord_append .null "ull".toList rest
  | true_ => exact readWord_append (.bool true) "rue".toList rest
  | false_ => exact readWord_append (.bool false) "alse".toList rest
  | string content =>
      rw [readValueWith_quote, readText_of_content content]
      rfl
  | natural spelled value =>
      obtain ⟨d, s', rfl, hd⟩ := spelled.cons.1
      rw [readValueWith_digit levels hd, readNumber_of_unsigned spelled detached, value]
  | negative spelled value =>
      have read := readNumber_of_unsigned spelled detached
      rw [value] at read
      exact read

/-! ### Arrays and objects -/

/-- A reader of values accepts a spelling, with blanks in front of it, and nothing else. -/
structure Reads (item : Reader Json) (part : Spelling Json) : Prop where
  sound : ∀ {s j rest}, item s = .ok (j, rest) → ∃ first, Blanks s first ∧ part first j rest
  complete : ∀ {s first j rest}, Blanks s first → part first j rest → Detached rest →
    item s = .ok (j, rest)

/-- What follows a value ends it. -/
theorem detached_of_mark {s rest : List Char} {c : Char} (blanks : Blanks s (c :: rest))
    (mark : c = ',' ∨ c = ']' ∨ c = '\x7d') : Detached s := by
  refine detached_of_blanks blanks ?_
  rcases mark with rfl | rfl | rfl <;> exact detached_cons rest (by decide) (by decide) (by decide)

theorem Grammar.Array.cons {part : Spelling Json} {s rest : List Char} {es : List Json}
    (h : Array part s es rest) : ∃ t, s = '[' :: t := by
  cases h <;> exact ⟨_, rfl⟩

theorem Grammar.Object.cons {part : Spelling Json} {s rest : List Char} {ms : List Member}
    (h : Object part s ms rest) : ∃ t, s = '\x7b' :: t := by
  cases h <;> exact ⟨_, rfl⟩

theorem Grammar.Elements.of_blanks {part : Spelling Json} {s t rest : List Char} {es : List Json}
    (blanks : Blanks s t) (h : Elements part t es rest) : Elements part s es rest := by
  cases h with
  | last padded =>
      obtain ⟨first, last, before, spelled, after⟩ := padded
      exact .last ⟨first, last, blanks.trans before, spelled, after⟩
  | more padded others =>
      obtain ⟨first, last, before, spelled, after⟩ := padded
      exact .more ⟨first, last, blanks.trans before, spelled, after⟩ others

section Blanks

variable {part : Spelling Json} (firm : Firm part)

include firm

/-- Blanks in front of a value are skipped, and something that closes nothing is left. -/
theorem Grammar.Firm.padded_visible {s rest : List Char} {j : Json} (h : Padded part s j rest) :
    ∃ c t, skipBlanks s = c :: t ∧ c ≠ ']' ∧ Padded part (c :: t) j rest := by
  obtain ⟨first, last, before, spelled, after⟩ := h
  obtain ⟨c, t, rfl, visible, open_⟩ := firm.visible spelled
  exact ⟨c, t, before.skipBlanks_cons_eq visible, open_, _, last, .none _, spelled, after⟩

theorem Grammar.Firm.elements_visible {s rest : List Char} {es : List Json}
    (h : Elements part s es rest) :
    ∃ c t, skipBlanks s = c :: t ∧ c ≠ ']' ∧ Elements part (c :: t) es rest := by
  cases h with
  | last padded =>
      obtain ⟨c, t, front, open_, padded⟩ := firm.padded_visible padded
      exact ⟨c, t, front, open_, .last padded⟩
  | more padded others =>
      obtain ⟨c, t, front, open_, padded⟩ := firm.padded_visible padded
      exact ⟨c, t, front, open_, .more padded others⟩

end Blanks

/-- A key is read behind its opening quote, and its colon is left. -/
theorem Grammar.Key.readText {s rest : List Char} {key : String} (h : Key ('"' :: s) key rest) :
    ∃ s', Json.readText [] s = .ok (key, s') ∧ skipBlanks s' = ':' :: rest := by
  obtain ⟨first, content, last, before, spelled, rfl, after⟩ := h
  obtain rfl : s = first := by
    have same := before.skipBlanks_cons_eq (by decide)
    rw [skipBlanks_cons (by decide)] at same
    exact (List.cons.inj same).2
  exact ⟨last, readText_of_content spelled [], after.skipBlanks_cons_eq (by decide)⟩

theorem Grammar.Key.of_blanks {s t rest : List Char} {key : String} (blanks : Blanks s t)
    (h : Key t key rest) : Key s key rest := by
  obtain ⟨first, content, last, before, spelled⟩ := h
  exact ⟨first, content, last, blanks.trans before, spelled⟩

/-- Behind its blanks, a key starts with a quote. -/
theorem Grammar.Key.quote {s rest : List Char} {key : String} (h : Key s key rest) :
    ∃ t, skipBlanks s = '"' :: t ∧ Key ('"' :: t) key rest := by
  obtain ⟨first, content, last, before, spelled⟩ := h
  exact ⟨first, before.skipBlanks_cons_eq (by decide), first, content, last, .none _, spelled⟩

/-- What is read behind a quote is a text. -/
theorem Grammar.Plain.of_readText {s rest : List Char} {t : String}
    (h : Json.readText [] s = .ok (t, rest)) : Plain ('"' :: s) (.str t) rest := by
  obtain ⟨content, spelled, rfl⟩ := content_of_readText h
  exact .string spelled

/-- What is read behind a quote, with a colon after it, is a key. -/
theorem Grammar.Key.of_readText {s rest : List Char} {key : String}
    (h : Json.readText [] s = .ok (key, ':' :: rest)) : Key ('"' :: s) key rest := by
  obtain ⟨content, spelled, rfl⟩ := content_of_readText h
  exact ⟨s, content, ':' :: rest, .none _, spelled, rfl, .none _⟩

section Members

variable {item : Reader Json} {s s' : List Char} {key : String} (h : Key ('"' :: s) key s')
  (steps : Nat) (read : List Member)

include h

/-- Behind a member and a comma, the next member is read. -/
theorem Grammar.Key.readMembers_more {v : Json} {last t u : List Char}
    (value : item s' = .ok (v, last)) (comma : skipBlanks last = ',' :: t)
    (quote : skipBlanks t = '"' :: u) :
    readMembers item (steps + 1) read s = readMembers item steps ((key, v) :: read) u := by
  obtain ⟨s₁, name, colon⟩ := h.readText
  rw [readMembers, name]
  dsimp only [bind, Except.bind]
  rw [colon]
  simp only [value]
  rw [comma]
  simp only [quote]

/-- A value that is refused is the end of the members. -/
theorem Grammar.Key.readMembers_stop {stop : Stop} (refused : item s' = .error stop) :
    readMembers item (steps + 1) read s = .error stop := by
  obtain ⟨s₁, name, colon⟩ := h.readText
  rw [readMembers, name]
  dsimp only [bind, Except.bind]
  rw [colon]
  simp only [refused]

end Members

theorem Grammar.Members.of_blanks {part : Spelling Json} {s t rest : List Char}
    {ms : List Member} (blanks : Blanks s t) (h : Members part t ms rest) :
    Members part s ms rest := by
  cases h with
  | last key padded => exact .last (key.of_blanks blanks) padded
  | more key padded others => exact .more (key.of_blanks blanks) padded others

theorem Grammar.Members.quote {part : Spelling Json} {s rest : List Char} {ms : List Member}
    (h : Members part s ms rest) :
    ∃ t, skipBlanks s = '"' :: t ∧ Members part ('"' :: t) ms rest := by
  cases h with
  | last key padded =>
      obtain ⟨t, front, key⟩ := key.quote
      exact ⟨t, front, .last key padded⟩
  | more key padded others =>
      obtain ⟨t, front, key⟩ := key.quote
      exact ⟨t, front, .more key padded others⟩

namespace Reads

variable {item : Reader Json} {part : Spelling Json} (reads : Reads item part)

include reads

theorem padded {s s' rest : List Char} {j : Json} (h : item s = .ok (j, s'))
    (after : skipBlanks s' = rest) : Padded part s j rest := by
  obtain ⟨first, before, spelled⟩ := reads.sound h
  exact ⟨first, s', before, spelled, Blanks.of_skipBlanks after⟩

theorem of_padded {s rest : List Char} {j : Json} {c : Char} (h : Padded part s j (c :: rest))
    (mark : c = ',' ∨ c = ']' ∨ c = '\x7d') :
    ∃ s', item s = .ok (j, s') ∧ skipBlanks s' = c :: rest := by
  obtain ⟨first, last, before, spelled, after⟩ := h
  have visible : isBlank c = false := by rcases mark with rfl | rfl | rfl <;> decide
  exact ⟨last, reads.complete before spelled (detached_of_mark after mark),
    after.skipBlanks_cons_eq visible⟩

theorem elements_of_readElements {steps : Nat} {read es : List Json} {s rest : List Char}
    (h : readElements item steps read s = .ok (es, rest)) :
    ∃ es', es = read.reverse ++ es' ∧ Elements part s es' rest := by
  induction steps generalizing read s with
  | zero => exact absurd h stopAt_ne_ok
  | succ steps ih =>
      rw [readElements] at h
      obtain ⟨⟨e, s'⟩, value, h⟩ := read_of_bind h
      dsimp only at h
      split at h
      · exact absurd h stopAt_ne_ok
      next t after =>
        obtain ⟨rfl, rfl⟩ := Prod.mk.inj (Except.ok.inj h)
        exact ⟨[e], by simp, .last (reads.padded value after)⟩
      next t after =>
        split at h
        · exact absurd h stopAt_ne_ok
        · obtain ⟨es', rfl, others⟩ := ih h
          exact ⟨e :: es', by simp, .more (reads.padded value after)
            (others.of_blanks (Blanks.skipBlanks t))⟩
      · exact absurd h stopAt_ne_ok

theorem readElements_of_elements (firm : Firm part) {s rest : List Char} {es : List Json}
    (h : Elements part s es rest) {steps : Nat} (enough : es.length ≤ steps) (read : List Json) :
    readElements item steps read s = .ok (read.reverse ++ es, rest) := by
  induction steps generalizing s es read with
  | zero => cases h <;> exact absurd enough (by simp)
  | succ steps ih =>
      cases h with
      | last padded =>
          obtain ⟨s', value, after⟩ := reads.of_padded padded (.inr (.inl rfl))
          rw [readElements, value]
          dsimp only [bind, Except.bind]
          rw [after]
          simp [pure, Except.pure]
      | @more _ s' _ e es padded others =>
          obtain ⟨s'', value, after⟩ := reads.of_padded padded (.inl rfl)
          obtain ⟨c, t, front, open_, others⟩ := firm.elements_visible others
          have tail := ih others (Nat.le_of_succ_le_succ enough) (e :: read)
          rw [readElements_comma value after front open_, tail]
          simp

theorem array_of_readArray {s rest : List Char} {j : Json} (h : readArray item s = .ok (j, rest)) :
    ∃ es, j = .arr es ∧ Array part ('[' :: s) es rest := by
  unfold readArray at h
  split at h
  · exact absurd h stopAt_ne_ok
  next t front =>
    obtain ⟨rfl, rfl⟩ := Prod.mk.inj (Except.ok.inj h)
    exact ⟨[], rfl, .empty (Blanks.of_skipBlanks front)⟩
  · obtain ⟨⟨es, s'⟩, read, h⟩ := read_of_bind h
    obtain ⟨rfl, rfl⟩ := Prod.mk.inj (Except.ok.inj h)
    obtain ⟨es, rfl, elements⟩ := reads.elements_of_readElements read
    exact ⟨es, rfl, .elements (elements.of_blanks (Blanks.skipBlanks s))⟩

theorem readArray_of_array (firm : Firm part) {s rest : List Char} {es : List Json}
    (h : Array part ('[' :: s) es rest) : readArray item s = .ok (.arr es, rest) := by
  unfold readArray
  cases h with
  | empty blanks =>
      rw [blanks.skipBlanks_cons_eq (by decide)]
      rfl
  | elements elements =>
      obtain ⟨c, t, front, open_, elements⟩ := firm.elements_visible elements
      have enough : es.length ≤ (c :: t).length := by
        have shorter := firm.elements_shorter elements
        omega
      rw [front]
      split
      next none_ => exact absurd none_ (List.cons_ne_nil _ _)
      next same => exact absurd (List.cons.inj same).1 open_
      next =>
        rw [reads.readElements_of_elements firm elements enough []]
        rfl

/-- Behind the opening quote of a key, a colon and a value follow. -/
theorem members_of_readMembers {steps : Nat} {read ms : List Member} {s rest : List Char}
    (h : readMembers item steps read s = .ok (ms, rest)) :
    ∃ ms', ms = read.reverse ++ ms' ∧ Members part ('"' :: s) ms' rest := by
  induction steps generalizing read s with
  | zero => exact absurd h stopAt_ne_ok
  | succ steps ih =>
      rw [readMembers] at h
      obtain ⟨⟨k, s₁⟩, name, h⟩ := read_of_bind h
      obtain ⟨content, spelled, rfl⟩ := content_of_readText name
      dsimp only at h
      split at h
      · exact absurd h stopAt_ne_ok
      next s₂ colon =>
        have key : Key ('"' :: s) (String.ofList ([].reverse ++ content)) s₂ :=
          ⟨s, content, s₁, .none _, spelled, rfl, Blanks.of_skipBlanks colon⟩
        obtain ⟨⟨v, s₃⟩, value, h⟩ := read_of_bind h
        dsimp only at h
        split at h
        · exact absurd h stopAt_ne_ok
        next t after =>
          obtain ⟨rfl, rfl⟩ := Prod.mk.inj (Except.ok.inj h)
          exact ⟨[_], by simp, .last key (reads.padded value after)⟩
        next t after =>
          split at h
          · exact absurd h stopAt_ne_ok
          next u quote =>
            obtain ⟨ms', rfl, others⟩ := ih h
            exact ⟨_ :: ms', by simp, .more key (reads.padded value after)
              (others.of_blanks (Blanks.of_skipBlanks quote))⟩
          · exact absurd h stopAt_ne_ok
          · exact absurd h stopAt_ne_ok
        · exact absurd h stopAt_ne_ok
      · exact absurd h stopAt_ne_ok

theorem readMembers_of_members {s rest : List Char} {ms : List Member}
    (h : Members part ('"' :: s) ms rest) {steps : Nat} (enough : ms.length ≤ steps)
    (read : List Member) :
    readMembers item steps read s = .ok (read.reverse ++ ms, rest) := by
  induction steps generalizing s ms read with
  | zero => cases h <;> exact absurd enough (by simp)
  | succ steps ih =>
      cases h with
      | @last _ s' _ k v key padded =>
          obtain ⟨s'', value, after⟩ := reads.of_padded padded (.inr (.inr rfl))
          obtain ⟨s₁, name, colon⟩ := key.readText
          rw [readMembers, name]
          dsimp only [bind, Except.bind]
          rw [colon]
          simp only [value]
          rw [after]
          simp [pure, Except.pure]
      | @more _ s' s'' _ k v ms key padded others =>
          obtain ⟨s₃, value, comma⟩ := reads.of_padded padded (.inl rfl)
          obtain ⟨t, quote, others⟩ := others.quote
          have tail := ih others (Nat.le_of_succ_le_succ enough) ((k, v) :: read)
          rw [key.readMembers_more steps read value comma quote]
          simpa using tail

theorem object_of_readObject {s rest : List Char} {j : Json}
    (h : readObject item s = .ok (j, rest)) :
    ∃ ms, j = .obj (ofMembers ms) ∧ Object part ('\x7b' :: s) ms rest := by
  unfold readObject at h
  split at h
  · exact absurd h stopAt_ne_ok
  next t front =>
    obtain ⟨rfl, rfl⟩ := Prod.mk.inj (Except.ok.inj h)
    exact ⟨[], rfl, .empty (Blanks.of_skipBlanks front)⟩
  next t front =>
    obtain ⟨⟨ms, s'⟩, read, h⟩ := read_of_bind h
    obtain ⟨rfl, rfl⟩ := Prod.mk.inj (Except.ok.inj h)
    obtain ⟨ms, rfl, members⟩ := reads.members_of_readMembers read
    exact ⟨ms, rfl, .members (members.of_blanks (Blanks.of_skipBlanks front))⟩
  · exact absurd h stopAt_ne_ok

theorem readObject_of_object (firm : Firm part) {s rest : List Char} {ms : List Member}
    (h : Object part ('\x7b' :: s) ms rest) :
    readObject item s = .ok (.obj (ofMembers ms), rest) := by
  cases h with
  | empty blanks =>
      unfold readObject
      rw [blanks.skipBlanks_cons_eq (by decide)]
      rfl
  | members members =>
      obtain ⟨t, front, members⟩ := members.quote
      have enough : ms.length ≤ t.length + 1 := by
        have shorter := firm.members_shorter members
        rw [List.length_cons] at shorter
        omega
      have read := reads.readMembers_of_members members enough []
      unfold readObject
      rw [front]
      simp only [read]
      rfl

end Reads

/-- **A value is read exactly if it is spelled, at every depth of nesting.** -/
theorem reads_value (levels : Nat) : Reads (readValue levels) (Value levels) := by
  induction levels with
  | zero =>
      refine ⟨fun {s j rest} h => ?_, fun {s first j rest} before spelled detached => ?_⟩
      · obtain ⟨first, before, plain | ⟨_, none_, -⟩⟩ := plain_or_parts_of_readValueWith h
        · exact ⟨first, before, plain⟩
        · exact absurd none_ nofun
      · rw [readValue, readValueWith_of_blanks before]
        exact readValueWith_of_plain spelled detached none
  | succ levels reads =>
      refine ⟨fun {s j rest} h => ?_, fun {s first j rest} before spelled detached => ?_⟩
      · obtain ⟨first, before, plain | ⟨item, some, parts⟩⟩ := plain_or_parts_of_readValueWith h
        · exact ⟨first, before, .inl plain⟩
        · cases some
          refine ⟨first, before, .inr ?_⟩
          rcases parts with ⟨t, rfl, read⟩ | ⟨t, rfl, read⟩
          · obtain ⟨es, rfl, array⟩ := reads.array_of_readArray read
            exact .array array
          · obtain ⟨ms, rfl, object⟩ := reads.object_of_readObject read
            exact .object object
      · rw [readValue, readValueWith_of_blanks before]
        rcases spelled with plain | array | object
        · exact readValueWith_of_plain plain detached _
        next array =>
          obtain ⟨t, rfl⟩ := array.cons
          exact reads.readArray_of_array (Firm.value levels) array
        next object =>
          obtain ⟨t, rfl⟩ := object.cons
          exact reads.readObject_of_object (Firm.value levels) object

/-! ### Texts -/

theorem readDocument_eq_ok_iff {s : List Char} {j : Json} :
    readDocument s = .ok j ↔ Padded (Value maxDepth) s j [] := by
  constructor
  · intro h
    unfold readDocument at h
    obtain ⟨⟨j', s'⟩, value, h⟩ := read_of_bind h
    dsimp only at h
    split at h
    next none_ =>
      obtain rfl := Except.ok.inj h
      exact (reads_value maxDepth).padded value none_
    · exact absurd h (by simp [stopAt])
  · rintro ⟨first, last, before, spelled, after⟩
    have value := (reads_value maxDepth).complete before spelled (detached_of_blanks_nil after)
    have none_ : skipBlanks last = [] := after.skipBlanks_eq
    unfold readDocument
    rw [value]
    dsimp only [bind, Except.bind]
    rw [none_]
    rfl

/-- **A text is read as a value exactly if it spells it.** -/
theorem parse_eq_ok_iff {s : String} {j : Json} : parse s = .ok j ↔ Spells s j := by
  have document : readDocument s.toList = .ok j ↔ Spells s j := readDocument_eq_ok_iff
  rw [← document]
  unfold parse
  cases readDocument s.toList <;> simp

/-- **A text is read as an object exactly if it spells members that make it up.** -/
theorem parse_eq_obj_iff {s : String} {ms : List Member} :
    parse s = .ok (.obj ms) ↔ ∃ written, SpellsObject s written ∧ ms = ofMembers written := by
  rw [parse_eq_ok_iff]
  constructor
  · rintro ⟨first, last, before, plain | parts, after⟩
    · cases plain
    · cases parts with
      | object object => exact ⟨_, ⟨first, last, before, object, after⟩, rfl⟩
  · rintro ⟨written, ⟨first, last, before, object, after⟩, rfl⟩
    exact ⟨first, last, before, .inr (.object object), after⟩

/-! ### What is read keeps the order of keys -/

/-- What holds of all parts holds of all elements. -/
theorem Grammar.Elements.forall {part : Spelling Json} {P : Json → Prop}
    (each : ∀ s j rest, part s j rest → P j) {s rest : List Char} {es : List Json}
    (h : Elements part s es rest) : ∀ e ∈ es, P e := by
  induction h with
  | last padded =>
      obtain ⟨_, _, -, spelled, -⟩ := padded
      exact List.forall_mem_singleton.2 (each _ _ _ spelled)
  | more padded _ ih =>
      obtain ⟨_, _, -, spelled, -⟩ := padded
      exact List.forall_mem_cons.2 ⟨each _ _ _ spelled, ih⟩

/-- What holds of all parts holds of the values of all members. -/
theorem Grammar.Members.forall {part : Spelling Json} {P : Json → Prop}
    (each : ∀ s j rest, part s j rest → P j) {s rest : List Char} {ms : List Member}
    (h : Members part s ms rest) : ∀ m ∈ ms, P m.2 := by
  induction h with
  | last _ padded =>
      obtain ⟨_, _, -, spelled, -⟩ := padded
      exact List.forall_mem_singleton.2 (each _ _ _ spelled)
  | more _ padded _ ih =>
      obtain ⟨_, _, -, spelled, -⟩ := padded
      exact List.forall_mem_cons.2 ⟨each _ _ _ spelled, ih⟩

/-- A value with parts is in order if its parts are: its own members are put in order. -/
theorem Grammar.Compound.sorted {part : Spelling Json}
    (each : ∀ s j rest, part s j rest → j.Sorted) {s rest : List Char} {j : Json}
    (h : Compound part s j rest) : j.Sorted := by
  cases h with
  | array array =>
      rw [Sorted, sortedElements_iff]
      cases array with
      | empty => exact List.forall_mem_nil _
      | elements elements => exact elements.forall each
  | object object =>
      refine ⟨sortedKeys_ofMembers _, sortedMembers_iff.2 fun m hm => ?_⟩
      cases object with
      | empty => exact absurd hm List.not_mem_nil
      | members members => exact members.forall each m (mem_of_mem_ofMembers hm)

theorem Grammar.Value.sorted {levels : Nat} {s rest : List Char} {j : Json}
    (h : Value levels s j rest) : j.Sorted := by
  have plain : ∀ {s j rest}, Plain s j rest → j.Sorted := fun h => by
    cases h <;> trivial
  induction levels generalizing s j rest with
  | zero => exact plain h
  | succ levels ih => exact h.elim plain fun parts => parts.sorted fun _ _ _ => ih

/-- **Every object in what is read has its members in order, each key once.** -/
theorem sorted_of_parse {s : String} {j : Json} (h : parse s = .ok j) : j.Sorted := by
  obtain ⟨_, _, -, spelled, -⟩ := parse_eq_ok_iff.1 h
  exact spelled.sorted

end BridgeChannel.Json
