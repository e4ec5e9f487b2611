/-
**Texts that say the same in other words.**

A text writes a value down with the members of every object in some order, and with keys that may be
repeated.  Of all this the value keeps nothing but the last value of each key.  Two ways to write a
value down differ by a chain of small changes: two members with different keys change places, or a
member is put in, or left out, whose key comes again later.  Blanks and escapes are no part of what
is written down: the grammar forgets them.

Main definitions:

* `Grammar.Written` — values as they are written, so many levels deep;
* `Json.Writes` — a text writes a value down;
* `Json.Rearranged` — two ways to write the same value;
* `Json.settled` — a value with the members of every object put in order.

Main results:

* `spells_iff_writes` — what a text spells is what it writes down, with all members put in order;
* `rearranged_iff_settled` — **to put members in order forgets exactly the small changes**.
-/
import BridgeChannel.Proofs.Json.Reading

set_option autoImplicit false

namespace BridgeChannel.Json

/-! ### Values as they are written -/

namespace Grammar

/-- A value with parts, its members in the order in which they are written. -/
inductive WrittenParts (part : Spelling Json) : Spelling Json
  | array {s rest : List Char} {es : List Json} : Array part s es rest →
      WrittenParts part s (.arr es) rest
  | object {s rest : List Char} {ms : List Member} : Object part s ms rest →
      WrittenParts part s (.obj ms) rest

/-- A value as it is written, in which arrays and objects nest so many levels deep. -/
def Written : Nat → Spelling Json
  | 0 => Plain
  | levels + 1 => fun s j rest => Plain s j rest ∨ WrittenParts (Written levels) s j rest

end Grammar

/-- A text writes a value down: the members of every object stand in their order, with keys
repeated.  Arrays and objects nest at most 127 levels deep. -/
def Writes (text : String) (j : Json) : Prop :=
  Grammar.Padded (Grammar.Written 127) text.toList j []

/-- Two ways to write the same value. -/
inductive Rearranged : Json → Json → Prop
  | refl (j : Json) : Rearranged j j
  | symm {j j' : Json} : Rearranged j j' → Rearranged j' j
  | trans {j j' j'' : Json} : Rearranged j j' → Rearranged j' j'' → Rearranged j j''
  /-- Two members with different keys change places. -/
  | swap {before after : List Member} {k l : String} (v w : Json) : k ≠ l →
      Rearranged (.obj (before ++ (k, v) :: (l, w) :: after))
        (.obj (before ++ (l, w) :: (k, v) :: after))
  /-- Of a key that comes again later, any earlier value may be there or not. -/
  | repeated {before between after : List Member} (k : String) (earlier v : Json) :
      Rearranged (.obj (before ++ (k, earlier) :: (between ++ (k, v) :: after)))
        (.obj (before ++ (between ++ (k, v) :: after)))
  | element {before after : List Json} {e e' : Json} : Rearranged e e' →
      Rearranged (.arr (before ++ e :: after)) (.arr (before ++ e' :: after))
  | member {before after : List Member} {k : String} {v v' : Json} : Rearranged v v' →
      Rearranged (.obj (before ++ (k, v) :: after)) (.obj (before ++ (k, v') :: after))

mutual

/-- A value with the members of every object inside put in order. -/
def settled : Json → Json
  | .arr es => .arr (settledElements es)
  | .obj ms => .obj (ofMembers (settledMembers ms))
  | j => j

def settledElements : List Json → List Json
  | [] => []
  | e :: es => e.settled :: settledElements es

def settledMembers : List Member → List Member
  | [] => []
  | (k, v) :: ms => (k, v.settled) :: settledMembers ms

end

theorem settledElements_eq_map (es : List Json) : settledElements es = es.map settled := by
  induction es with
  | nil => rfl
  | cons e es ih => rw [settledElements, ih, List.map_cons]

theorem settledMembers_eq_map (ms : List Member) :
    settledMembers ms = ms.map fun m => (m.1, m.2.settled) := by
  induction ms with
  | nil => rfl
  | cons m ms ih => rw [settledMembers, ih, List.map_cons]

/-! ### What is spelled is what is written, in order -/

namespace Grammar

/-- What one spelling says, another one says under `f`. -/
def Maps (f : Json → Json) (part part' : Spelling Json) : Prop :=
  ∀ s j rest, part s j rest → part' s (f j) rest

/-- Whatever a spelling says comes by `f` from what another one says. -/
def Covers (f : Json → Json) (part part' : Spelling Json) : Prop :=
  ∀ s j rest, part' s j rest → ∃ w, part s w rest ∧ j = f w

section Parts

variable {part part' : Spelling Json} {f : Json → Json} {s rest : List Char}

/-- Elements whose spelling is known in another way are spelled in that way. -/
theorem Elements.map (maps : Maps f part part') {es : List Json}
    (h : Elements part s es rest) : Elements part' s (es.map f) rest := by
  induction h with
  | last padded =>
      obtain ⟨first, last, before, spelled, after⟩ := padded
      exact .last ⟨first, last, before, maps _ _ _ spelled, after⟩
  | more padded _ ih =>
      obtain ⟨first, last, before, spelled, after⟩ := padded
      exact .more ⟨first, last, before, maps _ _ _ spelled, after⟩ ih

theorem Members.map (maps : Maps f part part') {ms : List Member}
    (h : Members part s ms rest) : Members part' s (ms.map fun m => (m.1, f m.2)) rest := by
  induction h with
  | last key padded =>
      obtain ⟨first, last, before, spelled, after⟩ := padded
      exact .last key ⟨first, last, before, maps _ _ _ spelled, after⟩
  | more key padded _ ih =>
      obtain ⟨first, last, before, spelled, after⟩ := padded
      exact .more key ⟨first, last, before, maps _ _ _ spelled, after⟩ ih

theorem Array.map (maps : Maps f part part') {es : List Json}
    (h : Array part s es rest) : Array part' s (es.map f) rest := by
  cases h with
  | empty blanks => exact .empty blanks
  | elements elements => exact .elements (elements.map maps)

theorem Object.map (maps : Maps f part part') {ms : List Member}
    (h : Object part s ms rest) : Object part' s (ms.map fun m => (m.1, f m.2)) rest := by
  cases h with
  | empty blanks => exact .empty blanks
  | members members => exact .members (members.map maps)

/-- Elements that come from others by `f` are spelled where the others are. -/
theorem Elements.exists_map (covers : Covers f part part')
    {es : List Json} (h : Elements part' s es rest) :
    ∃ ws, Elements part s ws rest ∧ es = ws.map f := by
  induction h with
  | last padded =>
      obtain ⟨first, last, before, spelled, after⟩ := padded
      obtain ⟨w, written, rfl⟩ := covers _ _ _ spelled
      exact ⟨[w], .last ⟨first, last, before, written, after⟩, rfl⟩
  | more padded _ ih =>
      obtain ⟨first, last, before, spelled, after⟩ := padded
      obtain ⟨w, written, rfl⟩ := covers _ _ _ spelled
      obtain ⟨ws, others, rfl⟩ := ih
      exact ⟨w :: ws, .more ⟨first, last, before, written, after⟩ others, rfl⟩

theorem Members.exists_map (covers : Covers f part part')
    {ms : List Member} (h : Members part' s ms rest) :
    ∃ ws, Members part s ws rest ∧ ms = ws.map fun m => (m.1, f m.2) := by
  induction h with
  | @last _ _ _ k _ key padded =>
      obtain ⟨first, last, before, spelled, after⟩ := padded
      obtain ⟨w, written, rfl⟩ := covers _ _ _ spelled
      exact ⟨[(k, w)], .last key ⟨first, last, before, written, after⟩, rfl⟩
  | @more _ _ _ _ k _ _ key padded _ ih =>
      obtain ⟨first, last, before, spelled, after⟩ := padded
      obtain ⟨w, written, rfl⟩ := covers _ _ _ spelled
      obtain ⟨ws, others, rfl⟩ := ih
      exact ⟨(k, w) :: ws, .more key ⟨first, last, before, written, after⟩ others, rfl⟩

end Parts

/-- A value without parts has no members to be put in order. -/
theorem Plain.settled {s rest : List Char} {j : Json} (h : Plain s j rest) : j.settled = j := by
  cases h <;> rfl

theorem Written.value {levels : Nat} {s rest : List Char} {j : Json}
    (h : Written levels s j rest) : Value levels s j.settled rest := by
  induction levels generalizing s j rest with
  | zero =>
      have plain : Plain s j rest := h
      rw [plain.settled]
      exact plain
  | succ levels ih =>
      rcases h with plain | parts
      · rw [plain.settled]
        exact .inl plain
      · have maps : Maps Json.settled (Written levels) (Value levels) := fun _ _ _ => ih
        cases parts with
        | array array =>
            rw [Json.settled, settledElements_eq_map]
            exact .inr (.array (array.map maps))
        | object object =>
            rw [Json.settled, settledMembers_eq_map]
            exact .inr (.object (object.map maps))

theorem Value.exists_written {levels : Nat} {s rest : List Char} {j : Json}
    (h : Value levels s j rest) : ∃ w, Written levels s w rest ∧ j = w.settled := by
  induction levels generalizing s j rest with
  | zero =>
      have plain : Plain s j rest := h
      exact ⟨j, plain, plain.settled.symm⟩
  | succ levels ih =>
      rcases h with plain | parts
      · exact ⟨j, .inl plain, plain.settled.symm⟩
      · have covers : Covers Json.settled (Written levels) (Value levels) := fun _ _ _ => ih
        cases parts with
        | array array =>
            cases array with
            | empty blanks => exact ⟨.arr [], .inr (.array (.empty blanks)), rfl⟩
            | elements elements =>
                obtain ⟨ws, written, rfl⟩ := elements.exists_map covers
                refine ⟨.arr ws, .inr (.array (.elements written)), ?_⟩
                rw [Json.settled, settledElements_eq_map]
        | object object =>
            cases object with
            | empty blanks => exact ⟨.obj [], .inr (.object (.empty blanks)), rfl⟩
            | members members =>
                obtain ⟨ws, written, rfl⟩ := members.exists_map covers
                refine ⟨.obj ws, .inr (.object (.members written)), ?_⟩
                rw [Json.settled, settledMembers_eq_map]

end Grammar

/-- **What a text spells is what it writes down, with all members put in order.** -/
theorem spells_iff_writes {text : String} {j : Json} :
    Spells text j ↔ ∃ w, Writes text w ∧ j = w.settled := by
  constructor
  · rintro ⟨first, last, before, spelled, after⟩
    obtain ⟨w, written, rfl⟩ := spelled.exists_written
    exact ⟨w, ⟨first, last, before, written, after⟩, rfl⟩
  · rintro ⟨w, ⟨first, last, before, written, after⟩, rfl⟩
    exact ⟨first, last, before, written.value, after⟩

/-! ### Small changes are forgotten -/

/-- Members in order are the same if the last values of all keys are. -/
theorem ofMembers_congr {ms ns : List Member}
    (same : ∀ key, find? key ms.reverse = find? key ns.reverse) : ofMembers ms = ofMembers ns := by
  refine sortedKeys_ext (sortedKeys_ofMembers ms) (sortedKeys_ofMembers ns) fun key => ?_
  rw [find?_ofMembers, find?_ofMembers, same]

theorem settledMembers_append (ms ns : List Member) :
    settledMembers (ms ++ ns) = settledMembers ms ++ settledMembers ns := by
  simp only [settledMembers_eq_map, List.map_append]

/-- The members of an object are looked for from the last to the first. -/
theorem find?_reverse_append_cons (key : String) (before after : List Member) (k : String)
    (v : Json) :
    find? key (before ++ (k, v) :: after).reverse =
      (find? key after.reverse).or (if k = key then some v else find? key before.reverse) := by
  rw [List.reverse_append, List.reverse_cons, List.append_assoc, find?_append]
  rfl

theorem settled_swap (before after : List Member) {k l : String} (v w : Json) (different : k ≠ l) :
    (Json.obj (before ++ (k, v) :: (l, w) :: after)).settled =
      (Json.obj (before ++ (l, w) :: (k, v) :: after)).settled := by
  rw [settled, settled]
  refine congrArg Json.obj (ofMembers_congr fun key => ?_)
  have split : ∀ m n : Member, before ++ m :: n :: after = (before ++ [m]) ++ n :: after := by
    simp
  rw [split, split]
  simp only [settledMembers_append, settledMembers, find?_reverse_append_cons]
  by_cases first : k = key
  · subst first
    have other : ¬l = k := fun same => different same.symm
    simp [other]
  · by_cases second : l = key <;> simp [first, second]

/-- An earlier value of a key that comes again is forgotten. -/
theorem settled_repeated (before between after : List Member) (k : String) (earlier v : Json) :
    (Json.obj (before ++ (k, earlier) :: (between ++ (k, v) :: after))).settled =
      (Json.obj (before ++ (between ++ (k, v) :: after))).settled := by
  rw [settled, settled]
  refine congrArg Json.obj (ofMembers_congr fun key => ?_)
  rw [← List.append_assoc before between]
  simp only [settledMembers_append, settledMembers, find?_reverse_append_cons]
  by_cases same : k = key
  · simp [same]
  · rw [List.reverse_append, find?_append]
    simp [same, Option.or_assoc]

/-- Values that differ by small changes are the same once their members are in order. -/
theorem settled_of_rearranged {j j' : Json} (h : Rearranged j j') : j.settled = j'.settled := by
  induction h with
  | refl => rfl
  | symm _ ih => exact ih.symm
  | trans _ _ ih ih' => exact ih.trans ih'
  | swap v w different => exact settled_swap _ _ v w different
  | repeated k earlier v => exact settled_repeated _ _ _ k earlier v
  | element _ ih =>
      rw [settled, settled]
      simp only [settledElements_eq_map, List.map_append, List.map_cons, ih]
  | member _ ih =>
      rw [settled, settled]
      simp only [settledMembers_eq_map, List.map_append, List.map_cons, ih]

/-! ### Members are put in order by small changes -/

namespace Rearranged

/-- A member goes past members with other keys. -/
theorem pass (before after : List Member) {ms : List Member} {k : String} (v : Json)
    (others : ∀ m ∈ ms, m.1 ≠ k) :
    Rearranged (.obj (before ++ (ms ++ (k, v) :: after)))
      (.obj (before ++ (k, v) :: (ms ++ after))) := by
  induction ms generalizing before with
  | nil => exact .refl _
  | cons m ms ih =>
      obtain ⟨l, w⟩ := m
      obtain ⟨other, others⟩ := List.forall_mem_cons.1 others
      have later := ih (before ++ [(l, w)]) others
      simp only [List.append_assoc, List.singleton_append] at later
      exact later.trans (.swap w v other)

/-- A member goes to its place among members in order. -/
theorem insert (before after : List Member) {sorted : List Member} (h : SortedKeys sorted)
    (k : String) (v : Json) :
    Rearranged (.obj (before ++ (sorted ++ (k, v) :: after)))
      (.obj (before ++ (Json.insert k v sorted ++ after))) := by
  induction sorted generalizing before with
  | nil => exact .refl _
  | cons m ms ih =>
      obtain ⟨l, w⟩ := m
      -- no key behind `l` is as low as `l` is
      have higher : ∀ m ∈ ms, l < m.1 := fun m hm => h.lt (List.mem_map_of_mem hm)
      unfold Json.insert
      split
      next lower =>
        refine pass before after v (List.forall_mem_cons.2 ⟨?_, fun m hm => ?_⟩)
        · exact fun same => String.lt_irrefl _ (same ▸ lower)
        · exact fun same => String.lt_irrefl _ (String.lt_trans (same ▸ higher m hm) lower)
      next =>
        split
        next same =>
          subst same
          have others : ∀ m ∈ ms, m.1 ≠ k := fun m hm same =>
            String.lt_irrefl _ (same ▸ higher m hm)
          have dropped : Rearranged (.obj (before ++ (k, w) :: (ms ++ (k, v) :: after)))
              (.obj (before ++ (ms ++ (k, v) :: after))) := repeated k w v
          exact dropped.trans (pass before after v others)
        next =>
          have later := ih (before ++ [(l, w)]) h.tail
          simp only [List.append_assoc, List.singleton_append] at later
          exact later

/-- The members of an object are put in order one by one. -/
theorem ofMembers (ms : List Member) : Rearranged (.obj ms) (.obj (Json.ofMembers ms)) := by
  have gathered : ∀ sorted, SortedKeys sorted → Rearranged (.obj (sorted ++ ms))
      (.obj (ms.foldl (fun sorted m => Json.insert m.1 m.2 sorted) sorted)) := by
    induction ms with
    | nil =>
        intro sorted _
        rw [List.append_nil]
        exact .refl _
    | cons m ms ih =>
        intro sorted h
        obtain ⟨k, v⟩ := m
        exact (insert [] ms h k v).trans (ih _ (sortedKeys_insert h k v))
  exact gathered [] List.Pairwise.nil

mutual

/-- Every value is put in order by small changes, from the inside to the outside. -/
theorem settled : (j : Json) → Rearranged j j.settled
  | .arr es => settledElements [] es
  | .obj ms => (settledMembers [] ms).trans (ofMembers _)
  | .null => .refl _
  | .bool _ => .refl _
  | .num _ => .refl _
  | .str _ => .refl _

theorem settledElements (before : List Json) : (es : List Json) →
    Rearranged (.arr (before ++ es)) (.arr (before ++ Json.settledElements es))
  | [] => .refl _
  | e :: es => by
      have first : Rearranged (.arr (before ++ e :: es)) (.arr (before ++ e.settled :: es)) :=
        .element (settled e)
      have others := settledElements (before ++ [e.settled]) es
      simp only [List.append_assoc, List.singleton_append] at others
      exact first.trans others

theorem settledMembers (before : List Member) : (ms : List Member) →
    Rearranged (.obj (before ++ ms)) (.obj (before ++ Json.settledMembers ms))
  | [] => .refl _
  | (k, v) :: ms => by
      have first : Rearranged (.obj (before ++ (k, v) :: ms))
          (.obj (before ++ (k, v.settled) :: ms)) := .member (settled v)
      have others := settledMembers (before ++ [(k, v.settled)]) ms
      simp only [List.append_assoc, List.singleton_append] at others
      exact first.trans others

end

end Rearranged

/-- **To put members in order forgets exactly the small changes**: two ways to write a value differ
by them if and only if they are the same once all members are in order. -/
theorem rearranged_iff_settled {j j' : Json} : Rearranged j j' ↔ j.settled = j'.settled := by
  refine ⟨settled_of_rearranged, fun same => ?_⟩
  have first := Rearranged.settled j
  rw [same] at first
  exact first.trans (Rearranged.settled j').symm

end BridgeChannel.Json
