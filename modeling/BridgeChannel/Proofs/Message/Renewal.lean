/-
**What was received can be said again.**

A frame that was read as a message of a known class, and as one without doubles, can be written, and
what is written is read as the same message: the class and the addresses have been taken off a
payload, null has been read as absent, the objects that are passed on are in order, and they nest
less deep than the frame did.  So reading and writing a frame once gives a text that stays as it is.

Of an endpoint message nothing is lost.  Its new frame stands for the object that the old one stood
for, in which the last value of a repeated key counts, but for addresses that were null: they are
left out.

Main definitions:

* `Message.renew` — a frame that was read, written again;
* `Message.isVoid` — an address that is null.

Main results:

* `passedOn_of_describes` — what a message passes on was a value of its body;
* `sorted_of_decode` — **a message that was read keeps the order of keys**;
* `ofMembers_endpoint` — the members of an endpoint message are those that its frame had;
* `renew_of_decode` — **reading, writing and reading again loses nothing**.
-/
import Mathlib
import BridgeChannel.Proofs.Message.Grammar

set_option autoImplicit false

namespace BridgeChannel

open Json (Member SpellsObject find?)

/-- In members whose keys are in order, what is found among some of them is what is found among all,
if it is one of those. -/
theorem Json.find?_filter {ms : List Member} (sorted : Json.SortedKeys ms) (p : Member → Bool)
    (key : String) :
    find? key (ms.filter p) = (find? key ms).filter fun value => p (key, value) := by
  induction ms with
  | nil => rfl
  | cons m ms ih =>
      obtain ⟨k, v⟩ := m
      have rest := ih sorted.tail
      rw [List.filter_cons]
      by_cases same : k = key
      · subst same
        rw [find?_cons_self, Option.filter_some]
        split
        · exact find?_cons_self k v _
        · -- the key does not occur again
          rw [rest, sorted.find?_tail]
          rfl
      · rw [find?_cons_of_ne same]
        split
        · rw [find?_cons_of_ne same, rest]
        · exact rest

/-- Members in order stay so when some are left out. -/
theorem Json.SortedKeys.filter {ms : List Member} (sorted : Json.SortedKeys ms)
    (p : Member → Bool) : Json.SortedKeys (ms.filter p) :=
  List.Pairwise.sublist (List.filter_sublist.map _) sorted

/-- Whether a value is null. -/
def Json.isNull : Json → Bool
  | .null => true
  | _ => false

namespace Message

/-- The text of the message that a frame is read as. -/
def renew (frame : String) : Except FrameError String := (decode frame).bind encode

/-- Whether a member is an address that is null. -/
def isVoid (m : Member) : Bool := (m.1 == "from" || m.1 == "to") && m.2.isNull

/-! ### What a message passes on -/

/-- **What a message passes on was a value of its body**, or is the object without members that
stands for defaults that were absent. -/
theorem passedOn_of_describes {body : List Member} {c : MessageClass} {m : Message}
    (h : Describes body c m) : ∀ j ∈ m.passedOn, j = .obj [] ∨ ∃ f ∈ body, f.2 = j := by
  intro j passed
  cases h with
  | endpointMessage =>
      obtain ⟨f, rest, rfl⟩ := List.mem_map.1 passed
      exact .inr ⟨f, Json.mem_of_mem_without (Json.mem_of_mem_without rest), rfl⟩
  | constrained found =>
      obtain rfl := List.mem_singleton.1 passed
      exact .inr ⟨_, Json.mem_of_find? found, rfl⟩
  | withoutDefaults => exact .inl (List.mem_singleton.1 passed)
  | withDefaults _ found =>
      obtain rfl := List.mem_singleton.1 passed
      exact .inr ⟨_, Json.mem_of_find? found, rfl⟩
  | _ => exact absurd passed List.not_mem_nil

/-- A message keeps the order of keys that its body has. -/
theorem sorted_of_describes {body : List Member} {c : MessageClass} {m : Message}
    (keys : Json.SortedKeys body) (values : ∀ f ∈ body, f.2.Sorted) (h : Describes body c m) :
    m.Sorted := by
  refine ⟨?_, fun j passed => ?_⟩
  · rintro e rfl
    cases h with
    | endpointMessage =>
        exact Json.sortedKeys_without (Json.sortedKeys_without keys _) _
  · obtain rfl | ⟨f, there, rfl⟩ := passedOn_of_describes h j passed
    · exact ⟨List.Pairwise.nil, trivial⟩
    · exact values f there

/-- **A message of a known class that was read from some frame keeps the order of keys.** -/
theorem sorted_of_decode {frame : String} {m : Message} {c : MessageClass}
    (h : decode frame = .ok m) (known : m.class? = some c) : m.Sorted := by
  obtain ⟨written, spelled, -, rules⟩ := decode_eq_known_iff.1 ⟨h, known⟩
  obtain ⟨keys, values⟩ : (Json.obj (Json.ofMembers written)).Sorted :=
    Json.sorted_of_parse (Json.parse_eq_obj_iff.2 ⟨written, spelled, rfl⟩)
  exact sorted_of_describes (Json.sortedKeys_without keys _)
    (fun f hf => Json.sortedMembers_iff.1 values f (Json.mem_of_mem_without hf)) rules

/-! ### The object of an endpoint message -/

/-- An address is written if it was there and not null. -/
theorem find?_address {key : String} {body : List Member} {address : Option String}
    (h : Field.TextOrNothing key body address) :
    address.map Json.str = (find? key body).filter fun value => !value.isNull := by
  cases h with
  | absent none_ => rw [none_]; rfl
  | null there => rw [there]; rfl
  | text there => rw [there]; rfl

/-- **The members of an endpoint message are those that its frame had**, but for addresses that were
null. -/
theorem ofMembers_endpoint {written : List Member} {sender recipient : Option String} {name : Json}
    (named : find? discriminator written.reverse = some name)
    (from_ : Field.TextOrNothing "from" (body written) sender)
    (to_ : Field.TextOrNothing "to" (body written) recipient) :
    Json.ofMembers ((discriminator, name) :: (member? "from" (sender.map .str) ++
        member? "to" (recipient.map .str) ++
        Json.without "to" (Json.without "from" (body written)))) =
      (Json.ofMembers written).filter fun m => !isVoid m := by
  have sorted := Json.sortedKeys_ofMembers written
  have payload : Json.SortedKeys (Json.without "to" (Json.without "from" (body written))) :=
    Json.sortedKeys_without (Json.sortedKeys_without (Json.sortedKeys_without sorted _) _) _
  refine Json.sortedKeys_ext (Json.sortedKeys_ofMembers _) (sorted.filter _) fun key => ?_
  rw [Json.find?_filter sorted, Json.find?_ofMembers, List.reverse_cons, List.reverse_append,
    List.reverse_append, Json.find?_append, Json.find?_append, Json.find?_append,
    Json.find?_reverse payload, Json.find?_without, Json.find?_without, body, Json.find?_without]
  have apart : discriminator ≠ "from" ∧ discriminator ≠ "to" := by decide
  -- there are four kinds of keys
  by_cases recipient_ : key = "to"
  · subst recipient_
    have there := find?_address to_
    rw [body, Json.find?_without, if_neg apart.2.symm] at there
    rw [if_pos rfl, find?_member?, find?_member?_of_ne (by decide), Json.find?_cons_of_ne apart.2,
      there]
    simp [isVoid, Json.find?]
  · by_cases sender_ : key = "from"
    · subst sender_
      have there := find?_address from_
      rw [body, Json.find?_without, if_neg apart.1.symm] at there
      rw [if_neg recipient_, if_pos rfl, find?_member?, find?_member?_of_ne (by decide),
        Json.find?_cons_of_ne apart.1, there]
      simp [isVoid, Json.find?]
    · have stays : (find? key (Json.ofMembers written)).filter (fun value => !isVoid (key, value)) =
          find? key (Json.ofMembers written) := by
        cases find? key (Json.ofMembers written) <;> simp [isVoid, recipient_, sender_]
      have recipient' : "to" ≠ key := fun h => recipient_ h.symm
      have sender' : "from" ≠ key := fun h => sender_ h.symm
      rw [if_neg recipient_, if_neg sender_, find?_member?_of_ne recipient',
        find?_member?_of_ne sender', stays]
      by_cases class_ : key = discriminator
      · subst class_
        rw [if_pos rfl, Json.find?_cons_self, find?_discriminator, named]
        rfl
      · have class' : discriminator ≠ key := fun h => class_ h.symm
        rw [if_neg class_, Json.find?_cons_of_ne class']
        simp [Json.find?]

/-! ### Saying again what was received -/

/-- What is written is read as the members in order. -/
theorem parse_of_encode {m : Message} {frame : String} {ms : List Member}
    (encoded : m.encode = .ok frame) (written : m.members? = some ms) (exact : m.Exact)
    (sorted : m.Sorted) (depth : (Json.obj ms).depth ≤ Json.maxDepth) :
    Json.parse frame = .ok (.obj (Json.ofMembers ms)) := by
  rw [encode, written] at encoded
  obtain rfl := Except.ok.inj encoded
  exact Json.parse_text_obj (exactMembers_of_members? written exact)
    (sortedMembers_of_members? written sorted) depth

/-- **Saying again what was received loses nothing.**  A frame that is read as a message of a known
class, without doubles, is written again, and what is written is read as that message: it stays as
it is when it is read and written once more.  The new frame of an endpoint message stands for the
object that the old one stood for, but for addresses that are null, which are left out. -/
theorem renew_of_decode {frame : String} {m : Message} (h : decode frame = .ok m)
    (known : ∀ name body, m ≠ .unknown name body) (exact : m.Exact) :
    ∃ renewed, m.encode = .ok renewed ∧ decode renewed = .ok m ∧ renew frame = .ok renewed ∧
      renew renewed = .ok renewed ∧
      ∀ e, m = .endpointMessage e → ∃ written, SpellsObject frame written ∧
        Json.parse frame = .ok (.obj (Json.ofMembers written)) ∧
        Json.parse renewed =
          .ok (.obj ((Json.ofMembers written).filter fun member => !isVoid member)) := by
  obtain ⟨c, class_⟩ : ∃ c, m.class? = some c := by
    cases m with
    | unknown name body => exact absurd rfl (known name body)
    | _ => exact ⟨_, rfl⟩
  have sorted := sorted_of_decode h class_
  obtain ⟨unreserved, constrained, depth⟩ := sound_of_decode h
  obtain ⟨renewed, encoded, decoded⟩ := (decode_encode_iff m exact sorted).2
    ⟨known, fun e endpoint => by subst endpoint; exact unreserved, constrained, depth⟩
  have renew_ : ∀ text, decode text = .ok m → renew text = .ok renewed := fun text read => by
    rw [renew, read]
    exact encoded
  refine ⟨renewed, encoded, decoded, renew_ frame h, renew_ renewed decoded, ?_⟩
  rintro e rfl
  obtain ⟨written, spelled, named, rules⟩ := decode_eq_known_iff.1 ⟨h, class_⟩
  have parsed : Json.parse frame = .ok (.obj (Json.ofMembers written)) :=
    Json.parse_eq_obj_iff.2 ⟨written, spelled, rfl⟩
  refine ⟨written, spelled, parsed, ?_⟩
  obtain rfl : c = .endpointMessage := (Option.some.inj class_).symm
  rw [parse_of_encode encoded rfl exact sorted (depth _ rfl)]
  cases rules with
  | endpointMessage from_ to_ => rw [← ofMembers_endpoint named from_ to_]; rfl

/-- A frame with blanks, with a repeated key, with its class in the midst and with a sender that is
null is said again without blanks, the class in front, each key once and no sender. -/
theorem renew_of_decode_endpoint :
    let frame := "\x7b \"x\": 1, \"from\":null, \"colibriClass\":\"EndpointMessage\", " ++
      "\"x\":\"\\u0041\", \"to\":\"b\" \x7d"
    let renewed := "\x7b\"colibriClass\":\"EndpointMessage\",\"to\":\"b\",\"x\":\"A\"\x7d"
    let m : Message := .endpointMessage ⟨none, some "b", [("x", .str "A")]⟩
    (decode frame = .ok m ∧ (∀ name body, m ≠ .unknown name body) ∧ m.Exact) ∧
      renew frame = .ok renewed ∧ decode renewed = .ok m ∧
      ∃ written, SpellsObject frame written ∧
        Json.parse frame = .ok (.obj (Json.ofMembers written)) ∧
        Json.parse renewed =
          .ok (.obj ((Json.ofMembers written).filter fun member => !isVoid member)) := by
  have decoded : decode ("\x7b \"x\": 1, \"from\":null, \"colibriClass\":\"EndpointMessage\", " ++
      "\"x\":\"\\u0041\", \"to\":\"b\" \x7d") =
        .ok (.endpointMessage ⟨none, some "b", [("x", .str "A")]⟩) := by cbv
  have written : encode (.endpointMessage ⟨none, some "b", [("x", .str "A")]⟩) =
      .ok "\x7b\"colibriClass\":\"EndpointMessage\",\"to\":\"b\",\"x\":\"A\"\x7d" := by cbv
  intro frame renewed m
  have exact : m.Exact := by
    simp [m, Exact, passedOn, Json.Exact]
  obtain ⟨text, encoded, again, renewing, -, same⟩ :=
    renew_of_decode decoded (fun name body => by simp) exact
  obtain rfl : text = renewed := Except.ok.inj (encoded.symm.trans written)
  exact ⟨⟨decoded, fun name body => by simp [m], exact⟩, renewing, again, same _ rfl⟩

end Message

end BridgeChannel
