/-
**What a frame means does not depend on how it is written.**

A frame may have blanks between its parts, its members in any order at every level, values that are
repeated later, and escapes in place of characters, also in the name of its class.  None of this
makes a difference to the answer, be it a message or a fault: which field is at fault follows from
the keys, not from their places in the text.

Main result: `decode_of_rearranged` — **two texts that write the same value are read alike**.
-/
import BridgeChannel.Proofs.Json.Respelling
import BridgeChannel.Proofs.Message.Grammar
import Mathlib

set_option autoImplicit false

namespace BridgeChannel.Message

open Json (Writes Rearranged)

/-- A text that writes a value down is read as that value, with all members in order. -/
theorem parse_of_writes {frame : String} {j : Json} (h : Writes frame j) :
    Json.parse frame = .ok j.settled :=
  Json.parse_eq_ok_iff.2 (Json.spells_iff_writes.2 ⟨j, h, rfl⟩)

/-- **Two texts that write the same value are read alike**: both as the same message, or both with
the same fault, and no answer tells of a place in the text. -/
theorem decode_of_rearranged {frame frame' : String} {j j' : Json} (h : Writes frame j)
    (h' : Writes frame' j') (same : Rearranged j j') :
    decode frame = decode frame' ∧ ∀ e, decode frame ≠ .error (.notJson e) := by
  have parsed := parse_of_writes h
  have parsed' := parse_of_writes h'
  rw [← Json.settled_of_rearranged same] at parsed'
  constructor
  · rw [decode, decode, parsed, parsed']
  · intro e failed
    have spelled := Json.spells_iff_writes.2 ⟨j, h, rfl⟩
    exact decode_eq_notJson_iff.1 ⟨e, failed⟩ ⟨_, spelled⟩

/-- What is read behind the opening quote of the first key is spelled. -/
theorem spellsObject_of_readMembers {s : String} {steps : Nat} {ms : List Json.Member}
    (read : Json.readMembers (Json.readValue 126) steps [] s.toList = .ok (ms, [])) :
    Json.SpellsObject ("\x7b\"" ++ s) ms := by
  obtain ⟨ms', same, members⟩ := (Json.reads_value 126).members_of_readMembers read
  rw [List.reverse_nil, List.nil_append] at same
  subst same
  refine ⟨_, [], .none _, ?_, .none []⟩
  rw [String.toList_append]
  exact .members members

/-- Blanks, another order of members, values that come again at two levels, and escapes in the name
of the class and in texts, one of them a pair of surrogates. -/
theorem decode_of_rearranged_endpoint :
    let plain := "\x7b\"from\":\"a\",\"x\":\x7b\"k\":1,\"l\":[\"😀\"]\x7d," ++
      "\"colibriClass\":\"EndpointMessage\"\x7d"
    let other := "\x7b\"" ++ ("\\u0063olibriClass\":\"EndpointMessage\",\"from\" : null," ++
      "\"x\":\x7b\"l\":[ \"\\uD83D\\uDE00\" ],\"k\":0, \"k\":1 \x7d ," ++
      "\n\"from\":\"\\u0061\"\x7d")
    (∃ j j', Writes plain j ∧ Writes other j' ∧ Rearranged j j') ∧
      decode plain = decode other := by
  have plain : Json.parse ("\x7b\"from\":\"a\",\"x\":\x7b\"k\":1,\"l\":[\"😀\"]\x7d," ++
      "\"colibriClass\":\"EndpointMessage\"\x7d") =
        .ok (.obj [("colibriClass", .str "EndpointMessage"), ("from", .str "a"),
          ("x", .obj [("k", .num (.integer 1 (by decide))), ("l", .arr [.str "😀"])])]) := by cbv
  have read : Json.readMembers (Json.readValue 126) 4 []
      ("\\u0063olibriClass\":\"EndpointMessage\",\"from\" : null," ++
      "\"x\":\x7b\"l\":[ \"\\uD83D\\uDE00\" ],\"k\":0, \"k\":1 \x7d ," ++
      "\n\"from\":\"\\u0061\"\x7d").toList =
          .ok ([("colibriClass", .str "EndpointMessage"), ("from", .null),
            ("x", .obj [("k", .num (.integer 1 (by decide))), ("l", .arr [.str "😀"])]),
            ("from", .str "a")], []) := by cbv
  have other := Json.parse_eq_obj_iff.2 ⟨_, spellsObject_of_readMembers read, rfl⟩
  have sorted : Json.ofMembers [("colibriClass", .str "EndpointMessage"), ("from", .null),
      ("x", .obj [("k", .num (.integer 1 (by decide))), ("l", .arr [.str "😀"])]),
      ("from", .str "a")] = [("colibriClass", .str "EndpointMessage"), ("from", .str "a"),
        ("x", .obj [("k", .num (.integer 1 (by decide))), ("l", .arr [.str "😀"])])] := by cbv
  rw [sorted] at other
  -- both are the same once their members are in order, so that small changes lead from one to the
  -- other
  obtain ⟨j, writes, settled⟩ := Json.spells_iff_writes.1 (Json.parse_eq_ok_iff.1 plain)
  obtain ⟨j', writes', settled'⟩ := Json.spells_iff_writes.1 (Json.parse_eq_ok_iff.1 other)
  have same : Rearranged j j' := Json.rearranged_iff_settled.2 (settled.symm.trans settled')
  exact ⟨⟨j, j', writes, writes', same⟩, (decode_of_rearranged writes writes' same).1⟩

end BridgeChannel.Message
