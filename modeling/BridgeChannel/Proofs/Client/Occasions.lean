/-
**The occasions on which a handler is called over WebSocket.**

A run is looked at as its occasions: a transport opens a connection and hands over its session, or
the reader of a connection takes an item of its stream.

The handler of a connection is called with its session first, then with what the reader reports, and
with the close last of all, which has the status of the last close frame.  An observer that is
registered once is told one piece of news on an occasion at most, which is the news in that call.

Main definitions:

* `Signal.InOrder` — the calls of one handler, in order;
* `WebSocket.Reader.HasRead` — how far a reader is with the items that it took;
* `Occasion`, `Scene.Lawful` — a transport may call its handler;
* `Linked`, `Scene.Tracks` — how far connections are, given what was called and what was read.

Main results:

* `HasRead.closed`, `HasRead.outcome` — a reader reports the close last, with the status of the last
  close frame;
* `Lawful.brings`, `Lawful.tracks` — **what one occasion does**;
* `Lawful.outcome` — the status that a connection closes with.
-/
import BridgeChannel.Proofs.Client.Answering
import BridgeChannel.Proofs.Client.Traffic
import BridgeChannel.Proofs.WebSocket.Reading

set_option autoImplicit false

namespace BridgeChannel

/-! ### Signals of one connection -/

/-- The signals of a connection, out of a list of calls. -/
def signalsOf (n : Nat) (calls : List (Nat × Signal)) : List Signal :=
  (calls.filter fun call => call.1 == n).map Prod.snd

theorem signalsOf_append (n : Nat) (before after : List (Nat × Signal)) :
    signalsOf n (before ++ after) = signalsOf n before ++ signalsOf n after := by
  simp [signalsOf]

theorem signalsOf_map (m n : Nat) (signals : List Signal) :
    signalsOf n (signals.map (Prod.mk m)) = if m = n then signals else [] := by
  by_cases same : m = n <;> simp [signalsOf, List.filter_map, Function.comp_def, same]

/-- What there is no more of for any connection, there is no more of on the whole. -/
theorem countP_le_of_signalsOf {p q : Signal → Bool} {calls : List (Nat × Signal)}
    (few : ∀ n, (signalsOf n calls).countP p ≤ (signalsOf n calls).countP q) :
    calls.countP (p ∘ Prod.snd) ≤ calls.countP (q ∘ Prod.snd) := by
  induction length : calls.length using Nat.strongRecOn generalizing calls with
  | ind k ih =>
      cases calls with
      | nil => exact Nat.le_refl _
      | cons call rest =>
          -- the signals of one connection, and those of all others
          generalize others : ((call :: rest).filter fun c => !(c.1 == call.1)) = remaining
          have split : ∀ p : Signal → Bool, (call :: rest).countP (p ∘ Prod.snd) =
              (signalsOf call.1 (call :: rest)).countP p + remaining.countP (p ∘ Prod.snd) := by
            intro p
            rw [List.countP_eq_countP_filter_add _ _ fun c => c.1 == call.1, others, signalsOf,
              List.countP_map]
          have shorter : remaining.length < k := by
            have fewer := rest.length_filter_le fun c => !(c.1 == call.1)
            rw [List.filter_cons_of_neg (by simp)] at others
            rw [← length, List.length_cons, ← others]
            omega
          rw [split p, split q]
          refine Nat.add_le_add (few call.1) (ih _ shorter (fun m => ?_) rfl)
          by_cases same : m = call.1
          · have none_ : signalsOf m remaining = [] := by
              simp [signalsOf, ← others, List.filter_filter, same]
            simp [none_]
          · have same : signalsOf m remaining = signalsOf m (call :: rest) := by
              rw [signalsOf, ← others, List.filter_filter]
              refine congrArg _ (List.filter_congr fun c _ => ?_)
              by_cases h : c.1 = m <;> simp [h, same]
            rw [same]
            exact few m

/-- What a handler is called with is in order: at most once with a session, and before any message;
and at most once with a close, after which it is not called any more. -/
structure Signal.InOrder (signals : List Signal) : Prop where
  opened : signals.count .opened ≤ 1
  first : ∀ before frame after, signals = before ++ .message frame :: after → .opened ∈ before
  closed : signals.countP Signal.closes ≤ 1
  last : ∀ before code reason after, signals = before ++ .closed code reason :: after → after = []

/-- Only the last of some signals may be a close. -/
def Signal.EndsClosed (signals : List Signal) : Prop :=
  ∃ middle last, signals = middle ++ last ∧ (∀ signal ∈ middle, signal.closes = false) ∧
    last.length ≤ 1

/-- Only a close makes for news of a close. -/
theorem Signal.eq_closed_of_news {state : ConnectionState} {signal : Signal} {code : UInt16}
    {reason : String} (h : signal.news state = some (.disconnected code reason)) :
    signal = .closed code reason := by
  cases signal with
  | opened => exact absurd h (by simp [news])
  | failed e => exact absurd h (by simp [news])
  | closed code' reason' =>
      obtain ⟨rfl, rfl⟩ : code' = code ∧ reason' = reason := by simpa [news] using h
      rfl
  | message frame =>
      simp only [news] at h
      split at h
      next m _ => cases m <;> simp [Message.news] at h
      · exact absurd h (by simp)

/-- Nothing is in order. -/
theorem Signal.inOrder_nil : Signal.InOrder [] where
  opened := by simp
  first _ _ _ h := absurd h (by simp)
  closed := by simp
  last _ _ _ _ h := absurd h (by simp)

/-- What a reader reports is in order once a session has been handed over. -/
theorem Signal.inOrder_opened {signals : List Signal} (unopened : .opened ∉ signals)
    (ends : EndsClosed signals) : Signal.InOrder (.opened :: signals) where
  opened := by simp [List.count_eq_zero.2 unopened]
  first before frame after h := by
    cases before with
    | nil => exact absurd (List.cons.inj h).1 (by simp)
    | cons first before =>
        obtain ⟨rfl, -⟩ := List.cons.inj h
        exact List.mem_cons_self
  closed := by
    obtain ⟨middle, last, rfl, unclosed, few⟩ := ends
    have none_ : middle.countP closes = 0 :=
      List.countP_eq_zero.2 fun signal h => by simp [unclosed signal h]
    have other : closes .opened = false := rfl
    rw [List.countP_cons_of_neg (by simp [other]), List.countP_append, none_, Nat.zero_add]
    exact Nat.le_trans List.countP_le_length few
  last before code reason after h := by
    obtain ⟨middle, last, rfl, unclosed, few⟩ := ends
    -- the close is not in front, so that it is what is left
    have whole : (.opened :: middle) ++ last = before ++ .closed code reason :: after := h
    rcases List.append_eq_append_iff.1 whole with ⟨between, -, rfl⟩ | ⟨between, front, later⟩
    · simp only [List.length_append, List.length_cons] at few
      exact List.length_eq_zero_iff.1 (by omega)
    · cases between with
      | nil =>
          obtain rfl : .closed code reason :: after = last := later
          exact List.length_eq_zero_iff.1 (by simpa using few)
      | cons first between =>
          obtain ⟨rfl, -⟩ := List.cons.inj later
          have inside : .closed code reason ∈ (.opened :: middle : List Signal) := by simp [front]
          rcases List.mem_cons.1 inside with same | inside
          · exact absurd same (by simp)
          · exact absurd (unclosed _ inside) (by simp [closes])

namespace WebSocket.Reader

/-! ### What a reader has read -/

/-- The reader of a connection has taken some items, and has called its handler with some signals.
Whether the handler exists can be told for each item. -/
inductive HasRead : List (Option StreamItem) → List Signal → Reader → Prop
  | start : HasRead [] [] {}
  | item {items : List (Option StreamItem)} {signals : List Signal} {r : Reader}
      (earlier : HasRead items signals r) (alive : Bool) (item : Option StreamItem) :
      HasRead (items ++ [item]) (signals ++ (r.advance alive item).2.toList)
        (r.advance alive item).1

namespace HasRead

variable {items : List (Option StreamItem)} {signals : List Signal} {r : Reader}

/-- A reader hands no session over. -/
theorem unopened (h : HasRead items signals r) : .opened ∉ signals := by
  induction h with
  | start => exact List.not_mem_nil
  | @item items signals r _ alive item ih =>
      intro opened
      rcases List.mem_append.1 opened with earlier | last
      · exact ih earlier
      · exact r.advance_ne_opened alive item (Option.mem_toList.1 last)

/-- **A reader reports a close last of all, and has finished then.** -/
theorem closed (h : HasRead items signals r) :
    (r.phase ≠ .finished → ∀ signal ∈ signals, signal.closes = false) ∧
      Signal.EndsClosed signals := by
  induction h with
  | start => exact ⟨fun _ signal h => absurd h List.not_mem_nil, [], [], rfl, by simp, by simp⟩
  | @item items signals r _ alive item ih =>
      obtain ⟨unclosed, ends⟩ := ih
      by_cases finished : r.phase = .finished
      · rw [advance_finished finished]
        exact ⟨fun lasts => absurd finished lasts, by simpa using ends⟩
      · have few : (r.advance alive item).2.toList.length ≤ 1 := by
          cases (r.advance alive item).2 <;> simp
        refine ⟨fun lasts signal h => ?_, signals, _, rfl, unclosed finished, few⟩
        rcases List.mem_append.1 h with earlier | last
        · exact unclosed finished signal earlier
        · cases signal with
          | closed code reason =>
              exact absurd (advance_closed (Option.mem_toList.1 last)).2.1 lasts
          | _ => rfl

/-- A reader that has not finished keeps the status of the last close frame. -/
theorem status (h : HasRead items signals r) (lasts : r.phase ≠ .finished) :
    r.status = lastStatus? items.reduceOption ∧
      (r.phase = .reading → error? items.reduceOption = none) := by
  induction h with
  | start => exact ⟨rfl, fun _ => rfl⟩
  | @item items signals r _ alive item ih =>
      obtain ⟨reading, taken⟩ := advance_lasting lasts
      obtain ⟨status, unbroken⟩ := ih (by simp [reading])
      rcases taken with ⟨frame, rfl, same⟩ | ⟨e, rfl, same⟩
      · rw [same, List.reduceOption_append, List.reduceOption_singleton, Option.toList_some,
          lastStatus?_concat_ok (unbroken reading), status]
        exact ⟨rfl, fun _ => (frames_concat_ok (unbroken reading) frame).2⟩
      · rw [same, List.reduceOption_append, List.reduceOption_singleton, Option.toList_some,
          lastStatus?, frames_concat_error]
        exact ⟨status, fun h => absurd h (by simp)⟩

/-- **What a reader reports as the close is that of the items that it took.** -/
theorem outcome (h : HasRead items signals r) {alive : Bool} {item : Option StreamItem}
    {code : UInt16} {reason : String}
    (closed : (r.advance alive item).2 = some (.closed code reason)) :
    closing items.reduceOption = ⟨code, reason⟩ := by
  obtain ⟨lasts, -, outcome⟩ := advance_closed closed
  rw [closing, ← (h.status lasts).1]
  exact outcome

end HasRead

end WebSocket.Reader

/-! ### Occasions -/

/-- An occasion on which the transport of a connection may call its handler, with the scenes before
and after it. -/
structure Occasion where
  before : Scene
  connection : Nat
  /-- The item that the reader of the connection takes.  There is none if the transport is being
  opened. -/
  item? : Option (Option WebSocket.StreamItem)
  after : Scene

namespace Occasion

/-- The calls of handlers on an occasion. -/
def callbacks (o : Occasion) : List (Nat × Signal) := o.before.callsSince o.after

/-- What the observer of a name is told on an occasion. -/
def told (name : String) (o : Occasion) : List Event := toldTo name (o.before.since o.after)

/-- The item that the reader of a connection takes on an occasion. -/
def itemOf? (n : Nat) (o : Occasion) : Option (Option WebSocket.StreamItem) :=
  if o.connection = n then o.item? else none

end Occasion

/-- The items that the reader of a connection took. -/
def itemsOf (n : Nat) (history : List Occasion) : List (Option WebSocket.StreamItem) :=
  history.filterMap (Occasion.itemOf? n)

/-- How far a connection is, given what its handler was called with and what its reader took: it is
not there yet, it could not be opened, or it was opened and is being read. -/
def Linked (signals : List Signal) (items : List (Option WebSocket.StreamItem)) :
    Option (Attempt × WebSocket.Reader) → Prop
  | none => signals = [] ∧ items = []
  | some (conduct, reader) =>
    if conduct.connectError.isSome then signals = []
    else ∃ rest, signals = .opened :: rest ∧ WebSocket.Reader.HasRead items rest reader

theorem Linked.inOrder {signals : List Signal} {items : List (Option WebSocket.StreamItem)}
    {wire : Option (Attempt × WebSocket.Reader)} (h : Linked signals items wire) :
    Signal.InOrder signals := by
  cases wire with
  | none =>
      obtain ⟨rfl, -⟩ := h
      exact Signal.inOrder_nil
  | some wire =>
      rw [Linked] at h
      split at h
      · exact h ▸ Signal.inOrder_nil
      · obtain ⟨rest, rfl, read⟩ := h
        exact Signal.inOrder_opened read.unopened read.closed.2

/-- A connection closes no more often than it was opened. -/
theorem Linked.closes_le {signals : List Signal} {items : List (Option WebSocket.StreamItem)}
    {wire : Option (Attempt × WebSocket.Reader)} (h : Linked signals items wire) :
    signals.countP Signal.closes ≤ signals.countP (· == .opened) := by
  have few := h.inOrder.closed
  cases signals with
  | nil => exact Nat.le_refl _
  | cons first rest =>
      have opened : first = .opened := by
        cases wire with
        | none => exact absurd h.1 (by simp)
        | some wire =>
            rw [Linked] at h
            split at h
            · exact absurd h (by simp)
            · obtain ⟨_, same, -⟩ := h
              exact (List.cons.inj same).1
      refine Nat.le_trans few ?_
      rw [opened, List.countP_cons_of_pos (by simp)]
      exact Nat.le_add_left 1 _

namespace Scene

/-- Every connection is as far as its calls tell, and some occasions. -/
def Tracks (past : List Occasion) (s : Scene) : Prop :=
  ∀ n, Linked (signalsOf n s.calls.reverse) (itemsOf n past) s.wires[n]?

/-- What may happen on an occasion: a transport is opened and hands its session over unless it
fails, or the reader of a connection takes an item.  Observers do nothing but answer, and the
observer of a name is registered once at most. -/
inductive Lawful (name : String) : Occasion → Prop
  | opens (s : Scene) {plan : Attempt} (wired : plan.announced = plan.connectError.isNone) :
      Lawful name ⟨s, s.network.length, none, s.answered plan quietly⟩
  | reads {s : Scene} (depth : Nat) {n : Nat} {c : Connection} (known : s.network[n]? = some c)
      (opened : c.conduct.connectError = none) (limited : s.roster.Limited name 1)
      (item : Option WebSocket.StreamItem) :
      Lawful name ⟨s, n, some item, s.read (react (perform depth)) n item⟩

/-! ### One occasion -/

/-- A session that is handed over is no news to anybody. -/
theorem relays_announce (name : String) (n : Nat) (s : Scene) :
    Relays name [] (s.called n .opened) (s.announce n) := by
  unfold announce
  dsimp only
  split
  · exact .refl _
  · split
    · exact .refl _
    · split
      · exact ((Relays.log _ _).before (.setSession _ _)).before (.move _ _)
      · exact .log _ _

/-- What comes of a transport that is opened: its connection is there, and its handler is called
with the session unless it fails. -/
structure Ushered (name : String) (plan : Attempt) (s t : Scene) : Prop extends Grows s t where
  called : s.callsSince t =
    (if plan.announced then [Signal.opened] else []).map (Prod.mk s.network.length)
  wires : t.wires = s.wires ++ [(plan, ({} : WebSocket.Reader))]
  told : toldTo name (s.since t) = []
  heeds : s.roster.Heeds name t.roster

theorem Ushered.after {name : String} {plan : Attempt} {s t u : Scene}
    (h : Ushered name plan s t) (h' : Relays name [] t u) : Ushered name plan s u where
  toGrows := h.toGrows.trans h'.toGrows
  called := by
    rw [callsSince_trans h.toGrows h'.toGrows, callsSince_eq_nil h'.uncalled, List.append_nil]
    exact h.called
  wires := h'.wires.trans h.wires
  told := by rw [since_trans h.toGrows h'.toGrows, toldTo_append, h.told, h'.told]; rfl
  heeds := h.heeds.trans h'.heeds

theorem wires_launched (plan : Attempt) (s : Scene) :
    (s.launched plan).wires = s.wires ++ [(plan, ({} : WebSocket.Reader))] := by
  refine List.ext_getElem? fun k => ?_
  rw [wires, List.getElem?_map]
  rcases Nat.lt_trichotomy k s.network.length with earlier | rfl | beyond
  · rw [getElem?_launched_of_lt earlier, List.getElem?_append_left (by rwa [length_wires]), wires,
      List.getElem?_map]
  · rw [getElem?_launched, ← length_wires]
    simp
  · rw [List.getElem?_eq_none (by rwa [length_launched]), List.getElem?_eq_none]
    · rfl
    · rwa [List.length_append, length_wires]

theorem ushered_answered (name : String) (plan : Attempt) (s : Scene) :
    Ushered name plan s (s.answered plan quietly) := by
  have launched : Grows s (s.launched plan) := respected_grows.launched plan s
  have created : s.since (s.launched plan) = [.created s.network.length] := since_of_account [_] rfl
  have wires := wires_launched plan s
  have roster : (s.launched plan).roster = s.roster := rfl
  have uncalled : (s.launched plan).calls = s.calls := rfl
  unfold answered openTransport quietly
  dsimp only
  generalize s.launched plan = t at launched created wires roster uncalled ⊢
  have asked : ∀ t : Scene, Relays name [] t ((t.note (.opened s.network.length
      t.client.config.address t.client.config.connectTimeout)).update s.network.length
        fun c => { c with isOpen := plan.sessionOpen }) := fun t =>
    (Relays.note rfl t).before (.update _ _ _ (fun _ => rfl) fun _ => rfl)
  cases announced : plan.announced with
  | false =>
      have base : Ushered name plan s t :=
        ⟨launched, by rw [announced]; exact callsSince_eq_nil uncalled, wires,
          by rw [created]; rfl, roster ▸ .refl _⟩
      exact base.after (asked t)
  | true =>
      have called : Grows t (t.called s.network.length .opened) := .called _ _ t
      have quiet : t.since (t.called s.network.length .opened) = [] := since_eq_nil rfl
      have base : Ushered name plan s (t.called s.network.length .opened) := by
        refine ⟨launched.trans called, ?_, wires, ?_, roster ▸ .refl _⟩
        · rw [announced]
          exact callsSince_of_calls [_] (congrArg (_ :: ·) uncalled)
        · rw [since_trans launched called, created, quiet]
          rfl
      have handed := relays_announce name s.network.length
        ((t.note (.opened s.network.length t.client.config.address
          t.client.config.connectTimeout)).update s.network.length
            fun c => { c with isOpen := plan.sessionOpen })
      -- whether the call comes before the note makes no difference
      rw [if_pos rfl]
      exact (base.after (asked _)).after handed

namespace Lawful

variable {name : String} {o : Occasion}

/-- **What happens on an occasion**: one handler is called at most, that of the connection, and the
observer is told the news in that call at most. -/
structure Brings (name : String) (o : Occasion) : Prop extends Grows o.before o.after where
  few : o.callbacks = [] ∨ ∃ signal, o.callbacks = [(o.connection, signal)]
  news : o.told name = [] ∨ ∃ signal state event, o.callbacks = [(o.connection, signal)] ∧
    signal.news state = some event ∧ o.told name = [event]

theorem brings (h : Lawful name o) : Brings name o := by
  cases h with
  | @opens s plan wired =>
      have ushered := ushered_answered name plan s
      refine ⟨ushered.toGrows, ?_, .inl ushered.told⟩
      rw [Occasion.callbacks, ushered.called]
      split
      · exact .inr ⟨_, rfl⟩
      · exact .inl rfl
  | @reads s depth n c known opened limited item =>
      have taken := taken_read depth known opened limited item
      refine ⟨taken.toGrows, ?_, ?_⟩
      · rw [Occasion.callbacks, taken.called]
        cases (c.reader.advance (s.isAlive n) item).2 with
        | none => exact .inl rfl
        | some signal => exact .inr ⟨signal, rfl⟩
      · refine taken.told.imp id ?_
        rintro ⟨signal, state, event, given, news, told⟩
        exact ⟨signal, state, event, by rw [Occasion.callbacks, taken.called, given]; rfl, news,
          told⟩

namespace Brings

/-- Nothing is told without a call. -/
theorem length_told (h : Brings name o) : (o.told name).length ≤ o.callbacks.length := by
  rcases h.news with untold | ⟨signal, state, event, called, -, told⟩
  · simp [untold]
  · simp [called, told]

theorem untold (h : Brings name o) (uncalled : o.callbacks = []) : o.told name = [] := by
  have none_ := h.length_told
  rw [uncalled] at none_
  exact List.length_eq_zero_iff.1 (Nat.le_zero.1 none_)

/-- News of a close is told in the call with that close. -/
theorem called_of_told (h : Brings name o) {code : UInt16} {reason : String}
    (told : .disconnected code reason ∈ o.told name) :
    o.callbacks = [(o.connection, .closed code reason)] := by
  rcases h.news with untold | ⟨signal, state, event, called, news, single⟩
  · exact absurd told (by simp [untold])
  · rw [single, List.mem_singleton] at told
    rw [← told] at news
    rw [called, Signal.eq_closed_of_news news]

/-- There is no more news of closes than there are closes. -/
theorem countP_told_le (h : Brings name o) :
    (o.told name).countP (fun event => event.kind == .disconnected) ≤
      o.callbacks.countP (fun call => call.2.closes) := by
  rcases h.news with untold | ⟨signal, state, event, called, news, told⟩
  · simp [untold]
  · rw [told, called]
    cases event with
    | disconnected code reason =>
        obtain rfl := Signal.eq_closed_of_news news
        exact Nat.le_refl 1
    | _ => exact Nat.zero_le _

end Brings

/-- On an occasion, no connection gets further but the one whose transport calls. -/
theorem tracks_of_here {past : List Occasion} (before : Tracks past o.before)
    (grows : Grows o.before o.after) {given : List Signal}
    (called : o.callbacks = given.map (Prod.mk o.connection))
    (elsewhere : ∀ n, n ≠ o.connection → o.after.wires[n]? = o.before.wires[n]?)
    (here : Linked (signalsOf o.connection o.before.calls.reverse ++ given)
      (itemsOf o.connection past ++ o.item?.toList) o.after.wires[o.connection]?) :
    Tracks (past ++ [o]) o.after := by
  intro n
  have calls : o.after.calls.reverse = o.before.calls.reverse ++ o.callbacks := by
    rw [calls_of_grows grows, List.reverse_append, List.reverse_reverse]
    rfl
  have items : itemsOf n (past ++ [o]) =
      itemsOf n past ++ if o.connection = n then o.item?.toList else [] := by
    rw [itemsOf, List.filterMap_append]
    by_cases same : o.connection = n <;> cases taken : o.item? <;>
      simp [itemsOf, Occasion.itemOf?, same, taken]
  rw [calls, signalsOf_append, called, signalsOf_map, items]
  by_cases same : o.connection = n
  · subst same
    rw [if_pos rfl, if_pos rfl]
    exact here
  · rw [if_neg same, if_neg same, List.append_nil, List.append_nil, elsewhere n (Ne.symm same)]
    exact before n

/-- **A connection gets further on an occasion**, and the others stay where they are. -/
theorem tracks (h : Lawful name o) {past : List Occasion} (before : Tracks past o.before) :
    Tracks (past ++ [o]) o.after := by
  have grows := h.brings.toGrows
  cases h with
  | @opens s plan wired =>
      have ushered := ushered_answered name plan s
      refine tracks_of_here before grows ushered.called (fun n other => ?_) ?_
      · rw [ushered.wires]
        rcases Nat.lt_or_gt_of_ne other with earlier | beyond
        · exact List.getElem?_append_left (by rwa [length_wires])
        · rw [List.getElem?_eq_none, List.getElem?_eq_none]
          · rw [length_wires]
            exact Nat.le_of_lt beyond
          · rw [List.length_append, length_wires]
            exact beyond
      · -- nothing was heard of the new connection before
        obtain ⟨unheard, untaken⟩ : signalsOf s.network.length s.calls.reverse = [] ∧
            itemsOf s.network.length past = [] := by
          have unopened := before s.network.length
          rw [← length_wires, List.getElem?_eq_none (Nat.le_refl _)] at unopened
          rw [← length_wires]
          exact unopened
        rw [unheard, untaken, ushered.wires, ← length_wires, List.getElem?_concat_length, Linked,
          wired]
        cases plan.connectError with
        | some e => rfl
        | none => exact ⟨[], rfl, .start⟩
  | @reads s depth n c known opened limited item =>
      have taken := taken_read depth known opened limited item
      refine tracks_of_here before grows taken.called (fun m other => ?_) ?_
      · rw [taken.wires, List.getElem?_set_ne (Ne.symm other)]
      · have here : s.wires[n]? = some (c.conduct, c.reader) := by simp [wires, known]
        have there : n < s.wires.length := (List.getElem?_eq_some_iff.1 here).1
        have before := before n
        rw [here, Linked, opened] at before
        obtain ⟨rest, heard, read⟩ := before
        rw [taken.wires, List.getElem?_set_self there, Linked, opened, heard]
        exact ⟨_, rfl, read.item (s.isAlive n) item⟩

/-- **A connection closes with the status of the last close frame that its reader took.** -/
theorem outcome (h : Lawful name o) {past : List Occasion} (before : Tracks past o.before)
    {code : UInt16} {reason : String} (closed : (o.connection, .closed code reason) ∈ o.callbacks) :
    WebSocket.closing (itemsOf o.connection past).reduceOption = ⟨code, reason⟩ := by
  cases h with
  | @opens s plan wired =>
      rw [Occasion.callbacks, (ushered_answered name plan s).called] at closed
      split at closed <;> exact absurd closed (by simp)
  | @reads s depth n c known opened limited item =>
      have here : s.wires[n]? = some (c.conduct, c.reader) := by simp [wires, known]
      have before := before n
      rw [here, Linked, opened] at before
      obtain ⟨rest, -, read⟩ := before
      rw [Occasion.callbacks, (taken_read depth known opened limited item).called] at closed
      exact read.outcome (by simpa using closed)

end Lawful

end Scene

end BridgeChannel
