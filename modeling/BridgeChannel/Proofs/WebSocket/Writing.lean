/-
**What is written, however the calls of a session overlap.**

A session is used from several sides at once: by those who send, by those who close it, by the
reader, which marks it, and by the writer.  A call looks at the mark, at the writer and at the queue
one after the other, and anything may happen between two of these looks: a session that was open
when a text was to be sent may be closed, and its close frame may be in the queue, by the time the
text is put there.

The calls of such a history are kept in the order in which they began, each with how far it has
got; what was put into the queue is kept too, with the call that put it there.

Main definitions:

* `Outgoing.frame` — what the other side reads;
* `Shared` — a session, the calls to it, and all that they queued;
* `Shared.Access`, `Shared.step`, `Shared.run` — histories, one access at a time;
* `Shared.accepted` — the texts that were queued, each with the call that sent it;
* `Shared.Fits` — how what is written, what is queued and what the calls returned fit together;
* `Shared.accesses` — the accesses of calls that do not overlap.

Main results:

* `Shared.steps_step` — what one access can do;
* `Shared.fits_run` — everything fits together after every history;
* `Shared.shut_run` — a session that is not open stays so, and refuses what begins from then on;
* `Shared.run_accesses` — calls that do not overlap are those of `Outbound.run`;
* `Shared.written_in_order` — **all of this, for every history**.
-/
import BridgeChannel.WebSocket.Outbound
import BridgeChannel.WebSocket.Frame
import Mathlib.Data.List.ReduceOption

set_option autoImplicit false

namespace BridgeChannel.WebSocket

/-- What the other side reads. -/
def Outgoing.frame : Outgoing → Frame
  | .text content => .text content
  | .close => .close (some .normal)

/-- The text, unless it is a close frame. -/
def Outgoing.content? : Outgoing → Option String
  | .text content => some content
  | .close => none

/-! ### The writer writes nothing behind a close frame -/

namespace Outbound

variable {o : Outbound}

/-- A close frame is the last thing that is written. -/
structure Straight (o : Outbound) : Prop where
  /-- Nothing is left to be written when the writer has ended. -/
  lost : o.isWriting = false → o.queue = []
  /-- The writer ends with a close frame. -/
  ended : o.isWriting = true → .close ∉ o.written
  /-- Nothing is written behind one. -/
  last : .close ∉ o.written.dropLast

theorem straight_mark (h : o.Straight) : o.mark.Straight := ⟨h.lost, h.ended, h.last⟩

theorem straight_enqueue (h : o.Straight) (m : Outgoing) : (o.enqueue m).1.Straight := by
  unfold enqueue
  split
  next writing =>
    exact ⟨fun ended => absurd (writing.symm.trans ended) (by decide), h.ended, h.last⟩
  · exact h

theorem straight_endWriting (h : .close ∉ o.written.dropLast) : o.endWriting.Straight :=
  ⟨fun _ => rfl, fun writing => absurd writing (by simp [endWriting]), h⟩

/-- The writer has something to write only while it writes. -/
theorem Straight.writing (h : o.Straight) (left : o.queue ≠ []) : o.isWriting = true := by
  cases writing : o.isWriting with
  | true => rfl
  | false => exact absurd (h.lost writing) left

theorem straight_write (h : o.Straight) (succeeds : Bool) : (o.write succeeds).Straight := by
  unfold write
  split
  · exact h
  next m rest queue =>
    have writing := h.writing (by rw [queue]; exact List.cons_ne_nil m rest)
    split
    · have last : .close ∉ (o.written ++ [m]).dropLast := by
        rw [List.dropLast_concat]
        exact h.ended writing
      dsimp only
      split
      · exact straight_endWriting last
      next text =>
        refine ⟨fun ended => absurd (writing.symm.trans ended) (by decide), fun _ => ?_, last⟩
        rw [List.mem_append, List.mem_singleton]
        rintro (early | rfl)
        · exact h.ended writing early
        · exact text rfl
    · exact straight_endWriting h.last

/-- What was written and is still to be written, when the writer has written something or failed:
nothing is lost while it goes on. -/
theorem write_moves (succeeds : Bool) (o : Outbound) :
    o.written <+: (o.write succeeds).written ∧
      (o.write succeeds).written <+: o.written ++ o.queue ∧
      ((o.write succeeds).isWriting = true → o.isWriting = true ∧
        (o.write succeeds).written ++ (o.write succeeds).queue = o.written ++ o.queue) := by
  unfold write
  split
  next queue => simp [queue]
  next m rest queue =>
    split
    · have moved : (o.written ++ [m]) ++ rest = o.written ++ o.queue := by simp [queue]
      dsimp only
      split
      · exact ⟨List.prefix_append _ _, ⟨rest, moved⟩, fun writing => absurd writing (by
          simp [endWriting])⟩
      · exact ⟨List.prefix_append _ _, ⟨rest, moved⟩, fun writing => ⟨writing, moved⟩⟩
    · exact ⟨List.prefix_rfl, List.prefix_append _ _, fun writing => absurd writing (by
        simp [endWriting])⟩

/-- A write that fails is the last one. -/
theorem isOpen_write_false (left : o.queue ≠ []) : (o.write false).isOpen = false := by
  unfold write
  split
  next queue => exact absurd queue left
  · exact isOpen_endWriting o

theorem isWriting_write {succeeds : Bool} (ended : o.isWriting = false) :
    (o.write succeeds).isWriting = false := by
  cases writing : (o.write succeeds).isWriting with
  | false => rfl
  | true => exact absurd (((write_moves succeeds o).2.2 writing).1.symm.trans ended) (by decide)

theorem isUnmarked_write (succeeds : Bool) (o : Outbound) :
    (o.write succeeds).isUnmarked = o.isUnmarked := by
  unfold write
  split
  · rfl
  · split
    · dsimp only
      split <;> rfl
    · rfl

end Outbound

/-! ### Calls that overlap -/

namespace Shared

/-- What somebody asks of a session. -/
inductive Request where
  | send (content : String)
  | close
  deriving DecidableEq, Repr

/-- What it is to put into the queue. -/
def Request.outgoing : Request → Outgoing
  | .send content => .text content
  | .close => .close

/-- A call to a session, as far as it has got. -/
inductive Call where
  /-- A send that found no mark has yet to see whether the writer goes on. -/
  | asking (content : String)
  /-- It is only left to put something into the queue. -/
  | queueing (r : Request)
  | settled (r : Request) (result : Except TransportError Unit)
  deriving DecidableEq

/-- What is asked by a call. -/
def Call.request : Call → Request
  | .asking content => .send content
  | .queueing r | .settled r _ => r

/-- Begins a call, by a look at the mark; who closes the session marks it with the same look. -/
def Request.begun (r : Request) (o : Outbound) : Outbound × Call :=
  match r with
  | .send content => (o, if o.isUnmarked then .asking content else .settled r (.error .closed))
  | .close => if o.isUnmarked then (o.mark, .queueing r) else (o, .settled r (.ok ()))

/-- Continues a call, by a look at the writer or by putting something into the queue. -/
def Call.resumed (c : Call) (o : Outbound) : Outbound × Call :=
  match c with
  | .asking content =>
    (o, if o.isWriting then .queueing (.send content)
      else .settled (.send content) (.error .closed))
  | .queueing r => ((o.enqueue r.outgoing).1, .settled r (o.enqueue r.outgoing).2)
  | .settled r result => (o, .settled r result)

/-- What a call puts into the queue when it goes on. -/
def Call.queues? (c : Call) (o : Outbound) : Option Outgoing :=
  match c with
  | .queueing r => if o.isWriting then some r.outgoing else none
  | .asking _ | .settled _ _ => none

end Shared

/-- A session that several sides use. -/
structure Shared where
  half : Outbound := {}
  /-- The calls, in the order in which they began. -/
  calls : List Shared.Call := []
  /-- What was put into the queue, each with the place of the call that did so. -/
  queued : List (Nat × Outgoing) := []
  deriving DecidableEq

namespace Shared

/-- One access to a session. -/
inductive Access where
  /-- A call begins. -/
  | call (r : Request)
  /-- A call goes on. -/
  | resume (k : Nat)
  /-- The reader marks the session as closed. -/
  | mark
  | write (succeeds : Bool)
  deriving DecidableEq, Repr

/-- What becomes of a session by one access. -/
def step (a : Access) (h : Shared) : Shared :=
  match a with
  | .call r => { h with half := (r.begun h.half).1, calls := h.calls ++ [(r.begun h.half).2] }
  | .resume k =>
    match h.calls[k]? with
    | none => h
    | some c =>
      { half := (c.resumed h.half).1
        calls := h.calls.set k (c.resumed h.half).2
        queued := h.queued ++ ((c.queues? h.half).map (k, ·)).toList }
  | .mark => { h with half := h.half.mark }
  | .write succeeds => { h with half := h.half.write succeeds }

/-- What becomes of a session by several accesses. -/
def run (accesses : List Access) (h : Shared) : Shared :=
  accesses.foldl (fun h a => h.step a) h

/-- The texts that were queued, in order, each with the place of the call that sent it. -/
def accepted (h : Shared) : List (Nat × String) :=
  h.queued.filterMap fun q => q.2.content?.map (q.1, ·)

/-- What one access can do. -/
inductive Steps (h : Shared) : Access → Shared → Prop where
  /-- There is no such call, or it is at its end. -/
  | idle {k} (settled : ∀ c, h.calls[k]? = some c → ∃ r result, c = .settled r result) :
      Steps h (.resume k) h
  /-- A send finds no mark. -/
  | asks {content} (unmarked : h.half.isUnmarked = true) :
      Steps h (.call (.send content)) { h with calls := h.calls ++ [.asking content] }
  /-- A send finds a mark. -/
  | turned {content} (marked : h.half.isUnmarked = false) :
      Steps h (.call (.send content))
        { h with calls := h.calls ++ [.settled (.send content) (.error .closed)] }
  /-- A close makes the mark. -/
  | closes (unmarked : h.half.isUnmarked = true) :
      Steps h (.call .close)
        { h with half := h.half.mark, calls := h.calls ++ [.queueing .close] }
  /-- A close finds a mark. -/
  | closed (marked : h.half.isUnmarked = false) :
      Steps h (.call .close) { h with calls := h.calls ++ [.settled .close (.ok ())] }
  /-- A send finds that the writer goes on. -/
  | proceeds {k content} (found : h.calls[k]? = some (.asking content))
      (writing : h.half.isWriting = true) :
      Steps h (.resume k) { h with calls := h.calls.set k (.queueing (.send content)) }
  /-- A call puts something into the queue. -/
  | queues {k r} (found : h.calls[k]? = some (.queueing r)) (writing : h.half.isWriting = true) :
      Steps h (.resume k)
        { half := { h.half with queue := h.half.queue ++ [r.outgoing] }
          calls := h.calls.set k (.settled r (.ok ()))
          queued := h.queued ++ [(k, r.outgoing)] }
  /-- A call finds that the writer has ended. -/
  | late {k c} (found : h.calls[k]? = some c) (pending : ∀ r result, c ≠ .settled r result)
      (ended : h.half.isWriting = false) :
      Steps h (.resume k)
        { h with calls := h.calls.set k (.settled c.request (.error .closed)) }
  | marks : Steps h .mark { h with half := h.half.mark }
  | writes {succeeds} : Steps h (.write succeeds) { h with half := h.half.write succeeds }

variable {h h' : Shared} {a : Access} {k : Nat}

theorem steps_resume (k : Nat) (h : Shared) : Steps h (.resume k) (h.step (.resume k)) := by
  cases found : h.calls[k]? with
  | none => simpa [step, found] using Steps.idle (h := h) (k := k) (by simp [found])
  | some c =>
      cases c with
      | settled r result =>
          have idle : Steps h (.resume k) h := .idle fun c there =>
            ⟨r, result, Option.some.inj (there.symm.trans found)⟩
          have same : h.calls.set k (.settled r result) = h.calls := by
            obtain ⟨within, there⟩ := List.getElem?_eq_some_iff.mp found
            rw [← there, List.set_getElem_self]
          simpa [step, found, Call.resumed, Call.queues?, same] using idle
      | asking content =>
          cases writing : h.half.isWriting with
          | true =>
              simpa [step, found, Call.resumed, Call.queues?, writing] using
                Steps.proceeds found writing
          | false =>
              simpa [step, found, Call.resumed, Call.queues?, Call.request, writing] using
                Steps.late found (by simp) writing
      | queueing r =>
          cases writing : h.half.isWriting with
          | true =>
              simpa [step, found, Call.resumed, Call.queues?, Outbound.enqueue, writing] using
                Steps.queues found writing
          | false =>
              simpa [step, found, Call.resumed, Call.queues?, Call.request, Outbound.enqueue,
                writing] using Steps.late found (by simp) writing

/-- **One access does one of these things.** -/
theorem steps_step (a : Access) (h : Shared) : Steps h a (h.step a) := by
  cases a with
  | resume k => exact steps_resume k h
  | mark => exact .marks
  | write succeeds => exact .writes
  | call r =>
      cases r with
      | send content =>
          cases mark : h.half.isUnmarked with
          | true => simpa [step, Request.begun, mark] using Steps.asks mark
          | false => simpa [step, Request.begun, mark] using Steps.turned mark
      | close =>
          cases mark : h.half.isUnmarked with
          | true => simpa [step, Request.begun, mark] using Steps.closes mark
          | false => simpa [step, Request.begun, mark] using Steps.closed mark

theorem run_append (before after : List Access) (h : Shared) :
    run (before ++ after) h = run after (run before h) := List.foldl_append

/-- What every access keeps, every history keeps. -/
theorem run_induction {motive : Shared → Prop} (accesses : List Access) (start : motive h)
    (each : ∀ a h, motive h → motive (h.step a)) : motive (run accesses h) := by
  induction accesses generalizing h with
  | nil => exact start
  | cons a rest ih => exact ih (each a h start)

/-! ### What is written was queued, in the same order -/

theorem mem_accepted {content : String} :
    (k, content) ∈ h.accepted ↔ (k, Outgoing.text content) ∈ h.queued := by
  simp only [accepted, List.mem_filterMap, Option.map_eq_some_iff, Prod.exists, Prod.mk.injEq]
  constructor
  · rintro ⟨j, m, mem, c, text, rfl, rfl⟩
    cases m with
    | text c' => cases text; exact mem
    | close => cases text
  · exact fun mem => ⟨k, .text content, mem, content, rfl, rfl, rfl⟩

theorem map_snd_accepted (h : Shared) :
    h.accepted.map Prod.snd = (h.queued.map Prod.snd).filterMap Outgoing.content? := by
  rw [accepted, List.map_filterMap, List.filterMap_map]
  congr 1
  funext ⟨k, m⟩
  cases m <;> rfl

/-- What was written is the beginning of what was queued, and what waits is the rest of it. -/
structure Ordered (h : Shared) : Prop where
  straight : h.half.Straight
  written : h.half.written <+: h.queued.map Prod.snd
  /-- Nothing is lost while the writer goes on. -/
  waiting : h.half.isWriting = true →
    h.half.written ++ h.half.queue = h.queued.map Prod.snd

theorem ordered_steps (ordered : h.Ordered) (steps : Steps h a h') : h'.Ordered := by
  obtain ⟨straight, written, waiting⟩ := ordered
  cases steps with
  | idle => exact ⟨straight, written, waiting⟩
  | asks | turned | closed | proceeds | late => exact ⟨straight, written, waiting⟩
  | closes | marks => exact ⟨Outbound.straight_mark straight, written, waiting⟩
  | @queues k r _ writing =>
      have enqueued := Outbound.straight_enqueue straight r.outgoing
      rw [Outbound.enqueue, if_pos writing] at enqueued
      refine ⟨enqueued, ?_, fun _ => ?_⟩
      · rw [List.map_append]
        exact written.trans (List.prefix_append _ _)
      · rw [List.map_append, ← waiting writing]
        exact (List.append_assoc _ _ _).symm
  | @writes succeeds =>
      obtain ⟨-, within, moved⟩ := Outbound.write_moves succeeds h.half
      refine ⟨Outbound.straight_write straight succeeds, ?_, fun writing => ?_⟩
      · cases writing : h.half.isWriting with
        | true => rwa [waiting writing] at within
        | false =>
            rw [straight.lost writing, List.append_nil] at within
            exact within.trans written
      · obtain ⟨before, same⟩ := moved writing
        rw [← waiting before]
        exact same

/-- What was queued stays so. -/
theorem queued_steps (steps : Steps h a h') : h.queued <+: h'.queued := by
  cases steps with
  | queues => exact List.prefix_append _ _
  | _ => exact List.prefix_rfl

theorem accepted_run (accesses : List Access) (h : Shared) :
    h.accepted <+: (run accesses h).accepted := by
  have queued : h.queued <+: (run accesses h).queued :=
    run_induction (motive := fun h' => h.queued <+: h'.queued) accesses List.prefix_rfl
      fun a h' earlier => earlier.trans (queued_steps (steps_step a h'))
  exact queued.filterMap _

/-- What is written is texts, in the order in which they were accepted, with at most a close frame
behind them. -/
theorem Ordered.frames (ordered : h.Ordered) :
    ∃ texts, texts <+: h.accepted.map Prod.snd ∧
      (h.half.written.map Outgoing.frame = texts.map Frame.text ∨
        h.half.written.map Outgoing.frame = texts.map Frame.text ++ [.close (some .normal)]) := by
  obtain ⟨straight, written, -⟩ := ordered
  have plain : ∀ sent : List Outgoing, .close ∉ sent →
      sent.map Outgoing.frame = (sent.filterMap Outgoing.content?).map Frame.text := by
    intro sent none_
    induction sent with
    | nil => rfl
    | cons m rest ih =>
        rw [List.mem_cons, not_or] at none_
        cases m with
        | text content => exact congrArg (Frame.text content :: ·) (ih none_.2)
        | close => exact absurd rfl none_.1
  refine ⟨h.half.written.filterMap Outgoing.content?, ?_, ?_⟩
  · rw [map_snd_accepted]
    exact written.filterMap _
  · obtain none_ | ⟨sent, m, concat⟩ := h.half.written.eq_nil_or_concat
    · exact .inl (by rw [none_]; rfl)
    · have last := straight.last
      rw [concat, List.concat_eq_append, List.dropLast_concat] at last
      rw [concat, List.concat_eq_append, List.map_append, List.filterMap_append, List.map_append,
        plain sent last]
      cases m with
      | text content => exact .inl rfl
      | close => exact .inr (by simp [Outgoing.frame, Outgoing.content?])

/-! ### A send returns without an error exactly when its text was queued -/

/-- Every call queues at most once, and every send that returned without an error did so. -/
structure Returned (h : Shared) : Prop where
  unique : (h.queued.map Prod.fst).Nodup
  queued : ∀ k m, (k, m) ∈ h.queued →
    ∃ r : Request, h.calls[k]? = some (.settled r (.ok ())) ∧ r.outgoing = m
  sent : ∀ k content, h.calls[k]? = some (.settled (.send content) (.ok ())) →
    (k, .text content) ∈ h.queued

/-- A call that begins leaves the others as they are. -/
theorem Returned.begun (returned : h.Returned) (o : Outbound) {c : Call}
    (unsent : ∀ content, c ≠ .settled (.send content) (.ok ())) :
    Returned { h with half := o, calls := h.calls ++ [c] } := by
  refine ⟨returned.unique, fun k m mem => ?_, fun k content settled => returned.sent k content ?_⟩
  · obtain ⟨r, settled, same⟩ := returned.queued k m mem
    have within := (List.getElem?_eq_some_iff.mp settled).1
    exact ⟨r, (List.getElem?_append_left within).trans settled, same⟩
  · rw [List.getElem?_append] at settled
    split at settled
    · exact settled
    · rw [List.getElem?_singleton] at settled
      split at settled
      · exact absurd (Option.some.inj settled) (unsent content)
      · cases settled

/-- A call that goes on has not queued anything before. -/
theorem Returned.fresh (returned : h.Returned) {c : Call} (found : h.calls[k]? = some c)
    (pending : ∀ r result, c ≠ .settled r result) (m : Outgoing) : (k, m) ∉ h.queued := by
  intro mem
  obtain ⟨r, settled, -⟩ := returned.queued k m mem
  exact pending r (.ok ()) (Option.some.inj (found.symm.trans settled))

/-- A call that goes on leaves the others as they are. -/
theorem Returned.set (returned : h.Returned) {c c' : Call} (found : h.calls[k]? = some c)
    (pending : ∀ r result, c ≠ .settled r result)
    (unsent : ∀ content, c' ≠ .settled (.send content) (.ok ())) :
    Returned { h with calls := h.calls.set k c' } := by
  refine ⟨returned.unique, fun j m mem => ?_, fun j content settled => returned.sent j content ?_⟩
  · have other : k ≠ j := fun same => returned.fresh found pending m (same ▸ mem)
    rw [List.getElem?_set_ne other]
    exact returned.queued j m mem
  · obtain rfl | other := eq_or_ne k j
    · rw [List.getElem?_set_self (List.getElem?_eq_some_iff.mp found).1] at settled
      exact absurd (Option.some.inj settled) (unsent content)
    · rwa [List.getElem?_set_ne other] at settled

theorem Returned.queue (returned : h.Returned) {r : Request}
    (found : h.calls[k]? = some (.queueing r)) (o : Outbound) :
    Returned
      { half := o, calls := h.calls.set k (.settled r (.ok ())),
        queued := h.queued ++ [(k, r.outgoing)] } := by
  have within := (List.getElem?_eq_some_iff.mp found).1
  have fresh := returned.fresh found (by simp)
  refine ⟨?_, fun j m mem => ?_, fun j content settled => ?_⟩
  · rw [List.map_append, List.nodup_append]
    refine ⟨returned.unique, by simp, fun j queued j' this same => ?_⟩
    obtain ⟨⟨j, m⟩, mem, rfl⟩ := List.mem_map.mp queued
    obtain rfl : j' = k := List.mem_singleton.mp this
    exact fresh m (same ▸ mem)
  · rw [List.mem_append, List.mem_singleton] at mem
    obtain earlier | ⟨rfl, rfl⟩ := mem
    · have other : k ≠ j := fun same => fresh m (same ▸ earlier)
      rw [List.getElem?_set_ne other]
      exact returned.queued j m earlier
    · exact ⟨r, List.getElem?_set_self within, rfl⟩
  · obtain rfl | other := eq_or_ne k j
    · rw [List.getElem?_set_self within] at settled
      obtain rfl : r = .send content := by simpa using settled
      exact List.mem_append_right _ (List.mem_singleton_self _)
    · rw [List.getElem?_set_ne other] at settled
      exact List.mem_append_left _ (returned.sent j content settled)

theorem returned_steps (returned : h.Returned) (steps : Steps h a h') : h'.Returned := by
  cases steps with
  | idle | marks | writes => exact ⟨returned.unique, returned.queued, returned.sent⟩
  | asks | turned | closes | closed => exact returned.begun _ (by simp)
  | proceeds found => exact returned.set found (by simp) (by simp)
  | late found pending => exact returned.set found pending (by simp)
  | queues found => exact returned.queue found _

/-- A send has returned without an error exactly if its text was queued. -/
theorem Returned.mem_accepted_iff (returned : h.Returned) (content : String) :
    (k, content) ∈ h.accepted ↔ h.calls[k]? = some (.settled (.send content) (.ok ())) := by
  refine mem_accepted.trans ⟨fun mem => ?_, returned.sent k content⟩
  obtain ⟨r, settled, same⟩ := returned.queued k _ mem
  cases r with
  | send content' => cases same; exact settled
  | close => cases same

theorem Returned.nodup_accepted (returned : h.Returned) : (h.accepted.map Prod.fst).Nodup := by
  have sublist : (h.accepted.map Prod.fst).Sublist (h.queued.map Prod.fst) := by
    rw [accepted]
    generalize h.queued = queued
    induction queued with
    | nil => exact List.Sublist.slnil
    | cons q rest ih =>
        obtain ⟨k, m⟩ := q
        cases m with
        | text content => exact ih.cons_cons k
        | close => exact ih.cons k
  exact returned.unique.sublist sublist

/-! ### At most one close frame is queued -/

/-- The close frames that were queued or are about to be. -/
def closings (h : Shared) : Nat :=
  h.calls.count (.queueing .close) + (h.queued.map Prod.snd).count .close

theorem count_set {c : Call} (found : h.calls[k]? = some c) (c' x : Call) :
    (h.calls.set k c').count x + (if c = x then 1 else 0) =
      h.calls.count x + if c' = x then 1 else 0 := by
  obtain ⟨within, rfl⟩ := List.getElem?_eq_some_iff.mp found
  have counted : h.calls[k] = x → 0 < h.calls.count x := fun same =>
    List.count_pos_iff.mpr (same ▸ List.getElem_mem within)
  rw [List.count_set within]
  simp only [beq_iff_eq]
  by_cases same : h.calls[k] = x
  · have there := counted same
    rw [if_pos same]
    omega
  · rw [if_neg same]
    omega

/-- Who takes the mark away has one close frame to queue, and nobody else has any. -/
theorem closings_steps (steps : Steps h a h') :
    h'.closings + h'.half.isUnmarked.toNat ≤ h.closings + h.half.isUnmarked.toNat ∧
      (a ≠ .call .close → h'.closings ≤ h.closings) := by
  cases steps with
  | idle => simp
  | asks | turned | closed => simp [closings]
  | closes unmarked =>
      simp only [closings, unmarked, Outbound.mark, List.count_append, List.count_singleton_self,
        Bool.toNat_true, Bool.toNat_false, ne_eq, not_true_eq_false, false_implies, and_true]
      omega
  | marks => simp [closings, Outbound.mark]
  | writes => simp [closings, Outbound.isUnmarked_write]
  | @proceeds k content found =>
      have counts := count_set found (.queueing (.send content)) (.queueing .close)
      simp only [Call.queueing.injEq, reduceCtorEq, if_false, Nat.add_zero] at counts
      simp [closings, counts]
  | @late k c found =>
      have counts := count_set found (.settled c.request (.error .closed)) (.queueing .close)
      simp only [reduceCtorEq, if_false, Nat.add_zero] at counts
      simp only [closings]
      omega
  | @queues k r found =>
      have counts := count_set found (.settled r (.ok ())) (.queueing .close)
      cases r with
      | send content =>
          simp only [Call.queueing.injEq, reduceCtorEq, if_false, Nat.add_zero] at counts
          simp [closings, counts, Request.outgoing]
      | close =>
          -- What was about to be queued is queued now.
          simp only [if_true, reduceCtorEq, if_false, Nat.add_zero] at counts
          simp only [closings, Request.outgoing, List.map_append, List.map_singleton,
            List.count_append, List.count_singleton_self]
          omega

/-- At most one close frame is queued, and none if the session was marked before anybody closed
it. -/
theorem closings_run (accesses : List Access) (h : Shared) :
    (run accesses h).closings + (run accesses h).half.isUnmarked.toNat ≤
        h.closings + h.half.isUnmarked.toNat ∧
      (.call .close ∉ accesses → (run accesses h).closings ≤ h.closings) := by
  induction accesses generalizing h with
  | nil => exact ⟨Nat.le_refl _, fun _ => Nat.le_refl _⟩
  | cons a rest ih =>
      obtain ⟨first, first'⟩ := closings_steps (steps_step a h)
      obtain ⟨later, later'⟩ := ih (h.step a)
      refine ⟨Nat.le_trans later first, fun none_ => ?_⟩
      rw [List.mem_cons, not_or] at none_
      exact Nat.le_trans (later' none_.2) (first' (Ne.symm none_.1))

/-! ### A session that is not open stays so -/

/-- A send that queues nothing from now on. -/
def Call.Refused (o : Outbound) : Call → Prop
  | .asking _ => o.isWriting = false
  | .queueing (.send _) => False
  | .settled (.send _) result => result = .error .closed
  | .queueing .close | .settled .close _ => True

/-- A session that is not open, and that refuses all calls from one place on. -/
structure Shut (n : Nat) (h : Shared) : Prop where
  closed : h.half.isOpen = false
  refused : ∀ k, n ≤ k → ∀ c, h.calls[k]? = some c → c.Refused h.half

theorem Shut.begun {n : Nat} (shut : h.Shut n) {c : Call} (refused : c.Refused h.half) :
    Shut n { h with calls := h.calls ++ [c] } := by
  refine ⟨shut.closed, fun k later c' found => ?_⟩
  rw [List.getElem?_append] at found
  split at found
  · exact shut.refused k later c' found
  · rw [List.getElem?_singleton] at found
    split at found
    · exact Option.some.inj found ▸ refused
    · cases found

theorem Shut.set {n : Nat} (shut : h.Shut n) {c c' : Call} (found : h.calls[k]? = some c)
    (refused : c.Refused h.half → c'.Refused h.half) :
    Shut n { h with calls := h.calls.set k c' } := by
  refine ⟨shut.closed, fun j later d there => ?_⟩
  obtain rfl | other := eq_or_ne k j
  · rw [List.getElem?_set_self (List.getElem?_eq_some_iff.mp found).1] at there
    exact Option.some.inj there ▸ refused (shut.refused k later c found)
  · rw [List.getElem?_set_ne other] at there
    exact shut.refused j later d there

/-- Calls are refused whatever becomes of the queue, unless the writer were to begin again. -/
theorem Shut.half {n : Nat} (shut : h.Shut n) {o : Outbound} (closed : o.isOpen = false)
    (ended : h.half.isWriting = false → o.isWriting = false) : Shut n { h with half := o } := by
  refine ⟨closed, fun k later c found => ?_⟩
  have refused := shut.refused k later c found
  match c with
  | .asking _ => exact ended refused
  | .queueing (.send _) => exact refused
  | .settled (.send _) _ => exact refused
  | .queueing .close | .settled .close _ => trivial

theorem shut_steps {n : Nat} (shut : h.Shut n) (steps : Steps h a h') : h'.Shut n := by
  cases steps with
  | idle => exact shut
  | asks unmarked =>
      have ended : h.half.isWriting = false := by
        simpa [Outbound.isOpen, unmarked] using shut.closed
      exact shut.begun ended
  | turned => exact shut.begun rfl
  | closed => exact shut.begun trivial
  | marks => exact shut.half (Outbound.isOpen_mark _) id
  | closes => exact (shut.half (Outbound.isOpen_mark _) id).begun trivial
  | writes =>
      exact shut.half (Outbound.isOpen_write shut.closed) Outbound.isWriting_write
  | proceeds found writing =>
      exact shut.set found fun ended => absurd (writing.symm.trans ended) (by decide)
  | @late k c found pending =>
      refine shut.set found fun _ => ?_
      cases c with
      | asking => rfl
      | queueing r => cases r <;> trivial
      | settled r result => exact absurd rfl (pending r result)
  | @queues k r found =>
      have settled : Shut n { h with calls := h.calls.set k (.settled r (.ok ())) } :=
        shut.set found fun refused => by cases r <;> trivial
      obtain ⟨closed, refused⟩ := settled
      have kept : Shut n { h with
          half := { h.half with queue := h.half.queue ++ [r.outgoing] }
          calls := h.calls.set k (.settled r (.ok ())) } := Shut.half ⟨closed, refused⟩ closed id
      exact ⟨kept.closed, kept.refused⟩

/-- **A session that is not open stays so**, and refuses every call that begins from then on. -/
theorem shut_run (accesses : List Access) (closed : h.half.isOpen = false) :
    (run accesses h).Shut h.calls.length := by
  refine run_induction (motive := (Shut h.calls.length ·)) accesses
    ⟨closed, fun k later c found => ?_⟩ fun a h' shut => shut_steps shut (steps_step a h')
  exact absurd (List.getElem?_eq_some_iff.mp found).1 (Nat.not_lt.mpr later)

/-- A send that is refused returns that the session is closed. -/
theorem Call.Refused.resumed {c : Call} {o : Outbound} (refused : c.Refused o) {content : String}
    (send : c.request = .send content) :
    (c.resumed o).2 = .settled (.send content) (.error .closed) := by
  cases c with
  | asking content' =>
      cases send
      simp [Call.resumed, show o.isWriting = false from refused]
  | queueing r =>
      obtain rfl : r = .send content := send
      exact refused.elim
  | settled r result =>
      obtain rfl : r = .send content := send
      obtain rfl : result = .error .closed := refused
      rfl

theorem getElem?_calls_resume {c : Call} (found : h.calls[k]? = some c) :
    (h.step (.resume k)).calls[k]? = some (c.resumed h.half).2 := by
  simp only [step, found]
  exact List.getElem?_set_self (List.getElem?_eq_some_iff.mp found).1

/-- Every call returns when it goes on twice. -/
theorem settled_resumed {c : Call} (found : h.calls[k]? = some c) :
    ∃ result, (run [.resume k, .resume k] h).calls[k]? = some (.settled c.request result) := by
  have first := getElem?_calls_resume found
  have second := getElem?_calls_resume first
  suffices settled : ∀ o o', ∃ result, ((c.resumed o).2.resumed o').2 = .settled c.request result by
    obtain ⟨result, settled⟩ := settled h.half (h.step (.resume k)).half
    exact ⟨result, second.trans (congrArg some settled)⟩
  intro o o'
  cases c with
  | asking content =>
      cases writing : o.isWriting <;> simp [Call.resumed, Call.request, writing]
  | queueing r => exact ⟨_, rfl⟩
  | settled r result => exact ⟨_, rfl⟩

/-! ### Calls that do not overlap -/

/-- What a call returned. -/
def Call.result? : Call → Option (Except TransportError Unit)
  | .settled _ result => some result
  | .asking _ | .queueing _ => none

/-- How many calls an act makes. -/
def calling : Outbound.Act → Nat
  | .send _ | .close => 1
  | .mark | .write _ => 0

/-- The accesses of one act, whose call has place `k`. -/
def single (k : Nat) : Outbound.Act → List Access
  | .send content => [.call (.send content), .resume k, .resume k]
  | .close => [.call .close, .resume k]
  | .mark => [.mark]
  | .write succeeds => [.write succeeds]

/-- The accesses of acts that do not overlap, the first call of which has place `k`. -/
def accesses : Nat → List Outbound.Act → List Access
  | _, [] => []
  | k, a :: rest =>
    single k a ++ accesses (k + calling a) rest

/-- **A call whose accesses follow each other is an act**, whatever other calls there are. -/
theorem run_single (a : Outbound.Act) (h : Shared) :
    (run (single h.calls.length a) h).half = (h.half.act a).1 ∧
      ∃ calls, (run (single h.calls.length a) h).calls = h.calls ++ calls ∧
        calls.map Call.result? = (h.half.act a).2.toList.map some ∧
        calls.length = calling a := by
  cases a with
  | mark => exact ⟨rfl, [], (List.append_nil _).symm, rfl, rfl⟩
  | write succeeds => exact ⟨rfl, [], (List.append_nil _).symm, rfl, rfl⟩
  | close =>
      cases mark : h.half.isUnmarked with
      | true =>
          refine ⟨?_, [.settled .close h.half.close.2], ?_, rfl, rfl⟩ <;>
            simp [single, run, step, Request.begun, Call.resumed, Outbound.act, Outbound.close,
              Request.outgoing, mark]
      | false =>
          refine ⟨?_, [.settled .close h.half.close.2], ?_, rfl, rfl⟩ <;>
            simp [single, run, step, Request.begun, Call.resumed, Outbound.act, Outbound.close,
              mark]
  | send content =>
      refine ⟨?_, [.settled (.send content) (h.half.send content).2], ?_, rfl, rfl⟩ <;>
        cases mark : h.half.isUnmarked <;> cases writing : h.half.isWriting <;>
          simp [single, run, step, Request.begun, Call.resumed, Outbound.act, Outbound.send,
            Outbound.isOpen, Outbound.enqueue, Request.outgoing, mark, writing]

/-- **Calls that do not overlap are those of a history of acts**, with the same results. -/
theorem run_accesses (acts : List Outbound.Act) (h : Shared) :
    (run (accesses h.calls.length acts) h).half = (Outbound.run acts h.half).1 ∧
      (run (accesses h.calls.length acts) h).calls.map Call.result? =
        h.calls.map Call.result? ++ (Outbound.run acts h.half).2.reduceOption.map some := by
  induction acts generalizing h with
  | nil => exact ⟨rfl, by simp [run, accesses, Outbound.run]⟩
  | cons a rest ih =>
      obtain ⟨half, calls, appended, results, count⟩ := run_single a h
      obtain ⟨later, later'⟩ := ih (run (single h.calls.length a) h)
      rw [appended, half, List.length_append, count] at later later'
      rw [accesses, run_append]
      refine ⟨later, later'.trans ?_⟩
      rw [List.map_append, results, List.append_assoc]
      cases result : (h.half.act a).2 with
      | none => simp [Outbound.run, result]
      | some value => simp [Outbound.run, result]

/-! ### Everything that goes out -/

/-- How what is written, what is queued and what calls returned fit together. -/
structure Fits (h : Shared) : Prop where
  /-- The other side reads texts in the order in which they were accepted, and at most a close frame
  behind them. -/
  frames : ∃ texts, texts <+: h.accepted.map Prod.snd ∧
    (h.half.written.map Outgoing.frame = texts.map Frame.text ∨
      h.half.written.map Outgoing.frame = texts.map Frame.text ++ [.close (some .normal)])
  /-- While the writer goes on, all that was queued is written or waits. -/
  waiting : h.half.isWriting = true →
    h.half.written ++ h.half.queue = h.queued.map Prod.snd
  /-- No send is accepted twice. -/
  once : (h.accepted.map Prod.fst).Nodup
  /-- A send returns without an error exactly if its text was queued. -/
  accepted : ∀ k content,
    (k, content) ∈ h.accepted ↔ h.calls[k]? = some (.settled (.send content) (.ok ()))
  /-- Every call returns as soon as it goes on twice. -/
  returns : ∀ (k : Nat) c, h.calls[k]? = some c →
    ∃ result, (run [.resume k, .resume k] h).calls[k]? = some (.settled c.request result)
  /-- At most one close frame was queued. -/
  closes : (h.queued.map Prod.snd).count .close ≤ 1
  /-- The session is not open when a close frame was written. -/
  ended : .close ∈ h.half.written → h.half.isOpen = false

/-- **Everything fits together after every history.** -/
theorem fits_run (accesses : List Access) : (run accesses {}).Fits := by
  have ordered : (run accesses {}).Ordered :=
    run_induction accesses ⟨⟨fun _ => rfl, by simp, by simp⟩, List.prefix_rfl, fun _ => rfl⟩
      fun a h ordered => ordered_steps ordered (steps_step a h)
  have returned : (run accesses {}).Returned :=
    run_induction accesses ⟨by simp, by simp, by simp⟩
      fun a h returned => returned_steps returned (steps_step a h)
  have counted := (closings_run accesses {}).1
  refine ⟨ordered.frames, ordered.waiting, returned.nodup_accepted,
    fun k content => returned.mem_accepted_iff content, fun k c found => settled_resumed found, ?_,
    fun written => ?_⟩
  · have initially : ({} : Shared).closings + ({} : Shared).half.isUnmarked.toNat = 1 := rfl
    rw [initially, closings] at counted
    omega
  · cases writing : (run accesses {}).half.isWriting with
    | true => exact absurd written (ordered.straight.ended writing)
    | false => simp [Outbound.isOpen, writing]

/-- **What goes out on a session, whatever its users, its reader and its writer do, and in whatever
order.**  The other side reads texts in the order in which they were accepted, each once, then at
most a close frame, and nothing behind it; at most one close frame is ever queued, and none if the
reader marked the session before anybody closed it.  A send returns without an error exactly if its
text was queued.  Once the session is not open it stays so, and all sends that begin later return
that it is closed; it is not open when a close frame was written, nor when a write has failed.
Calls that do not overlap are those of `Outbound.run`. -/
theorem written_in_order (history : List Access) :
    (run history {}).Fits ∧
      (∀ later, (run history {}).accepted <+: (run (history ++ later) {}).accepted) ∧
      ((run history {}).half.isOpen = false → ∀ later,
        (run (history ++ later) {}).half.isOpen = false ∧
        ∀ (k : Nat) c content, (run history {}).calls.length ≤ k →
          (run (history ++ later) {}).calls[k]? = some c → c.request = .send content →
          (run (history ++ later ++ [.resume k]) {}).calls[k]? =
            some (.settled (.send content) (.error .closed))) ∧
      (.call .close ∉ history → ∀ later,
        .close ∉ (run (history ++ .mark :: later) {}).queued.map Prod.snd) ∧
      ((run history {}).half.queue ≠ [] → ∀ later,
        (run (history ++ .write false :: later) {}).half.isOpen = false) ∧
      ∀ acts, (run (accesses 0 acts) {}).half = (Outbound.run acts {}).1 ∧
        (run (accesses 0 acts) {}).calls.map Call.result? =
          (Outbound.run acts {}).2.reduceOption.map some := by
  refine ⟨fits_run history, fun later => ?_, fun closed later => ?_, fun unclosed later => ?_,
    fun left later => ?_, fun acts => run_accesses acts {}⟩
  · rw [run_append]
    exact accepted_run later _
  · have shut := shut_run later closed
    have parts := run_append history later {}
    rw [parts]
    refine ⟨shut.closed, fun k c content from_ found send => ?_⟩
    rw [run_append, parts]
    exact (getElem?_calls_resume found).trans
      (congrArg some ((shut.refused k from_ c found).resumed send))
  · rw [run_append]
    have before := (closings_run history {}).2 unclosed
    have after := (closings_run later ((run history {}).step .mark)).1
    have initially : ({} : Shared).closings = 0 := rfl
    have marked : ((run history {}).step .mark).half.isUnmarked.toNat = 0 := rfl
    have same : ((run history {}).step .mark).closings = (run history {}).closings := rfl
    refine List.count_eq_zero.mp (Nat.le_zero.mp ?_)
    have counted : (run (.mark :: later) (run history {})).closings ≤ 0 := by
      have unfolded : run (.mark :: later) (run history {}) =
        run later ((run history {}).step .mark) := rfl
      rw [unfolded]
      omega
    exact Nat.le_trans (Nat.le_add_left _ _) counted
  · rw [run_append]
    exact (shut_run later (Outbound.isOpen_write_false left)).closed

/-- A session that was open when a send looked may have its close frame in the queue when the text
is put there: the text is accepted, and never written. -/
example :
    let h := run [.call (.send "a"), .resume 0, .call .close, .resume 1, .resume 0, .write true,
      .write true] {}
    h.queued = [(1, .close), (0, .text "a")] ∧ h.half.written = [.close] ∧
      h.calls = [.settled (.send "a") (.ok ()), .settled .close (.ok ())] := by decide

end Shared

end BridgeChannel.WebSocket
