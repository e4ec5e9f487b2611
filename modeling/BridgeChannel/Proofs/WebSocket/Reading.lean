/-
**What a reader makes of a stream, and of its session.**

A stream is read up to its first error.  The handler is called with the texts in their order, with
the error if there is one, and last of all with one close, which has the status of the last close
frame.  A handler that goes misses what the reader would have called it with from its next look on,
and nothing else changes.

The session is in other hands as well: it may be used, closed and written from at any time.
Whatever they do, it is not open any more once the first close frame is taken, when the close is
reported and in the end.

Main definitions:

* `frames`, `error?`, `closing` — what is read of a stream, and what is reported as its close;
* `Reader.reports` — what the handler is called with at each look of the reader at it;
* `Reader.Look`, `Reader.attend` — a run together with the session.

Main results:

* `run_lasting`, `run_dropped` — the calls of a handler that lasts, and of one that goes;
* `runFrom_error` — nothing is read behind an error;
* `isOpen_of_closed`, `isOpen_of_close`, `isOpen_attend` — the session is not open when the close is
  reported, nor from the first close frame on, nor in the end;
* `Listener.exists_attend` — a listener reads its stream like a reader that is attended;
* `read_stream` — **all of this, for every stream and every moment at which the handler goes**.
-/
import BridgeChannel.WebSocket.Listener
import Mathlib.Data.List.ReduceOption

set_option autoImplicit false

namespace BridgeChannel.WebSocket

/-! ### Streams -/

/-- The text that a frame brings. -/
def Frame.content? : Frame → Option String
  | .text content => some content
  | _ => none

/-- The status that a close frame gives. -/
def Frame.status? : Frame → Option CloseStatus
  | .close status => some (status.getD .missing)
  | _ => none

/-- The frames in front of the first error. -/
def frames : List StreamItem → List Frame
  | .ok frame :: rest => frame :: frames rest
  | _ => []

/-- The first error. -/
def error? : List StreamItem → Option WebSocketError
  | .ok _ :: rest => error? rest
  | .error e :: _ => some e
  | [] => none

/-- The status of the last close frame. -/
def lastStatus? (items : List StreamItem) : Option CloseStatus :=
  ((frames items).filterMap Frame.status?).getLast?

/-- What is reported as the close of a stream. -/
def closing (items : List StreamItem) : CloseStatus := (lastStatus? items).getD .lost

/-- An error ends what is read of a stream. -/
theorem frames_concat_error (items : List StreamItem) (e : WebSocketError) :
    frames (items ++ [.error e]) = frames items := by
  induction items with
  | nil => rfl
  | cons item rest ih =>
      cases item with
      | ok frame => exact congrArg (frame :: ·) ih
      | error e' => rfl

/-- A frame is read if no error is in front of it. -/
theorem frames_concat_ok {items : List StreamItem} (unbroken : error? items = none)
    (frame : Frame) : frames (items ++ [.ok frame]) = frames items ++ [frame] ∧
      error? (items ++ [.ok frame]) = none := by
  induction items with
  | nil => exact ⟨rfl, rfl⟩
  | cons item rest ih =>
      cases item with
      | error e => exact absurd unbroken (by simp [error?])
      | ok first =>
          obtain ⟨more, none_⟩ := ih unbroken
          exact ⟨congrArg (first :: ·) more, none_⟩

/-- The status of the last close frame, once there is one frame more. -/
theorem lastStatus?_concat_ok {items : List StreamItem} (unbroken : error? items = none)
    (frame : Frame) :
    lastStatus? (items ++ [.ok frame]) = frame.status?.or (lastStatus? items) := by
  rw [lastStatus?, (frames_concat_ok unbroken frame).1, List.filterMap_append]
  cases status : frame.status? <;> simp [status, lastStatus?]

namespace Reader

/-! ### One item -/

variable {alive : Bool} {r : Reader} {item : Option StreamItem}

/-- A frame that is taken may bring a text, and its status is kept. -/
theorem advance_frame (reading : r.phase = .reading) (frame : Frame) :
    r.advance true (some (.ok frame)) =
      ({ r with status := frame.status?.or r.status }, frame.content?.map .message) := by
  obtain ⟨phase, status⟩ := r
  obtain rfl : phase = .reading := reading
  cases frame <;> rfl

theorem advance_error (reading : r.phase = .reading) (e : WebSocketError) :
    r.advance true (some (.error e)) =
      ({ r with phase := .ending }, some (.failed (.webSocket e))) := by
  simp [advance, reading]

/-- The end of a stream, and whatever comes behind an error, is reported as the close. -/
theorem advance_finish (ends : r.phase = .ending ∨ r.phase = .reading ∧ item = none) :
    r.advance alive item = r.finish alive := by
  obtain ending | ⟨reading, rfl⟩ := ends
  · simp [advance, ending]
  · simp [advance, reading]

/-- Without a handler the reading ends. -/
theorem advance_dropped : (r.advance false item).1.phase = .finished ∧
    (r.advance false item).2 = none := by
  obtain ⟨phase, status⟩ := r
  cases phase <;> cases item <;> simp [advance, finish]

/-- Who reports the close does so with its outcome, and has finished afterwards. -/
theorem advance_closed {code : UInt16} {reason : String}
    (h : (r.advance alive item).2 = some (.closed code reason)) :
    r.phase ≠ .finished ∧ (r.advance alive item).1.phase = .finished ∧
      r.outcome = ⟨code, reason⟩ := by
  have finish : (r.finish alive).2 = some (.closed code reason) →
      (r.finish alive).1.phase = .finished ∧ r.outcome = ⟨code, reason⟩ := by
    cases alive with
    | false => simp [Reader.finish]
    | true =>
        intro given
        obtain ⟨rfl, rfl⟩ : r.outcome.code = code ∧ r.outcome.reason = reason := by
          simpa [Reader.finish] using given
        exact ⟨rfl, rfl⟩
  cases phase : r.phase with
  | finished => simp [phase] at h
  | ending =>
      rw [advance_finish (.inl phase)] at h ⊢
      exact ⟨by simp, finish h⟩
  | reading =>
      cases item with
      | none =>
          rw [advance_finish (.inr ⟨phase, rfl⟩)] at h ⊢
          exact ⟨by simp, finish h⟩
      | some item =>
          cases alive with
          | false => exact absurd (advance_dropped.2.symm.trans h) (by simp)
          | true =>
              cases item with
              | error e => exact absurd ((advance_error phase e).symm ▸ h) (by simp)
              | ok frame =>
                  rw [advance_frame phase] at h
                  cases frame <;> simp [Frame.content?] at h

/-- Who reports the close has put an end to the session. -/
theorem hasClosed_of_closed {code : UInt16} {reason : String}
    (h : (r.advance alive item).2 = some (.closed code reason)) :
    (r.advance alive item).1.hasClosed = true := by
  simp [hasClosed, (advance_closed h).2.1]

/-- A reader that has not finished has taken a frame, or an error. -/
theorem advance_lasting (lasts : (r.advance alive item).1.phase ≠ .finished) :
    r.phase = .reading ∧
      ((∃ frame, item = some (.ok frame) ∧
          (r.advance alive item).1 = { r with status := frame.status?.or r.status }) ∨
        ∃ e, item = some (.error e) ∧ (r.advance alive item).1 = { r with phase := .ending }) := by
  have finish : (r.finish alive).1.phase = .finished := rfl
  cases phase : r.phase with
  | finished => exact absurd ((advance_finished phase).symm ▸ phase) lasts
  | ending => exact absurd ((advance_finish (.inl phase)).symm ▸ finish) lasts
  | reading =>
      refine ⟨rfl, ?_⟩
      cases item with
      | none => exact absurd ((advance_finish (.inr ⟨phase, rfl⟩)).symm ▸ finish) lasts
      | some item =>
          cases alive with
          | false => exact absurd advance_dropped.1 lasts
          | true =>
              cases item with
              | ok frame => exact .inl ⟨frame, rfl, by rw [advance_frame phase, phase]⟩
              | error e => exact .inr ⟨e, rfl, by rw [advance_error phase]⟩

/-! ### The calls of a handler -/

/-- What the handler is called with at each look of the reader at it, as long as it exists: frames
first, then the error, and the close in the end. -/
def reports (items : List StreamItem) : List (Option Signal) :=
  (frames items).map (fun frame => frame.content?.map .message) ++
    ((error? items).toList.map (fun e => some (.failed (.webSocket e))) ++
      [some (.closed (closing items).code (closing items).reason)])

/-- The same for a reader that has already taken close frames, the last one with this status. -/
def reportsFrom (status : Option CloseStatus) : List StreamItem → List (Option Signal)
  | [] => [some (.closed (status.getD .lost).code (status.getD .lost).reason)]
  | .error e :: _ =>
    [some (.failed (.webSocket e)),
      some (.closed (status.getD .lost).code (status.getD .lost).reason)]
  | .ok frame :: rest =>
    frame.content?.map .message :: reportsFrom (frame.status?.or status) rest

theorem reportsFrom_eq (status : Option CloseStatus) (items : List StreamItem) :
    reportsFrom status items =
      (frames items).map (fun frame => frame.content?.map .message) ++
        ((error? items).toList.map (fun e => some (.failed (.webSocket e))) ++
          [some (.closed (((lastStatus? items).or status).getD .lost).code
            (((lastStatus? items).or status).getD .lost).reason)]) := by
  induction items generalizing status with
  | nil => rfl
  | cons item rest ih =>
      cases item with
      | error e => rfl
      | ok frame =>
          have last : (lastStatus? (.ok frame :: rest)).or status =
              (lastStatus? rest).or (frame.status?.or status) := by
            unfold lastStatus?
            rw [frames, List.filterMap_cons]
            cases frame.status? with
            | none => rfl
            | some s =>
                rw [List.getLast?_cons]
                cases ((frames rest).filterMap Frame.status?).getLast? <;> rfl
          rw [reportsFrom, ih, last]
          rfl

theorem reportsFrom_none (items : List StreamItem) : reportsFrom none items = reports items := by
  rw [reportsFrom_eq, Option.or_none]
  rfl

theorem length_reports (items : List StreamItem) :
    (reports items).length = (frames items).length + ((error? items).toList.length + 1) := by
  simp only [reports, List.length_append, List.length_map, List.length_singleton]

section Run

variable {alive : Nat → Bool} {look : Nat} {r : Reader}

theorem runFrom_cons (item : Option StreamItem) (rest : List (Option StreamItem)) :
    runFrom alive look r (item :: rest) =
      ((runFrom alive (look + 1) (r.advance (alive look) item).1 rest).1,
        (r.advance (alive look) item).2.toList ++
          (runFrom alive (look + 1) (r.advance (alive look) item).1 rest).2) := rfl

/-- Some items are taken after others. -/
theorem runFrom_append (items rest : List (Option StreamItem)) :
    runFrom alive look r (items ++ rest) =
      ((runFrom alive (look + items.length) (runFrom alive look r items).1 rest).1,
        (runFrom alive look r items).2 ++
          (runFrom alive (look + items.length) (runFrom alive look r items).1 rest).2) := by
  induction items generalizing look r with
  | nil => rfl
  | cons item items ih =>
      rw [List.cons_append, runFrom_cons, runFrom_cons, ih, List.length_cons, List.append_assoc,
        Nat.add_right_comm, Nat.add_assoc]

/-- A reader that has finished does nothing any more. -/
theorem runFrom_finished (finished : r.phase = .finished) (items : List (Option StreamItem)) :
    runFrom alive look r items = (r, []) := by
  induction items generalizing look with
  | nil => rfl
  | cons item rest ih =>
      rw [runFrom_cons, advance_finished finished, ih]
      rfl

/-- A reader that has reported an error has the close left to report, whatever is there to read. -/
theorem runFrom_ending (ending : r.phase = .ending) (item : Option StreamItem)
    (rest : List (Option StreamItem)) :
    runFrom alive look r (item :: rest) =
      ((r.finish (alive look)).1, (r.finish (alive look)).2.toList) := by
  rw [runFrom_cons, advance_finish (.inl ending), runFrom_finished rfl]
  simp

/-- The end of a stream, and what comes behind an error, is reported if the handler is there. -/
theorem finish_dropped (r : Reader) (k look : Nat) :
    (r.finish (decide (look < k))).2.toList =
      ([some (.closed r.outcome.code r.outcome.reason)].take (k - look)).reduceOption := by
  by_cases there : look < k
  · obtain ⟨n, hn⟩ : ∃ n, k - look = n + 1 := ⟨k - look - 1, by omega⟩
    simp [finish, there, hn, List.reduceOption]
  · have gone : k - look = 0 := by omega
    simp [finish, there, gone, List.reduceOption]

/-- The handler is called with what is reported at the looks before it goes. -/
theorem runFrom_dropped (reading : r.phase = .reading) (k look : Nat) (items : List StreamItem) :
    (runFrom (fun look => decide (look < k)) look r (items.map some ++ [none])).2 =
      ((reportsFrom r.status items).take (k - look)).reduceOption := by
  induction items generalizing look r with
  | nil =>
      rw [List.map_nil, List.nil_append, runFrom_cons, advance_finish (.inr ⟨reading, rfl⟩)]
      exact (List.append_nil _).trans (finish_dropped r k look)
  | cons item rest ih =>
      rw [List.map_cons, List.cons_append, runFrom_cons]
      by_cases there : look < k
      · obtain ⟨n, hn⟩ : ∃ n, k - look = n + 1 := ⟨k - look - 1, by omega⟩
        have next : k - (look + 1) = n := by omega
        rw [decide_eq_true there, hn]
        cases item with
        | ok frame =>
            have others :=
              ih (r := { r with status := frame.status?.or r.status }) reading (look + 1)
            rw [next] at others
            rw [advance_frame reading]
            dsimp only
            rw [others, reportsFrom, List.take_succ_cons]
            cases frame.content? <;> rfl
        | error e =>
            have ends := finish_dropped r k (look + 1)
            rw [next] at ends
            rw [advance_error reading]
            cases rest with
            | nil =>
                dsimp only
                rw [List.map_nil, List.nil_append, runFrom_ending rfl]
                exact congrArg (_ :: ·) ends
            | cons item rest =>
                dsimp only
                rw [List.map_cons, List.cons_append, runFrom_ending rfl]
                exact congrArg (_ :: ·) ends
      · have gone : k - look = 0 := by omega
        rw [decide_eq_false there, gone, advance_dropped.2, runFrom_finished advance_dropped.1]
        rfl

/-- A reader that does not wait for an item makes no difference between items. -/
theorem runFrom_idle (idle : r.phase ≠ .reading) {items items' : List (Option StreamItem)}
    (some_ : items ≠ []) (some' : items' ≠ []) :
    runFrom alive look r items = runFrom alive look r items' := by
  obtain ⟨item, rest, rfl⟩ := List.exists_cons_of_ne_nil some_
  obtain ⟨item', rest', rfl⟩ := List.exists_cons_of_ne_nil some'
  cases phase : r.phase with
  | reading => exact absurd phase idle
  | ending => rw [runFrom_ending phase, runFrom_ending phase]
  | finished => rw [runFrom_finished phase, runFrom_finished phase]

/-- Nothing is read behind an error. -/
theorem runFrom_error (r : Reader) (e : WebSocketError) (items rest : List StreamItem) :
    runFrom alive look r ((items ++ .error e :: rest).map some ++ [none]) =
      runFrom alive look r ((items ++ [Except.error e]).map some ++ [none]) := by
  induction items generalizing look r with
  | nil =>
      simp only [List.nil_append, List.map_cons, List.map_nil, List.cons_append]
      rw [runFrom_cons, runFrom_cons]
      have idle : (r.advance (alive look) (some (.error e))).1.phase ≠ .reading := by
        cases there : alive look with
        | false => simp [advance_dropped]
        | true =>
            cases phase : r.phase with
            | reading => simp [advance_error phase]
            | ending => simp [advance_finish (.inl phase), finish]
            | finished => simp [phase]
      rw [runFrom_idle idle (by simp) (List.cons_ne_nil none [])]
  | cons item items ih =>
      simp only [List.cons_append, List.map_cons]
      rw [runFrom_cons, runFrom_cons, ih]

/-- A run depends on the handler at the looks of the reader only. -/
theorem runFrom_congr {alive' : Nat → Bool} {items : List (Option StreamItem)}
    (same : ∀ i < items.length, alive (look + i) = alive' (look + i)) :
    runFrom alive look r items = runFrom alive' look r items := by
  induction items generalizing look r with
  | nil => rfl
  | cons item rest ih =>
      have first : alive look = alive' look := same 0 (by simp)
      have others : ∀ i < rest.length, alive (look + 1 + i) = alive' (look + 1 + i) := by
        intro i hi
        have h := same (i + 1) (by simpa using hi)
        rwa [Nat.add_right_comm, Nat.add_assoc]
      rw [runFrom_cons, runFrom_cons, first, ih others]

end Run

/-- There are no more looks than items, and one in the end. -/
theorem length_reports_le (items : List StreamItem) :
    (reports items).length ≤ items.length + 1 := by
  rw [length_reports]
  induction items with
  | nil => exact Nat.le_refl _
  | cons item rest ih =>
      cases item with
      | error e => simp [frames, error?]
      | ok frame =>
          rw [frames, error?, List.length_cons, List.length_cons]
          omega

/-- **A handler that goes is called with what is reported at the looks before.** -/
theorem run_dropped (k : Nat) (items : List StreamItem) :
    (run (fun look => decide (look < k)) items).2 = ((reports items).take k).reduceOption := by
  rw [← reportsFrom_none]
  exact runFrom_dropped (r := {}) rfl k 0 items

/-- **A handler that lasts is called with the texts in front of the first error, with the error,
and with the close.** -/
theorem run_lasting (items : List StreamItem) :
    (run (fun _ => true) items).2 =
      ((frames items).filterMap Frame.content?).map .message ++
        ((error? items).toList.map (fun e => .failed (.webSocket e)) ++
          [.closed (closing items).code (closing items).reason]) := by
  have there : run (fun _ => true) items =
      run (fun look => decide (look < items.length + 1)) items := by
    refine runFrom_congr fun i hi => ?_
    have within : i < items.length + 1 := by simpa using hi
    simp [within]
  have whole := List.take_of_length_le (length_reports_le items)
  have messages : ((frames items).map fun frame => frame.content?.map Signal.message).reduceOption =
      ((frames items).filterMap Frame.content?).map .message := by
    rw [List.reduceOption, List.filterMap_map, List.map_filterMap]
    rfl
  have errors : ((error? items).toList.map fun e =>
      some (Signal.failed (.webSocket e))).reduceOption =
        (error? items).toList.map fun e => .failed (.webSocket e) := by
    cases error? items <;> rfl
  rw [there, run_dropped, whole, reports, List.reduceOption_append, List.reduceOption_append,
    messages, errors]
  rfl

/-! ### The session -/

/-- A look of a reader at its handler: what the handler is called with, if anything, and the session
as it is then. -/
structure Look where
  signal : Option Signal
  session : Outbound

/-- Takes items like `runFrom`, with the session, which the reader marks as closed before it calls
the handler.  Others do with the session what they want, before each call and after it. -/
def attendFrom (alive : Nat → Bool) (before after : Nat → List Outbound.Act) :
    Nat → Reader → Outbound → List (Option StreamItem) → List Look × Outbound
  | _, _, o, [] => ([], o)
  | look, r, o, item :: rest =>
    let (r, signal) := r.advance (alive look) item
    let o := if r.hasClosed then o.mark else o
    let o := (Outbound.run (before look) o).1
    let (looks, last) := attendFrom alive before after (look + 1) r
      (Outbound.run (after look) o).1 rest
    (⟨signal, o⟩ :: looks, last)

/-- Reads a stream to its end, with the session of the connection. -/
def attend (alive : Nat → Bool) (before after : Nat → List Outbound.Act) (o : Outbound)
    (items : List StreamItem) : List Look × Outbound :=
  attendFrom alive before after 0 {} o (items.map some ++ [none])

section Session

variable {alive : Nat → Bool} {before after : Nat → List Outbound.Act} {look : Nat} {r : Reader}
  {o : Outbound}

/-- The session as the handler finds it when the reader has taken an item. -/
def found (alive : Nat → Bool) (before : Nat → List Outbound.Act) (look : Nat) (r : Reader)
    (o : Outbound) (item : Option StreamItem) : Outbound :=
  (Outbound.run (before look)
    (if (r.advance (alive look) item).1.hasClosed then o.mark else o)).1

theorem attendFrom_cons (item : Option StreamItem) (rest : List (Option StreamItem)) :
    attendFrom alive before after look r o (item :: rest) =
      (⟨(r.advance (alive look) item).2, found alive before look r o item⟩ ::
          (attendFrom alive before after (look + 1) (r.advance (alive look) item).1
            (Outbound.run (after look) (found alive before look r o item)).1 rest).1,
        (attendFrom alive before after (look + 1) (r.advance (alive look) item).1
          (Outbound.run (after look) (found alive before look r o item)).1 rest).2) := rfl

/-- A run depends on what is done with the session at its own looks only. -/
theorem attendFrom_congr {after' : Nat → List Outbound.Act}
    (same : ∀ n, look ≤ n → after n = after' n) {items : List (Option StreamItem)} :
    attendFrom alive before after look r o items =
      attendFrom alive before after' look r o items := by
  induction items generalizing look r o with
  | nil => rfl
  | cons item rest ih =>
      rw [attendFrom_cons, attendFrom_cons, same look (Nat.le_refl look),
        ih fun n hn => same n (by omega)]

/-- The calls of the handler do not depend on the session. -/
theorem signals_attendFrom (items : List (Option StreamItem)) :
    (attendFrom alive before after look r o items).1.filterMap Look.signal =
      (runFrom alive look r items).2 := by
  induction items generalizing look r o with
  | nil => rfl
  | cons item rest ih =>
      rw [attendFrom_cons, runFrom_cons]
      dsimp only
      rw [← ih, List.filterMap_cons]
      cases (r.advance (alive look) item).2 <;> rfl

/-- A session that is not open is found so. -/
theorem isOpen_found (h : o.isOpen = false) (item : Option StreamItem) :
    (found alive before look r o item).isOpen = false := by
  refine Outbound.isOpen_run _ ?_
  split
  · exact Outbound.isOpen_mark o
  · exact h

/-- Once the reader has put an end to it, the session is not found open. -/
theorem isOpen_found_of_hasClosed {item : Option StreamItem}
    (h : (r.advance (alive look) item).1.hasClosed = true) :
    (found alive before look r o item).isOpen = false := by
  refine Outbound.isOpen_run _ ?_
  rw [if_pos h]
  exact Outbound.isOpen_mark o

/-- A session that is not open stays so through a run. -/
theorem isOpen_attendFrom (h : o.isOpen = false) (items : List (Option StreamItem)) :
    (∀ l ∈ (attendFrom alive before after look r o items).1, l.session.isOpen = false) ∧
      (attendFrom alive before after look r o items).2.isOpen = false := by
  induction items generalizing look r o with
  | nil => exact ⟨fun l hl => absurd hl List.not_mem_nil, h⟩
  | cons item rest ih =>
      have here : (found alive before look r o item).isOpen = false := isOpen_found h item
      rw [attendFrom_cons]
      obtain ⟨others, last⟩ := ih (Outbound.isOpen_run (after look) here)
      exact ⟨List.forall_mem_cons.2 ⟨here, others⟩, last⟩

/-- The session is not open when the close is reported. -/
theorem isOpen_of_closed {items : List (Option StreamItem)} {l : Look}
    (hl : l ∈ (attendFrom alive before after look r o items).1) {code : UInt16} {reason : String}
    (closed : l.signal = some (.closed code reason)) : l.session.isOpen = false := by
  induction items generalizing look r o with
  | nil => exact absurd hl List.not_mem_nil
  | cons item rest ih =>
      rw [attendFrom_cons] at hl
      obtain rfl | hl := List.mem_cons.1 hl
      · exact isOpen_found_of_hasClosed (hasClosed_of_closed closed)
      · exact ih hl

/-- Once the reader has put an end to it, the session is not open at any look. -/
theorem isOpen_of_hasClosed {item : Option StreamItem} {rest : List (Option StreamItem)}
    (ended : (r.advance (alive look) item).1.hasClosed = true) {j : Nat} {l : Look}
    (hl : (attendFrom alive before after look r o (item :: rest)).1[j]? = some l) :
    l.session.isOpen = false := by
  have here : (found alive before look r o item).isOpen = false := isOpen_found_of_hasClosed ended
  have left := Outbound.isOpen_run (after look) here
  have hl := List.mem_of_getElem? hl
  rw [attendFrom_cons] at hl
  obtain rfl | hl := List.mem_cons.1 hl
  · exact here
  · exact (isOpen_attendFrom left rest).1 l hl

/-- The session is not open any more when the first close frame is taken. -/
theorem isOpen_of_close (reading : r.phase = .reading) {items : List StreamItem} {i : Nat}
    {status : Option CloseStatus} (close : (frames items)[i]? = some (.close status)) {j : Nat}
    (later : i ≤ j) {l : Look}
    (hl : (attendFrom alive before after look r o (items.map some ++ [none])).1[j]? = some l) :
    l.session.isOpen = false := by
  induction items generalizing look r o i j with
  | nil => exact absurd close (by simp [frames])
  | cons item rest ih =>
      cases item with
      | error e => exact absurd close (by simp [frames])
      | ok frame =>
          cases there : alive look with
          | false =>
              have ended : (r.advance (alive look) (some (.ok frame))).1.hasClosed = true := by
                simp [there, hasClosed, advance_dropped.1]
              exact isOpen_of_hasClosed ended hl
          | true =>
              cases i with
              | zero =>
                  have ended : (r.advance (alive look) (some (.ok frame))).1.hasClosed = true := by
                    rw [there, advance_frame reading, Option.some.inj close]
                    simp [hasClosed, Frame.status?]
                  exact isOpen_of_hasClosed ended hl
              | succ i =>
                  obtain ⟨j, rfl⟩ : ∃ j', j = j' + 1 := ⟨j - 1, by omega⟩
                  rw [List.map_cons, List.cons_append, attendFrom_cons, there,
                    advance_frame reading] at hl
                  exact ih (r := { r with status := frame.status?.or r.status }) reading close
                    (Nat.le_of_succ_le_succ later) hl

/-- **In the end the session is closed**, whenever the handler goes. -/
theorem isOpen_attend (items : List StreamItem) :
    (attendFrom alive before after look r o (items.map some ++ [none])).2.isOpen = false := by
  induction items generalizing look r o with
  | nil =>
      refine Outbound.isOpen_run (after look) (isOpen_found_of_hasClosed ?_)
      simp [hasClosed, phase_advance_none]
  | cons item rest ih => exact ih

/-- Where nobody else touches it, a session is found as it was, unless the reader has ended it. -/
theorem found_alone (item : Option StreamItem) :
    found alive (fun _ => []) look r o item =
      if (r.advance (alive look) item).1.hasClosed then o.mark else o := rfl

/-- Behind an error only the close is left to report. -/
theorem isOpen_behind_error (ending : r.phase = .ending) {items : List (Option StreamItem)}
    {j : Nat} {l : Look} (hl : (attendFrom alive before after look r o items).1[j]? = some l) :
    l.session.isOpen = false := by
  cases items with
  | nil => exact absurd hl (by simp [attendFrom])
  | cons item rest =>
      have ended : (r.advance (alive look) item).1.hasClosed = true := by
        rw [advance_finish (.inl ending)]
        simp [finish, hasClosed]
      exact isOpen_of_hasClosed ended hl

/-- There is no close frame among the first ones of a stream. -/
def Closeless (items : List StreamItem) (j : Nat) : Prop :=
  ∀ i ≤ j, ∀ status, (frames items)[i]? ≠ some (.close status)

theorem not_closeless_close (status : Option CloseStatus) (rest : List StreamItem) (j : Nat) :
    ¬Closeless (.ok (.close status) :: rest) j := fun h => h 0 (Nat.zero_le j) status rfl

theorem closeless_zero_iff {frame : Frame} {rest : List StreamItem} :
    Closeless (.ok frame :: rest) 0 ↔ frame.status? = none := by
  constructor
  · intro h
    cases frame with
    | close status => exact absurd h (not_closeless_close status rest 0)
    | _ => rfl
  · intro none_ i hi status same
    obtain rfl : i = 0 := Nat.le_zero.1 hi
    obtain rfl := Option.some.inj same
    exact absurd none_ (by simp [Frame.status?])

theorem closeless_succ_iff {frame : Frame} {rest : List StreamItem} {j : Nat} :
    Closeless (.ok frame :: rest) (j + 1) ↔ frame.status? = none ∧ Closeless rest j := by
  constructor
  · intro h
    refine ⟨closeless_zero_iff.1 fun i hi => h i (by omega), fun i hi => ?_⟩
    exact h (i + 1) (Nat.succ_le_succ hi)
  · rintro ⟨first, others⟩ i hi
    cases i with
    | zero => exact closeless_zero_iff.2 first 0 (Nat.le_refl 0)
    | succ i => exact others i (Nat.le_of_succ_le_succ hi)

/-- Where nobody else touches it, the session is open as long as the reader has its handler, has
taken no close frame, and has something left to report but the close. -/
theorem isOpen_alone (reading : r.phase = .reading) (unclosed : r.status = none)
    (opened : o.isOpen = true) (k : Nat) {items : List StreamItem} {j : Nat} {l : Look}
    (hl : (attendFrom (fun look => decide (look < k)) (fun _ => []) (fun _ => []) look r o
      (items.map some ++ [none])).1[j]? = some l) :
    l.session.isOpen = true ↔
      look + j < k ∧ j + 1 < (reports items).length ∧ Closeless items j := by
  have untouched : r.hasClosed = false := by simp [hasClosed, unclosed, reading]
  rw [length_reports]
  induction items generalizing look r o j with
  | nil =>
      -- the one look is at the close
      have ended : (r.advance (decide (look < k)) none).1.hasClosed = true := by
        simp [hasClosed, phase_advance_none]
      rw [isOpen_of_hasClosed ended hl]
      simp [frames, error?]
  | cons item rest ih =>
      by_cases there : look < k
      · have looked : decide (look < k) = true := decide_eq_true there
        cases item with
        | error e =>
            rw [List.map_cons, List.cons_append, attendFrom_cons, found_alone, looked,
              advance_error reading] at hl
            cases j with
            | zero =>
                obtain rfl := Option.some.inj hl
                simp [hasClosed, unclosed, opened, there, frames, error?, Closeless]
            | succ j =>
                rw [isOpen_behind_error rfl hl]
                simp only [Bool.false_eq_true, false_iff]
                rintro ⟨-, few, -⟩
                change j + 1 + 1 < 0 + (1 + 1) at few
                omega
        | ok frame =>
            cases status : frame.status? with
            | some given =>
                have ended :
                    (r.advance (decide (look < k)) (some (.ok frame))).1.hasClosed = true := by
                  simp [looked, advance_frame reading, hasClosed, status]
                rw [isOpen_of_hasClosed ended hl]
                cases j <;> simp [closeless_zero_iff, closeless_succ_iff, status]
            | none =>
                have left : (r.advance true (some (.ok frame))).1 = r := by
                  rw [advance_frame reading, status]
                  rfl
                rw [List.map_cons, List.cons_append, attendFrom_cons, found_alone, looked, left,
                  if_neg (by simp [untouched])] at hl
                rw [frames, error?, List.length_cons]
                cases j with
                | zero =>
                    obtain rfl := Option.some.inj hl
                    rw [closeless_zero_iff]
                    exact ⟨fun _ => ⟨there, by omega, status⟩, fun _ => opened⟩
                | succ j =>
                    refine (ih reading unclosed opened hl untouched).trans ?_
                    rw [closeless_succ_iff]
                    constructor
                    · rintro ⟨before, left, none_⟩
                      exact ⟨by omega, by omega, status, none_⟩
                    · rintro ⟨before, left, -, none_⟩
                      exact ⟨by omega, by omega, none_⟩
      · have ended : (r.advance (decide (look < k)) (some item)).1.hasClosed = true := by
          rw [decide_eq_false there]
          simp [hasClosed, advance_dropped.1]
        rw [isOpen_of_hasClosed ended hl]
        have gone : ¬look + j < k := by omega
        simp [gone]

end Session

end Reader

/-! ### A listener attends its reader -/

theorem Outbound.run_append (acts acts' : List Act) (o : Outbound) :
    (run (acts ++ acts') o).1 = (run acts' (run acts o).1).1 := by
  induction acts generalizing o with
  | nil => rfl
  | cons a rest ih => exact ih _

/-- The writer catches up by writing as often as there is something in the queue. -/
theorem Outbound.flush_eq (o : Outbound) :
    o.flush = (run (o.queue.map fun _ => Act.write true) o).1 := by
  have each : ∀ (queue : List Outgoing) (o : Outbound),
      queue.foldl (fun o _ => o.write true) o = (run (queue.map fun _ => Act.write true) o).1 := by
    intro queue
    induction queue with
    | nil => exact fun o => rfl
    | cons m rest ih => exact fun o => ih _
  exact each o.queue o

namespace Listener

/-- All that one listener does until it has become another is to use its session. -/
def Uses (l l' : Listener) : Prop :=
  l'.reader = l.reader ∧ l'.presence = l.presence ∧
    ∃ acts, l'.outbound = (Outbound.run acts l.outbound).1

theorem Uses.trans {l l' l'' : Listener} (first : Uses l l') (second : Uses l' l'') :
    Uses l l'' := by
  obtain ⟨reader, presence, acts, outbound⟩ := first
  obtain ⟨reader', presence', acts', outbound'⟩ := second
  refine ⟨reader'.trans reader, presence'.trans presence, acts ++ acts', ?_⟩
  rw [outbound', outbound, Outbound.run_append]

theorem uses_note (n : Note) (l : Listener) : Uses l (l.note n) := ⟨rfl, rfl, [], rfl⟩

theorem uses_react (r : Reaction) (l : Listener) : Uses l (l.react r) := by
  cases r with
  | send content => exact ⟨rfl, rfl, [.send content], rfl⟩
  | close => exact ⟨rfl, rfl, [.close], rfl⟩
  | query => exact uses_note _ l

theorem uses_answer (o : Occasion) (l : Listener) : Uses l (l.answer o) := by
  have each : ∀ (rs : List (Occasion × Reaction)) (l : Listener),
      Uses l (rs.foldl (fun l r => l.react r.2) l) := by
    intro rs
    induction rs with
    | nil => exact fun l => ⟨rfl, rfl, [], rfl⟩
    | cons r rs ih => exact fun l => (uses_react r.2 l).trans (ih _)
  exact each _ l

theorem uses_hear (signal : Signal) (l : Listener) : Uses l (l.hear signal) := by
  cases signal with
  | opened => exact (uses_note _ l).trans (uses_answer _ _)
  | message content => exact (uses_note _ l).trans (uses_answer _ _)
  | failed e => exact uses_note _ l
  | closed code reason => exact uses_note _ l

/-- Whether the handler of a listener exists while the stream is read. -/
def isThere (l : Listener) : Bool := l.presence = .throughout

/-- What becomes of a listener when its reader has taken an item: the session is marked first. -/
def advanced (item : Option StreamItem) (l : Listener) : Listener :=
  { l with
    reader := (l.reader.advance l.isThere item).1
    outbound := if (l.reader.advance l.isThere item).1.hasClosed
      then l.outbound.mark else l.outbound }

theorem take_eq (item : Option StreamItem) (l : Listener) :
    l.take item = (match (l.reader.advance l.isThere item).2 with
      | some signal => (l.advanced item).hear signal
      | none => l.advanced item).flush := rfl

/-- A listener that takes an item marks its session before it is called, and uses it after that. -/
theorem uses_take (item : Option StreamItem) (l : Listener) :
    Uses (l.advanced item) (l.take item) := by
  have flushed : ∀ l : Listener, Uses l l.flush := fun l =>
    ⟨rfl, rfl, _, l.outbound.flush_eq⟩
  rw [take_eq]
  cases (l.reader.advance l.isThere item).2 with
  | none => exact flushed _
  | some signal => exact (uses_hear signal _).trans (flushed _)

/-- **A listener reads its stream like a reader that is attended**, with what it does itself as all
that is done with the session. -/
theorem exists_attend (l : Listener) (look : Nat) (items : List (Option StreamItem)) :
    ∃ after, (Reader.attendFrom (fun _ => l.isThere) (fun _ => []) after look l.reader l.outbound
      items).2 = (items.foldl (fun l item => l.take item) l).outbound := by
  induction items generalizing l look with
  | nil => exact ⟨fun _ => [], rfl⟩
  | cons item rest ih =>
      obtain ⟨reader, presence, acts, outbound⟩ := uses_take item l
      obtain ⟨after, last⟩ := ih (l.take item) (look + 1)
      refine ⟨fun n => if n = look then acts else after n, ?_⟩
      have later : ∀ n, look + 1 ≤ n → after n = if n = look then acts else after n := by
        intro n hn
        rw [if_neg (by omega)]
      have there : (l.take item).isThere = l.isThere := congrArg (decide <| · = _) presence
      rw [there, reader, outbound, Reader.attendFrom_congr later] at last
      rw [Reader.attendFrom_cons, if_pos rfl]
      exact last

end Listener

namespace Reader

/-- **What a reader makes of every stream.**  A handler that lasts is called with each text in front
of the first error, in their order, then with the error if there is one, and last of all with one
close, which has the status of the last close frame, 1005 if it gave none, or 1006 if there was no
close frame.  What stands behind the first error makes no difference.  A handler that goes at any
look of the reader is called as before it, and never again.  Whatever others do with the session, it
is not open from the first close frame on, nor when the close is reported, nor in the end; and where
nobody else touches it, it is open until then.  A listener leaves its session as a reader leaves it
whose session is used by the handler. -/
theorem read_stream (items : List StreamItem) :
    (run (fun _ => true) items).2 =
      ((frames items).filterMap Frame.content?).map .message ++
        ((error? items).toList.map (fun e => .failed (.webSocket e)) ++
          [.closed (closing items).code (closing items).reason]) ∧
    (∀ alive e rest, run alive (items ++ .error e :: rest) = run alive (items ++ [.error e])) ∧
    (∀ l : Listener, ∃ after,
      (attend (fun _ => l.isThere) (fun _ => []) after l.outbound items).2 =
        ((items.map some ++ [none]).foldl (fun (l : Listener) item => l.take item)
          { l with reader := {} }).outbound) ∧
    ∀ k, (run (fun look => decide (look < k)) items).2 = ((reports items).take k).reduceOption ∧
      (∀ before after o,
        let attended := attend (fun look => decide (look < k)) before after o items
        attended.1.filterMap Look.signal = (run (fun look => decide (look < k)) items).2 ∧
        (∀ l ∈ attended.1, ∀ code reason, l.signal = some (.closed code reason) →
          l.session.isOpen = false) ∧
        (∀ (i : Nat) status, (frames items)[i]? = some (.close status) → ∀ (j : Nat) l, i ≤ j →
          attended.1[j]? = some l → l.session.isOpen = false) ∧
        attended.2.isOpen = false) ∧
      ∀ (j : Nat) l,
        (attend (fun look => decide (look < k)) (fun _ => []) (fun _ => []) {} items).1[j]? =
          some l → (l.session.isOpen = true ↔ j < k ∧ j + 1 < (reports items).length ∧
          ∀ i ≤ j, ∀ status, (frames items)[i]? ≠ some (.close status)) := by
  refine ⟨run_lasting items, fun alive e rest => runFrom_error {} e items rest,
    fun l => Listener.exists_attend { l with reader := {} } 0 _, fun k => ?_⟩
  refine ⟨run_dropped k items, fun before after o => ?_, fun j l hl => ?_⟩
  · exact ⟨signals_attendFrom _, fun l hl code reason closed => isOpen_of_closed hl closed,
      fun i status close j l later hl => isOpen_of_close (r := {}) rfl close later hl,
      isOpen_attend items⟩
  · have alone := isOpen_alone (r := {}) (o := {}) rfl rfl rfl k hl
    rwa [Nat.zero_add] at alone

end Reader

end BridgeChannel.WebSocket
