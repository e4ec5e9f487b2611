/-
**Frames that come to nothing.**

A frame that cannot be read, or that nothing is done about, leaves log lines and nothing else; so do
news of the conference as long as the channel is not ready.  So a run is compared with the run in
which one such frame does not arrive.  Which frame it is, is told by its place among all calls of
handlers: it may arrive in a step of its own, through a stream, or in the midst of other steps.

The two runs are the same but for one report at most, and in that report but for the lines that are
logged of that frame: they stand together, and everything before and after them is the same.

Main definitions:

* `Signal.residue?` — what is logged of a signal that comes to nothing;
* `Scene.callBut`, `Scene.performBut` — steps in which one call of a handler does not take place if
  it comes to nothing;
* `TellsOf` — one account tells of a frame in one place, and another does not;
* `ApartBy` — two results of a command that are the same but for this.

Main results:

* `residue?_message_isSome_iff` — which frames come to nothing;
* `outright_of_residue` — **what is logged of such a frame is all that comes of it**;
* `course_performBut` — **whole runs, with and without one such frame**;
* `runFrom_inert` — a command that brings such a frame may be left out of a script;
* `inert_harmless` — **all of this, for every run**.
-/
import BridgeChannel.Proofs.Client.Stale

set_option autoImplicit false

namespace BridgeChannel

/-! ### What is logged of frames that come to nothing -/

/-- What is logged of a message that nothing is done about in a state of the channel. -/
def Message.residue? (state : ConnectionState) (m : Message) : Option (List LogLine) :=
  match m with
  | serverHello _ => none
  | endpointMessage _ | dominantSpeaker _ _ | connectivity _ _ =>
    if state.isReady then none else some [.untimely m.className state]
  | senderVideoConstraints _ => some []
  | clientHello | receiverVideoConstraints _ _ | unknown _ _ => some [.unhandled m.className]

/-- What is logged of a signal that comes to nothing in a state of the channel; there is no such
thing if something comes of it. -/
def Signal.residue? (state : ConnectionState) : Signal → Option (List LogLine)
  | message frame =>
    match Message.decode frame with
    | .ok m => (m.residue? state).map (.received frame :: ·)
    | .error .missingClass => some [.received frame, .classMissing frame]
    | .error e => some [.received frame, .unreadable e]
  | _ => none

/-- The classes that nothing is done about; a message of an unknown class has none. -/
def MessageClass.ignored : List (Option MessageClass) :=
  [some .clientHello, some .senderVideoConstraints, some .receiverVideoConstraints, none]

/-- The classes that count only once the channel is ready. -/
def MessageClass.awaiting : List (Option MessageClass) :=
  [some .endpointMessage, some .dominantSpeaker, some .connectivity]

theorem Message.residue?_isSome_iff (state : ConnectionState) (m : Message) :
    (m.residue? state).isSome ↔
      m.class? ∈ MessageClass.ignored ∨ m.class? ∈ MessageClass.awaiting ∧ state ≠ .ready := by
  cases m <;> cases state <;>
    simp [residue?, class?, MessageClass.ignored, MessageClass.awaiting, ConnectionState.isReady]

/-- **The frames that come to nothing**: those that cannot be read, those of a class that nothing is
done about, and news of the conference before the channel is ready. -/
theorem Signal.residue?_message_isSome_iff (state : ConnectionState) (frame : String) :
    ((Signal.message frame).residue? state).isSome ↔
      (∃ e, Message.decode frame = .error e) ∨
        ∃ m, Message.decode frame = .ok m ∧
          (m.class? ∈ MessageClass.ignored ∨
            m.class? ∈ MessageClass.awaiting ∧ state ≠ .ready) := by
  cases decoded : Message.decode frame with
  | ok m => simp [residue?, decoded, Message.residue?_isSome_iff]
  | error e => cases e <;> simp [residue?, decoded]

namespace Scene

/-- Lines are logged, in order. -/
def logAll (lines : List LogLine) (s : Scene) : Scene :=
  { s with account := (lines.map Occurrence.log).reverse ++ s.account }

theorem dispatch_of_residue {react : Reaction} {m : Message} {lines : List LogLine} {s : Scene}
    (residue : m.residue? s.client.state = some lines) : s.dispatch react m = s.logAll lines := by
  -- a class that waits for the channel to be ready
  have waits : ∀ c line event, c.name = m.className →
      (if s.client.state.isReady then none else some [.untimely m.className s.client.state]) =
        some lines → s.pass react c line event = s.logAll lines := by
    intro c line event name h
    split at h
    · exact absurd h (by simp)
    next unready =>
      rw [pass, if_neg unready, name, ← Option.some.inj h]
      rfl
  cases m with
  | serverHello version => exact absurd residue (by simp [Message.residue?])
  | endpointMessage e => exact waits _ _ _ rfl residue
  | dominantSpeaker endpoint previous => exact waits _ _ _ rfl residue
  | connectivity endpoint active => exact waits _ _ _ rfl residue
  | senderVideoConstraints constraints => exact Option.some.inj residue ▸ rfl
  | clientHello => exact Option.some.inj residue ▸ rfl
  | receiverVideoConstraints lastN defaults => exact Option.some.inj residue ▸ rfl
  | unknown className body => exact Option.some.inj residue ▸ rfl

theorem receive_of_residue {react : Reaction} {frame : String} {lines : List LogLine} {s : Scene}
    (residue : (Signal.message frame).residue? s.client.state = some lines) :
    s.receive react frame = s.logAll lines := by
  rw [Signal.residue?] at residue
  rw [receive]
  cases decoded : Message.decode frame with
  | ok m =>
      rw [decoded] at residue
      obtain ⟨rest, hrest, rfl⟩ := Option.map_eq_some_iff.1 residue
      have dispatched : (s.log (.received frame)).dispatch react m =
          (s.log (.received frame)).logAll rest := dispatch_of_residue hrest
      exact dispatched.trans (by simp [logAll, log, note])
  | error e =>
      rw [decoded] at residue
      cases e <;> exact Option.some.inj residue ▸ rfl

/-- **What is logged of a signal that comes to nothing is all that comes of it.** -/
theorem obey_of_residue {react : Reaction} {n : Nat} {signal : Signal} {lines : List LogLine}
    {s : Scene} (residue : signal.residue? s.client.state = some lines) :
    s.obey react n signal = s.logAll lines := by
  cases signal with
  | message frame => exact receive_of_residue residue
  | _ => exact absurd residue (by simp [Signal.residue?])

/-- So it is when the handler of the latest connection is called. -/
theorem outright_of_residue {react : Reaction} {n : Nat} {signal : Signal} {lines : List LogLine}
    {s : Scene} (listens : s.listensTo n = true)
    (residue : signal.residue? s.client.state = some lines) :
    outright react n signal s = (s.called n signal).logAll lines := by
  let busy := s.update n fun c => { c with running := c.running + 1 }
  have listens : busy.listensTo n = true := by
    rw [← listens]
    exact congrFun (Steady.update .entered n s).listensTo n
  have delivered : busy.deliver react n signal = (busy.called n signal).logAll lines := by
    rw [deliver_of_listens listens]
    exact obey_of_residue residue
  have idle : busy.update n (fun c => { c with running := c.running - 1 }) = s := update_over n s
  calc outright react n signal s
      = ((busy.called n signal).logAll lines).update n
          (fun c => { c with running := c.running - 1 }) := by
        rw [← delivered]
        rfl
    _ = ((busy.update n fun c => { c with running := c.running - 1 }).called n signal).logAll
          lines := rfl
    _ = (s.called n signal).logAll lines := by rw [idle]

/-! ### Steps without one such frame -/

/-- Whether a call of a handler is the `k`-th of all, goes through the latest connection, and comes
to nothing. -/
def omits (k n : Nat) (signal : Signal) (s : Scene) : Bool :=
  s.calls.length == k && s.listensTo n && (signal.residue? s.client.state).isSome

theorem of_omits {k n : Nat} {signal : Signal} {s : Scene} (h : s.omits k n signal = true) :
    ∃ frame lines, signal = .message frame ∧ s.calls.length = k ∧ s.listensTo n = true ∧
      (Signal.message frame).residue? s.client.state = some lines := by
  simp only [omits, Bool.and_eq_true, beq_iff_eq, Option.isSome_iff_exists] at h
  obtain ⟨⟨here, listens⟩, lines, residue⟩ := h
  cases signal with
  | message frame => exact ⟨frame, lines, rfl, here, listens, residue⟩
  | _ => exact absurd residue (by simp [Signal.residue?])

/-- Handlers are called outright, but for the `k`-th call of all: if it goes through the latest
connection and comes to nothing, it is counted, and does not take place. -/
def callBut (k : Nat) : Calling := fun react n signal s =>
  if s.omits k n signal then s.called n signal else outright react n signal s

/-- Performs a step and all that is nested in it, but for the `k`-th call of a handler, if that goes
through the latest connection and comes to nothing. -/
def performBut (k : Nat) : Nat → Performance := performBy (callBut k)

theorem Akin.omits {margin : Margin} {s t : Scene} (h : Akin margin s t)
    (calls : s.calls.length = t.calls.length) (k n : Nat) (signal : Signal) :
    s.omits k n signal = t.omits k n signal := by
  rw [Scene.omits, Scene.omits, listensTo, listensTo, calls, h.gone, h.network, h.client]

end Scene

/-! ### What one account tells and another does not -/

/-- One account tells what another tells, and in one place what is logged of a frame that comes to
nothing. -/
def TellsOf (frame : String) (a b : List Occurrence) : Prop :=
  ∃ state lines before after, (Signal.message frame).residue? state = some lines ∧
    a = before ++ lines.map Occurrence.log ++ after ∧ b = before ++ after

theorem TellsOf.concat {frame : String} {a b : List Occurrence} (h : TellsOf frame a b)
    (o : Occurrence) : TellsOf frame (a ++ [o]) (b ++ [o]) := by
  obtain ⟨state, lines, before, after, residue, rfl, rfl⟩ := h
  exact ⟨state, lines, before, after ++ [o], residue, by simp, by simp⟩

namespace Scene

/-- The same was counted, and accounts may differ in what is logged of the frame of the `k`-th call,
once that is counted. -/
def Margin.around (k : Nat) : Margin where
  Allows a c b d := c = d ∧
    (a = b ∨
      ∃ n frame, c.reverse[k]? = some (n, .message frame) ∧ TellsOf frame a.reverse b.reverse)
  note o h := by
    obtain ⟨calls, rfl | ⟨n, frame, call, tells⟩⟩ := h
    · exact ⟨calls, .inl rfl⟩
    · rw [List.reverse_cons, List.reverse_cons]
      exact ⟨calls, .inr ⟨n, frame, call, tells.concat o⟩⟩
  call n signal h := by
    obtain ⟨rfl, same | ⟨n', frame, call, tells⟩⟩ := h
    · exact ⟨rfl, .inl same⟩
    · refine ⟨rfl, .inr ⟨n', frame, ?_, tells⟩⟩
      rw [List.reverse_cons, List.getElem?_append_left (List.getElem?_eq_some_iff.1 call).1, call]

/-- Nothing differs, and the `k`-th call was counted. -/
def Margin.past (k : Nat) : Margin where
  Allows a c b d := a = b ∧ c = d ∧ k < c.length
  note _ h := by
    obtain ⟨rfl, calls⟩ := h
    exact ⟨rfl, calls⟩
  call _ _ h := by
    obtain ⟨same, rfl, past⟩ := h
    exact ⟨same, rfl, Nat.lt_succ_of_lt past⟩

/-- The `k`-th call is counted, and leaves its lines in one of two accounts. -/
theorem akinCalls_around (k : Nat) : AkinCalls (.around k) outright (callBut k) := by
  intro react react' reactions n signal s t h
  obtain ⟨calls, accounts⟩ := h.allowed
  rw [callBut, ← h.omits (congrArg List.length calls)]
  split
  next omits =>
    obtain ⟨frame, lines, rfl, here, listens, residue⟩ := of_omits omits
    rw [outright_of_residue listens residue]
    rcases accounts with same | ⟨_, _, call, -⟩
    · have last : ((n, Signal.message frame) :: s.calls).reverse[k]? =
          some (n, .message frame) := by
        rw [← here, List.reverse_cons, ← List.length_reverse, List.getElem?_concat_length]
      refine ⟨h.client, h.gone, h.network, h.roster, h.sends, h.requests,
        congrArg (List.cons (n, Signal.message frame)) calls, .inr ⟨n, frame, last, ?_⟩⟩
      exact ⟨s.client.state, lines, s.account.reverse, [], residue, by simp [logAll, called],
        by simp [called, same]⟩
    · -- the accounts are still the same, as the `k`-th call was not counted before
      have counted := (List.getElem?_eq_some_iff.1 call).1
      rw [List.length_reverse, here] at counted
      exact absurd counted (Nat.lt_irrefl k)
  · exact akinCalls_outright reactions n signal h

/-- No call but the `k`-th is left out. -/
theorem akinCalls_past (k : Nat) : AkinCalls (.past k) outright (callBut k) := by
  intro react react' reactions n signal s t h
  obtain ⟨-, calls, past⟩ := h.allowed
  have kept : t.omits k n signal = false := by
    rw [calls] at past
    simp [Scene.omits, Nat.ne_of_gt past]
  rw [callBut, if_neg (by simp [kept])]
  exact akinCalls_outright reactions n signal h

theorem akinActs_performBut_around (k depth : Nat) :
    AkinActs (.around k) (perform depth) (performBut k depth) := by
  rw [← performBy_outright]
  exact akinActs_performBy (akinCalls_around k) depth

theorem akinActs_performBut_past (k depth : Nat) :
    AkinActs (.past k) (perform depth) (performBut k depth) := by
  rw [← performBy_outright]
  exact akinActs_performBy (akinCalls_past k) depth

/-- Scenes that are akin, and in which the same was counted, are the same but for their accounts. -/
theorem Akin.eq_withAccount {margin : Margin} {s t : Scene} (h : Akin margin s t)
    (calls : s.calls = t.calls) : s = { t with account := s.account } := by
  obtain ⟨client, gone, network, roster, sends, requests, -⟩ := h
  cases s
  cases t
  simp_all

theorem Akin.eq_of_account {margin : Margin} {s t : Scene} (h : Akin margin s t)
    (calls : s.calls = t.calls) (account : s.account = t.account) : s = t := by
  rw [h.eq_withAccount calls, account]

end Scene

/-! ### Whole runs -/

open Scene

/-- Two results of a command, each a report with the scene after it, that are the same but for what
is logged of the frame of the `k`-th call. -/
structure ApartBy (k : Nat) (r r' : Report × Scene) : Prop where
  outcome : r.1.outcome = r'.1.outcome
  state : r.1.state = r'.1.state
  isConnected : r.1.isConnected = r'.1.isConnected
  scene : r.2 = { r'.2 with account := r.2.account }
  account : ∃ n frame, r.2.calls.reverse[k]? = some (n, .message frame) ∧
    TellsOf frame r.1.account r'.1.account

/-- What is reported when a command is done, with the scene after it. -/
def Report.upon (r : Scene × Outcome) : Report × Scene :=
  ({ outcome := r.2, state := r.1.state?, isConnected := r.1.connected?,
     account := r.1.account.reverse }, r.1)

theorem Script.course_cons (act : Performance) (command : Command) (rest : Script) (s : Scene) :
    course act (command :: rest) s =
      Report.upon (command.performWith act { s with account := [] }) ::
        course act rest (command.performWith act { s with account := [] }).1 := rfl

/-- What a script does does not depend on what was noted before. -/
theorem Script.course_of_account (act : Performance) (script : Script) (s : Scene)
    (account : List Occurrence) :
    script.course act { s with account } = script.course act s := by
  cases script <;> rfl

/-- Once the `k`-th call is counted, nothing is left out any more. -/
theorem Script.course_performBut_of_past {k : Nat} (depth : Nat) (script : Script) {s : Scene}
    (past : k < s.calls.length) :
    script.course (performBut k depth) s = script.course (perform depth) s := by
  induction script generalizing s with
  | nil => rfl
  | cons command rest ih =>
      have started : Akin (.past k) { s with account := [] } { s with account := [] } :=
        ⟨rfl, rfl, rfl, rfl, rfl, rfl, rfl, rfl, past⟩
      obtain ⟨later, outcome⟩ := (akinActs_performBut_past k depth).performWith command started
      obtain ⟨account, calls, past⟩ := later.allowed
      have same := Prod.ext (later.eq_of_account calls account) outcome
      rw [course_cons, course_cons, ← same, ih past]

/-- **A run, and the run in which the frame of the `k`-th call does not arrive if it comes to
nothing, are the same but for one result at most**, and that one but for the lines on this frame. -/
theorem Script.course_performBut (k depth : Nat) (script : Script) (s : Scene) :
    script.course (perform depth) s = script.course (performBut k depth) s ∨
      ∃ before r r' after, ApartBy k r r' ∧
        script.course (perform depth) s = before ++ r :: after ∧
        script.course (performBut k depth) s = before ++ r' :: after := by
  induction script generalizing s with
  | nil => exact .inl rfl
  | cons command rest ih =>
      have started : Akin (.around k) { s with account := [] } { s with account := [] } :=
        ⟨rfl, rfl, rfl, rfl, rfl, rfl, rfl, .inl rfl⟩
      obtain ⟨later, outcome⟩ := (akinActs_performBut_around k depth).performWith command started
      rw [course_cons, course_cons]
      generalize command.performWith (perform depth) { s with account := [] } = x at later outcome
      generalize command.performWith (performBut k depth) { s with account := [] } = y
        at later outcome
      obtain ⟨calls, account | ⟨n, frame, call, tells⟩⟩ := later.allowed
      · -- the call is not in this command, or nothing was left out of it
        rw [← Prod.ext (later.eq_of_account calls account) outcome]
        rcases ih x.1 with same | ⟨before, r, r', after, apart, with_, without⟩
        · exact .inl (by rw [same])
        · exact .inr ⟨_ :: before, r, r', after, apart, by rw [with_]; rfl, by rw [without]; rfl⟩
      · -- the call is in this command, and all that follows is the same
        have scene := later.eq_withAccount calls
        have past : k < y.1.calls.length := by
          rw [← calls, ← List.length_reverse]
          exact (List.getElem?_eq_some_iff.1 call).1
        refine .inr ⟨[], Report.upon x, Report.upon y, course (perform depth) rest x.1,
          ⟨outcome, later.state?, later.connected?, scene, n, frame, call, tells⟩, rfl, ?_⟩
        rw [course_performBut_of_past depth rest past,
          ← course_of_account (perform depth) rest y.1 x.1.account, ← scene]
        rfl

/-! ### Commands that bring nothing but such a frame -/

/-- Reports that agree in all that is kept are the same if everything is. -/
theorem Report.SameBut.eq {r r' : Report} (h : r.SameBut (fun _ => true) r') : r = r' := by
  obtain ⟨outcome, state, isConnected, account⟩ := h
  rw [List.filter_eq_self.2 fun _ _ => rfl, List.filter_eq_self.2 fun _ _ => rfl] at account
  cases r
  cases r'
  simp_all

/-- What a script reports depends neither on what was noted before, nor on what was counted. -/
theorem Script.runFrom_of_account_of_calls (depth : Nat) (script : Script) (s : Scene)
    (account : List Occurrence) (calls : List (Nat × Signal)) :
    runFrom depth script { s with account, calls } = runFrom depth script s := by
  have started : Alike (fun _ => true) { s with account := [], calls } { s with account := [] } :=
    ⟨rfl, rfl, rfl, rfl, rfl, rfl, rfl⟩
  have same := (alikeActs_perform depth).course script started
  rw [← map_course, ← map_course, ← course_of_account _ script _ [],
    ← course_of_account _ script s []]
  generalize script.course (perform depth) _ = reports at same ⊢
  generalize script.course (perform depth) _ = reports' at same ⊢
  induction same with
  | nil => rfl
  | cons head _ ih => rw [List.map_cons, List.map_cons, head.1.eq, ih]

/-- A frame that comes to nothing, in a step of its own. -/
theorem Scene.perform_inert (depth : Nat) {connection : Option Nat} {n : Nat} {frame : String}
    {lines : List LogLine} {s : Scene} (meant : s.meant? connection = some n)
    (alive : s.isAlive n = true) (listens : s.listensTo n = true)
    (residue : (Signal.message frame).residue? s.client.state = some lines) :
    s.perform (depth + 1) (.signal connection (.message frame)) =
      ((s.called n (.message frame)).logAll lines, .done) := by
  have called : outright (react (perform depth)) n (.message frame) s =
      (s.called n (.message frame)).logAll lines := outright_of_residue listens residue
  rw [perform, take, atHandler, atConnection, meant]
  dsimp only
  rw [if_pos alive]
  exact congrArg (·, Outcome.done) called

/-- **A command that brings a frame that comes to nothing may be left out of a script**: it reports
the lines on this frame, and what follows is reported as without it. -/
theorem Script.runFrom_inert (depth : Nat) {connection : Option Nat} {n : Nat} {frame : String}
    {lines : List LogLine} {s : Scene} (after : Script) (meant : s.meant? connection = some n)
    (alive : s.isAlive n = true) (listens : s.listensTo n = true)
    (residue : (Signal.message frame).residue? s.client.state = some lines) :
    runFrom (depth + 1) (.step (.signal connection (.message frame)) :: after) s =
      { outcome := .done, state := s.state?, isConnected := s.connected?,
        account := lines.map Occurrence.log } :: runFrom (depth + 1) after s := by
  have performed : perform (depth + 1) (.signal connection (.message frame))
      { s with account := [] } = ({ s with
        account := (lines.map Occurrence.log).reverse
        calls := (n, .message frame) :: s.calls }, .done) :=
    (perform_inert depth (s := { s with account := [] }) meant alive listens residue).trans
      (by simp [logAll, called])
  rw [runFrom, report, Command.perform, performed]
  refine congrArg₂ List.cons ?_ (runFrom_of_account_of_calls _ _ _ _ _)
  rw [List.reverse_reverse]
  rfl

/-- **Frames that come to nothing leave no trace but their log lines.**  These are the frames that
cannot be read, that are of a class that nothing is done about, or that bring news of the conference
before the channel is ready.

Wherever the handler of the latest connection is called with such a frame, the scene is the same
after it but for the lines on this frame.  In every run, and for every call of a handler in it, at
any depth of nesting: if the call goes through the latest connection and brings such a frame, then
leaving it out changes no report and no scene but for these lines, which stand together in one
report.  A command that brings such a frame may be left out of a script as a whole. -/
theorem inert_harmless (config : Config) (script : Script) (depth k : Nat) :
    (∀ state frame, ((Signal.message frame).residue? state).isSome ↔
      (∃ e, Message.decode frame = .error e) ∨
        ∃ m, Message.decode frame = .ok m ∧
          (m.class? ∈ MessageClass.ignored ∨
            m.class? ∈ MessageClass.awaiting ∧ state ≠ .ready)) ∧
    (∀ (react : Reaction) (n : Nat) (frame : String) (lines : List LogLine) (s : Scene),
      s.listensTo n = true → (Signal.message frame).residue? s.client.state = some lines →
      s.engaged n (deliver react n (.message frame)) =
        { s with
          account := (lines.map Occurrence.log).reverse ++ s.account
          calls := (n, .message frame) :: s.calls }) ∧
    (script.course (perform depth) (.start config)).map Prod.fst =
      script.runFrom depth (.start config) ∧
    (script.course (perform depth) (.start config) =
        script.course (performBut k depth) (.start config) ∨
      ∃ before r r' after, ApartBy k r r' ∧
        script.course (perform depth) (.start config) = before ++ r :: after ∧
        script.course (performBut k depth) (.start config) = before ++ r' :: after) ∧
    ∀ (s : Scene) (connection : Option Nat) (n : Nat) (frame : String) (lines : List LogLine)
      (after : Script), s.meant? connection = some n → s.isAlive n = true →
      s.listensTo n = true → (Signal.message frame).residue? s.client.state = some lines →
      Script.runFrom (depth + 1) (.step (.signal connection (.message frame)) :: after) s =
        { outcome := .done, state := s.state?, isConnected := s.connected?,
          account := lines.map Occurrence.log } :: Script.runFrom (depth + 1) after s :=
  ⟨Signal.residue?_message_isSome_iff,
    fun _ _ _ _ _ listens residue => outright_of_residue listens residue,
    script.map_course depth _, script.course_performBut k depth _,
    fun _ _ _ _ _ after meant alive listens residue =>
      after.runFrom_inert depth meant alive listens residue⟩

/-- An observer answers the news that the channel is ready with a frame that cannot be read, so that
it arrives in the midst of the greeting: without it, its two lines are missing in the report on the
greeting, and nothing else. -/
theorem inert_harmless_within_greeting :
    let config : Config := ⟨"wss://bridge/channel", "a", .ofSeconds 10, .ofSeconds 2⟩
    let script : Script :=
      [.step (.observe "o" [(.connected, .signal none (.message "nonsense"))] 1),
        .step (.connect {} []),
        .step (.signal none (.message "\x7b\"colibriClass\":\"ServerHello\"\x7d")), .step .query]
    let told := fun r : Report × Scene => r.1.account.length
    ((script.course (perform 3) (.start config)).map told = [0, 5, 13, 0] ∧
      (script.course (performBut 2 3) (.start config)).map told = [0, 5, 11, 0]) ∧
    ∃ before r r' after, ApartBy 2 r r' ∧
      script.course (perform 3) (.start config) = before ++ r :: after ∧
      script.course (performBut 2 3) (.start config) = before ++ r' :: after := by
  intro config script told
  have all : (script.course (perform 3) (.start config)).map told = [0, 5, 13, 0] := by
    decide +kernel
  have but : (script.course (performBut 2 3) (.start config)).map told = [0, 5, 11, 0] := by
    decide +kernel
  refine ⟨⟨all, but⟩, (inert_harmless config script 3 2).2.2.2.1.resolve_left fun same => ?_⟩
  rw [same, but] at all
  exact absurd all (by decide)

end BridgeChannel
