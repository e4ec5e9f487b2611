/-
**Every connection closes once.**

Between the occasions of a run, no handler is called and nobody is told anything, so that whatever a
client and its observers go through over WebSocket is the sum of its occasions: attempts that
overlap, calls of `disconnect`, streams that end or break off, in any order.

The handler of each connection is called in order, and its close comes last.  An observer that is
registered once is told of as many closes as connections were opened at most, each time with the
status of the connection that closes, and is told nothing any more that stems from that connection.

Main definitions:

* `Scene.Occasions`, `Script.Occasions` — the occasions between two scenes, and those of a script;
* `Scene.Befits` — an occasion that comes where those before it lead;
* `Script.Wired` — a script over WebSocket, with an observer that is registered once at most.

Main results:

* `Occasions.recounts`, `Occasions.tracks` — what the occasions of a run tell of it;
* `spans_perform`, `Script.Wired.exists_occasions` — **every run over WebSocket has its occasions**;
* `closed_once_each` — **one close for each connection, and no news of it after that**.
-/
import BridgeChannel.Proofs.Client.Occasions

set_option autoImplicit false

namespace BridgeChannel

namespace Scene

/-! ### All occasions between two scenes -/

/-- The occasions between two scenes.  In between, no handler is called, the observer of a name is
told nothing, and no reader takes anything. -/
inductive Occasions (name : String) (s : Scene) : List Occasion → Scene → Prop
  | start : Occasions name s [] s
  | aside {history : List Occasion} {t u : Scene} (earlier : Occasions name s history t)
      (quiet : Tells name [] t u) : Occasions name s history u
  | occasion {history : List Occasion} {o : Occasion} (earlier : Occasions name s history o.before)
      (lawful : Lawful name o) : Occasions name s (history ++ [o]) o.after

/-- Something lawful happens, where every connection is as far as the occasions before tell. -/
def Befits (name : String) (passed : List Occasion) (o : Occasion) : Prop :=
  Tracks passed o.before ∧ Lawful name o

namespace Occasions

variable {name : String} {s t u : Scene} {history history' : List Occasion}

theorem append (h : Occasions name s history t) (h' : Occasions name t history' u) :
    Occasions name s (history ++ history') u := by
  induction h' with
  | start => simpa using h
  | aside _ quiet ih => exact ih.aside quiet
  | occasion _ lawful ih =>
      rw [← List.append_assoc]
      exact ih.occasion lawful

/-- **A run is told by its occasions**: nobody is called in between, and nobody is told anything. -/
theorem recounts (h : Occasions name s history t) :
    Grows s t ∧ toldTo name (s.since t) = history.flatMap (Occasion.told name) ∧
      s.callsSince t = history.flatMap Occasion.callbacks := by
  induction h with
  | start => exact ⟨.refl s, by rw [since_self]; rfl, callsSince_eq_nil rfl⟩
  | aside _ quiet ih =>
      obtain ⟨grows, told, called⟩ := ih
      refine ⟨grows.trans quiet.toGrows, ?_, ?_⟩
      · rw [since_trans grows quiet.toGrows, toldTo_append, told, quiet.told, List.append_nil]
      · rw [callsSince_trans grows quiet.toGrows, called, callsSince_eq_nil quiet.uncalled,
          List.append_nil]
  | @occasion history o _ lawful ih =>
      obtain ⟨grows, told, called⟩ := ih
      have later := lawful.brings.toGrows
      refine ⟨grows.trans later, ?_, ?_⟩
      · rw [since_trans grows later, toldTo_append, told, List.flatMap_append,
          List.flatMap_singleton]
        rfl
      · rw [callsSince_trans grows later, called, List.flatMap_append, List.flatMap_singleton]
        rfl

/-- **How far connections are in the course of a run and at its end**, if they are as far as some
earlier occasions tell at the beginning. -/
theorem tracks (h : Occasions name s history t) {past : List Occasion} (before : Tracks past s) :
    Along (Befits name) past history ∧ Tracks (past ++ history) t := by
  induction h with
  | start => exact ⟨.nil, by simpa using before⟩
  | aside _ quiet ih =>
      obtain ⟨along, tracks⟩ := ih
      refine ⟨along, fun n => ?_⟩
      rw [quiet.uncalled, quiet.wires]
      exact tracks n
  | @occasion history o _ lawful ih =>
      obtain ⟨along, tracks⟩ := ih
      refine ⟨along.append (.singleton ⟨tracks, lawful⟩), ?_⟩
      rw [← List.append_assoc]
      exact lawful.tracks tracks

end Occasions

/-! ### Every run has its occasions -/

/-- One scene leads to another by some occasions, if the observer of a name is registered so many
times at most; and it still is. -/
def Spans (name : String) (k : Nat) (s t : Scene) : Prop :=
  s.roster.Limited name k → t.roster.Limited name k ∧ ∃ history, Occasions name s history t

theorem tolerant_spans (name : String) (k : Nat) : Tolerant name (Spans name k) where
  trans h h' limited := by
    obtain ⟨limited, history, h⟩ := h limited
    obtain ⟨limited, history', h'⟩ := h' limited
    exact ⟨limited, history ++ history', h.append h'⟩
  quiet h limited := ⟨h.heeds.limited k limited, [], .aside .start h.toTells⟩

section Spans

variable {name : String} {k : Nat}

theorem spans_opens {plan : Attempt} (wired : plan.announced = plan.connectError.isNone)
    (s : Scene) : Spans name k s (s.answered plan quietly) := fun limited =>
  ⟨(ushered_answered name plan s).heeds.limited k limited, _, .occasion .start (.opens s wired)⟩

/-- Nothing comes of an item if there is no connection, or if it could not be opened. -/
theorem spans_reads (few : k ≤ 1) (depth : Nat) (n : Nat) (item : Option WebSocket.StreamItem)
    (s : Scene) : Spans name k s (s.read (react (perform depth)) n item) := by
  intro limited
  cases known : s.network[n]? with
  | none =>
      have unread : s.read (react (perform depth)) n item = s := by simp [read, known]
      rw [unread]
      exact ⟨limited, [], .start⟩
  | some c =>
      cases opened : c.conduct.connectError with
      | some e =>
          have unread : s.read (react (perform depth)) n item = s := by simp [read, known, opened]
          rw [unread]
          exact ⟨limited, [], .start⟩
      | none =>
          have once := limited.mono few
          exact ⟨(taken_read depth known opened once item).heeds.limited k limited, _,
            .occasion .start (.reads depth known opened once item)⟩

/-- **An attempt has its occasions, if what happens in its midst does.** -/
theorem spans_connect {between : Interludes} (hbetween : ∀ m s, Spans name k s (between m s))
    {plan : Attempt} (wired : plan.announced = plan.connectError.isNone) (s : Scene) :
    Spans name k s (s.connect plan between).1 := by
  have tolerant := tolerant_spans name k
  have cleared : Spans name k s (s.cleared between) := by
    have torn : Spans name k s ((s.move .beginConnect).teardown between) :=
      tolerant.trans (tolerant.quiet (.move _ s)) (tolerant.teardown hbetween _)
    exact tolerant.trans (tolerant.trans torn (tolerant.quiet (.log _ _))) (hbetween .creating _)
  rcases connect_cases plan between s with hc | hc | ⟨-, -, ⟨e, -, hc⟩ | ⟨-, hc⟩⟩
  · rw [hc]
    exact tolerant.quiet (.log _ s)
  · rw [hc]
    exact tolerant.quiet (.log _ s)
  · rw [hc]
    exact tolerant.trans cleared
      (tolerant.quiet (((Relays.note rfl _).before (.log _ _)).before (.move _ _)))
  · rw [hc]
    -- the transport hands its session over before anything else happens
    have answered : ∀ t : Scene, Spans name k t (t.answered plan between) := fun t =>
      tolerant.trans (spans_opens wired t) (hbetween .opening _)
    exact tolerant.trans (tolerant.trans cleared (answered _)) (tolerant.concluded plan _ _)

/-- **Every step that can happen over WebSocket has its occasions**, at any depth of nesting. -/
theorem spans_perform (few : k ≤ 1) (depth : Nat) {step : Step} (wired : step.isWired name = true)
    (s : Scene) : Spans name k s (s.perform depth step).1 := by
  induction depth generalizing step s with
  | zero => exact (tolerant_spans name k).refl s
  | succ depth ih =>
      cases step with
      | connect plan during =>
          rcases take_cases (perform depth) (.connect plan during) s with same | effect
          · rw [perform, same]
            exact (tolerant_spans name k).refl s
          · rw [perform]
            generalize (take (perform depth) (.connect plan during) s).1 = t at effect
            obtain ⟨announced, nested⟩ :
                (plan.announced == plan.connectError.isNone) = true ∧
                  Step.areWired name during = true := by
              simpa only [Step.isWired, Bool.and_eq_true] using wired
            cases effect
            refine spans_connect (fun m s => ?_) (beq_iff_eq.1 announced) s
            refine (tolerant_spans name k).nestAll (fun step hstep s => ?_) s
            obtain ⟨d, hd, rfl⟩ := List.mem_map.1 hstep
            exact ih (Step.isWired_of_mem nested d (List.mem_filter.1 hd).1) s
      | signal connection signal => exact absurd wired (by simp [Step.isWired])
      | stream connection item =>
          rcases take_cases (perform depth) (.stream connection item) s with same | effect
          · rw [perform, same]
            exact (tolerant_spans name k).refl s
          · rw [perform]
            generalize (take (perform depth) (.stream connection item) s).1 = t at effect
            cases effect
            exact spans_reads few depth _ item s
      | _ =>
          -- all other steps are answers
          refine (tolerant_spans name k).quiet (relays_answer (depth + 1) ?_ s)
          exact wired

theorem spans_command (few : k ≤ 1) (depth : Nat) {command : Command}
    (wired : command.isWired name = true) (s : Scene) :
    Spans name k s (command.perform depth s).1 := by
  have tolerant := tolerant_spans name k
  cases command with
  | step step => exact spans_perform few depth wired s
  | dropClient =>
      have left : ∀ t : Scene, Spans name k t (Scene.setHandler none { t with gone := true }) :=
        fun t => tolerant.quiet (.of_same rfl rfl rfl rfl)
      simp only [Command.perform, asClient]
      split
      · exact tolerant.refl s
      · rw [simply]
        rcases dropClient_cases s with dropped | ⟨-, -, dropped⟩
        · rw [dropped]
          exact tolerant.trans (tolerant.disconnect s) (left _)
        · rw [dropped]
          exact left s

/-- Nobody is registered with a new client. -/
theorem limited_start (config : Config) : (start config).roster.Limited name 0 where
  orderly := ⟨fun owner h => absurd h List.not_mem_nil, by simp [start]⟩
  known n h := absurd h List.not_mem_nil
  registered := Nat.le_refl 0
  answers o h := absurd h List.not_mem_nil

/-- An observer that does nothing but answer is registered, which is no occasion. -/
theorem registered_once (depth : Nat) {reactions : List (Event.Kind × Step)}
    (answers : ∀ reaction ∈ reactions, reaction.2.isAnswer name = true) (times : Nat) {s : Scene}
    (limited : s.roster.Limited name 0) :
    (s.perform depth (.observe name reactions times)).1.roster.Limited name 1 ∧
      Occasions name s [] (s.perform depth (.observe name reactions times)).1 := by
  cases depth with
  | zero => exact ⟨limited.mono (Nat.zero_le 1), .start⟩
  | succ depth =>
      rcases take_cases (perform depth) (.observe name reactions times) s with same | effect
      · rw [perform, same]
        exact ⟨limited.mono (Nat.zero_le 1), .start⟩
      · rw [perform]
        generalize (take (perform depth) (.observe name reactions times) s).1 = t at effect
        cases effect
        have created := limited.create { name, reactions, remaining := times } answers
        rw [if_pos rfl] at created
        exact ⟨created, .aside .start (.of_same rfl rfl rfl)⟩

end Spans

end Scene

/-! ### Scripts -/

/-- A script that can be performed over WebSocket, in which the observer of a name is registered
once at most, and all observers do nothing but answer. -/
inductive Script.Wired (name : String) : Script → Prop
  | unregistered {script : Script} (wired : script.all (Command.isWired name) = true) :
      Wired name script
  | registered {before after : Script} (wired : (before ++ after).all (Command.isWired name) = true)
      {reactions : List (Event.Kind × Step)}
      (answers : ∀ reaction ∈ reactions, reaction.2.isAnswer name = true) (times : Nat) :
      Wired name (before ++ .step (.observe name reactions times) :: after)

/-- The occasions of a script that is performed from a scene on.  The account starts anew with every
command. -/
inductive Script.Occasions (name : String) (depth : Nat) : Script → Scene → List Occasion → Prop
  | done (s : Scene) : Occasions name depth [] s []
  | command {command : Command} {rest : Script} {s : Scene} {history later : List Occasion}
      (first : Scene.Occasions name { s with account := [] } history
        (command.perform depth { s with account := [] }).1)
      (others : Occasions name depth rest (command.perform depth { s with account := [] }).1
        later) :
      Occasions name depth (command :: rest) s (history ++ later)

namespace Script

variable {name : String} {depth : Nat}

namespace Occasions

variable {script : Script} {s : Scene} {history : List Occasion}

theorem append {before after : Script} {later : List Occasion}
    (h : before.Occasions name depth s history)
    (h' : after.Occasions name depth (before.leads depth s) later) :
    (before ++ after).Occasions name depth s (history ++ later) := by
  induction h with
  | done s => exact h'
  | command first _ ih =>
      rw [List.append_assoc]
      exact .command first (ih h')

/-- A script is told by its occasions. -/
theorem recounts (h : script.Occasions name depth s history) :
    toldTo name (script.accountOf depth s) = history.flatMap (Occasion.told name) ∧
      (script.leads depth s).calls =
        (history.flatMap Occasion.callbacks).reverse ++ s.calls := by
  induction h with
  | done s => exact ⟨rfl, rfl⟩
  | @command command rest s history later first _ ih =>
      obtain ⟨grows, told, called⟩ := first.recounts
      obtain ⟨told', called'⟩ := ih
      refine ⟨?_, ?_⟩
      · rw [accountOf_cons, toldTo_append, told, told', List.flatMap_append]
      · have led : Script.leads depth (command :: rest) s =
            rest.leads depth (command.perform depth { s with account := [] }).1 := rfl
        rw [led, called', Scene.calls_of_grows grows, called, List.flatMap_append,
          List.reverse_append, List.append_assoc]

/-- How far connections are in the course of a script and at its end. -/
theorem tracks (h : script.Occasions name depth s history) {past : List Occasion}
    (before : Scene.Tracks past s) :
    Along (Scene.Befits name) past history ∧
      Scene.Tracks (past ++ history) (script.leads depth s) := by
  induction h generalizing past with
  | done s => exact ⟨.nil, by rw [List.append_nil]; exact before⟩
  | @command command rest s history later first _ ih =>
      obtain ⟨along, tracks⟩ := first.tracks before
      obtain ⟨along', tracks'⟩ := ih tracks
      refine ⟨along.append along', ?_⟩
      rw [← List.append_assoc]
      exact tracks'

/-- The occasions of a script for a new client, of whose connections nothing was heard before. -/
theorem of_start {config : Config} (h : script.Occasions name depth (.start config) history) :
    (script.leads depth (.start config)).calls.reverse = history.flatMap Occasion.callbacks ∧
      toldTo name (script.accountOf depth (.start config)) =
        history.flatMap (Occasion.told name) ∧
      Along (Scene.Befits name) [] history ∧
      Scene.Tracks history (script.leads depth (.start config)) := by
  have new : Scene.Tracks [] (Scene.start config) := fun n => ⟨rfl, rfl⟩
  obtain ⟨told, called⟩ := h.recounts
  obtain ⟨along, tracks⟩ := h.tracks new
  refine ⟨?_, told, along, tracks⟩
  rw [called, List.reverse_append, List.reverse_reverse]
  rfl

end Occasions

/-- Commands that register nobody of a name have their occasions. -/
theorem spans_commands {k : Nat} (few : k ≤ 1) (depth : Nat) {script : Script}
    (wired : script.all (Command.isWired name) = true) {s : Scene}
    (limited : s.roster.Limited name k) :
    (script.leads depth s).roster.Limited name k ∧
      ∃ history, script.Occasions name depth s history := by
  induction script generalizing s with
  | nil => exact ⟨limited, [], .done s⟩
  | cons command rest ih =>
      rw [List.all_cons, Bool.and_eq_true] at wired
      obtain ⟨limited, history, first⟩ :=
        Scene.spans_command few depth wired.1 { s with account := [] } limited
      obtain ⟨limited, later, others⟩ := ih wired.2 limited
      exact ⟨limited, history ++ later, .command first others⟩

/-- **Every script over WebSocket has its occasions.** -/
theorem Wired.exists_occasions {script : Script} (wired : script.Wired name) (config : Config)
    (depth : Nat) : ∃ history, script.Occasions name depth (.start config) history := by
  have new : (Scene.start config).roster.Limited name 0 := Scene.limited_start config
  cases wired with
  | unregistered wired => exact (spans_commands (Nat.zero_le 1) depth wired new).2
  | @registered before after wired reactions answers times =>
      rw [List.all_append, Bool.and_eq_true] at wired
      obtain ⟨unregistered, first, earlier⟩ :=
        spans_commands (Nat.zero_le 1) depth wired.1 new
      obtain ⟨registered, aside⟩ := Scene.registered_once depth answers times
        (s := { before.leads depth (.start config) with account := [] }) unregistered
      obtain ⟨-, last, later⟩ := spans_commands (Nat.le_refl 1) depth wired.2 registered
      exact ⟨_, earlier.append (.command aside later)⟩

end Script

/-! ### One close for each connection -/

section Occasions

variable {name : String} {history : List Occasion}

theorem brings_of_along (along : Along (Scene.Befits name) [] history) :
    ∀ o ∈ history, Scene.Lawful.Brings name o := by
  intro o there
  obtain ⟨passed, rest, split⟩ := List.append_of_mem there
  exact (along passed o rest split).2.brings

/-- There is no more news of closes than closes, and no more closes than connections that were
opened. -/
theorem countP_told_le_opened (brings : ∀ o ∈ history, Scene.Lawful.Brings name o)
    (few : ∀ n, (signalsOf n (history.flatMap Occasion.callbacks)).countP Signal.closes ≤
      (signalsOf n (history.flatMap Occasion.callbacks)).countP (· == .opened)) :
    (history.flatMap (Occasion.told name)).countP (fun event => event.kind == .disconnected) ≤
      (history.flatMap Occasion.callbacks).countP (fun call => call.2 == .opened) := by
  refine Nat.le_trans ?_ (countP_le_of_signalsOf few)
  clear few
  induction history with
  | nil => exact Nat.le_refl 0
  | cons o rest ih =>
      obtain ⟨first, others⟩ := List.forall_mem_cons.1 brings
      rw [List.flatMap_cons, List.flatMap_cons, List.countP_append, List.countP_append]
      exact Nat.add_le_add first.countP_told_le (ih others)

/-- After its close, the handler of a connection is not called any more. -/
theorem silent_after_close {passed rest : List Occasion} {o : Occasion} {code : UInt16}
    {reason : String}
    (inOrder : Signal.InOrder
      (signalsOf o.connection ((passed ++ o :: rest).flatMap Occasion.callbacks)))
    (closed : o.callbacks = [(o.connection, .closed code reason)]) {later : Occasion}
    (there : later ∈ rest) (brings : Scene.Lawful.Brings name later)
    (same : later.connection = o.connection) : later.callbacks = [] := by
  have signals : signalsOf o.connection ((passed ++ o :: rest).flatMap Occasion.callbacks) =
      signalsOf o.connection (passed.flatMap Occasion.callbacks) ++
        .closed code reason :: signalsOf o.connection (rest.flatMap Occasion.callbacks) := by
    rw [List.flatMap_append, List.flatMap_cons, closed, signalsOf_append, signalsOf_append]
    simp [signalsOf]
  have nothing := inOrder.last _ code reason _ signals
  rcases brings.few with uncalled | ⟨signal, called⟩
  · exact uncalled
  · have heard : signal ∈ signalsOf o.connection (rest.flatMap Occasion.callbacks) := by
      have call : (later.connection, signal) ∈ rest.flatMap Occasion.callbacks :=
        List.mem_flatMap.2 ⟨later, there, by simp [called]⟩
      exact List.mem_map.2 ⟨_, List.mem_filter.2 ⟨call, by simp [same]⟩, rfl⟩
    rw [nothing] at heard
    exact absurd heard List.not_mem_nil

end Occasions

/-- **Every connection closes once, and nobody hears of it after that.**  A script for a new client
is performed over WebSocket: attempts to connect, streams of frames and errors, calls of
`disconnect` and all others, in any order and nested in one another, but for the callbacks, each of
which is over before anything else happens.  An observer is registered once on the way, or not at
all.

The handler of every connection is called in order.  The observer is told of as many closes as
connections were opened at most.  On every occasion, one handler is called at most, and the observer
is told one piece of news at most, in that call.  If this is news of a close, then that connection
has closed, with the status that its reader has found; and on no later occasion does that connection
bring about any call or news. -/
theorem closed_once_each (config : Config) (depth : Nat) {name : String} {script : Script}
    (wired : script.Wired name) :
    let calls := (script.leads depth (.start config)).calls.reverse
    let told := toldTo name (script.accountOf depth (.start config))
    (∀ n, Signal.InOrder (signalsOf n calls)) ∧
    told.countP (fun event => event.kind == .disconnected) ≤
      calls.countP (fun call => call.2 == .opened) ∧
    (∃ history, script.Occasions name depth (.start config) history) ∧
    ∀ history, script.Occasions name depth (.start config) history →
      calls = history.flatMap Occasion.callbacks ∧
      told = history.flatMap (Occasion.told name) ∧
      ∀ passed o rest, history = passed ++ o :: rest →
        (o.callbacks = [] ∨ ∃ signal, o.callbacks = [(o.connection, signal)]) ∧
        (o.told name).length ≤ o.callbacks.length ∧
        ∀ code reason, .disconnected code reason ∈ o.told name →
          o.callbacks = [(o.connection, .closed code reason)] ∧
          WebSocket.closing (itemsOf o.connection passed).reduceOption = ⟨code, reason⟩ ∧
          ∀ later ∈ rest, later.connection = o.connection →
            later.callbacks = [] ∧ later.told name = [] := by
  intro calls told
  obtain ⟨history, occasions⟩ := wired.exists_occasions config depth
  obtain ⟨called, toldAll, along, tracks⟩ := occasions.of_start
  have inOrder : ∀ n, Signal.InOrder (signalsOf n calls) := fun n => (tracks n).inOrder
  refine ⟨inOrder, ?_, ⟨history, occasions⟩, fun history occasions => ?_⟩
  · have few : ∀ n, (signalsOf n calls).countP Signal.closes ≤
        (signalsOf n calls).countP (· == .opened) := fun n => (tracks n).closes_le
    simp only [calls, told] at few ⊢
    rw [called] at few ⊢
    rw [toldAll]
    exact countP_told_le_opened (brings_of_along along) few
  · obtain ⟨called, toldAll, along, -⟩ := occasions.of_start
    refine ⟨called, toldAll, fun passed o rest split => ?_⟩
    obtain ⟨before, lawful⟩ := along passed o rest split
    refine ⟨lawful.brings.few, lawful.brings.length_told, fun code reason news => ?_⟩
    have closed := lawful.brings.called_of_told news
    refine ⟨closed, lawful.outcome before (by simp [closed]), fun later there same => ?_⟩
    have brings := brings_of_along along later (by simp [split, there])
    simp only [calls] at inOrder
    rw [called, split] at inOrder
    have uncalled := silent_after_close (inOrder _) closed there brings same
    exact ⟨uncalled, brings.untold uncalled⟩

/-- Two connections are opened and greeted, the second one while it is still being opened.  The
first one is disconnected and ends; its close frame gives no status.  The second one closes by
itself, and one more text comes behind its close frame.  The observer answers by disconnecting
once. -/
theorem closed_once_each_twice :
    let config : Config := ⟨"wss://bridge/channel", "a", .ofSeconds 10, .ofSeconds 2⟩
    let text := "\x7b\"colibriClass\":\"ServerHello\"\x7d"
    let reactions : List (Event.Kind × Step) := [(.disconnected, .disconnect)]
    let before : Script := [.step (.connect {} [])]
    let after : Script := [.step (.stream (some 0) (some (.ok (.text text)))), .step .disconnect,
      .step (.stream (some 0) (some (.ok (.close none)))), .step (.stream (some 0) none),
      .step (.connect {} [(.opening, .stream (some 1) (some (.ok (.text text))))]),
      .step (.stream (some 1) (some (.ok (.close (some ⟨4001, "bye"⟩))))),
      .step (.stream (some 1) (some (.ok (.text "late")))), .step (.stream (some 1) none),
      .step (.stream (some 1) none)]
    let script := before ++ .step (.observe "a" reactions 1) :: after
    let calls := (script.leads 2 (.start config)).calls.reverse
    let told := toldTo "a" (script.accountOf 2 (.start config))
    script.Wired "a" ∧
    calls = [(0, .opened), (0, .message text), (0, .closed 1005 ""), (1, .opened),
      (1, .message text), (1, .message "late"), (1, .closed 4001 "bye")] ∧
    told.map Event.kind = [.connected, .disconnected, .connected, .disconnected] ∧
    (∀ n, Signal.InOrder (signalsOf n calls)) ∧
    told.countP (fun event => event.kind == .disconnected) ≤
      calls.countP (fun call => call.2 == .opened) ∧
    ∃ history, script.Occasions "a" 2 (.start config) history ∧
      calls = history.flatMap Occasion.callbacks := by
  intro config text reactions before after script calls told
  have wired : script.Wired "a" := by
    refine .registered (by decide +kernel) ?_ 1
    simp [reactions, Step.isAnswer]
  obtain ⟨inOrder, few, ⟨history, occasions⟩, tells⟩ := closed_once_each config 2 wired
  exact ⟨wired, by decide +kernel, by decide +kernel, inOrder, few, history, occasions,
    (tells history occasions).1⟩

end BridgeChannel
