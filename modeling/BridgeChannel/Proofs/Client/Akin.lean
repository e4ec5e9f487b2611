/-
**Scenes that differ in what is beside the point.**

Nothing that happens depends on the account, or on the calls of handlers that were counted.  Two
scenes that agree in everything else stay so, whatever is done in both: each step has the same
outcome in both, notes the same, and counts the same.  A margin says how accounts and counted calls
may differ; it stays as it is over all of this.  So what is nested in two steps may be replaced, and
so may the way in which handlers are called, as long as it takes scenes that are akin to scenes that
are akin.

Main definitions:

* `Scene.Margin` — how accounts and calls may differ;
* `Scene.Akin` — two scenes that differ within a margin only;
* `Scene.AkinMeanwhile`, `Scene.AkinActs`, `Scene.AkinCalls` — two ways to go on in the midst of a
  step, and two ways to call handlers, that take scenes that are akin to scenes that are akin;
* `Scene.performBy` — steps, given how handlers are called.

Main results:

* `Akin.connect`, `Akin.disconnect`, `Akin.deliver`, `Akin.readBy` — attempts to connect, and
  signals;
* `AkinActs.takeBy`, `akinActs_performBy` — **steps, at any depth of nesting**.
-/
import BridgeChannel.Proofs.Client.Attempt

set_option autoImplicit false

namespace BridgeChannel.Scene

/-! ### Ways to call a handler -/

/-- A way to call the handler of a connection, given how observers react. -/
abbrev Calling := Reaction → Nat → Signal → Scene → Scene

/-- The handler of a connection is called, and exists until the call is over. -/
def outright : Calling := fun react n signal s => s.engaged n (deliver react n signal)

/-- The reader of a connection takes an item, given how the handler is called. -/
def readBy (call : Nat → Signal → Scene → Scene) (n : Nat) (item : Option WebSocket.StreamItem)
    (s : Scene) : Scene :=
  match s.network[n]? with
  | none => s
  | some c =>
    if c.conduct.connectError.isSome then s
    else
      let (reader, signal) := c.reader.advance (s.isAlive n) item
      let s := s.update n fun c => { c with reader, isOpen := c.isOpen && !reader.hasClosed }
      match signal with
      | some signal => call n signal s
      | none => s

/-- A call that is over leaves the connection as it was. -/
theorem update_over (n : Nat) (s : Scene) :
    (s.update n fun c => { c with running := c.running + 1 }).update n
      (fun c => { c with running := c.running - 1 }) = s := by
  have idle : (fun c : Connection => { c with running := c.running - 1 }) ∘
      (fun c : Connection => { c with running := c.running + 1 }) = id := rfl
  simp [update, List.modify_modify_eq, idle]

/-- Performs a step, given how handlers are called and how nested steps are performed. -/
def takeBy (call : Calling) (act : Performance) : Performance
  | .signal connection signal, s => s.atHandler connection (call (react act) · signal)
  | .stream connection item, s =>
    s.atConnection connection fun n => simply (readBy (call (react act)) n item)
  | step, s => take act step s

/-- Performs a step and all that is nested in it, given how handlers are called. -/
def performBy (call : Calling) : Nat → Performance
  | 0 => fun _ s => (s, .exhausted)
  | depth + 1 => takeBy call (performBy call depth)

theorem takeBy_outright (act : Performance) : takeBy outright act = take act := by
  funext step s
  cases step <;> rfl

/-- Steps are performed by calling handlers outright. -/
theorem performBy_outright (depth : Nat) : performBy outright depth = perform depth := by
  induction depth with
  | zero => rfl
  | succ depth ih => rw [performBy, ih, takeBy_outright, perform]

/-! ### Scenes that are akin -/

/-- How the accounts of two scenes, and the calls that were counted in them, may differ.  It
outlasts whatever both take note of, and whatever both count. -/
structure Margin where
  /-- Whether an account and calls may stand beside another account and other calls. -/
  Allows : List Occurrence → List (Nat × Signal) → List Occurrence → List (Nat × Signal) → Prop
  note : ∀ {a c b d} (o : Occurrence), Allows a c b d → Allows (o :: a) c (o :: b) d
  call : ∀ {a c b d} (n : Nat) (signal : Signal), Allows a c b d →
    Allows a ((n, signal) :: c) b ((n, signal) :: d)

/-- Two scenes that differ within a margin only. -/
structure Akin (margin : Margin) (s t : Scene) : Prop where
  client : s.client = t.client
  gone : s.gone = t.gone
  network : s.network = t.network
  roster : s.roster = t.roster
  sends : s.sends = t.sends
  requests : s.requests = t.requests
  allowed : margin.Allows s.account s.calls t.account t.calls

/-- Two ways to go on at the points of an attempt that keep scenes akin. -/
def AkinMeanwhile (margin : Margin) (between between' : Interludes) : Prop :=
  ∀ m {s t}, Akin margin s t → Akin margin (between m s) (between' m t)

/-- Two scenes that are akin, with the same outcome. -/
def AkinResults (margin : Margin) (r r' : Scene × Outcome) : Prop :=
  Akin margin r.1 r'.1 ∧ r.2 = r'.2

/-- Two ways to perform nested steps that keep scenes akin and have the same outcomes. -/
def AkinActs (margin : Margin) (act act' : Performance) : Prop :=
  ∀ step {s t}, Akin margin s t → AkinResults margin (act step s) (act' step t)

/-- Two reactions that keep scenes akin. -/
def AkinReactions (margin : Margin) (react react' : Reaction) : Prop :=
  ∀ n event {s t}, Akin margin s t → Akin margin (react n event s) (react' n event t)

/-- Two ways to call handlers that keep scenes akin if the reactions of observers do. -/
def AkinCalls (margin : Margin) (call call' : Calling) : Prop :=
  ∀ {react react'}, AkinReactions margin react react' → ∀ n signal {s t}, Akin margin s t →
    Akin margin (call react n signal s) (call' react' n signal t)

namespace Akin

variable {margin : Margin} {s t : Scene}

/-! ### Questions -/

theorem isOpen (h : Akin margin s t) (n : Nat) : s.isOpen n = t.isOpen n := by
  rw [Scene.isOpen, Scene.isOpen, h.network]

theorem isReleased (h : Akin margin s t) (n : Nat) : s.isReleased n = t.isReleased n := by
  rw [Scene.isReleased, Scene.isReleased, h.network]

theorem conduct (h : Akin margin s t) (n : Nat) : s.conduct n = t.conduct n := by
  rw [Scene.conduct, Scene.conduct, h.network]

theorem isAlive (h : Akin margin s t) (n : Nat) : s.isAlive n = t.isAlive n := by
  rw [Scene.isAlive, Scene.isAlive, h.client, h.network]

theorem openSession? (h : Akin margin s t) : s.openSession? = t.openSession? := by
  rw [Scene.openSession?, Scene.openSession?, h.client, funext h.isOpen]

theorem state? (h : Akin margin s t) : s.state? = t.state? := by
  rw [Scene.state?, Scene.state?, h.client, h.gone]

theorem connected? (h : Akin margin s t) : s.connected? = t.connected? := by
  rw [Scene.connected?, Scene.connected?, Scene.isConnected, Scene.isConnected, h.client, h.gone,
    h.openSession?]

theorem meant? (h : Akin margin s t) (connection : Option Nat) :
    s.meant? connection = t.meant? connection := by
  rw [Scene.meant?, Scene.meant?, h.network]

/-! ### Parts of a scene -/

theorem note (h : Akin margin s t) (o : Occurrence) : Akin margin (s.note o) (t.note o) :=
  { h with allowed := margin.note o h.allowed }

theorem log (h : Akin margin s t) (line : LogLine) : Akin margin (s.log line) (t.log line) :=
  h.note _

theorem called (h : Akin margin s t) (n : Nat) (signal : Signal) :
    Akin margin (s.called n signal) (t.called n signal) :=
  { h with allowed := margin.call n signal h.allowed }

theorem submitted (h : Akin margin s t) (n : Nat) (frame : String) :
    Akin margin (s.submitted n frame) (t.submitted n frame) :=
  { h with sends := by simp [Scene.submitted, h.sends] }

theorem requested (h : Akin margin s t) (m : Message) :
    Akin margin (s.requested m) (t.requested m) :=
  { h with requests := by simp [Scene.requested, h.requests] }

theorem move (h : Akin margin s t) (tr : Transition) : Akin margin (s.move tr) (t.move tr) :=
  { h with client := by simp [Scene.move, h.client] }

theorem setSession (h : Akin margin s t) (n : Option Nat) :
    Akin margin (s.setSession n) (t.setSession n) :=
  { h with client := by simp [Scene.setSession, h.client] }

theorem setTransport (h : Akin margin s t) (n : Option Nat) :
    Akin margin (s.setTransport n) (t.setTransport n) :=
  { h with client := by simp [Scene.setTransport, h.client] }

theorem setHandler (h : Akin margin s t) (n : Option Nat) :
    Akin margin (s.setHandler n) (t.setHandler n) :=
  { h with client := by simp [Scene.setHandler, h.client] }

theorem update (h : Akin margin s t) (n : Nat) (f : Connection → Connection) :
    Akin margin (s.update n f) (t.update n f) :=
  { h with network := by simp [Scene.update, h.network] }

theorem withRoster (h : Akin margin s t) (f : Roster Observer → Roster Observer) :
    Akin margin { s with roster := f s.roster } { t with roster := f t.roster } :=
  { h with roster := by simp [h.roster] }

theorem welcome (h : Akin margin s t) (o : Observer) :
    Akin margin (Scene.welcome o s) (Scene.welcome o t) :=
  h.withRoster fun r => ((r.create o).own o.name r.next).register r.next

/-! ### Closing -/

/-- What happens while a session is being closed has to be akin where it happens. -/
theorem closeSession {between between' : Interludes} {n : Nat}
    (h : Akin margin (between .closing (s.note (.closed n)))
      (between' .closing (t.note (.closed n)))) :
    Akin margin (Scene.closeSession between n s) (Scene.closeSession between' n t) := by
  unfold Scene.closeSession
  dsimp only
  rw [h.conduct]
  split
  · exact h.log _
  · split
    · exact h
    · exact h.update n _

theorem stopTransport {between between' : Interludes} {n : Nat}
    (h : Akin margin (between .stopping (s.note (.stopped n)))
      (between' .stopping (t.note (.stopped n)))) :
    Akin margin (Scene.stopTransport between n s) (Scene.stopTransport between' n t) := by
  unfold Scene.stopTransport
  dsimp only
  rw [h.conduct]
  split
  · exact h.log _
  · exact h

section Between

variable {between between' : Interludes} (meanwhile : AkinMeanwhile margin between between')

include meanwhile

theorem dropSession (h : Akin margin s t) :
    Akin margin (Scene.dropSession between s) (Scene.dropSession between' t) := by
  unfold Scene.dropSession
  rw [h.client, funext h.isOpen]
  split
  · exact h
  · split
    · exact closeSession (meanwhile _ ((h.setSession none).note _))
    · exact h.setSession none

theorem dropTransport (h : Akin margin s t) :
    Akin margin (Scene.dropTransport between s) (Scene.dropTransport between' t) := by
  unfold Scene.dropTransport
  rw [h.client]
  split
  · exact h
  · exact stopTransport (meanwhile _ ((h.setTransport none).note _))

theorem teardown (h : Akin margin s t) : Akin margin (s.teardown between) (t.teardown between') :=
  dropTransport meanwhile (dropSession meanwhile h)

end Between

theorem quietly : AkinMeanwhile margin Scene.quietly Scene.quietly := fun _ _ _ h => h

theorem disconnect (h : Akin margin s t) : Akin margin s.disconnect t.disconnect := by
  unfold Scene.disconnect
  dsimp only
  rw [(h.move .closed).client]
  refine (teardown quietly ?_).log _
  split
  · exact (h.move .closed).update _ _
  · exact h.move .closed

theorem left (h : Akin margin s t) : Akin margin { s with gone := true } { t with gone := true } :=
  { h with gone := rfl }

theorem dropClient (h : Akin margin s t) : Akin margin s.dropClient t.dropClient := by
  unfold Scene.dropClient
  dsimp only
  rw [h.client]
  split
  · exact h.disconnect.left.setHandler none
  · exact h.left.setHandler none

/-! ### Opening -/

theorem accept (h : Akin margin s t) (n : Nat) : Akin margin (s.accept n) (t.accept n) :=
  ((h.log _).setSession _).move _

theorem announce (h : Akin margin s t) (n : Nat) : Akin margin (s.announce n) (t.announce n) := by
  have called := h.called n .opened
  unfold Scene.announce
  dsimp only
  rw [called.gone, called.network, called.client]
  split
  · exact called
  · split
    · exact called
    · split
      · exact called.accept n
      · exact called.log _

theorem launched (h : Akin margin s t) (plan : Attempt) :
    Akin margin (s.launched plan) (t.launched plan) := by
  refine ⟨?_, h.gone, ?_, h.roster, h.sends, h.requests, ?_⟩
  · rw [client_launched, client_launched, h.client, h.network]
  · unfold Scene.launched Scene.install Scene.update Scene.note
    dsimp only
    rw [h.network, h.client]
  · change margin.Allows (.created s.network.length :: s.account) s.calls
      (.created t.network.length :: t.account) t.calls
    rw [h.network]
    exact margin.note _ h.allowed

theorem openTransport {plan : Attempt} {between between' : Interludes}
    (opening : ∀ {u v}, Akin margin u v → Akin margin (between .opening u) (between' .opening v))
    (h : Akin margin s t) (n : Nat) :
    Akin margin (s.openTransport plan between n) (t.openTransport plan between' n) := by
  unfold Scene.openTransport
  dsimp only
  rw [h.client]
  refine opening ?_
  have asked := h.note (.opened n t.client.config.address t.client.config.connectTimeout)
  have opened := asked.update n fun c => { c with isOpen := plan.sessionOpen }
  split
  · exact opened.announce n
  · exact opened

theorem answered {plan : Attempt} {between between' : Interludes}
    (opening : ∀ {u v}, Akin margin u v → Akin margin (between .opening u) (between' .opening v))
    (h : Akin margin s t) :
    Akin margin (s.answered plan between) (t.answered plan between') := by
  unfold Scene.answered
  rw [h.network]
  exact (h.launched plan).openTransport opening _

theorem giveUp (h : Akin margin s t) (e : TransportError) (n : Nat) :
    Akin margin (s.giveUp e n) (t.giveUp e n) :=
  ((stopTransport (quietly _ ((h.log _).note _))).setHandler none).move _

theorem settle (h : Akin margin s t) (n : Nat) :
    Akin margin (s.settle n).1 (t.settle n).1 ∧ (s.settle n).2 = (t.settle n).2 := by
  have filled := ((h.setSession (some n)).setTransport (some n)).move .transportOpened
  unfold Scene.settle
  dsimp only
  rw [filled.isReleased, filled.client]
  split
  · exact ⟨teardown quietly ((filled.log _).move _), rfl⟩
  · exact ⟨filled.log _, rfl⟩

theorem concluded (h : Akin margin s t) (plan : Attempt) (n : Nat) :
    Akin margin (s.concluded plan n).1 (t.concluded plan n).1 ∧
      (s.concluded plan n).2 = (t.concluded plan n).2 := by
  unfold Scene.concluded
  cases plan.connectError with
  | some e => exact ⟨(h.giveUp e n).update _ _, rfl⟩
  | none => exact ⟨(h.settle n).1.update _ _, (h.settle n).2⟩

section Attempt

variable {between between' : Interludes}

/-- What happens until the factory answers is all that has to be compared before the new connection
is launched. -/
theorem connect_of_cleared
    (opening : ∀ {u v}, Akin margin u v → Akin margin (between .opening u) (between' .opening v))
    (h : Akin margin s t) (cleared : Akin margin (s.cleared between) (t.cleared between'))
    (plan : Attempt) :
    Akin margin (s.connect plan between).1 (t.connect plan between').1 ∧
      (s.connect plan between).2 = (t.connect plan between').2 := by
  cases address : t.client.config.hasAddress with
  | false =>
      simp only [Scene.connect, h.client, address]
      exact ⟨h.log _, rfl⟩
  | true =>
      have address' : s.client.config.hasAddress = true := by rw [h.client, address]
      cases next : Transition.target .beginConnect t.client.state with
      | none =>
          simp only [Scene.connect, h.client, address, next]
          exact ⟨h.log _, rfl⟩
      | some next' =>
          have idle : (Transition.target .beginConnect t.client.state).isSome := by rw [next]; rfl
          have idle' : (Transition.target .beginConnect s.client.state).isSome := by
            rw [h.client, next]
            rfl
          cases created : plan.createError with
          | some e =>
              rw [connect_eq_of_createError between address' idle' created,
                connect_eq_of_createError between' address idle created]
              exact ⟨((cleared.note _).log _).move _, rfl⟩
          | none =>
              rw [connect_eq_of_created between address' idle' created,
                connect_eq_of_created between' address idle created, cleared.network]
              exact (cleared.answered opening).concluded plan _

variable (meanwhile : AkinMeanwhile margin between between')

include meanwhile

theorem cleared (h : Akin margin s t) : Akin margin (s.cleared between) (t.cleared between') := by
  have torn := teardown meanwhile (h.move .beginConnect)
  unfold Scene.cleared
  dsimp only
  rw [torn.client]
  exact meanwhile _ (torn.log _)

/-- **An attempt to connect keeps scenes akin, if what happens in its midst does.** -/
theorem connect (h : Akin margin s t) (plan : Attempt) :
    Akin margin (s.connect plan between).1 (t.connect plan between').1 ∧
      (s.connect plan between).2 = (t.connect plan between').2 :=
  h.connect_of_cleared (meanwhile .opening) (cleared meanwhile h) plan

end Attempt

/-! ### Sending -/

theorem sendFrame (h : Akin margin s t) (m : Message) :
    Akin margin (s.sendFrame m) (t.sendFrame m) := by
  unfold Scene.sendFrame
  rw [h.openSession?]
  split
  · exact h.log _
  next n _ =>
    split
    · exact h.log _
    next frame _ =>
      have out := (h.log (.sending frame)).submitted n frame
      dsimp only
      rw [out.conduct]
      split
      · exact out.log _
      · exact out.note _

theorem sendMessage (h : Akin margin s t) (m : Message) :
    Akin margin (s.sendMessage m) (t.sendMessage m) := by
  unfold Scene.sendMessage
  rw [h.client]
  split
  · exact h.sendFrame m
  · exact h.log _

/-! ### Receiving -/

section Receiving

variable {react react' : Reaction} (reactions : AkinReactions margin react react')

include reactions

theorem callEach (h : Akin margin s t) (event : Event) (ns : List Nat) :
    Akin margin (BridgeChannel.callEach (fun n s => react n event s) ns s)
      (BridgeChannel.callEach (fun n s => react' n event s) ns t) := by
  induction ns generalizing s t with
  | nil => exact h
  | cons n ns ih =>
      rw [callEach_cons, callEach_cons]
      exact ih ((reactions n event h).withRoster _)

theorem tell (h : Akin margin s t) (event : Event) :
    Akin margin (s.tell react event) (t.tell react' event) := by
  have pruned := h.withRoster Roster.prune
  have kept := pruned.withRoster (Roster.keep t.roster.prune.registered)
  have same : (HasRoster.roster (HasRoster.modify Roster.prune s)).registered =
      t.roster.prune.registered := congrArg Roster.registered pruned.roster
  unfold Scene.tell notify
  dsimp only
  rw [same]
  exact callEach reactions kept event _

theorem greet (h : Akin margin s t) : Akin margin (s.greet react) (t.greet react') :=
  ((tell reactions ((((h.log _).sendFrame _).move _).log _) _).sendMessage _).log _

theorem pass (h : Akin margin s t) (c : MessageClass) (line : LogLine) (event : Event) :
    Akin margin (s.pass react c line event) (t.pass react' c line event) := by
  unfold Scene.pass
  rw [h.client]
  split
  · exact tell reactions (h.log line) event
  · exact h.log _

theorem dispatch (h : Akin margin s t) (m : Message) :
    Akin margin (s.dispatch react m) (t.dispatch react' m) := by
  cases m with
  | serverHello version => exact greet reactions h
  | endpointMessage e => exact pass reactions h _ _ _
  | dominantSpeaker endpoint previous => exact pass reactions h _ _ _
  | connectivity endpoint active => exact pass reactions h _ _ _
  | senderVideoConstraints constraints => exact h
  | _ => exact h.log _

theorem receive (h : Akin margin s t) (frame : String) :
    Akin margin (s.receive react frame) (t.receive react' frame) := by
  unfold Scene.receive
  dsimp only
  split
  · exact dispatch reactions (h.log _) _
  · exact (h.log _).log _
  · exact (h.log _).log _

theorem obey (h : Akin margin s t) (n : Nat) (signal : Signal) :
    Akin margin (s.obey react n signal) (t.obey react' n signal) := by
  cases signal with
  | opened => exact h.accept n
  | message frame => exact receive reactions h frame
  | closed code reason => exact tell reactions ((h.log _).move _) _
  | failed e => exact h.log _

theorem deliver (h : Akin margin s t) (n : Nat) (signal : Signal) :
    Akin margin (s.deliver react n signal) (t.deliver react' n signal) := by
  have called := h.called n signal
  unfold Scene.deliver
  dsimp only
  rw [called.gone, called.network, called.client]
  split
  · exact called
  · split
    · exact called
    · split
      · exact obey reactions called n signal
      · exact called.log _

end Receiving

theorem engaged {f g : Scene → Scene} {n : Nat} (h : Akin margin s t)
    (acts : ∀ {u v}, Akin margin u v → Akin margin (f u) (g v)) :
    Akin margin (s.engaged n f) (t.engaged n g) :=
  (acts (h.update n _)).update n _

theorem readBy {call call' : Nat → Signal → Scene → Scene}
    (calls : ∀ n signal {u v}, Akin margin u v → Akin margin (call n signal u) (call' n signal v))
    (h : Akin margin s t) (n : Nat) (item : Option WebSocket.StreamItem) :
    Akin margin (s.readBy call n item) (t.readBy call' n item) := by
  unfold Scene.readBy
  rw [h.network]
  split
  · exact h
  · split
    · exact h
    · rw [h.isAlive]
      dsimp only
      split
      · exact calls n _ (h.update n _)
      · exact h.update n _

/-! ### Steps -/

section Acts

variable {act act' : Performance} (acts : AkinActs margin act act')

include acts

theorem nest (h : Akin margin s t) (step : Step) :
    Akin margin (s.nest act step) (t.nest act' step) := by
  obtain ⟨later, same⟩ := acts step (h.note (.began step.name))
  unfold Scene.nest
  dsimp only
  rw [same, later.state?, later.connected?]
  exact later.note _

theorem nestAll (h : Akin margin s t) (steps : List Step) :
    Akin margin (s.nestAll act steps) (t.nestAll act' steps) := by
  induction steps generalizing s t with
  | nil => exact h
  | cons step steps ih => exact ih (nest acts h step)

end Acts

end Akin

section Steps

variable {margin : Margin} {act act' : Performance}

theorem AkinActs.interludes (acts : AkinActs margin act act') (during : List (Moment × Step)) :
    AkinMeanwhile margin (Scene.interludes act during) (Scene.interludes act' during) :=
  fun _ _ _ h => h.nestAll acts _

theorem AkinActs.react (acts : AkinActs margin act act') :
    AkinReactions margin (Scene.react act) (Scene.react act') := by
  intro n event s t h
  unfold Scene.react
  rw [h.roster]
  split
  · exact h
  next o _ =>
    have told := h.note (.told o.name event)
    dsimp only
    split
    · exact told
    · exact (told.withRoster _).nestAll acts _

theorem Akin.asClient {f g : Scene → Scene × Outcome} {s t : Scene} (h : Akin margin s t)
    (acts : ∀ {u v}, Akin margin u v → AkinResults margin (f u) (g v)) :
    AkinResults margin (s.asClient f) (t.asClient g) := by
  unfold Scene.asClient
  rw [h.gone]
  split
  · exact ⟨h, rfl⟩
  · exact acts h

/-- What always succeeds has the same outcome. -/
theorem Akin.simply {f g : Scene → Scene} {s t : Scene} (h : Akin margin (f s) (g t)) :
    AkinResults margin (s.simply f) (t.simply g) :=
  ⟨h, rfl⟩

theorem Akin.atConnection {f g : Nat → Scene → Scene × Outcome} {s t : Scene}
    (h : Akin margin s t) (connection : Option Nat)
    (acts : ∀ n, AkinResults margin (f n s) (g n t)) :
    AkinResults margin (s.atConnection connection f) (t.atConnection connection g) := by
  unfold Scene.atConnection
  rw [h.meant?]
  split
  · exact acts _
  · exact ⟨h, rfl⟩

theorem Akin.atHandler {f g : Nat → Scene → Scene} {s t : Scene} (h : Akin margin s t)
    (connection : Option Nat) (acts : ∀ n, Akin margin (f n s) (g n t)) :
    AkinResults margin (s.atHandler connection f) (t.atHandler connection g) := by
  refine h.atConnection connection fun n => ?_
  rw [h.isAlive]
  split
  · exact (acts n).simply
  · exact ⟨h, rfl⟩

/-- Handlers that are called outright keep scenes akin. -/
theorem akinCalls_outright : AkinCalls margin outright outright :=
  fun reactions n signal _ _ h => h.engaged fun h => h.deliver reactions n signal

variable {call call' : Calling} (calls : AkinCalls margin call call')

include calls

/-- **Each step keeps scenes akin, if calls of handlers and the steps that are nested in it do.** -/
theorem AkinActs.takeBy (acts : AkinActs margin act act') :
    AkinActs margin (Scene.takeBy call act) (Scene.takeBy call' act') := by
  intro step s t h
  cases step with
  | connect plan during =>
      refine h.asClient fun h => ?_
      obtain ⟨later, same⟩ := h.connect (acts.interludes during) plan
      exact ⟨later, congrArg Outcome.connected same⟩
  | disconnect => exact h.asClient fun h => h.disconnect.simply
  | send message =>
      exact h.asClient fun h => ((h.requested message).sendMessage message).simply
  | query => exact ⟨h, rfl⟩
  | clearObservers => exact h.asClient fun h => (h.withRoster Roster.clear).simply
  | observe name reactions times => exact h.asClient fun h => (h.welcome _).simply
  | addAgain name =>
      refine h.asClient fun {u v} h => ?_
      rw [h.roster]
      split
      next n _ => exact ⟨{ h with roster := rfl }, rfl⟩
      · exact ⟨h, rfl⟩
  | dropObserver name =>
      simp only [Scene.takeBy, Scene.take]
      rw [h.roster]
      split
      · exact ⟨{ h with roster := rfl }, rfl⟩
      · exact ⟨h, rfl⟩
  | signal connection signal =>
      exact h.atHandler connection fun n => calls acts.react n signal h
  | stream connection item =>
      exact h.atConnection connection fun n =>
        (h.readBy (fun n signal _ _ h => calls acts.react n signal h) n item).simply
  | setOpen connection isOpen =>
      exact h.atConnection connection fun n => (h.update n _).simply
  | hold connection => exact h.atHandler connection fun n => h.update n _
  | release connection =>
      refine h.atConnection connection fun n => ?_
      rw [h.network]
      split
      · exact (h.update n _).simply
      · exact ⟨h, rfl⟩

/-- **Every step keeps scenes akin, with all that is nested in it, if calls of handlers do.** -/
theorem akinActs_performBy (depth : Nat) :
    AkinActs margin (performBy call depth) (performBy call' depth) := by
  induction depth with
  | zero => exact fun _ _ _ h => ⟨h, rfl⟩
  | succ depth ih => exact ih.takeBy calls

end Steps

end BridgeChannel.Scene
