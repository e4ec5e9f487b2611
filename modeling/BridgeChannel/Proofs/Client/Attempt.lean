/-
**The phases of an attempt to connect.**

An attempt that is not refused first clears away what an earlier connection left behind, then asks
for a transport.  If there is one, the new connection is launched: it is created, its handler
becomes the latest one, and its transport is asked to open.  Anything may happen until the transport
answers.  What the client does after the answer, in `Scene.concluded`, is a matter of the scene that
it finds then.

Main definitions:

* `Scene.begun`, `Scene.cleared`, `Scene.launched`, `Scene.answered`, `Scene.concluded` — the
  phases;
* `Scene.Inherited` — a relation between scenes that a step respects if the steps nested in it do;
* `Scene.Clearing`, `Scene.Phased` — relations between scenes that a teardown, or a whole attempt,
  respects if what happens in its midst does;
* `Scene.Respected` — a relation between scenes that every elementary change respects.

Main results:

* `connect_cases` — **the four ways in which an attempt goes**;
* `Inherited.perform` — **an inherited relation is respected by every step, at any depth of
  nesting**;
* `Phased.connect`, `Phased.disconnect` — **attempts, and what ends them**;
* `Respected.inherited` — what every elementary change respects is inherited.
-/
import BridgeChannel.Proofs.Client.Exchange

set_option autoImplicit false

namespace BridgeChannel.Scene

/-! ### Phases -/

/-- An attempt has begun, and the session that was left behind is out of its slot. -/
def begun (s : Scene) : Scene := (s.move .beginConnect).setSession none

/-- The scene in which the factory of transports answers: what was left behind is torn down. -/
def cleared (between : Interludes) (s : Scene) : Scene :=
  let s := (s.move .beginConnect).teardown between
  between .creating (s.log (.connecting s.client.config.address))

/-- What was left behind is torn down, and the factory has not been asked yet. -/
def torn (between : Interludes) (s : Scene) : Scene := (s.move .beginConnect).teardown between

/-- The client says that it connects. -/
def started (between : Interludes) (s : Scene) : Scene :=
  (s.torn between).log (.connecting (s.torn between).client.config.address)

/-- A connection is created and its handler is the latest one; its transport has not been asked to
open yet. -/
def launched (plan : Attempt) (s : Scene) : Scene :=
  let n := s.network.length
  let s := { s with network := s.network ++ [({ conduct := plan } : Connection)] }
  ((s.note (.created n)).install n).update n fun c => { c with running := c.running + 1 }

@[simp] theorem length_launched (plan : Attempt) (s : Scene) :
    (s.launched plan).network.length = s.network.length + 1 := by
  simp [launched, update, install, note]

/-- The new connection is the latest one. -/
theorem client_launched (plan : Attempt) (s : Scene) :
    (s.launched plan).client =
      { s.client with
        generation := s.client.generation + 1, handler := some s.network.length } := rfl

theorem getElem?_launched (plan : Attempt) (s : Scene) :
    (s.launched plan).network[s.network.length]? =
      some { conduct := plan, generation := s.client.generation + 1, running := 1 } := by
  simp [launched, update, install, note]

/-- The earlier connections stay as they are. -/
theorem getElem?_launched_of_lt {plan : Attempt} {s : Scene} {k : Nat}
    (earlier : k < s.network.length) : (s.launched plan).network[k]? = s.network[k]? := by
  have other : s.network.length ≠ k := Nat.ne_of_gt earlier
  simp [launched, update, install, note, other, List.getElem?_append_left earlier]

/-- The scene in which the new transport answers. -/
def answered (plan : Attempt) (between : Interludes) (s : Scene) : Scene :=
  (s.launched plan).openTransport plan between s.network.length

/-- What the client makes of the answer of the transport of the `n`-th connection. -/
def concluded (plan : Attempt) (n : Nat) (s : Scene) : Scene × Bool :=
  let (s, success) := match plan.connectError with
    | some e => (s.giveUp e n, false)
    | none => s.settle n
  (s.update n fun c => { c with running := c.running - 1 }, success)

/-- An attempt may start from a channel that is disconnected or closed. -/
theorem target_beginConnect_of_idle {state : ConnectionState}
    (idle : state = .disconnected ∨ state = .closed) :
    (Transition.target .beginConnect state).isSome = true := by
  rcases idle with rfl | rfl <;> rfl

theorem connect_eq_of_created {plan : Attempt} (between : Interludes) {s : Scene}
    (address : s.client.config.hasAddress = true)
    (idle : (Transition.target .beginConnect s.client.state).isSome)
    (created : plan.createError = none) :
    s.connect plan between =
      ((s.cleared between).answered plan between).concluded plan
        (s.cleared between).network.length := by
  obtain ⟨next, hnext⟩ := Option.isSome_iff_exists.1 idle
  unfold connect attempt
  rw [if_pos address, hnext]
  dsimp only
  rw [created]
  rfl

theorem connect_eq_of_createError {plan : Attempt} (between : Interludes) {s : Scene}
    {e : TransportError} (address : s.client.config.hasAddress = true)
    (idle : (Transition.target .beginConnect s.client.state).isSome)
    (failed : plan.createError = some e) :
    s.connect plan between =
      ((((s.cleared between).note .createFailed).log (.startFailed e)).move .connectFailed,
        false) := by
  obtain ⟨next, hnext⟩ := Option.isSome_iff_exists.1 idle
  unfold connect attempt
  rw [if_pos address, hnext]
  dsimp only
  rw [failed]
  rfl

/-- **An attempt is refused without an address or in a state that does not allow it, it ends without
a transport, or it ends as the transport answers.** -/
theorem connect_cases (plan : Attempt) (between : Interludes) (s : Scene) :
    s.connect plan between = (s.log .noAddress, false) ∨
      s.connect plan between = (s.log (.cannotConnect s.client.state), false) ∨
      (s.client.config.hasAddress = true ∧
        (Transition.target .beginConnect s.client.state).isSome ∧
        ((∃ e, plan.createError = some e ∧
            s.connect plan between =
              ((((s.cleared between).note .createFailed).log (.startFailed e)).move .connectFailed,
                false)) ∨
          (plan.createError = none ∧
            s.connect plan between =
              ((s.cleared between).answered plan between).concluded plan
                (s.cleared between).network.length))) := by
  cases address : s.client.config.hasAddress with
  | false =>
      left
      simp [connect, address]
  | true =>
      right
      cases hnext : Transition.target .beginConnect s.client.state with
      | none =>
          left
          simp [connect, address, hnext]
      | some next =>
          right
          refine ⟨rfl, rfl, ?_⟩
          cases created : plan.createError with
          | none =>
              right
              exact ⟨rfl, connect_eq_of_created between address (by simp [hnext]) created⟩
          | some e =>
              left
              exact ⟨e, rfl, connect_eq_of_createError between address (by simp [hnext]) created⟩

/-- A client that goes away disconnects first if it holds anything. -/
theorem dropClient_cases (s : Scene) :
    s.dropClient = Scene.setHandler none { s.disconnect with gone := true } ∨
      (s.client.transport = none ∧ s.client.session = none ∧
        s.dropClient = Scene.setHandler none { s with gone := true }) := by
  unfold dropClient
  cases holds : s.client.transport.isSome || s.client.session.isSome with
  | true => exact .inl rfl
  | false =>
      obtain ⟨transport, session⟩ := Bool.or_eq_false_iff.1 holds
      exact .inr ⟨by simpa using transport, by simpa using session, rfl⟩

/-! ### Performing -/

/-- Unless the client is gone, a step that connects is an attempt to connect. -/
theorem perform_connect {s : Scene} (here : s.gone = false) (depth : Nat) (plan : Attempt)
    (during : List (Moment × Step)) :
    s.perform (depth + 1) (.connect plan during) =
      ((s.connect plan (interludes (perform depth) during)).1,
        .connected (s.connect plan (interludes (perform depth) during)).2) := by
  simp only [perform, take, asClient, here]
  rfl

theorem perform_disconnect {s : Scene} (here : s.gone = false) (depth : Nat) :
    s.perform (depth + 1) .disconnect = (s.disconnect, .done) := by
  simp only [perform, take, asClient, here]
  rfl

/-! ### Relations that steps inherit -/

/-- A relation between an earlier and a later scene that a step respects if the steps nested in it
do. -/
structure Inherited (R : Scene → Scene → Prop) : Prop where
  refl : ∀ s, R s s
  trans : ∀ {s t u}, R s t → R t u → R s u
  note : ∀ {o : Occurrence}, o.Plain → ∀ s, R s (s.note o)
  exchange : ∀ {act : Performance} {s s'}, (∀ step s, R s (s.nest act step)) →
    Exchange act s s' → R s s'
  disconnect : ∀ s, R s s.disconnect
  connect : ∀ {between : Interludes}, (∀ m s, R s (between m s)) → ∀ plan s,
    R s (s.connect plan between).1

namespace Inherited

variable {R : Scene → Scene → Prop} (h : Inherited R)

include h

theorem exchanges {act : Performance} (nested : ∀ step s, R s (s.nest act step)) {s s' : Scene}
    (changes : Exchanges act s s') : R s s' := by
  induction changes with
  | refl => exact h.refl s
  | tail _ change ih => exact h.trans ih (h.exchange nested change)

theorem nestAll {act : Performance} (nested : ∀ step s, R s (s.nest act step)) (steps : List Step)
    (s : Scene) : R s (s.nestAll act steps) :=
  h.exchanges nested (Exchanges.nestAll steps s)

theorem take {act : Performance} (nested : ∀ step s, R s (s.nest act step)) (step : Step)
    (s : Scene) : R s (Scene.take act step s).1 := by
  rcases take_cases act step s with same | effect
  · rw [same]
    exact h.refl s
  · generalize (Scene.take act step s).1 = t at effect
    cases step with
    | connect plan during =>
        cases effect
        exact h.connect (fun m s => h.nestAll nested _ s) plan s
    | disconnect =>
        cases effect
        exact h.disconnect s
    | _ => exact h.exchanges nested (.of_effect effect (by simp) (by simp))

/-- **Every step respects an inherited relation, with all steps that are nested in it.** -/
theorem perform (depth : Nat) (step : Step) (s : Scene) : R s (s.perform depth step).1 := by
  -- nested steps are performed one level further down
  induction depth generalizing step s with
  | zero => exact h.refl s
  | succ depth ih =>
      refine h.take (fun step s => ?_) step s
      exact h.trans (h.trans (h.note (.of_isPlain rfl) s) (ih step _)) (h.note (.of_isPlain rfl) _)

theorem nest (depth : Nat) (step : Step) (s : Scene) : R s (s.nest (Scene.perform depth) step) :=
  h.trans (h.trans (h.note (.of_isPlain rfl) s) (h.perform depth step _))
    (h.note (.of_isPlain rfl) _)

theorem interludes (depth : Nat) (during : List (Moment × Step)) (m : Moment) (s : Scene) :
    R s (Scene.interludes (Scene.perform depth) during m s) :=
  h.nestAll (h.nest depth) _ s

/-- Everything that happens while a transport is being opened is a matter of steps, too. -/
theorem openTransport {between : Interludes} (hbetween : ∀ m s, R s (between m s)) (plan : Attempt)
    (n : Nat) (s : Scene) : R s (s.openTransport plan between n) := by
  -- what is nested in the steps of the transport is performed at no depth at all
  have nested := h.nest 0
  have asked := h.note
    (o := .opened n s.client.config.address s.client.config.connectTimeout) (.of_isPlain rfl) s
  have opened := h.trans asked
    (h.exchange nested (.update _ n (.isOpen plan.sessionOpen)))
  refine h.trans opened (h.trans ?_ (hbetween .opening _))
  split
  · rw [← deliver_opened (react (Scene.perform 0))]
    exact h.exchanges nested (Exchanges.deliver n .opened _)
  · exact h.refl _

end Inherited

/-! ### Relations that a teardown respects -/

/-- A relation between an earlier and a later scene that holds across a teardown, once the session
has been taken out of its slot, if it holds across what happens in its midst.  A session is closed
only if it is open. -/
structure Clearing (R : Scene → Scene → Prop) : Prop where
  refl : ∀ s, R s s
  trans : ∀ {s t u}, R s t → R t u → R s u
  note : ∀ {o : Occurrence}, o.Plain → o.tells = false → ∀ s, R s (s.note o)
  update : ∀ n {f : Connection → Connection} s, Connection.Mild f → R s (s.update n f)
  close : ∀ {n s}, s.isOpen n = true → R s (s.note (.closed n))
  letGo : ∀ {n s}, s.client.transport = some n → R s ((s.setTransport none).note (.stopped n))

namespace Clearing

variable {R : Scene → Scene → Prop} (h : Clearing R) {between : Interludes}
  (hbetween : ∀ m s, R s (between m s))

include h hbetween

theorem closeSession {n : Nat} {s : Scene} (opened : s.isOpen n = true) :
    R s (Scene.closeSession between n s) := by
  have base := h.trans (h.close opened) (hbetween .closing _)
  unfold Scene.closeSession
  dsimp only
  split
  · exact h.trans base (h.note (.of_isPlain rfl) rfl _)
  · split
    · exact base
    · exact h.trans base (h.update _ _ (.isOpen false))

/-- Whoever stops the transport has taken note of that already. -/
theorem stopTransport {s₀ s : Scene} {n : Nat} (start : R s₀ (s.note (.stopped n))) :
    R s₀ (Scene.stopTransport between n s) := by
  have base := h.trans start (hbetween .stopping _)
  unfold Scene.stopTransport
  dsimp only
  split
  · exact h.trans base (h.note (.of_isPlain rfl) rfl _)
  · exact base

theorem dropSession (s : Scene) : R (s.setSession none) (Scene.dropSession between s) := by
  unfold Scene.dropSession
  split
  next empty =>
    have same : s.setSession none = s := by rw [setSession, ← empty]
    rw [same]
    exact h.refl s
  · split
    next opened => exact h.closeSession hbetween opened
    · exact h.refl _

theorem dropTransport (s : Scene) : R s (Scene.dropTransport between s) := by
  unfold Scene.dropTransport
  split
  · exact h.refl s
  next n held => exact h.stopTransport hbetween (h.letGo held)

theorem teardown (s : Scene) : R (s.setSession none) (s.teardown between) :=
  h.trans (h.dropSession hbetween s) (h.dropTransport hbetween _)

/-- A teardown has a scene in its midst from which on no transport is held, but for what happens
then. -/
theorem emptied (s : Scene) : ∃ t : Scene, t.client.transport = none ∧ R t (s.teardown between) ∧
    (t = s.dropSession between ∨
      ∃ n, t = ((s.dropSession between).setTransport none).note (.stopped n)) := by
  rw [Scene.teardown]
  generalize s.dropSession between = t
  unfold Scene.dropTransport
  split
  next empty => exact ⟨t, empty, h.refl t, .inl rfl⟩
  next n held =>
    exact ⟨(t.setTransport none).note (.stopped n), rfl, h.stopTransport hbetween (h.refl _),
      .inr ⟨n, rfl⟩⟩

end Clearing

/-! ### Relations that an attempt respects -/

/-- A relation between an earlier and a later scene that holds across attempts to connect, if it
holds across what happens in their midst.  Nothing is told to observers there but by signals, of
which the session that is handed over is one.  The generation of a connection never changes once it
is launched, and its transport is taken on once the connection is there, by an attempt that started
before. -/
structure Phased (R : Scene → Scene → Prop) : Prop where
  refl : ∀ s, R s s
  trans : ∀ {s t u}, R s t → R t u → R s u
  longer : ∀ {s t}, R s t → s.network.length ≤ t.network.length
  note : ∀ {o : Occurrence}, o.tells = false → (∀ n, o.closes n = false) → ∀ s, R s (s.note o)
  close : ∀ {n s}, s.isOpen n = true → R s (s.note (.closed n))
  update : ∀ n {f : Connection → Connection} s, (∀ c, (f c).generation = c.generation) →
    R s (s.update n f)
  move : ∀ t s, R s (s.move t)
  setSession : ∀ n s, R s (s.setSession n)
  leaveTransport : ∀ s, R s (s.setTransport none)
  leaveHandler : ∀ s, R s (s.setHandler none)
  launched : ∀ plan s, R s (s.launched plan)
  takeTransport : ∀ {n s t}, R s t → s.network.length ≤ n → n < t.network.length →
    R s (t.setTransport (some n))
  announce : ∀ n s, R s (s.announce n)

namespace Phased

variable {R : Scene → Scene → Prop} (h : Phased R)

include h

theorem clearing : Clearing R where
  refl := h.refl
  trans := h.trans
  note plain untold s := h.note untold plain.closes s
  update n _ s mild := h.update n s mild.generation
  close := h.close
  letGo _ := h.trans (h.leaveTransport _) (h.note rfl (fun _ => rfl) _)

theorem log (line : LogLine) (s : Scene) : R s (s.log line) := h.note rfl (fun _ => rfl) s

theorem quietly (m : Moment) (s : Scene) : R s (Scene.quietly m s) := h.refl s

theorem dropSession {between : Interludes} (hbetween : ∀ m s, R s (between m s)) (s : Scene) :
    R s (Scene.dropSession between s) :=
  h.trans (h.setSession none s) (h.clearing.dropSession hbetween s)

theorem teardown {between : Interludes} (hbetween : ∀ m s, R s (between m s)) (s : Scene) :
    R s (s.teardown between) :=
  h.trans (h.setSession none s) (h.clearing.teardown hbetween s)

theorem disconnect (s : Scene) : R s s.disconnect := by
  unfold Scene.disconnect
  dsimp only
  refine h.trans ?_ (h.trans (h.teardown h.quietly _) (h.log _ _))
  split
  · exact h.trans (h.move _ s) (h.update _ _ fun _ => rfl)
  · exact h.move _ s

/-- The client goes away. -/
theorem dropClient (leave : ∀ s : Scene, R s { s with gone := true }) (s : Scene) :
    R s s.dropClient := by
  rcases dropClient_cases s with dropped | ⟨-, -, dropped⟩
  · rw [dropped]
    exact h.trans (h.trans (h.disconnect s) (leave _)) (h.leaveHandler _)
  · rw [dropped]
    exact h.trans (leave _) (h.leaveHandler _)

/-! ### Connecting -/

theorem cleared {between : Interludes} (hbetween : ∀ m s, R s (between m s)) (s : Scene) :
    R s (s.cleared between) :=
  h.trans (h.trans (h.trans (h.move _ s) (h.teardown hbetween _)) (h.log _ _))
    (hbetween _ _)

theorem openTransport {between : Interludes} (hbetween : ∀ m s, R s (between m s)) (plan : Attempt)
    (n : Nat) (s : Scene) : R s (s.openTransport plan between n) := by
  have asked := h.note rfl (fun _ => rfl)
    (o := .opened n s.client.config.address s.client.config.connectTimeout) s
  have opened := h.trans asked
    (h.update n (f := fun c => { c with isOpen := plan.sessionOpen }) _ fun _ => rfl)
  refine h.trans ?_ (hbetween .opening _)
  split
  · exact h.trans opened (h.announce n _)
  · exact opened

theorem answered {between : Interludes} (hbetween : ∀ m s, R s (between m s)) (plan : Attempt)
    (s : Scene) : R s (s.answered plan between) :=
  h.trans (h.launched plan s) (h.openTransport hbetween plan _ _)

theorem giveUp (e : TransportError) (n : Nat) (s : Scene) : R s (s.giveUp e n) :=
  have stopped : R (s.log (.connectFailed e))
      ((s.log (.connectFailed e)).stopTransport Scene.quietly n) :=
    h.clearing.stopTransport h.quietly (h.note rfl (fun _ => rfl) _)
  h.trans (h.trans (h.trans (h.log _ s) stopped) (h.leaveHandler _)) (h.move _ _)

/-- The end of an attempt is seen from its start: only then is the transport a new one. -/
theorem settle {n : Nat} {s t : Scene} (earlier : R s t) (fresh : s.network.length ≤ n)
    (there : n < t.network.length) : R s (t.settle n).1 := by
  have filled : R s (((t.setSession (some n)).setTransport (some n)).move .transportOpened) :=
    h.trans (h.takeTransport (h.trans earlier (h.setSession (some n) t)) fresh there) (h.move _ _)
  unfold Scene.settle
  dsimp only
  split
  · exact h.trans filled
      (h.trans (h.trans (h.log _ _) (h.move _ _)) (h.teardown h.quietly _))
  · exact h.trans filled (h.log _ _)

theorem concluded {plan : Attempt} {n : Nat} {s t : Scene} (earlier : R s t)
    (fresh : s.network.length ≤ n) (there : n < t.network.length) :
    R s (t.concluded plan n).1 := by
  unfold Scene.concluded
  cases plan.connectError with
  | some e => exact h.trans (h.trans earlier (h.giveUp e n t)) (h.update _ _ fun _ => rfl)
  | none => exact h.trans (h.settle earlier fresh there) (h.update _ _ fun _ => rfl)

/-- A new connection is in the network from its launch on. -/
theorem lt_answered {between : Interludes} (hbetween : ∀ m s, R s (between m s)) (plan : Attempt)
    (s : Scene) : s.network.length < (s.answered plan between).network.length := by
  have later := h.longer (h.openTransport hbetween plan s.network.length (s.launched plan))
  rw [length_launched] at later
  exact later

theorem connect {between : Interludes} (hbetween : ∀ m s, R s (between m s)) (plan : Attempt)
    (s : Scene) : R s (s.connect plan between).1 := by
  have clear := h.cleared hbetween s
  rcases connect_cases plan between s with hc | hc | ⟨-, -, ⟨e, -, hc⟩ | ⟨-, hc⟩⟩
  · rw [hc]
    exact h.log _ s
  · rw [hc]
    exact h.log _ s
  · rw [hc]
    exact h.trans clear (h.trans (h.trans (h.note rfl (fun _ => rfl) _) (h.log _ _)) (h.move _ _))
  · rw [hc]
    exact h.concluded (h.trans clear (h.answered hbetween plan _)) (h.longer clear)
      (h.lt_answered hbetween plan _)

end Phased

/-! ### Relations that every change respects -/

/-- A relation between an earlier and a later scene that every elementary change respects.  A
session is closed only if it is open.  The generation of a connection never changes once it is
launched, and its transport is taken on once the connection is there, by an attempt that started
before. -/
structure Respected (R : Scene → Scene → Prop) : Prop where
  refl : ∀ s, R s s
  trans : ∀ {s t u}, R s t → R t u → R s u
  longer : ∀ {s t}, R s t → s.network.length ≤ t.network.length
  note : ∀ {o : Occurrence}, (∀ n, o.closes n = false) → ∀ s, R s (s.note o)
  close : ∀ {n s}, s.isOpen n = true → R s (s.note (.closed n))
  called : ∀ n signal s, R s (s.called n signal)
  submitted : ∀ n frame s, R s (s.submitted n frame)
  requested : ∀ m s, R s (s.requested m)
  withRoster : ∀ (s : Scene) r, R s { s with roster := r }
  update : ∀ n {f : Connection → Connection} s, (∀ c, (f c).generation = c.generation) →
    R s (s.update n f)
  move : ∀ t s, R s (s.move t)
  setSession : ∀ n s, R s (s.setSession n)
  leaveTransport : ∀ s, R s (s.setTransport none)
  leaveHandler : ∀ s, R s (s.setHandler none)
  launched : ∀ plan s, R s (s.launched plan)
  takeTransport : ∀ {n s t}, R s t → s.network.length ≤ n → n < t.network.length →
    R s (t.setTransport (some n))

namespace Respected

variable {R : Scene → Scene → Prop} (h : Respected R)

include h

theorem log (line : LogLine) (s : Scene) : R s (s.log line) := h.note (fun _ => rfl) s

theorem hear (n : Nat) (signal : Signal) (s : Scene) : R s (s.hear n signal) := by
  have base : R s ((s.called n signal).log signal.line) :=
    h.trans (h.called n signal s) (h.log _ _)
  cases signal with
  | opened => exact h.trans (h.trans base (h.setSession _ _)) (h.move _ _)
  | message frame =>
      unfold Scene.hear
      dsimp only
      split
      · exact h.trans base (h.move _ _)
      · exact base
  | closed code reason => exact h.trans base (h.move _ _)
  | failed e => exact base

theorem exchange {act : Performance} (nested : ∀ step s, R s (s.nest act step)) {s s' : Scene}
    (change : Exchange act s s') : R s s' := by
  cases change with
  | note plain => exact h.note plain.closes s
  | submitted n frame => exact h.submitted n frame s
  | requested m => exact h.requested m s
  | withRoster r => exact h.withRoster s r
  | update n mild => exact h.update n s mild.generation
  | missed n signal deaf => exact h.called n signal s
  | heard n signal listens => exact h.hear n signal s
  | nested step => exact nested step s

theorem announce (n : Nat) (s : Scene) : R s (s.announce n) := by
  have changes : Exchanges (fun _ s => (s, .exhausted)) s (s.announce n) :=
    deliver_opened (react fun _ s => (s, .exhausted)) n s ▸ Exchanges.deliver n .opened s
  -- no step is performed in between, so that a nested step may be taken for one that does nothing
  generalize s.announce n = t at changes
  induction changes with
  | refl => exact h.refl s
  | tail _ change ih =>
      refine h.trans ih (h.exchange (fun step s => ?_) change)
      exact h.trans (h.note (fun _ => rfl) s) (h.note (fun _ => rfl) _)

theorem phased : Phased R where
  refl := h.refl
  trans := h.trans
  longer := h.longer
  note _ quiet s := h.note quiet s
  close := h.close
  update := h.update
  move := h.move
  setSession := h.setSession
  leaveTransport := h.leaveTransport
  leaveHandler := h.leaveHandler
  launched := h.launched
  takeTransport := h.takeTransport
  announce := h.announce

theorem inherited : Inherited R where
  refl := h.refl
  trans := h.trans
  note plain s := h.note plain.closes s
  exchange nested change := h.exchange nested change
  disconnect := h.phased.disconnect
  connect := h.phased.connect

end Respected

/-- **The account and the calls only grow, and no connection is taken away.** -/
theorem respected_grows : Respected Grows where
  refl := Grows.refl
  trans := Grows.trans
  longer h := h.network
  note _ := Grows.note _
  close _ := Grows.note _ _
  called := Grows.called
  submitted _ _ _ := Grows.of_eq rfl rfl (Nat.le_refl _)
  requested _ _ := Grows.of_eq rfl rfl (Nat.le_refl _)
  withRoster _ _ := Grows.of_eq rfl rfl (Nat.le_refl _)
  update _ _ _ _ := Grows.of_eq rfl rfl (by simp [Scene.update])
  move _ _ := Grows.of_eq rfl rfl (Nat.le_refl _)
  setSession _ _ := Grows.of_eq rfl rfl (Nat.le_refl _)
  leaveTransport _ := Grows.of_eq rfl rfl (Nat.le_refl _)
  leaveHandler _ := Grows.of_eq rfl rfl (Nat.le_refl _)
  launched _ _ := ⟨List.suffix_cons _ _, List.suffix_refl _, by simp⟩
  takeTransport h _ _ := h.trans (Grows.of_eq rfl rfl (Nat.le_refl _))

/-- What comes of a signal comes after it. -/
theorem grows_deliver (depth n : Nat) (signal : Signal) (s : Scene) :
    Grows s (s.deliver (react (perform depth)) n signal) :=
  respected_grows.inherited.exchanges (respected_grows.inherited.nest depth)
    (Exchanges.deliver n signal s)

end BridgeChannel.Scene
