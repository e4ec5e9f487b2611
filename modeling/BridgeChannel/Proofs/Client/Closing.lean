/-
**A session that stays closed is closed once.**

The client closes a session in the course of a teardown, and only if the session says that it is
open.  What it says is up to the network: a session may stay open although it was closed, or open
again later, and the client may be offered it again at any time.  So a run is compared with the run
in which the sessions that have been closed are sealed: before every step, and after whatever
happens in the midst of an attempt to connect, they say that they are not open.  The client looks at
a session that it might close right after one of these points.  A session counts as closed as soon
as it is asked to close, even if it cannot.

With sealed sessions, no run closes a session twice, whatever else happens in it.  So no session is
closed twice in a run whose reports are the same with sealed sessions.

Main definitions:

* `closeds` — the sessions that were closed;
* `Scene.sealed` — the sessions that have been closed say so;
* `Scene.performSealed`, `Script.runSealed` — steps and scripts with sealed sessions;
* `Script.StaysClosed` — a script whose reports are the same with sealed sessions;
* `Scene.Once`, `Scene.Shut` — no session was closed twice, or says that it is open although it was
  closed.

Main results:

* `Once.disconnect`, `Once.connect` — **what a client closes has not been closed before, if closed
  sessions are shut**;
* `once_performSealed` — **the same for every step with sealed sessions**;
* `nodup_closeds_runSealed`, `Script.StaysClosed.once` — **no session is closed twice**.
-/
import Mathlib.Data.List.Nodup
import BridgeChannel.Proofs.Client.Connecting
import BridgeChannel.Proofs.Client.Stale

set_option autoImplicit false

namespace BridgeChannel

namespace Occurrence

/-- The connection whose session was closed. -/
def closed? : Occurrence → Option Nat
  | closed n => some n
  | _ => none

theorem closed?_eq_none {o : Occurrence} (h : ∀ n, o.closes n = false) : o.closed? = none := by
  cases o with
  | closed n => exact absurd (h n) (by simp [closes])
  | _ => rfl

end Occurrence

/-- The connections whose sessions were closed, in order. -/
def closeds (told : List Occurrence) : List Nat := told.filterMap Occurrence.closed?

theorem closeds_append (before after : List Occurrence) :
    closeds (before ++ after) = closeds before ++ closeds after := by
  simp [closeds]

theorem count_closeds (n : Nat) (told : List Occurrence) :
    (closeds told).count n = told.countP (Occurrence.closes n) := by
  rw [List.count, closeds, List.countP_filterMap]
  congr 1
  funext o
  cases o <;> rfl

namespace Scene

/-! ### Sealed sessions -/

/-- The sessions that have been closed: by earlier commands, and as far as the account tells. -/
def closedSince (earlier : List Nat) (s : Scene) : List Nat := earlier ++ closeds s.account.reverse

/-- The sessions that have been closed say that they are not open. -/
def sealed (earlier : List Nat) (s : Scene) : Scene :=
  { s with
    network := s.network.mapIdx fun n c =>
      { c with isOpen := c.isOpen && !(s.closedSince earlier).contains n } }

/-- Performs a step, given how nested steps are performed.  Whatever happens in the midst of an
attempt to connect, the sessions that have been closed are sealed after it. -/
def takeSealed (earlier : List Nat) (act : Performance) : Performance
  | .connect plan during, s => s.asClient fun s =>
    let (s, success) := s.connect plan fun m s => (interludes act during m s).sealed earlier
    (s, .connected success)
  | step, s => take act step s

/-- Performs a step and all that is nested in it.  Before each step, the sessions that have been
closed are sealed. -/
def performSealed (earlier : List Nat) : Nat → Performance
  | 0 => fun _ s => (s, .exhausted)
  | depth + 1 => fun step s =>
    takeSealed earlier (performSealed earlier depth) step (s.sealed earlier)

end Scene

namespace Script

/-- Performs a script with sealed sessions, some of which were closed by earlier commands. -/
def runSealed (depth : Nat) : List Nat → Script → Scene → List Report
  | _, [], _ => []
  | earlier, command :: rest, s =>
    let (s, outcome) := command.performWith (Scene.performSealed earlier depth)
      (Scene.sealed earlier { s with account := [] })
    { outcome, state := s.state?, isConnected := s.connected?, account := s.account.reverse } ::
      runSealed depth (s.closedSince earlier) rest s

/-- A script in which sessions stay closed once they have been closed: sealing them makes no
difference to any report. -/
def StaysClosed (depth : Nat) (script : Script) (s : Scene) : Prop :=
  script.runSealed depth [] s = script.runFrom depth s

end Script

namespace Scene

variable {earlier : List Nat} {s t : Scene}

theorem closedSince_of_account (same : t.account = s.account) :
    t.closedSince earlier = s.closedSince earlier := by
  rw [closedSince, closedSince, same]

theorem closedSince_note {o : Occurrence} (quiet : ∀ n, o.closes n = false) (s : Scene) :
    (s.note o).closedSince earlier = s.closedSince earlier := by
  simp [closedSince, note, closeds, Occurrence.closed?_eq_none quiet]

theorem closedSince_closed (n : Nat) (s : Scene) :
    (s.note (.closed n)).closedSince earlier = s.closedSince earlier ++ [n] := by
  simp [closedSince, note, closeds, Occurrence.closed?]

/-! ### What is closed -/

/-- No session was closed twice. -/
def Once (earlier : List Nat) (s : Scene) : Prop := (s.closedSince earlier).Nodup

/-- No session that was closed says that it is open. -/
def Shut (earlier : List Nat) (s : Scene) : Prop := ∀ n ∈ s.closedSince earlier, s.isOpen n = false

theorem shut_sealed (earlier : List Nat) (s : Scene) : (s.sealed earlier).Shut earlier := by
  intro n hn
  have closed : n ∈ s.closedSince earlier := hn
  simp only [isOpen, sealed, List.getElem?_mapIdx]
  cases s.network[n]? <;> simp [closed]

theorem Shut.of_same (h : s.Shut earlier) (closed : t.closedSince earlier = s.closedSince earlier)
    (isOpen : ∀ n, t.isOpen n = s.isOpen n) : t.Shut earlier := by
  intro n hn
  rw [isOpen]
  exact h n (closed ▸ hn)

/-- A session that is open has not been closed. -/
theorem Shut.not_mem (h : s.Shut earlier) {n : Nat} (opened : s.isOpen n = true) :
    n ∉ s.closedSince earlier := fun hn => absurd (opened.symm.trans (h n hn)) (by simp)

namespace Once

theorem of_same (h : s.Once earlier) (closed : t.closedSince earlier = s.closedSince earlier) :
    t.Once earlier := by
  rw [Once, closed]
  exact h

theorem of_account (h : s.Once earlier) (same : t.account = s.account) : t.Once earlier :=
  h.of_same (closedSince_of_account same)

/-- A command begins with an account that tells nothing. -/
theorem forgotten (distinct : earlier.Nodup) (s : Scene) :
    Scene.Once earlier { s with account := [] } := by
  simpa [Once, closedSince, closeds] using distinct

theorem note (h : s.Once earlier) {o : Occurrence} (quiet : ∀ n, o.closes n = false) :
    (s.note o).Once earlier := h.of_same (closedSince_note quiet s)

theorem log (h : s.Once earlier) (line : LogLine) : (s.log line).Once earlier := h.note fun _ => rfl

/-- A session is closed that has not been closed before. -/
theorem closed (h : s.Once earlier) {n : Nat} (fresh : n ∉ s.closedSince earlier) :
    (s.note (.closed n)).Once earlier := by
  rw [Once, closedSince_closed]
  refine List.nodup_append.2 ⟨h, by simp, fun k hk m hm same => fresh ?_⟩
  rwa [← List.mem_singleton.1 hm, ← same]

theorem hear (h : s.Once earlier) (n : Nat) (signal : Signal) : (s.hear n signal).Once earlier :=
  (h.log signal.line).of_account (account_hear n signal s)

/-- Elementary changes close nothing but in nested steps. -/
theorem exchanges {act : Performance}
    (nested : ∀ step (s : Scene), s.Once earlier → (s.nest act step).Once earlier)
    (h : s.Once earlier) (changes : Exchanges act s t) : t.Once earlier := by
  induction changes with
  | refl => exact h
  | tail _ change ih =>
      cases change with
      | note plain => exact ih.note plain.closes
      | heard n signal => exact ih.hear n signal
      | nested step => exact nested step _ ih
      | _ => exact ih.of_account rfl

section Between

variable {between : Interludes}
  (hbetween : ∀ m (s : Scene), s.Once earlier → (between m s).Once earlier)

include hbetween

theorem closeSession (h : s.Once earlier) {n : Nat} (fresh : n ∉ s.closedSince earlier) :
    (Scene.closeSession between n s).Once earlier := by
  have base := hbetween .closing _ (h.closed fresh)
  unfold Scene.closeSession
  dsimp only
  split
  · exact base.log _
  · split
    · exact base
    · exact base.of_account rfl

theorem stopTransport (h : s.Once earlier) (n : Nat) :
    (Scene.stopTransport between n s).Once earlier := by
  have base := hbetween .stopping _ (h.note (o := .stopped n) fun _ => rfl)
  unfold Scene.stopTransport
  dsimp only
  split
  · exact base.log _
  · exact base

/-- The session that the client holds is closed if it is open, so that it was not closed before. -/
theorem dropSession (h : s.Once earlier) (shut : s.Shut earlier) :
    (Scene.dropSession between s).Once earlier := by
  unfold Scene.dropSession
  split
  · exact h
  next n _ =>
    have taken : (s.setSession none).Once earlier := h.of_account rfl
    split
    next opened => exact closeSession hbetween taken (shut.not_mem opened)
    · exact taken

theorem teardown (h : s.Once earlier) (shut : s.Shut earlier) :
    (s.teardown between).Once earlier := by
  have dropped := dropSession hbetween h shut
  unfold Scene.teardown Scene.dropTransport
  split
  · exact dropped
  next n _ =>
    exact stopTransport hbetween (s := (s.dropSession between).setTransport none)
      (dropped.of_account rfl) n

end Between

/-- **A client that disconnects closes no session that was closed before.** -/
theorem disconnect (h : s.Once earlier) (shut : s.Shut earlier) : s.disconnect.Once earlier := by
  have account := (untouched_forsaken s).1
  have torn := teardown (fun _ _ h => h) (h.of_account account)
    (shut.of_same (closedSince_of_account account) (isOpen_forsaken s))
  rw [disconnect_eq]
  exact torn.log _

theorem dropClient (h : s.Once earlier) (shut : s.Shut earlier) : s.dropClient.Once earlier := by
  rcases dropClient_cases s with dropped | ⟨-, -, dropped⟩
  · rw [dropped]
    exact (h.disconnect shut).of_account rfl
  · rw [dropped]
    exact h.of_account rfl

/-! ### Attempts to connect -/

theorem announce (h : s.Once earlier) (n : Nat) : (s.announce n).Once earlier := by
  have called : (s.called n .opened).Once earlier := h.of_account rfl
  unfold Scene.announce
  dsimp only
  split
  · exact called
  · split
    · exact called
    · split
      · exact (called.log .opened).of_account rfl
      · exact called.log _

theorem giveUp (h : s.Once earlier) (e : TransportError) (n : Nat) :
    (s.giveUp e n).Once earlier :=
  (stopTransport (fun _ _ h => h) (h.log (.connectFailed e)) n).of_account rfl

/-- An attempt that is withdrawn closes the session of the new connection, unless that was closed in
its midst. -/
theorem settle (h : s.Once earlier) (shut : s.Shut earlier) (n : Nat) :
    (s.settle n).1.Once earlier := by
  rw [settle_eq]
  split
  · have line : (s.forfeited n).closedSince earlier = s.closedSince earlier :=
      closedSince_note (fun _ => rfl) (s.filled n)
    exact teardown (fun _ _ h => h) (h.of_same line) (shut.of_same line fun _ => rfl)
  · exact (h.of_account (t := s.filled n) rfl).log _

section Connect

variable {between : Interludes}
  (hbetween : ∀ m (s : Scene), s.Once earlier → (between m s).Once earlier)

include hbetween

theorem cleared (h : s.Once earlier) (shut : s.Shut earlier) :
    (s.cleared between).Once earlier := by
  have begun : (s.move .beginConnect).Once earlier := h.of_account rfl
  have torn := teardown hbetween begun (shut.of_same (closedSince_of_account rfl) fun _ => rfl)
  exact hbetween .creating _ (torn.log _)

theorem answered (h : s.Once earlier) (plan : Attempt) :
    (s.answered plan between).Once earlier := by
  have launched : (s.launched plan).Once earlier :=
    (h.note (o := .created s.network.length) fun _ => rfl).of_account rfl
  unfold Scene.answered Scene.openTransport
  generalize s.launched plan = t at launched ⊢
  have asked := launched.note (o := .opened s.network.length t.client.config.address
    t.client.config.connectTimeout) fun _ => rfl
  have opened := asked.of_account (t := (t.note _).update s.network.length
    fun c => { c with isOpen := plan.sessionOpen }) rfl
  dsimp only
  refine hbetween .opening _ ?_
  split
  · exact opened.announce _
  · exact opened

/-- **An attempt closes no session that was closed before**, if closed sessions are shut when it
begins, and after whatever happens in its midst. -/
theorem connect (shuts : ∀ m s, (between m s).Shut earlier) (h : s.Once earlier)
    (shut : s.Shut earlier) (plan : Attempt) : (s.connect plan between).1.Once earlier := by
  have cleared := cleared hbetween h shut
  rcases connect_cases plan between s with hc | hc | ⟨-, -, ⟨e, -, hc⟩ | ⟨-, hc⟩⟩
  · rw [hc]
    exact h.log _
  · rw [hc]
    exact h.log _
  · rw [hc]
    exact ((cleared.note (o := .createFailed) fun _ => rfl).log (.startFailed e)).of_account rfl
  · have answered := answered hbetween cleared plan
    have shut : ((s.cleared between).answered plan between).Shut earlier := shuts _ _
    rw [hc, Scene.concluded]
    cases plan.connectError with
    | some e => exact (answered.giveUp e _).of_account rfl
    | none => exact (answered.settle shut _).of_account rfl

end Connect

end Once

/-! ### Steps -/

theorem once_nest {act : Performance}
    (performed : ∀ step (s : Scene), s.Once earlier → (act step s).1.Once earlier) (step : Step)
    (s : Scene) (h : s.Once earlier) : (s.nest act step).Once earlier :=
  (performed step _ (h.note fun _ => rfl)).note fun _ => rfl

/-- A step that does not ask the client to connect. -/
theorem Once.take {act : Performance}
    (performed : ∀ step (s : Scene), s.Once earlier → (act step s).1.Once earlier) {step : Step}
    (other : ∀ plan during, step ≠ .connect plan during) (h : s.Once earlier)
    (shut : s.Shut earlier) : (Scene.take act step s).1.Once earlier := by
  rcases take_cases act step s with same | effect
  · rw [same]
    exact h
  · generalize (Scene.take act step s).1 = t at effect
    cases step with
    | connect plan during => exact absurd rfl (other plan during)
    | disconnect =>
        cases effect
        exact h.disconnect shut
    | _ => exact h.exchanges (once_nest performed) (.of_effect effect (by simp) (by simp))

/-- A step with sealed sessions, if those that have been closed are shut when it begins. -/
theorem Once.takeSealed {act : Performance}
    (performed : ∀ step (s : Scene), s.Once earlier → (act step s).1.Once earlier) (step : Step)
    (h : s.Once earlier) (shut : s.Shut earlier) :
    (Scene.takeSealed earlier act step s).1.Once earlier := by
  cases step with
  | connect plan during =>
      cases gone : s.gone with
      | true =>
          rw [Scene.takeSealed, asClient_of_gone gone]
          exact h
      | false =>
          simp only [Scene.takeSealed, asClient, gone]
          refine h.connect (fun m s h => ?_) (fun m s => shut_sealed earlier _) shut plan
          exact (h.exchanges (once_nest performed) (.nestAll _ s)).of_account rfl
  | _ => exact h.take performed (by simp) shut

/-- **No step with sealed sessions closes a session that was closed before**, at any depth of
nesting. -/
theorem once_performSealed (depth : Nat) (step : Step) (h : s.Once earlier) :
    (s.performSealed earlier depth step).1.Once earlier := by
  induction depth generalizing step s with
  | zero => exact h
  | succ depth ih =>
      have once : (s.sealed earlier).Once earlier := h.of_account rfl
      exact once.takeSealed (fun step s h => ih step h) step (shut_sealed earlier s)

theorem once_performWith (depth : Nat) (command : Command) (h : s.Once earlier)
    (shut : s.Shut earlier) :
    (command.performWith (performSealed earlier depth) s).1.Once earlier := by
  cases command with
  | step step => exact once_performSealed depth step h
  | dropClient =>
      simp only [Command.performWith, asClient]
      split
      · exact h
      · exact h.dropClient shut

end Scene

/-! ### Scripts -/

/-- **No session is closed twice in a run with sealed sessions**, and none that was closed by
earlier commands. -/
theorem nodup_closeds_runSealed (depth : Nat) (script : Script) {earlier : List Nat}
    (distinct : earlier.Nodup) (s : Scene) :
    (earlier ++ closeds ((script.runSealed depth earlier s).flatMap Report.account)).Nodup := by
  induction script generalizing earlier s with
  | nil => simpa [Script.runSealed, closeds] using distinct
  | cons command rest ih =>
      have once : (Scene.sealed earlier { s with account := [] }).Once earlier :=
        (Scene.Once.forgotten distinct s).of_account rfl
      have performed := Scene.once_performWith depth command once (Scene.shut_sealed _ _)
      have later := ih performed
        (command.performWith (Scene.performSealed earlier depth)
          (Scene.sealed earlier { s with account := [] })).1
      simpa [Script.runSealed, Scene.closedSince, closeds_append] using later

/-- **No session is closed twice in a run in which sessions stay closed.** -/
theorem Script.StaysClosed.once {depth : Nat} {script : Script} {s : Scene}
    (stays : script.StaysClosed depth s) (n : Nat) :
    (script.accountOf depth s).countP (Occurrence.closes n) ≤ 1 := by
  have distinct := nodup_closeds_runSealed depth script List.nodup_nil s
  rw [stays] at distinct
  rw [← count_closeds]
  exact List.nodup_iff_count_le_one.1 distinct n

/-- A session that stays open although it was closed, and is offered to the client once more, is
closed twice. -/
example : closeds (Script.accountOf 2 [
      .step (.connect { closeKeepsOpen := true } []),
      .step .disconnect,
      .step (.signal none .opened),
      .step .disconnect] (.start ⟨"wss://bridge/channel", "a", .ofSeconds 10, .ofSeconds 2⟩)) =
    [0, 0] := by
  decide +kernel

end BridgeChannel
