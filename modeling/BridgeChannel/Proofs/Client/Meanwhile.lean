/-
**An attempt to connect, from its beginning to the answer of its transport.**

Before the transport is asked to open, the client lets go of what an earlier connection left behind,
and waits for the factory.  Steps may be performed at each of these points, too.  They find no new
connection yet: the handler of the earlier one is still the latest, so that a disconnect marks that
connection as released and not the one to come.  If no other attempt is accepted meanwhile, then the
state follows the turns from the beginning of the attempt on, and nothing is held when the transport
is asked to open.

Main definitions:

* `Scene.Emptied` — a client that holds no transport does not take one on.

Main results:

* `steady_cleared`, `steady_answering` — the attempt is steady before and after the launch of its
  connection;
* `turns_answering`, `state_answering` — **when the transport answers, the state is a matter of all
  turns since the attempt began**.
-/
import BridgeChannel.Proofs.Client.Connecting

set_option autoImplicit false

namespace BridgeChannel.Scene

/-! ### The slot of the transport -/

/-- A client that held no transport holds none now. -/
def Emptied (s t : Scene) : Prop := s.client.transport = none → t.client.transport = none

theorem unwinding_emptied : Unwinding Emptied where
  refl _ := id
  trans h h' := h' ∘ h
  note _ _ := id
  submitted _ _ _ := id
  requested _ _ := id
  withRoster _ _ := id
  update _ _ _ _ := id
  missed _ _ := id
  heard {n s} _ signal empty := by
    obtain ⟨session, client⟩ := client_hear n signal s
    rw [client]
    exact empty
  disconnect s _ := by rw [client_disconnect]
  close _ _ := id
  letGo _ _ := rfl
  connecting _ _ := id

/-- Once the transport that was left behind has been stopped, none is held. -/
theorem transport_teardown {between : Interludes}
    (hbetween : ∀ m s, Barring Emptied s (between m s)) {s : Scene}
    (none_ : NoneAccepted (s.since (s.teardown between))) :
    (s.teardown between).client.transport = none := by
  have grows : ∀ m s, Grows s (between m s) := fun m s => (hbetween m s).toGrows
  obtain ⟨t, empty, emptied, first⟩ := unwinding_emptied.clearing.emptied hbetween s
  have earlier : Grows s t := by
    rcases first with rfl | ⟨n, rfl⟩
    · exact respected_grows.phased.dropSession grows s
    · exact (respected_grows.phased.dropSession grows s).trans
        ((respected_grows.leaveTransport _).trans (Grows.note _ _))
  exact emptied.holds (fun o ho => none_ o (mem_since_of_later earlier emptied.toGrows ho)) empty

/-- The transport that was left behind is stopped before the factory is asked. -/
theorem transport_cleared {between : Interludes} (hbetween : ∀ m s, Barring Emptied s (between m s))
    {s : Scene} (alone : (s.since (s.cleared between)).countP Occurrence.accepts ≤ 1) :
    (s.cleared between).client.transport = none := by
  obtain ⟨before, after⟩ := noneAccepted_cleared (fun m s => (hbetween m s).toGrows) alone
  have second : Barring Emptied (s.started between) (s.cleared between) := hbetween .creating _
  exact second.holds after (transport_teardown hbetween before)

/-! ### An attempt that is the only one -/

section Alone

variable {depth : Nat} {plan : Attempt} {during : List (Moment × Step)} {s : Scene}

/-- What happened until the transport answers: the launch tells of nothing but a connection. -/
theorem since_answering (depth : Nat) (plan : Attempt) (during : List (Moment × Step)) (s : Scene) :
    s.since (s.answering depth plan during) =
      s.since (s.cleared (interludes (perform depth) during)) ++
        .created (s.cleared (interludes (perform depth) during)).network.length ::
          (s.underway depth plan during).since (s.answering depth plan during) := by
  have grows := respected_grows.inherited.interludes depth during
  have clear := respected_grows.phased.cleared grows s
  have launch : Grows (s.cleared (interludes (perform depth) during))
      (s.underway depth plan during) := respected_grows.launched plan _
  have rest := respected_grows.inherited.answering depth plan during s
  have told : (s.cleared (interludes (perform depth) during)).since
      (s.underway depth plan during) =
        [.created (s.cleared (interludes (perform depth) during)).network.length] :=
    since_of_account [_] rfl
  rw [since_trans (clear.trans launch) rest, since_trans clear launch, told, List.append_assoc]
  rfl

/-- The turns of an attempt are those before the launch of its connection and those after it. -/
theorem turns_answering (depth : Nat) (plan : Attempt) (during : List (Moment × Step))
    (s : Scene) :
    turns (s.since (s.answering depth plan during)) =
      turns (s.since (s.cleared (interludes (perform depth) during))) ++
        turns ((s.underway depth plan during).since (s.answering depth plan during)) := by
  rw [since_answering, turns_append]
  rfl

/-- **Before its connection is launched, an attempt is steady.** -/
theorem steady_cleared
    (alone : (s.since (s.cleared (interludes (perform depth) during))).countP
      Occurrence.accepts ≤ 1) :
    Steady s.begun (s.cleared (interludes (perform depth) during)) :=
  unwinding_steady.cleared (Undisturbed.inherited.interludes depth during) alone

/-- The state follows the turns from the beginning of the attempt on. -/
theorem state_cleared (idle : s.client.state = .disconnected ∨ s.client.state = .closed)
    (alone : (s.since (s.cleared (interludes (perform depth) during))).countP
      Occurrence.accepts ≤ 1) :
    (s.cleared (interludes (perform depth) during)).client.state =
      Turn.effects .connecting
        (turns (s.since (s.cleared (interludes (perform depth) during)))) := by
  have begun : s.begun.client.state = .connecting := by
    have moved : s.begun.client.state = s.client.state.after .beginConnect := rfl
    rw [moved]
    rcases idle with idle | idle <;> rw [idle] <;> rfl
  rw [(steady_cleared alone).state, begun]
  rfl

variable (alone : (s.since (s.answering depth plan during)).countP Occurrence.accepts ≤ 1)

include alone

/-- The one attempt that is accepted is this one. -/
theorem alone_answering :
    (s.since (s.cleared (interludes (perform depth) during))).countP Occurrence.accepts ≤ 1 ∧
      NoneAccepted ((s.underway depth plan during).since (s.answering depth plan during)) := by
  obtain ⟨o, ho, accepted⟩ :=
    accepts_cleared (respected_grows.inherited.interludes depth during) s
  have own : 0 < (s.since (s.cleared (interludes (perform depth) during))).countP
      Occurrence.accepts := List.countP_pos_iff.2 ⟨o, ho, accepted⟩
  rw [since_answering, List.countP_append, List.countP_cons_of_neg (by simp [Occurrence.accepts])]
    at alone
  rw [noneAccepted_iff]
  omega

/-- **After its connection has been launched, an attempt is steady.** -/
theorem steady_answering :
    Steady (s.underway depth plan during) (s.answering depth plan during) :=
  (Undisturbed.inherited.answering depth plan during s).holds (alone_answering alone).2

/-- The client holds no transport when the new one is asked to open, and the new connection is its
latest. -/
theorem client_underway :
    (s.underway depth plan during).client.transport = none ∧
      (s.underway depth plan during).client.handler = some s.network.length ∧
      (s.underway depth plan during).network.length = s.network.length + 1 ∧
      (s.underway depth plan during).isReleased s.network.length = false := by
  have length := (steady_cleared (alone_answering alone).1).length
  have same : s.begun.network.length = s.network.length := rfl
  have empty := transport_cleared
    ((Barring.inherited unwinding_emptied.toRestful).interludes depth during)
    (alone_answering alone).1
  rw [same] at length
  unfold underway
  refine ⟨?_, ?_, ?_, ?_⟩
  · rw [client_launched]
    exact empty
  · rw [client_launched, length]
  · rw [length_launched, length]
  · rw [isReleased, ← length, getElem?_launched]
    rfl

/-- **When the transport answers, the state is a matter of all turns since the attempt began**,
whichever connection they belong to. -/
theorem state_answering (idle : s.client.state = .disconnected ∨ s.client.state = .closed) :
    (s.answering depth plan during).client.state =
      Turn.effects .connecting (turns (s.since (s.answering depth plan during))) := by
  have launched : (s.underway depth plan during).client.state =
      (s.cleared (interludes (perform depth) during)).client.state := rfl
  rw [turns_answering, Turn.effects_append, (steady_answering alone).state, launched,
    state_cleared idle (alone_answering alone).1]

/-- The turns are the signals that were heard, those before the launch through the handlers that
were listened to before, and disconnects. -/
theorem heard_answering :
    (turns (s.since (s.answering depth plan during))).filterMap Turn.signal? =
      s.heard (s.callsSince (s.underway depth plan during)) ++
        (s.answering depth plan during).heard
          ((s.underway depth plan during).callsSince (s.answering depth plan during)) := by
  have cleared := (steady_cleared (alone_answering alone).1).heard
  have opened := (steady_answering alone).heard
  have first : s.begun.heard
        (s.begun.callsSince (s.cleared (interludes (perform depth) during))) =
      s.heard (s.callsSince (s.underway depth plan during)) := rfl
  have same : s.begun.since (s.cleared (interludes (perform depth) during)) =
      s.since (s.cleared (interludes (perform depth) during)) := rfl
  rw [first, same] at cleared
  rw [turns_answering, List.filterMap_append, cleared, opened,
    heard_congr (steady_answering alone).listensTo]

omit alone in
/-- **An attempt that finds a transport ends as that transport answers**, and so does the account of
other attempts. -/
theorem connect_eq_concluded (address : s.client.config.hasAddress = true)
    (idle : s.client.state = .disconnected ∨ s.client.state = .closed)
    (created : plan.createError = none)
    (alone : (s.since (s.connect plan (interludes (perform depth) during)).1).countP
      Occurrence.accepts ≤ 1) :
    s.connect plan (interludes (perform depth) during) =
        (s.answering depth plan during).concluded plan s.network.length ∧
      (s.since (s.answering depth plan during)).countP Occurrence.accepts ≤ 1 := by
  have grows := respected_grows.inherited.interludes depth during
  have opened : Grows s (s.answering depth plan during) :=
    (respected_grows.phased.cleared grows s).trans
      (respected_grows.phased.answered grows plan _)
  have connected : s.connect plan (interludes (perform depth) during) =
      (s.answering depth plan during).concluded plan
        (s.cleared (interludes (perform depth) during)).network.length :=
    connect_eq_of_created _ address (target_beginConnect_of_idle idle) created
  rw [connected, since_trans opened (grows_concluded plan _ _), List.countP_append] at alone
  have earlier : (s.since (s.answering depth plan during)).countP Occurrence.accepts ≤ 1 := by
    omega
  have same : s.begun.network.length = s.network.length := rfl
  rw [(steady_cleared (alone_answering earlier).1).length, same] at connected
  exact ⟨connected, earlier⟩

end Alone

end BridgeChannel.Scene
