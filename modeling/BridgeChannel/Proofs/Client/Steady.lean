/-
**What a client does while no attempt to connect is made.**

As long as every attempt to connect is refused, a client keeps its latest handler and its
generation, it takes on no transport and stops none but the one that it holds, and its state follows
the turns: each signal that it hears and each call of `disconnect` moves the state, in the order in
which they are noted, and nothing else does.  This holds for every step, whatever is nested in it:
signals of the latest connection and of older ones, observers that react to news, messages that are
sent, and so on.

Main definitions:

* `Scene.Steady` — what stays, and what follows the turns;
* `Scene.Still` — steadiness without a turn;
* `Scene.Restful` — relations that hold across everything but attempts to connect;
* `Scene.Barring` — a relation that holds unless an attempt was accepted;
* `Scene.Unwinding` — relations that also hold while an attempt begins;
* `Scene.Undisturbed` — two scenes between which no attempt was made are related by `Steady`.

Main results:

* `steady_disconnect`, `turns_disconnect` — disconnecting is one turn;
* `Barring.inherited` — **what is restful holds across every step that does not connect**;
* `Unwinding.cleared` — what is unwinding holds until the factory answers;
* `Undisturbed.inherited` — **every step is steady unless it connects, at any depth of nesting**.
-/
import BridgeChannel.Proofs.Client.Attempt

set_option autoImplicit false

namespace BridgeChannel.Scene

/-! ### Members of a history -/

theorem mem_since_of_earlier {s t u : Scene} (h : Grows s t) (h' : Grows t u) {o : Occurrence}
    (ho : o ∈ s.since t) : o ∈ s.since u := by
  rw [since_trans h h']
  exact List.mem_append_left _ ho

theorem mem_since_of_later {s t u : Scene} (h : Grows s t) (h' : Grows t u) {o : Occurrence}
    (ho : o ∈ t.since u) : o ∈ s.since u := by
  rw [since_trans h h']
  exact List.mem_append_right _ ho

/-- Whether an attempt to connect that was not refused is among some occurrences. -/
def NoneAccepted (occurrences : List Occurrence) : Prop :=
  ∀ o ∈ occurrences, o.accepts = false

theorem NoneAccepted.not_accepted {occurrences : List Occurrence} (h : NoneAccepted occurrences) :
    ¬∃ o ∈ occurrences, o.accepts = true := by
  rintro ⟨o, ho, accepted⟩
  rw [h o ho] at accepted
  exact absurd accepted (by simp)

theorem noneAccepted_iff {occurrences : List Occurrence} :
    NoneAccepted occurrences ↔ occurrences.countP Occurrence.accepts = 0 := by
  simp [NoneAccepted, List.countP_eq_zero]

/-! ### Steadiness -/

/-- What stays, and what follows the turns, while no attempt to connect is made. -/
structure Steady (s s' : Scene) : Prop extends Grows s s' where
  gone : s'.gone = s.gone
  config : s'.client.config = s.client.config
  generation : s'.client.generation = s.client.generation
  handler : s'.client.handler = s.client.handler
  links : ∀ k : Nat,
    s'.network[k]?.map Connection.generation = s.network[k]?.map Connection.generation
  transport : s'.client.transport = none ∨ s'.client.transport = s.client.transport
  stopped : ∀ k, (s.since s').any (Occurrence.stops k) = true → s.client.transport = some k
  released : ∀ k, s'.isReleased k = true ↔
    s.isReleased k = true ∨
      (Turn.disconnected ∈ turns (s.since s') ∧ s.client.handler = some k ∧ k < s.network.length)
  state : s'.client.state = Turn.effects s.client.state (turns (s.since s'))
  heard : (turns (s.since s')).filterMap Turn.signal? = s.heard (s.callsSince s')

namespace Steady

theorem length {s s' : Scene} (h : Steady s s') : s'.network.length = s.network.length := by
  refine Nat.le_antisymm ?_ h.network
  -- a connection more would have a generation where there was none
  by_contra hlt
  have there : s'.network[s.network.length]?.map Connection.generation ≠ none := by
    simpa using Nat.lt_of_not_le hlt
  rw [h.links] at there
  simp at there

/-- The client listens to the same handlers as before. -/
theorem listensTo {s s' : Scene} (h : Steady s s') : s'.listensTo = s.listensTo :=
  listensTo_congr h.gone h.generation h.links

theorem trans {s t u : Scene} (h : Steady s t) (h' : Steady t u) : Steady s u where
  toGrows := h.toGrows.trans h'.toGrows
  gone := h'.gone.trans h.gone
  config := h'.config.trans h.config
  generation := h'.generation.trans h.generation
  handler := h'.handler.trans h.handler
  links k := (h'.links k).trans (h.links k)
  transport := by
    rcases h'.transport with none_ | same
    · exact Or.inl none_
    · rw [same]
      exact h.transport
  stopped k hk := by
    rw [since_trans h.toGrows h'.toGrows, List.any_append, Bool.or_eq_true] at hk
    rcases hk with hk | hk
    · exact h.stopped k hk
    · -- what is stopped later was held in between, and nothing is taken on
      have held := h'.stopped k hk
      rcases h.transport with none_ | same
      · rw [none_] at held
        exact absurd held (by simp)
      · exact same ▸ held
  released k := by
    rw [h'.released, h.released, since_trans h.toGrows h'.toGrows, turns_append, h.handler,
      h.length]
    simp only [List.mem_append]
    -- both stretches have the same latest handler, and whichever disconnects has released it
    constructor
    · rintro ((old | ⟨hd, hk⟩) | ⟨hd, hk⟩)
      · exact Or.inl old
      · exact Or.inr ⟨Or.inl hd, hk⟩
      · exact Or.inr ⟨Or.inr hd, hk⟩
    · rintro (old | ⟨hd | hd, hk⟩)
      · exact Or.inl (Or.inl old)
      · exact Or.inl (Or.inr ⟨hd, hk⟩)
      · exact Or.inr ⟨hd, hk⟩
  state := by
    rw [since_trans h.toGrows h'.toGrows, turns_append, Turn.effects_append, ← h.state]
    exact h'.state
  heard := by
    rw [since_trans h.toGrows h'.toGrows, turns_append, List.filterMap_append,
      callsSince_trans h.toGrows h'.toGrows, heard_append, h.heard, h'.heard,
      heard_congr h.listensTo]

/-- A change that tells nothing, and leaves alone what is watched. -/
theorem of_silent {s s' : Scene} (grows : Grows s s') (gone : s'.gone = s.gone)
    (client : ∃ session transport, s'.client = { s.client with session, transport })
    (transport : s'.client.transport = none ∨ s'.client.transport = s.client.transport)
    (links : ∀ k : Nat,
      s'.network[k]?.map Connection.generation = s.network[k]?.map Connection.generation)
    (released : ∀ k, s'.isReleased k = s.isReleased k)
    (stopped : ∀ k, (s.since s').any (Occurrence.stops k) = true → s.client.transport = some k)
    (silent : turns (s.since s') = []) (unheard : s.heard (s.callsSince s') = []) :
    Steady s s' where
  toGrows := grows
  gone := gone
  config := by obtain ⟨_, _, hc⟩ := client; rw [hc]
  generation := by obtain ⟨_, _, hc⟩ := client; rw [hc]
  handler := by obtain ⟨_, _, hc⟩ := client; rw [hc]
  links := links
  transport := transport
  stopped := stopped
  released k := by simp [released, silent]
  state := by obtain ⟨_, _, hc⟩ := client; rw [hc, silent]; rfl
  heard := by rw [silent, unheard]; rfl

/-- A change that neither the account nor the calls tell of. -/
theorem of_untold {s s' : Scene} (account : s'.account = s.account) (calls : s'.calls = s.calls)
    (gone : s'.gone = s.gone)
    (client : ∃ session transport, s'.client = { s.client with session, transport })
    (transport : s'.client.transport = none ∨ s'.client.transport = s.client.transport)
    (links : ∀ k : Nat,
      s'.network[k]?.map Connection.generation = s.network[k]?.map Connection.generation)
    (released : ∀ k, s'.isReleased k = s.isReleased k)
    (network : s.network.length ≤ s'.network.length) : Steady s s' := by
  refine of_silent (Grows.of_eq account calls network) gone client transport links released ?_ ?_ ?_
  · intro k hk
    rw [since_eq_nil account] at hk
    exact absurd hk (by simp)
  · rw [since_eq_nil account]
    rfl
  · rw [callsSince_eq_nil calls]
    rfl

theorem refl (s : Scene) : Steady s s :=
  of_untold rfl rfl rfl ⟨_, _, rfl⟩ (Or.inr rfl) (fun _ => rfl) (fun _ => rfl) (Nat.le_refl _)

theorem note {o : Occurrence} (silent : o.Silent) (s : Scene) : Steady s (s.note o) := by
  refine of_silent (Grows.note o s) rfl ⟨_, _, rfl⟩ (Or.inr rfl) (fun _ => rfl) (fun _ => rfl)
    ?_ ?_ ?_
  · intro k hk
    rw [since_note, List.any_cons, silent.stops, Bool.false_or] at hk
    exact absurd hk (by simp)
  · rw [since_note, turns_silent silent]
  · have uncalled : s.callsSince (s.note o) = [] := callsSince_eq_nil rfl
    rw [uncalled]
    rfl

/-- A connection is changed, but nothing that ties it to the client. -/
theorem update {f : Connection → Connection} (mild : Connection.Mild f) (n : Nat) (s : Scene) :
    Steady s (s.update n f) := by
  refine of_untold rfl rfl rfl ⟨_, _, rfl⟩ (Or.inr rfl) (links_update mild.generation n s) ?_
    (by simp [Scene.update])
  intro k
  simp only [Scene.isReleased, Scene.update, List.getElem?_modify]
  split
  · cases s.network[k]? <;> simp [mild.released]
  · simp

theorem missed {n : Nat} {s : Scene} (deaf : s.listensTo n = false) (signal : Signal) :
    Steady s (s.called n signal) := by
  have untold : s.since (s.called n signal) = [] := since_eq_nil rfl
  refine of_silent (Grows.called n signal s) rfl ⟨_, _, rfl⟩ (Or.inr rfl) (fun _ => rfl)
    (fun _ => rfl) ?_ ?_ ?_
  · intro k hk
    rw [untold] at hk
    exact absurd hk (by simp)
  · rw [untold]
    rfl
  · rw [callsSince_of_calls [(n, signal)] rfl]
    simp [Scene.heard, deaf]

/-- A signal that is heard is one turn. -/
theorem hear {n : Nat} {s : Scene} (listens : s.listensTo n = true) (signal : Signal) :
    Steady s (s.hear n signal) := by
  obtain ⟨session, hclient⟩ := client_hear n signal s
  obtain ⟨hnetwork, hgone⟩ := network_hear n signal s
  have told : s.since (s.hear n signal) = [.log signal.line] :=
    since_of_account [_] (account_hear n signal s)
  have turn : turns (s.since (s.hear n signal)) = [.heard signal] := by
    rw [told, turns_singleton (Occurrence.turn?_line signal)]
  have call : s.callsSince (s.hear n signal) = [(n, signal)] :=
    callsSince_of_calls [_] (calls_hear n signal s)
  refine
    { account := account_hear n signal s ▸ List.suffix_cons _ _
      calls := calls_hear n signal s ▸ List.suffix_cons _ _
      network := Nat.le_of_eq (by rw [hnetwork])
      gone := hgone
      config := by rw [hclient]
      generation := by rw [hclient]
      handler := by rw [hclient]
      links := fun k => by rw [hnetwork]
      transport := Or.inr (by rw [hclient])
      stopped := ?_
      released := ?_
      state := by rw [hclient, turn]; rfl
      heard := by rw [turn, call]; simp [Scene.heard, listens, Turn.signal?] }
  · intro k hk
    rw [told] at hk
    cases signal <;> exact absurd hk (by simp [Signal.line, Occurrence.stops])
  · intro k
    simp [turn, Scene.isReleased, hnetwork]

theorem setSession (n : Option Nat) (s : Scene) : Steady s (s.setSession n) :=
  of_untold rfl rfl rfl ⟨_, _, rfl⟩ (Or.inr rfl) (fun _ => rfl) (fun _ => rfl) (Nat.le_refl _)

/-- The transport that the client holds is let go of, and stopped. -/
theorem letGo {n : Nat} {s : Scene} (held : s.client.transport = some n) :
    Steady s ((s.setTransport none).note (.stopped n)) := by
  have told : s.since ((s.setTransport none).note (.stopped n)) = [.stopped n] :=
    since_of_account [_] rfl
  have uncalled : s.callsSince ((s.setTransport none).note (.stopped n)) = [] :=
    callsSince_eq_nil rfl
  refine of_silent ⟨List.suffix_cons _ _, List.suffix_refl _, Nat.le_refl _⟩ rfl ⟨_, _, rfl⟩
    (Or.inl rfl) (fun _ => rfl) (fun _ => rfl) ?_ ?_ ?_
  · intro k hk
    rw [told] at hk
    obtain rfl : n = k := by simpa [Occurrence.stops] using hk
    exact held
  · rw [told]
    rfl
  · rw [uncalled]
    rfl

end Steady

/-- While a client holds no transport, none is stopped. -/
theorem Steady.unstopped {s s' : Scene} (h : Steady s s') (empty : s.client.transport = none)
    (n : Nat) : (s.since s').countP (Occurrence.stops n) = 0 := by
  rw [List.countP_eq_zero]
  intro o ho stops
  have held := h.stopped n (List.any_eq_true.2 ⟨o, ho, stops⟩)
  rw [empty] at held
  exact absurd held (by simp)

/-! ### Closing -/

/-- Steadiness without a turn. -/
structure Still (s s' : Scene) : Prop extends Steady s s' where
  silent : turns (s.since s') = []

namespace Still

theorem trans {s t u : Scene} (h : Still s t) (h' : Still t u) : Still s u where
  toSteady := h.toSteady.trans h'.toSteady
  silent := by rw [since_trans h.toGrows h'.toGrows, turns_append, h.silent, h'.silent]; rfl

theorem refl (s : Scene) : Still s s := ⟨Steady.refl s, by rw [since_self]; rfl⟩

theorem note {o : Occurrence} (silent : o.Silent) (s : Scene) : Still s (s.note o) :=
  ⟨Steady.note silent s, by rw [since_note, turns_silent silent]⟩

theorem update {f : Connection → Connection} (mild : Connection.Mild f) (n : Nat) (s : Scene) :
    Still s (s.update n f) :=
  ⟨Steady.update mild n s, turns_since_of_account rfl⟩

theorem setSession (n : Option Nat) (s : Scene) : Still s (s.setSession n) :=
  ⟨Steady.setSession n s, turns_since_of_account rfl⟩

theorem closeSession (n : Nat) (s : Scene) : Still s (closeSession quietly n s) := by
  have closed : Still s (s.note (.closed n)) := note ⟨rfl, fun _ => rfl⟩ s
  unfold Scene.closeSession
  dsimp only [quietly]
  split
  · exact closed.trans (note ⟨rfl, fun _ => rfl⟩ _)
  · split
    · exact closed
    · exact closed.trans (update (.isOpen false) n _)

theorem dropSession (s : Scene) : Still s (dropSession quietly s) := by
  unfold Scene.dropSession
  split
  · exact refl s
  · split
    · exact (setSession none s).trans (closeSession _ _)
    · exact setSession none s

theorem dropTransport (s : Scene) : Still s (dropTransport quietly s) := by
  unfold Scene.dropTransport
  split
  · exact refl s
  next n held =>
    have stopped : Still s ((s.setTransport none).note (.stopped n)) :=
      ⟨Steady.letGo held, by rw [since_of_account [.stopped n] rfl]; rfl⟩
    unfold stopTransport
    dsimp only [quietly]
    split
    · exact stopped.trans (note ⟨rfl, fun _ => rfl⟩ _)
    · exact stopped

/-- Tearing down is no turn. -/
theorem teardown (s : Scene) : Still s (s.teardown quietly) :=
  (dropSession s).trans (dropTransport _)

end Still

/-! ### What a teardown tells -/

/-- Occurrences that are log lines. -/
def OnlyLines (occurrences : List Occurrence) : Prop := ∀ o ∈ occurrences, ∃ line, o = .log line

theorem OnlyLines.not_mem {occurrences : List Occurrence} (h : OnlyLines occurrences)
    {o : Occurrence} (other : ∀ line, o ≠ .log line) : o ∉ occurrences := by
  intro ho
  obtain ⟨line, hline⟩ := h o ho
  exact absurd hline (other line)

theorem since_closeSession (n : Nat) (s : Scene) :
    ∃ rest, OnlyLines rest ∧ s.since (closeSession quietly n s) = .closed n :: rest := by
  unfold closeSession
  dsimp only [quietly]
  split
  next e _ =>
    refine ⟨[.log (.sessionCloseFailed e)], by simp [OnlyLines], ?_⟩
    exact since_of_account [.log (.sessionCloseFailed e), .closed n] rfl
  · refine ⟨[], by simp [OnlyLines], ?_⟩
    split <;> exact since_of_account [.closed n] rfl

theorem since_stopTransport (n : Nat) (s : Scene) :
    ∃ rest, OnlyLines rest ∧ s.since (stopTransport quietly n s) = .stopped n :: rest := by
  unfold stopTransport
  dsimp only [quietly]
  split
  next e _ =>
    refine ⟨[.log (.stopFailed e)], by simp [OnlyLines], ?_⟩
    exact since_of_account [.log (.stopFailed e), .stopped n] rfl
  · exact ⟨[], by simp [OnlyLines], since_of_account [.stopped n] rfl⟩

theorem since_dropSession (s : Scene) :
    ∃ rest, OnlyLines rest ∧
      s.since (dropSession quietly s) = s.openSession?.toList.map Occurrence.closed ++ rest := by
  unfold dropSession openSession?
  cases held : s.client.session with
  | none => exact ⟨[], by simp [OnlyLines], since_self s⟩
  | some n =>
      rw [Option.filter_some]
      dsimp only
      split
      · obtain ⟨rest, lines, told⟩ := since_closeSession n (s.setSession none)
        exact ⟨rest, lines, told⟩
      · have untold : s.since (s.setSession none) = [] := since_eq_nil rfl
        exact ⟨[], by simp [OnlyLines], untold⟩

theorem since_dropTransport (s : Scene) :
    ∃ rest, OnlyLines rest ∧
      s.since (dropTransport quietly s) =
        s.client.transport.toList.map Occurrence.stopped ++ rest := by
  unfold dropTransport
  cases held : s.client.transport with
  | none => exact ⟨[], by simp [OnlyLines], since_self s⟩
  | some n => exact since_stopTransport n (s.setTransport none)

/-- **A teardown closes the session that the client holds, if it is open, and then stops the
transport that the client holds; besides that it leaves log lines.** -/
theorem since_teardown (s : Scene) :
    ∃ first second, OnlyLines first ∧ OnlyLines second ∧
      s.since (s.teardown quietly) =
        s.openSession?.toList.map Occurrence.closed ++ first ++
          (s.client.transport.toList.map Occurrence.stopped ++ second) := by
  obtain ⟨first, hfirst, closed⟩ := since_dropSession s
  obtain ⟨second, hsecond, stopped⟩ := since_dropTransport (dropSession quietly s)
  refine ⟨first, second, hfirst, hsecond, ?_⟩
  rw [client_dropSession_quietly] at stopped
  rw [teardown, since_trans (Still.dropSession s).toGrows (Still.dropTransport _).toGrows, closed,
    stopped]

/-! ### Disconnecting -/

/-- The client disconnects, but has not torn anything down yet. -/
def forsaken (s : Scene) : Scene :=
  match s.client.handler with
  | some n => (s.move .closed).update n fun c => { c with released := true }
  | none => s.move .closed

theorem disconnect_eq (s : Scene) :
    s.disconnect = (s.forsaken.teardown quietly).log .disconnected := by
  cases latest : s.client.handler <;> simp [disconnect, forsaken, move, latest]

theorem client_forsaken (s : Scene) : s.forsaken.client = { s.client with state := .closed } := by
  unfold forsaken
  split <;> rfl

theorem untouched_forsaken (s : Scene) :
    s.forsaken.account = s.account ∧ s.forsaken.calls = s.calls ∧ s.forsaken.gone = s.gone ∧
      s.forsaken.network.length = s.network.length := by
  unfold forsaken
  split
  · exact ⟨rfl, rfl, rfl, by simp [update]⟩
  · exact ⟨rfl, rfl, rfl, rfl⟩

theorem links_forsaken (s : Scene) (k : Nat) :
    s.forsaken.network[k]?.map Connection.generation =
      s.network[k]?.map Connection.generation := by
  unfold forsaken
  split
  next n _ =>
    exact links_update (f := fun c => { c with released := true }) (fun _ => rfl) n
      (s.move .closed) k
  · rfl

theorem isOpen_forsaken (s : Scene) (n : Nat) : s.forsaken.isOpen n = s.isOpen n := by
  unfold forsaken
  split
  · exact isOpen_update (f := fun c => { c with released := true }) (fun _ => rfl) _ n
      (s.move .closed)
  · rfl

theorem isReleased_forsaken (s : Scene) (k : Nat) :
    s.forsaken.isReleased k = true ↔
      s.isReleased k = true ∨ (s.client.handler = some k ∧ k < s.network.length) := by
  unfold forsaken
  split
  next n latest =>
    simp only [isReleased, update, network_move, List.getElem?_modify]
    by_cases same : n = k
    · -- the latest connection, if it is there at all
      subst same
      cases there : s.network[n]? with
      | none =>
          have beyond : s.network.length ≤ n := List.getElem?_eq_none_iff.1 there
          simp [Nat.not_lt.2 beyond]
      | some c =>
          have within : n < s.network.length := (List.getElem?_eq_some_iff.1 there).1
          simp [latest, within]
    · have other : s.client.handler ≠ some k := by
        rw [latest]
        simpa using same
      simp [same, latest]
  next none_ => simp [none_, isReleased]

theorem since_disconnect (s : Scene) :
    s.since s.disconnect =
      s.forsaken.since (s.forsaken.teardown quietly) ++ [.log .disconnected] := by
  have started : Grows s s.forsaken := by
    obtain ⟨account, calls, -, network⟩ := untouched_forsaken s
    exact Grows.of_eq account calls (Nat.le_of_eq network.symm)
  have torn : Grows s.forsaken (s.forsaken.teardown quietly) := (Still.teardown _).toGrows
  have noted := Grows.note (.log .disconnected) (s.forsaken.teardown quietly)
  rw [disconnect_eq, log, since_trans (started.trans torn) noted, since_trans started torn,
    since_eq_nil (untouched_forsaken s).1, since_note]
  rfl

/-- **Disconnecting is one turn.** -/
theorem turns_disconnect (s : Scene) : turns (s.since s.disconnect) = [.disconnected] := by
  rw [since_disconnect, turns_append, (Still.teardown _).silent]
  rfl

/-- **Disconnecting is one turn, and touches the latest connection and what the client holds.** -/
theorem steady_disconnect (s : Scene) : Steady s s.disconnect := by
  obtain ⟨account, calls, gone, network⟩ := untouched_forsaken s
  have torn : Still s.forsaken (s.forsaken.teardown quietly) := Still.teardown _
  have grows : Grows s s.disconnect :=
    (Grows.of_eq account calls (Nat.le_of_eq network.symm)).trans
      (torn.toGrows.trans (disconnect_eq s ▸ Grows.note _ _))
  have uncalled : s.heard (s.callsSince s.disconnect) = [] := by
    -- the calls are those of the teardown, of which none is heard, for it is no turn
    have unheard := torn.heard
    rw [torn.silent, List.filterMap_nil] at unheard
    have same : s.forsaken.listensTo = s.listensTo :=
      listensTo_congr gone (by rw [client_forsaken]) (links_forsaken s)
    rw [← heard_congr same, disconnect_eq]
    unfold callsSince at unheard ⊢
    rw [← calls]
    exact unheard.symm
  refine
    { toGrows := grows
      gone := ?_
      config := by rw [client_disconnect]
      generation := by rw [client_disconnect]
      handler := by rw [client_disconnect]
      links := fun k => ?_
      transport := Or.inl (by rw [client_disconnect])
      stopped := fun k hk => ?_
      released := fun k => ?_
      state := by rw [client_disconnect, turns_disconnect]; rfl
      heard := by rw [turns_disconnect, uncalled]; rfl }
  · rw [← gone, ← torn.gone, disconnect_eq]
    rfl
  · have after : s.disconnect.network = (s.forsaken.teardown quietly).network := by
      rw [disconnect_eq]
      rfl
    rw [after, torn.links, links_forsaken]
  · rw [since_disconnect, List.any_append, Bool.or_eq_true] at hk
    rcases hk with hk | hk
    · have held := torn.stopped k hk
      rw [client_forsaken] at held
      exact held
    · exact absurd hk (by simp [Occurrence.stops])
  · have before : s.disconnect.isReleased k = (s.forsaken.teardown quietly).isReleased k := by
      rw [disconnect_eq]
      rfl
    rw [before, torn.released, torn.silent, isReleased_forsaken, turns_disconnect]
    simp

/-! ### Without an attempt to connect -/

/-- A relation between an earlier and a later scene that holds across every elementary change, and
across a disconnect. -/
structure Restful (Q : Scene → Scene → Prop) : Prop where
  refl : ∀ s, Q s s
  trans : ∀ {s t u}, Q s t → Q t u → Q s u
  note : ∀ {o : Occurrence}, o.Plain → ∀ s, Q s (s.note o)
  submitted : ∀ n frame s, Q s (s.submitted n frame)
  requested : ∀ m s, Q s (s.requested m)
  withRoster : ∀ (s : Scene) r, Q s { s with roster := r }
  update : ∀ n {f : Connection → Connection} s, Connection.Mild f → Q s (s.update n f)
  missed : ∀ {n s}, s.listensTo n = false → ∀ signal, Q s (s.called n signal)
  heard : ∀ {n s}, s.listensTo n = true → ∀ signal, Q s (s.hear n signal)
  disconnect : ∀ s, Q s s.disconnect

theorem Restful.exchange {Q : Scene → Scene → Prop} (h : Restful Q) {act : Performance}
    (nested : ∀ step s, Q s (s.nest act step)) {s s' : Scene} (change : Exchange act s s') :
    Q s s' := by
  cases change with
  | note plain => exact h.note plain s
  | submitted n frame => exact h.submitted n frame s
  | requested m => exact h.requested m s
  | withRoster r => exact h.withRoster s r
  | update n mild => exact h.update n s mild
  | missed n signal deaf => exact h.missed deaf signal
  | heard n signal listens => exact h.heard listens signal
  | nested step => exact nested step s

/-- If every attempt to connect in between was refused, the scenes are related. -/
structure Barring (Q : Scene → Scene → Prop) (s s' : Scene) : Prop extends Grows s s' where
  holds : NoneAccepted (s.since s') → Q s s'

section Cleared

variable {between : Interludes} (hbetween : ∀ m s, Grows s (between m s))

include hbetween

theorem grows_torn (s : Scene) : Grows s (s.torn between) :=
  (respected_grows.move _ s).trans (respected_grows.phased.teardown hbetween _)

/-- An attempt that is not refused says so after the teardown and before the factory is asked. -/
theorem since_cleared (s : Scene) :
    s.since (s.cleared between) =
      s.since (s.torn between) ++ .log (.connecting (s.torn between).client.config.address) ::
        (s.started between).since (s.cleared between) := by
  have first := grows_torn hbetween s
  have line : Grows (s.torn between) (s.started between) := Grows.note _ _
  have told : (s.torn between).since (s.started between) =
      [.log (.connecting (s.torn between).client.config.address)] := since_note _ _
  have later : Grows (s.started between) (s.cleared between) := hbetween .creating _
  rw [since_trans (first.trans line) later, since_trans first line, told, List.append_assoc]
  rfl

/-- An attempt that is not refused is in the account from the time on at which the factory is
asked. -/
theorem accepts_cleared (s : Scene) : ∃ o ∈ s.since (s.cleared between), o.accepts = true := by
  rw [since_cleared hbetween]
  exact ⟨_, List.mem_append_right _ List.mem_cons_self, rfl⟩

/-- If an attempt is the only one that is not refused, none is accepted before and after it says
that it connects. -/
theorem noneAccepted_cleared {s : Scene}
    (alone : (s.since (s.cleared between)).countP Occurrence.accepts ≤ 1) :
    NoneAccepted (s.since (s.torn between)) ∧
      NoneAccepted ((s.started between).since (s.cleared between)) := by
  rw [since_cleared hbetween, List.countP_append, List.countP_cons_of_pos rfl] at alone
  rw [noneAccepted_iff, noneAccepted_iff]
  omega

end Cleared

namespace Barring

variable {Q : Scene → Scene → Prop} (restful : Restful Q)

include restful

theorem trans {s t u : Scene} (h : Barring Q s t) (h' : Barring Q t u) : Barring Q s u where
  toGrows := h.toGrows.trans h'.toGrows
  holds none_ := by
    have first : NoneAccepted (s.since t) := fun o ho =>
      none_ o (mem_since_of_earlier h.toGrows h'.toGrows ho)
    have second : NoneAccepted (t.since u) := fun o ho =>
      none_ o (mem_since_of_later h.toGrows h'.toGrows ho)
    exact restful.trans (h.holds first) (h'.holds second)

/-- What is restful stays so if it may fail where an attempt was accepted. -/
theorem restful_barring : Restful (Barring Q) where
  refl s := ⟨Grows.refl s, fun _ => restful.refl s⟩
  trans := trans restful
  note plain s := ⟨Grows.note _ s, fun _ => restful.note plain s⟩
  submitted n frame s := ⟨respected_grows.submitted n frame s, fun _ => restful.submitted n frame s⟩
  requested m s := ⟨respected_grows.requested m s, fun _ => restful.requested m s⟩
  withRoster s r := ⟨respected_grows.withRoster s r, fun _ => restful.withRoster s r⟩
  update n _ s mild :=
    ⟨respected_grows.update n s mild.generation, fun _ => restful.update n s mild⟩
  missed deaf signal := ⟨Grows.called _ signal _, fun _ => restful.missed deaf signal⟩
  heard listens signal := ⟨respected_grows.hear _ signal _, fun _ => restful.heard listens signal⟩
  disconnect s := ⟨respected_grows.phased.disconnect s, fun _ => restful.disconnect s⟩

/-- A refused attempt leaves a log line. -/
theorem connect {between : Interludes} (hbetween : ∀ m s, Barring Q s (between m s))
    (plan : Attempt) (s : Scene) : Barring Q s (s.connect plan between).1 := by
  have grows : ∀ m s, Grows s (between m s) := fun m s => (hbetween m s).toGrows
  rcases connect_cases plan between s with hc | hc | ⟨-, -, ending⟩
  · rw [hc]
    exact (restful_barring restful).note (.of_isPlain rfl) s
  · rw [hc]
    exact (restful_barring restful).note (.of_isPlain rfl) s
  · -- an attempt that was not refused has been noted, which contradicts that none was accepted
    refine ⟨respected_grows.phased.connect grows plan s, fun none_ => ?_⟩
    obtain ⟨o, ho, accepted⟩ := accepts_cleared grows s
    have clear := respected_grows.phased.cleared grows s
    have rest : Grows (s.cleared between) (s.connect plan between).1 := by
      rcases ending with ⟨e, -, hc⟩ | ⟨-, hc⟩
      · rw [hc]
        exact ((Grows.note _ _).trans (Grows.note _ _)).trans (respected_grows.move _ _)
      · rw [hc]
        exact respected_grows.phased.concluded (respected_grows.phased.answered grows plan _)
          (Nat.le_refl _) (respected_grows.phased.lt_answered grows plan _)
    exact absurd ⟨o, mem_since_of_earlier clear rest ho, accepted⟩ none_.not_accepted

/-- **What holds across every elementary change and every disconnect holds across every step, at any
depth of nesting, unless it connects.** -/
theorem inherited : Inherited (Barring Q) where
  refl := (restful_barring restful).refl
  trans := trans restful
  note := (restful_barring restful).note
  exchange nested change := (restful_barring restful).exchange nested change
  disconnect := (restful_barring restful).disconnect
  connect := connect restful

end Barring

theorem restful_steady : Restful Steady where
  refl := Steady.refl
  trans := Steady.trans
  note plain := Steady.note plain.toSilent
  submitted _ _ _ := Steady.of_untold rfl rfl rfl ⟨_, _, rfl⟩ (Or.inr rfl) (fun _ => rfl)
    (fun _ => rfl) (Nat.le_refl _)
  requested _ _ := Steady.of_untold rfl rfl rfl ⟨_, _, rfl⟩ (Or.inr rfl) (fun _ => rfl)
    (fun _ => rfl) (Nat.le_refl _)
  withRoster _ _ := Steady.of_untold rfl rfl rfl ⟨_, _, rfl⟩ (Or.inr rfl) (fun _ => rfl)
    (fun _ => rfl) (Nat.le_refl _)
  update n _ s mild := Steady.update mild n s
  missed := Steady.missed
  heard := Steady.hear
  disconnect := steady_disconnect

/-! ### The start of an attempt -/

/-- A restful relation that also holds across the parts of a teardown, and across the line with
which an attempt to connect begins. -/
structure Unwinding (Q : Scene → Scene → Prop) : Prop extends Restful Q where
  close : ∀ n s, Q s (s.note (.closed n))
  letGo : ∀ {n s}, s.client.transport = some n → Q s ((s.setTransport none).note (.stopped n))
  connecting : ∀ address s, Q s (s.log (.connecting address))

theorem Unwinding.clearing {Q : Scene → Scene → Prop} (h : Unwinding Q) : Clearing (Barring Q) where
  refl := (Barring.restful_barring h.toRestful).refl
  trans := Barring.trans h.toRestful
  note plain _ := (Barring.restful_barring h.toRestful).note plain
  update n _ s mild := (Barring.restful_barring h.toRestful).update n s mild
  close {n s} _ := ⟨Grows.note _ s, fun _ => h.close n s⟩
  letGo held := ⟨(respected_grows.leaveTransport _).trans (Grows.note _ _), fun _ => h.letGo held⟩

/-- **What is unwinding holds from the beginning of an attempt until the factory answers**, if this
attempt is the only one that is not refused. -/
theorem Unwinding.cleared {Q : Scene → Scene → Prop} (h : Unwinding Q) {between : Interludes}
    (hbetween : ∀ m s, Barring Q s (between m s)) {s : Scene}
    (alone : (s.since (s.cleared between)).countP Occurrence.accepts ≤ 1) :
    Q s.begun (s.cleared between) := by
  have first : Barring Q s.begun (s.torn between) :=
    h.clearing.teardown hbetween (s.move .beginConnect)
  have second : Barring Q (s.started between) (s.cleared between) := hbetween .creating _
  obtain ⟨before, after⟩ := noneAccepted_cleared (fun m s => (hbetween m s).toGrows) alone
  exact h.trans (h.trans (first.holds before) (h.connecting _ _)) (second.holds after)

theorem unwinding_steady : Unwinding Steady where
  toRestful := restful_steady
  close _ := Steady.note ⟨rfl, fun _ => rfl⟩
  letGo := Steady.letGo
  connecting _ := Steady.note ⟨rfl, fun _ => rfl⟩

/-- If every attempt to connect in between was refused, the scenes are related by `Steady`. -/
abbrev Undisturbed : Scene → Scene → Prop := Barring Steady

namespace Undisturbed

/-- **Every step, at any depth of nesting, is steady unless it connects.** -/
theorem inherited : Inherited Undisturbed := Barring.inherited restful_steady

/-- A teardown is steady, if what happens in its midst is. -/
theorem clearing : Clearing Undisturbed := unwinding_steady.clearing

end Undisturbed

end BridgeChannel.Scene
