/-
**Transports are neither leaked nor stopped twice.**

A transport is owed to the client from the time on at which the factory has returned it, until it is
stopped.  While the transport of an attempt is being opened it is owed as well, though no slot holds
it yet; at all other times, what is owed is what the slot holds.  If no two attempts overlap, the
slot is empty whenever the factory is asked, so that nothing that it holds is ever forgotten.

Main definitions:

* `createds`, `stoppeds` — the transports that were created, and those that were stopped;
* `Balanced` — what was owed before some occurrences, what is owed after them, and that nothing was
  owed when the factory was asked in between;
* `Scene.Rests`, `Scene.Balances`, `Scene.Kept` — the slot of the transport in the midst of an
  attempt, across attempts, and across a run;
* `Custody` — the accounts of transports from the start of a client on.

Main results:

* `Balanced.append` — accounts are put together;
* `restful_rests`, `balances_connect` — **the slot is balanced across everything but attempts, and
  across every attempt in the midst of which there is no other**;
* `kept_of_apart` — **the slot is balanced across a run without overlapping attempts**;
* `transports_kept` — **in such a run, transports and sessions are neither leaked nor released
  twice**.
-/
import Mathlib
import BridgeChannel.Proofs.Client.Apart
import BridgeChannel.Proofs.Client.Closing
import BridgeChannel.Proofs.Client.Meanwhile
import BridgeChannel.Proofs.Client.Overlapping

set_option autoImplicit false

namespace BridgeChannel

/-! ### Accounts of transports -/

namespace Occurrence

/-- The transport that was created. -/
def created? : Occurrence → Option Nat
  | created n => some n
  | _ => none

/-- The transport that was stopped. -/
def stopped? : Occurrence → Option Nat
  | stopped n => some n
  | _ => none

theorem created?_eq_none {o : Occurrence} (h : o.asks = false) : o.created? = none := by
  cases o with
  | created n => exact absurd h (by simp [asks])
  | _ => rfl

theorem stopped?_eq_none {o : Occurrence} (h : ∀ n, o.stops n = false) : o.stopped? = none := by
  cases o with
  | stopped n => exact absurd (h n) (by simp [stops])
  | _ => rfl

end Occurrence

/-- The transports that were created, in order. -/
def createds (told : List Occurrence) : List Nat := told.filterMap Occurrence.created?

/-- The transports that were stopped, in order. -/
def stoppeds (told : List Occurrence) : List Nat := told.filterMap Occurrence.stopped?

theorem createds_append (before after : List Occurrence) :
    createds (before ++ after) = createds before ++ createds after := by
  simp [createds]

theorem stoppeds_append (before after : List Occurrence) :
    stoppeds (before ++ after) = stoppeds before ++ stoppeds after := by
  simp [stoppeds]

theorem count_stoppeds (n : Nat) (told : List Occurrence) :
    (stoppeds told).count n = told.countP (Occurrence.stops n) := by
  rw [List.count, stoppeds, List.countP_filterMap]
  congr 1
  funext o
  cases o <;> rfl

/-- Connections are numbered in the order of their creation. -/
theorem range'_append_range' {a b c : Nat} (h : a ≤ b) (h' : b ≤ c) :
    List.range' a (b - a) ++ List.range' b (c - b) = List.range' a (c - a) := by
  have split : c - a = (b - a) + (c - b) := by omega
  have middle : a + (b - a) = b := by omega
  rw [split, ← List.range'_append_1, middle]

/-- The factory was not asked. -/
def Unasked (told : List Occurrence) : Prop := ∀ o ∈ told, o.asks = false ∧ o.accepts = false

theorem Unasked.append {told told' : List Occurrence} (h : Unasked told) (h' : Unasked told') :
    Unasked (told ++ told') := fun o ho => (List.mem_append.1 ho).elim (h o) (h' o)

theorem Unasked.createds {told : List Occurrence} (h : Unasked told) : createds told = [] :=
  List.filterMap_eq_nil_iff.2 fun o ho => Occurrence.created?_eq_none (h o ho).1

/-- Transports were owed before some occurrences; with those that were created, they are those that
were stopped and those that are owed now.  Whenever the factory was asked, all of them had been
stopped. -/
structure Balanced (owed : List Nat) (told : List Occurrence) (owed' : List Nat) : Prop where
  balance : (owed ++ createds told).Perm (stoppeds told ++ owed')
  settled : ∀ before o after, told = before ++ o :: after → o.asks = true ∨ o.accepts = true →
    (owed ++ createds before).Perm (stoppeds before)

namespace Balanced

variable {owed owed' owed'' : List Nat} {told told' : List Occurrence}

/-- **Accounts are put together.** -/
theorem append (h : Balanced owed told owed') (h' : Balanced owed' told' owed'') :
    Balanced owed (told ++ told') owed'' := by
  -- what is owed in between is stopped or created anew later
  have through : ∀ later rest, (owed' ++ createds later).Perm (stoppeds later ++ rest) →
      (owed ++ createds (told ++ later)).Perm (stoppeds (told ++ later) ++ rest) := by
    intro later rest balance
    calc owed ++ createds (told ++ later)
        = (owed ++ createds told) ++ createds later := by
          rw [createds_append, List.append_assoc]
      List.Perm _ ((stoppeds told ++ owed') ++ createds later) := h.balance.append_right _
      _ = stoppeds told ++ (owed' ++ createds later) := List.append_assoc ..
      List.Perm _ (stoppeds told ++ (stoppeds later ++ rest)) := balance.append_left _
      _ = stoppeds (told ++ later) ++ rest := by rw [stoppeds_append, List.append_assoc]
  refine ⟨through told' owed'' h'.balance, fun before o after split asked => ?_⟩
  rcases List.append_eq_append_iff.1 split with ⟨rest, rfl, later⟩ | ⟨rest, rfl, later⟩
  · have settled := h'.settled rest o after later asked
    simpa using through rest [] (by simpa using settled)
  · rcases List.cons_eq_append_iff.1 later with ⟨rfl, later⟩ | ⟨rest, rfl, rfl⟩
    · have settled := h'.settled [] o after later.symm asked
      simpa using through [] [] (by simpa using settled)
    · exact h.settled before o rest rfl asked

theorem nil : Balanced owed [] owed where
  balance := by simp [createds, stoppeds]
  settled before o after split := absurd split (by simp)

/-- Nothing was owed when the factory was asked. -/
theorem of_asked {o : Occurrence} (balance : (createds [o]).Perm (stoppeds [o] ++ owed')) :
    Balanced [] [o] owed' where
  balance := balance
  settled before o' after split _ := by
    rcases List.singleton_eq_append_iff.1 split with ⟨rfl, -⟩ | ⟨-, nothing⟩
    · exact .refl _
    · exact absurd nothing (by simp)

theorem of_unasked (unasked : Unasked told) (balance : owed.Perm (stoppeds told ++ owed')) :
    Balanced owed told owed' where
  balance := by
    rw [unasked.createds, List.append_nil]
    exact balance
  settled before o after split asked := by
    obtain ⟨h, h'⟩ := unasked o (by simp [split])
    simp [h, h'] at asked

end Balanced

namespace Scene

/-! ### In the midst of an attempt -/

/-- Between two scenes, the factory was not asked, and whatever transport was held is either held or
has been stopped once. -/
structure Rests (s t : Scene) : Prop extends Grows s t where
  gone : t.gone = s.gone
  length : t.network.length = s.network.length
  unasked : Unasked (s.since t)
  balance : s.client.transport.toList.Perm (stoppeds (s.since t) ++ t.client.transport.toList)

namespace Rests

variable {s t u : Scene}

theorem balanced (h : Rests s t) :
    Balanced s.client.transport.toList (s.since t) t.client.transport.toList :=
  .of_unasked h.unasked h.balance

theorem trans (h : Rests s t) (h' : Rests t u) : Rests s u where
  toGrows := h.toGrows.trans h'.toGrows
  gone := h'.gone.trans h.gone
  length := h'.length.trans h.length
  unasked := by
    rw [since_trans h.toGrows h'.toGrows]
    exact h.unasked.append h'.unasked
  balance := by
    rw [since_trans h.toGrows h'.toGrows, stoppeds_append, List.append_assoc]
    exact h.balance.trans (h'.balance.append_left _)

/-- A transport that is not held is neither stopped nor taken on. -/
theorem emptied (h : Rests s t) (empty : s.client.transport = none) :
    t.client.transport = none ∧ stoppeds (s.since t) = [] := by
  have balance := h.balance
  rw [empty] at balance
  obtain ⟨stopped, none_⟩ := List.append_eq_nil_iff.1 (List.nil_perm.1 balance)
  exact ⟨by simpa using none_, stopped⟩

/-- A change that leaves the slot of the transport alone, and tells of no transport. -/
theorem of_told {told : List Occurrence} (grows : Grows s t) (gone : t.gone = s.gone)
    (length : t.network.length = s.network.length)
    (transport : t.client.transport = s.client.transport) (since : s.since t = told)
    (silent : ∀ o ∈ told, o.asks = false ∧ o.accepts = false ∧ ∀ n, o.stops n = false) :
    Rests s t where
  toGrows := grows
  gone := gone
  length := length
  unasked o ho := by
    rw [since] at ho
    exact ⟨(silent o ho).1, (silent o ho).2.1⟩
  balance := by
    have none_ : stoppeds told = [] :=
      List.filterMap_eq_nil_iff.2 fun o ho => Occurrence.stopped?_eq_none (silent o ho).2.2
    rw [since, none_, transport]
    exact .refl _

/-- A change that nothing is told of. -/
theorem of_untold (account : t.account = s.account) (calls : s.calls <:+ t.calls)
    (gone : t.gone = s.gone) (length : t.network.length = s.network.length)
    (transport : t.client.transport = s.client.transport) : Rests s t :=
  of_told ⟨account ▸ List.suffix_refl _, calls, Nat.le_of_eq length.symm⟩ gone length transport
    (since_eq_nil account) fun o ho => absurd ho (by simp)

theorem refl (s : Scene) : Rests s s := of_untold rfl (List.suffix_refl _) rfl rfl rfl

theorem note {o : Occurrence} (asks : o.asks = false) (accepts : o.accepts = false)
    (stops : ∀ n, o.stops n = false) (s : Scene) : Rests s (s.note o) := by
  refine of_told (Grows.note o s) rfl rfl rfl (since_note o s) fun o' ho' => ?_
  rw [List.mem_singleton.1 ho']
  exact ⟨asks, accepts, stops⟩

theorem update (n : Nat) (f : Connection → Connection) (s : Scene) : Rests s (s.update n f) :=
  of_untold rfl (List.suffix_refl _) rfl (by simp [Scene.update]) rfl

/-- The transport that is held is let go of, and stopped. -/
theorem letGo {n : Nat} {s : Scene} (held : s.client.transport = some n) :
    Rests s ((s.setTransport none).note (.stopped n)) where
  toGrows := (respected_grows.leaveTransport s).trans (Grows.note _ _)
  gone := rfl
  length := rfl
  unasked o ho := by
    rw [since_of_account [.stopped n] rfl] at ho
    rw [List.mem_singleton.1 ho]
    exact ⟨rfl, rfl⟩
  balance := by
    rw [since_of_account [.stopped n] rfl, held]
    exact .refl _

theorem hear (n : Nat) (signal : Signal) (s : Scene) : Rests s (s.hear n signal) := by
  obtain ⟨session, client⟩ := client_hear n signal s
  obtain ⟨network, gone⟩ := network_hear n signal s
  have told : s.since (s.hear n signal) = [.log signal.line] :=
    since_of_account [_] (account_hear n signal s)
  refine of_told (respected_grows.hear n signal s) gone (by rw [network]) (by rw [client]) told ?_
  intro o ho
  rw [List.mem_singleton.1 ho]
  exact ⟨rfl, Occurrence.accepts_line signal, fun _ => rfl⟩

end Rests

/-- **What the slot of the transport holds is stopped once when it is torn down.** -/
theorem clearing_rests : Clearing Rests where
  refl := .refl
  trans := .trans
  note plain _ s := .note plain.asks plain.accepts plain.stops s
  update n f s _ := .update n f s
  close {n s} _ := .note (o := .closed n) rfl rfl (fun _ => rfl) s
  letGo := .letGo

/-- **The slot of the transport is balanced in everything but attempts to connect.** -/
theorem restful_rests : Restful Rests where
  refl := .refl
  trans := .trans
  note plain s := .note plain.asks plain.accepts plain.stops s
  submitted _ _ _ := .of_untold rfl (List.suffix_refl _) rfl rfl rfl
  requested _ _ := .of_untold rfl (List.suffix_refl _) rfl rfl rfl
  withRoster _ _ := .of_untold rfl (List.suffix_refl _) rfl rfl rfl
  update n f s _ := .update n f s
  missed _ _ := .of_untold rfl (List.suffix_cons _ _) rfl rfl rfl
  heard _ signal := .hear _ signal _
  disconnect s := by
    obtain ⟨account, calls, gone, length⟩ := untouched_forsaken s
    have forsaken : Rests s s.forsaken :=
      .of_untold account (calls ▸ List.suffix_refl _) gone length (by rw [client_forsaken])
    have taken : Rests s.forsaken (s.forsaken.setSession none) :=
      .of_untold rfl (List.suffix_refl _) rfl rfl rfl
    rw [disconnect_eq]
    exact ((forsaken.trans taken).trans (clearing_rests.teardown (fun _ => Rests.refl) _)).trans
      (.note rfl rfl (fun _ => rfl) _)

/-! ### Across attempts -/

/-- Between two scenes, the transports that were held or created are those that were stopped or are
held; whenever the factory was asked, all earlier ones had been stopped. -/
structure Balances (s t : Scene) : Prop extends Grows s t where
  gone : t.gone = s.gone
  created : createds (s.since t) =
    List.range' s.network.length (t.network.length - s.network.length)
  balanced : Balanced s.client.transport.toList (s.since t) t.client.transport.toList
  emptied : s.gone = true → s.client.transport = none → t.client.transport = none

namespace Balances

variable {s t u : Scene}

theorem of_rests (h : Rests s t) : Balances s t where
  toGrows := h.toGrows
  gone := h.gone
  created := by
    rw [h.length, Nat.sub_self, h.unasked.createds]
    rfl
  balanced := h.balanced
  emptied _ empty := (h.emptied empty).1

theorem trans (h : Balances s t) (h' : Balances t u) : Balances s u where
  toGrows := h.toGrows.trans h'.toGrows
  gone := h'.gone.trans h.gone
  created := by
    rw [since_trans h.toGrows h'.toGrows, createds_append, h.created, h'.created,
      range'_append_range' h.network h'.network]
  balanced := by
    rw [since_trans h.toGrows h'.toGrows]
    exact h.balanced.append h'.balanced
  emptied gone empty := h'.emptied (h.gone.trans gone) (h.emptied gone empty)

end Balances

theorem restful_balances : Restful Balances where
  refl s := .of_rests (.refl s)
  trans := .trans
  note plain s := .of_rests (restful_rests.note plain s)
  submitted n frame s := .of_rests (restful_rests.submitted n frame s)
  requested m s := .of_rests (restful_rests.requested m s)
  withRoster s r := .of_rests (restful_rests.withRoster s r)
  update n _ s mild := .of_rests (restful_rests.update n s mild)
  missed deaf signal := .of_rests (restful_rests.missed deaf signal)
  heard listens signal := .of_rests (restful_rests.heard listens signal)
  disconnect s := .of_rests (restful_rests.disconnect s)

section Attempt

variable {between : Interludes} (hbetween : ∀ m s, Rests s (between m s))

include hbetween

/-- When the factory answers, the transport that was left behind has been stopped, and it had been
when the factory was asked. -/
theorem balances_cleared (s : Scene) :
    Balances s (s.cleared between) ∧ (s.cleared between).client.transport = none := by
  have begun : Rests s s.begun := .of_untold rfl (List.suffix_refl _) rfl rfl rfl
  have torn : Rests s (s.torn between) := begun.trans (clearing_rests.teardown hbetween _)
  obtain ⟨t, nothing, rest, -⟩ := clearing_rests.emptied hbetween (s.move .beginConnect)
  have empty : (s.torn between).client.transport = none := (rest.emptied nothing).1
  have line : (s.torn between).since (s.started between) =
      [.log (.connecting (s.torn between).client.config.address)] := since_note _ _
  have started : Balances (s.torn between) (s.started between) :=
    { toGrows := Grows.note _ _
      gone := rfl
      created := by
        have length : (s.started between).network.length = (s.torn between).network.length := rfl
        rw [line, length, Nat.sub_self]
        rfl
      balanced := by
        have slot : (s.started between).client.transport = none := empty
        rw [empty, slot, line]
        exact .of_asked (.refl _)
      emptied := fun _ _ => empty }
  have meanwhile : Rests (s.started between) (s.cleared between) := hbetween .creating _
  exact ⟨((Balances.of_rests torn).trans started).trans (.of_rests meanwhile),
    (meanwhile.emptied empty).1⟩

end Attempt

/-- An attempt that cannot be opened stops its transport. -/
theorem stoppeds_giveUp (e : TransportError) (n : Nat) (s : Scene) :
    Unasked (s.since (s.giveUp e n)) ∧ stoppeds (s.since (s.giveUp e n)) = [n] := by
  unfold giveUp stopTransport
  dsimp only [quietly]
  split
  next e' _ =>
    rw [since_of_account [.log (.stopFailed e'), .stopped n, .log (.connectFailed e)] rfl]
    exact ⟨by simp [Unasked, Occurrence.asks, Occurrence.accepts], rfl⟩
  · rw [since_of_account [.stopped n, .log (.connectFailed e)] rfl]
    exact ⟨by simp [Unasked, Occurrence.asks, Occurrence.accepts], rfl⟩

/-- An attempt whose transport opens holds it, or stops it. -/
theorem stoppeds_settle (n : Nat) (s : Scene) :
    Unasked (s.since (s.settle n).1) ∧
      [n].Perm (stoppeds (s.since (s.settle n).1) ++ (s.settle n).1.client.transport.toList) := by
  cases success : (s.settle n).2 with
  | true =>
      rw [since_settle_of_success success, client_settle_of_success success]
      exact ⟨by simp [Unasked, Occurrence.asks, Occurrence.accepts], .refl _⟩
  | false =>
      have forfeited : s.since (s.forfeited n) = [.log .closedWhileConnecting] :=
        since_of_account [_] rfl
      have grows : Grows s (s.forfeited n) :=
        ⟨List.suffix_cons _ _, List.suffix_refl _, Nat.le_refl _⟩
      have taken : Rests (s.forfeited n) ((s.forfeited n).setSession none) :=
        .of_untold rfl (List.suffix_refl _) rfl rfl rfl
      have torn : Rests (s.forfeited n) ((s.forfeited n).teardown quietly) :=
        taken.trans (clearing_rests.teardown (fun _ => Rests.refl) _)
      have failed : Unasked [.log .closedWhileConnecting] := by
        simp [Unasked, Occurrence.asks, Occurrence.accepts]
      rw [settle_of_failure success, since_trans grows torn.toGrows, forfeited]
      exact ⟨failed.append torn.unasked, torn.balance⟩

theorem length_settle (n : Nat) (s : Scene) :
    (s.settle n).1.network.length = s.network.length ∧ (s.settle n).1.gone = s.gone := by
  cases success : (s.settle n).2 with
  | true =>
      rw [settle_of_success success]
      exact ⟨rfl, rfl⟩
  | false =>
      rw [settle_of_failure success]
      exact ⟨(Still.teardown _).length, (Still.teardown _).gone⟩

/-- What the client makes of the answer of a transport that is owed: it holds it, or stops it. -/
theorem stoppeds_concluded (plan : Attempt) (n : Nat) {s : Scene}
    (empty : s.client.transport = none) :
    Unasked (s.since (s.concluded plan n).1) ∧
      [n].Perm (stoppeds (s.since (s.concluded plan n).1) ++
        (s.concluded plan n).1.client.transport.toList) ∧
      (s.concluded plan n).1.network.length = s.network.length ∧
      (s.concluded plan n).1.gone = s.gone := by
  have freed : ∀ t : Scene,
      (t.update n fun c => { c with running := c.running - 1 }).network.length =
        t.network.length := fun t => by simp [Scene.update]
  cases failed : plan.connectError with
  | some e =>
      obtain ⟨network, gone⟩ := untouched_giveUp e n s
      rw [concluded_of_error failed, freed, network, client_update, client_giveUp, empty]
      obtain ⟨unasked, stopped⟩ := stoppeds_giveUp e n s
      have account : s.since ((s.giveUp e n).update n
          fun c => { c with running := c.running - 1 }) = s.since (s.giveUp e n) := rfl
      rw [account, stopped]
      exact ⟨unasked, .refl _, rfl, gone⟩
  | none =>
      rw [concluded_of_open failed, freed, (length_settle n s).1]
      exact ⟨(stoppeds_settle n s).1, (stoppeds_settle n s).2, rfl, (length_settle n s).2⟩

/-- **An attempt in the midst of which there is no other is balanced.** -/
theorem balances_connect {between : Interludes} (hbetween : ∀ m s, Rests s (between m s))
    (plan : Attempt) {s : Scene} (here : s.gone = false) :
    Balances s (s.connect plan between).1 := by
  obtain ⟨cleared, empty⟩ := balances_cleared hbetween s
  rcases connect_cases plan between s with hc | hc | ⟨-, -, ⟨e, -, hc⟩ | ⟨-, hc⟩⟩
  · rw [hc]
    exact restful_balances.note (.of_isPlain rfl) s
  · rw [hc]
    exact restful_balances.note (.of_isPlain rfl) s
  · -- nothing is owed when the factory fails
    rw [hc]
    generalize s.cleared between = t at cleared empty ⊢
    have told : t.since (((t.note .createFailed).log (.startFailed e)).move .connectFailed) =
        [.createFailed] ++ [.log (.startFailed e)] :=
      since_of_account [.log (.startFailed e), .createFailed] rfl
    refine cleared.trans
      { toGrows := ((Grows.note _ t).trans (Grows.note _ _)).trans (respected_grows.move _ _)
        gone := rfl
        created := ?_
        balanced := ?_
        emptied := fun _ _ => empty }
    · have length : (((t.note .createFailed).log (.startFailed e)).move
          .connectFailed).network.length = t.network.length := rfl
      rw [told, length, Nat.sub_self]
      rfl
    · have slot : (((t.note .createFailed).log (.startFailed e)).move
          .connectFailed).client.transport = t.client.transport := rfl
      rw [told, slot, empty]
      exact (Balanced.of_asked (.refl _)).append
        (.of_unasked (by simp [Unasked, Occurrence.asks, Occurrence.accepts]) (.refl _))
  · rw [hc]
    have gone : (s.cleared between).gone = false := cleared.gone.trans here
    generalize s.cleared between = t at cleared empty gone ⊢
    -- while its transport is being opened, a connection is owed that no slot holds
    have opened : Rests (t.launched plan) (t.answered plan between) :=
      restful_rests.openTransport hbetween plan _ _
    obtain ⟨unheld, unstopped⟩ := opened.emptied (show (t.launched plan).client.transport = none
      from empty)
    obtain ⟨unasked, ends, length, gone'⟩ := stoppeds_concluded plan t.network.length unheld
    have told : t.since (t.launched plan) = [.created t.network.length] := since_of_account [_] rfl
    have launch : Grows t (t.launched plan) := respected_grows.launched plan t
    have rest := grows_concluded plan t.network.length (t.answered plan between)
    have since : t.since ((t.answered plan between).concluded plan t.network.length).1 =
        [.created t.network.length] ++ ((t.launched plan).since (t.answered plan between) ++
          (t.answered plan between).since
            ((t.answered plan between).concluded plan t.network.length).1) := by
      rw [since_trans (launch.trans opened.toGrows) rest, since_trans launch opened.toGrows, told,
        List.append_assoc]
    have rested : Unasked ((t.launched plan).since (t.answered plan between) ++
        (t.answered plan between).since
          ((t.answered plan between).concluded plan t.network.length).1) :=
      opened.unasked.append unasked
    refine cleared.trans
      { toGrows := (launch.trans opened.toGrows).trans rest
        gone := gone'.trans opened.gone
        created := ?_
        balanced := ?_
        emptied := fun gone_ => absurd (gone.symm.trans gone_) (by simp) }
    · have one : (t.launched plan).network.length - t.network.length = 1 := by
        rw [length_launched]
        omega
      rw [since, createds_append, rested.createds, length, opened.length, one]
      rfl
    · rw [since, empty]
      refine (Balanced.of_asked (.refl _)).append (.of_unasked rested ?_)
      rw [stoppeds_append, unstopped]
      exact ends

/-! ### Runs -/

/-- What is owed after some occurrences, if nothing is held once the client is gone. -/
structure Kept (s : Scene) (told : List Occurrence) (t : Scene) : Prop where
  longer : s.network.length ≤ t.network.length
  created : createds told = List.range' s.network.length (t.network.length - s.network.length)
  balanced : Balanced s.client.transport.toList told t.client.transport.toList
  emptied : t.gone = true → t.client.transport = none

namespace Kept

variable {s t u : Scene} {told told' : List Occurrence}

theorem append (h : Kept s told t) (h' : Kept t told' u) : Kept s (told ++ told') u where
  longer := Nat.le_trans h.longer h'.longer
  created := by
    rw [createds_append, h.created, h'.created, range'_append_range' h.longer h'.longer]
  balanced := h.balanced.append h'.balanced
  emptied := h'.emptied

/-- Nothing happened, or the slot is what it was. -/
theorem refl (s : Scene) (emptied : s.gone = true → s.client.transport = none) : Kept s [] s where
  longer := Nat.le_refl _
  created := by
    rw [Nat.sub_self]
    rfl
  balanced := .nil
  emptied := emptied

theorem of_balances (h : Balances s t) (emptied : s.gone = true → s.client.transport = none) :
    Kept s (s.since t) t where
  longer := h.network
  created := h.created
  balanced := h.balanced
  emptied gone := h.emptied (h.gone.symm.trans gone) (emptied (h.gone.symm.trans gone))

/-- The client goes away, and what it held is stopped. -/
theorem dropClient (s : Scene) : Kept s (s.since s.dropClient) s.dropClient := by
  rcases dropClient_cases s with dropped | ⟨empty, -, dropped⟩
  · have balances := Balances.of_rests (restful_rests.disconnect s)
    have closed : s.disconnect.client.transport = none := by rw [client_disconnect]
    rw [dropped]
    exact ⟨balances.network, balances.created, balances.balanced, fun _ => closed⟩
  · have untold : s.since (Scene.setHandler none { s with gone := true }) = [] := since_eq_nil rfl
    have kept := refl s fun _ => empty
    rw [dropped, untold]
    exact ⟨kept.longer, kept.created, kept.balanced, fun _ => empty⟩

end Kept

end Scene

open Scene

/-- **The slot of the transport is balanced across a run without overlapping attempts.** -/
theorem kept_of_apart {depth : Nat} {script : Script} {s : Scene} (apart : script.Apart depth s)
    (emptied : s.gone = true → s.client.transport = none) :
    Kept s (script.accountOf depth s) (script.leads depth s) := by
  induction script generalizing s with
  | nil => exact .refl s emptied
  | cons command rest ih =>
      obtain ⟨same, others⟩ := apart.cons
      have first : Kept { s with account := [] }
          (Scene.since { s with account := [] } (command.perform depth { s with account := [] }).1)
          (command.perform depth { s with account := [] }).1 := by
        cases command with
        | step step =>
            rw [← same]
            have balances := performApart_idle restful_balances restful_rests
              (fun hbetween plan _ here => balances_connect hbetween plan here) depth step
              { s with account := [] }
            exact .of_balances balances emptied
        | dropClient =>
            simp only [Command.perform, asClient]
            split
            next gone =>
              rw [since_self]
              exact .refl _ emptied
            · exact .dropClient _
      have both := first.append (ih others first.emptied)
      rw [Script.accountOf_cons]
      exact ⟨both.longer, both.created, both.balanced, both.emptied⟩

/-- The accounts of transports after some occurrences from the start of a client on. -/
structure Custody (told : List Occurrence) (t : Scene) : Prop where
  /-- Connections are numbered in the order of their creation. -/
  created : createds told = List.range t.network.length
  /-- No transport is stopped twice, and none that was not created. -/
  once : ∀ n, told.countP (Occurrence.stops n) ≤ 1
  known : ∀ n ∈ stoppeds told, n ∈ createds told
  /-- When the factory is about to be asked, and when it answers, all earlier transports have been
  stopped. -/
  settled : ∀ earlier o later, told = earlier ++ o :: later → o.asks = true ∨ o.accepts = true →
    ∀ n ∈ createds earlier, earlier.countP (Occurrence.stops n) = 1
  /-- What is owed is what the slot holds. -/
  owed : (createds told).length =
    (stoppeds told).length + if t.client.transport.isSome then 1 else 0
  held : ∀ n, t.client.transport = some n ↔ n ∈ createds told ∧ n ∉ stoppeds told
  /-- Nothing is owed any more once the client is gone. -/
  released : t.gone = true → ∀ n ∈ createds told, told.countP (Occurrence.stops n) = 1

/-- A balanced slot that was empty to begin with keeps account of all transports. -/
theorem Scene.Kept.custody {s t : Scene} {told : List Occurrence} (h : Kept s told t)
    (unconnected : s.network = []) (empty : s.client.transport = none) : Custody told t := by
  have created : createds told = List.range t.network.length := by
    rw [h.created, unconnected, List.length_nil, Nat.sub_zero, ← List.range_eq_range']
  have balance : (createds told).Perm (stoppeds told ++ t.client.transport.toList) := by
    simpa [empty] using h.balanced.balance
  have distinct : (stoppeds told ++ t.client.transport.toList).Nodup := by
    rw [← balance.nodup_iff, created]
    exact List.nodup_range
  have one_each : ∀ {earlier : List Occurrence}, (stoppeds earlier).Nodup →
      (createds earlier).Perm (stoppeds earlier) →
      ∀ n ∈ createds earlier, earlier.countP (Occurrence.stops n) = 1 := by
    intro earlier distinct all n hn
    rw [← count_stoppeds]
    exact List.count_eq_one_of_mem distinct (all.mem_iff.1 hn)
  refine
    { created := created
      once := fun n => ?_
      known := fun n hn => balance.mem_iff.2 (List.mem_append_left _ hn)
      settled := fun earlier o later split asked => ?_
      owed := ?_
      held := fun n => ?_
      released := fun gone => ?_ }
  · rw [← count_stoppeds]
    exact List.nodup_iff_count_le_one.1 (List.nodup_append.1 distinct).1 n
  · have before : (stoppeds earlier).Nodup := by
      have parts := (List.nodup_append.1 distinct).1
      rw [split, stoppeds_append] at parts
      exact (List.nodup_append.1 parts).1
    have settled := h.balanced.settled earlier o later split asked
    exact one_each before (by simpa [empty] using settled)
  · rw [balance.length_eq, List.length_append]
    cases t.client.transport <;> rfl
  · rw [balance.mem_iff, List.mem_append, Option.mem_toList]
    refine ⟨fun held => ⟨.inr held, fun stopped => ?_⟩, fun ⟨there, unstopped⟩ => ?_⟩
    · exact (List.nodup_append.1 distinct).2.2 n stopped n (by simp [held]) rfl
    · exact there.resolve_left unstopped
  · have nothing : t.client.transport = none := h.emptied gone
    rw [nothing, Option.toList_none, List.append_nil] at balance distinct
    exact one_each distinct balance

/-- A client that has been disconnected holds nothing that disconnecting it again would close or
stop. -/
theorem Scene.since_disconnect_disconnect (s : Scene) :
    OnlyLines (s.disconnect.since s.disconnect.disconnect) := by
  obtain ⟨first, second, hfirst, hsecond, told⟩ := since_teardown s.disconnect.forsaken
  have session : s.disconnect.forsaken.openSession? = none := by
    simp [openSession?, client_forsaken, client_disconnect]
  have transport : s.disconnect.forsaken.client.transport = none := by
    rw [client_forsaken, client_disconnect]
  rw [since_disconnect, told, session, transport]
  intro o ho
  simp only [Option.toList_none, List.map_nil, List.nil_append, List.mem_append,
    List.mem_singleton] at ho
  rcases ho with (ho | ho) | rfl
  · exact hfirst o ho
  · exact hsecond o ho
  · exact ⟨_, rfl⟩

/-- **Transports and sessions are neither leaked nor released twice** in a run without overlapping
attempts, whatever fails, closes or disconnects in between.  After every beginning of the run, the
accounts of transports are kept.  No session is closed twice if every session that has been closed
says so from then on, and so none is if sessions stay closed in the run.  Disconnecting right after
disconnecting closes and stops nothing. -/
theorem transports_kept (config : Config) {depth : Nat} {script : Script}
    (apart : script.Apart depth (.start config)) :
    (∀ before after, script = before ++ after →
      Custody (before.accountOf depth (.start config)) (before.leads depth (.start config))) ∧
    (closeds ((script.runSealed depth [] (.start config)).flatMap Report.account)).Nodup ∧
    (script.StaysClosed depth (.start config) →
      ∀ n, (script.accountOf depth (.start config)).countP (Occurrence.closes n) ≤ 1) ∧
    ∀ s : Scene, OnlyLines (s.disconnect.since s.disconnect.disconnect) := by
  refine ⟨?_, ?_, fun stays => stays.once, Scene.since_disconnect_disconnect⟩
  · rintro before after rfl
    exact (kept_of_apart apart.left (absurd · (by simp [Scene.start]))).custody rfl rfl
  · simpa using nodup_closeds_runSealed depth script List.nodup_nil (.start config)

/-- A transport that cannot be opened; a disconnect while the next one is being opened; a session
that cannot be closed, but reports closed afterwards; a transport that cannot be stopped once the
bridge has closed; a factory that fails; a disconnect that is repeated; and the end of the client.
Six transports are created, and each of them is stopped once.  Three sessions are closed, two of
which are offered to the client once more after that, and none of them is closed again. -/
theorem transports_kept_when_failing :
    let config : Config := ⟨"wss://bridge/channel", "a", .ofSeconds 10, .ofSeconds 2⟩
    let script : Script := [
      .step (.connect { announced := false, connectError := some .stopped } []),
      .step (.connect {} [(.opening, .disconnect)]),
      .step (.signal none .opened),
      .step .disconnect,
      .step (.connect { closeError := some .stopped } []),
      .step .disconnect,
      .step (.setOpen none false),
      .step (.signal none .opened),
      .step .disconnect,
      .step (.connect { sessionOpen := false, stopError := some .stopped } []),
      .step (.signal none (.closed 1000 "")),
      .step (.connect { createError := some .stopped } []),
      .step (.connect { sessionOpen := false } []),
      .step .disconnect,
      .step .disconnect,
      .step (.connect {} []),
      .dropClient]
    let told := script.accountOf 2 (.start config)
    script.Apart 2 (.start config) ∧ script.StaysClosed 2 (.start config) ∧
      (createds told = [0, 1, 2, 3, 4, 5] ∧ stoppeds told = [0, 1, 2, 3, 4, 5] ∧
        closeds told = [1, 2, 5] ∧ (script.leads 2 (.start config)).gone = true) ∧
      Custody told (script.leads 2 (.start config)) ∧
      ∀ n, told.countP (Occurrence.closes n) ≤ 1 := by
  intro config script told
  have apart : script.course (performApart 2 false) (.start config) =
      script.course (perform 2) (.start config) := by cbv
  have stays : script.runSealed 2 [] (.start config) = script.runFrom 2 (.start config) := by cbv
  have ends : createds told = [0, 1, 2, 3, 4, 5] ∧ stoppeds told = [0, 1, 2, 3, 4, 5] ∧
      closeds told = [1, 2, 5] ∧ (script.leads 2 (.start config)).gone = true := by
    decide +kernel
  obtain ⟨kept, -, sessions, -⟩ := transports_kept config apart
  exact ⟨apart, stays, ends, kept script [] (List.append_nil _).symm, sessions stays⟩

end BridgeChannel
