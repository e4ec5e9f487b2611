/-
**What happened between two scenes.**

The account of a scene and the list of the calls of its handlers only ever grow, at the front.  What
a later scene has in front of what an earlier one had is what happened in between; read in order,
this is the history that the theorems on the client speak about.

Two kinds of things change the state of a channel while no attempt to connect is made: a signal
that the client hears, and a call of `disconnect`.  They are the *turns* of a history.  The client
takes note of each in its log, so that the turns can be read off the account in the order in which
they took place.

Main definitions:

* `Signal.greets` — whether a signal is the greeting of the bridge;
* `Signal.effect`, `Turn.effect` — what hearing a signal, or a turn, does to the state;
* `EachFollowed`, `Along` — what is said of the members of a list, given those after or before them;
* `Scene.since`, `Scene.callsSince` — what happened, and what was called, between two scenes;
* `Scene.listensTo`, `Scene.heard` — the handlers whose signals count, and the signals that came
  through them;
* `Scene.Grows` — a scene that has the account and the calls of another one, and more.

Main results:

* `since_trans`, `callsSince_trans` — histories are put together in order;
* `effects_ne_closed_iff`, `effects_ne_ready_iff` — **where a channel stands after some turns**:
  what counts is whether every close is followed by a greeting, and every greeting by a close.
-/
import BridgeChannel.Client.Script
import Mathlib.Data.List.Induction

set_option autoImplicit false

namespace BridgeChannel

/-! ### Turns -/

/-- Whether a signal is the greeting of the bridge. -/
def Signal.greets : Signal → Bool
  | .message frame =>
    match Message.decode frame with
    | .ok (.serverHello _) => true
    | _ => false
  | _ => false

theorem Signal.greets_message_iff {frame : String} :
    (Signal.message frame).greets = true ↔
      ∃ version, Message.decode frame = .ok (.serverHello version) := by
  unfold Signal.greets
  dsimp only
  split
  next version h => exact ⟨fun _ => ⟨version, h⟩, fun _ => rfl⟩
  next other =>
    refine ⟨fun h => absurd h (by simp), ?_⟩
    rintro ⟨version, h⟩
    exact absurd h (other version)

/-- Whether a signal says that the transport closed. -/
def Signal.closes : Signal → Bool
  | .closed _ _ => true
  | _ => false

/-- The state after a signal was heard. -/
def Signal.effect (signal : Signal) (state : ConnectionState) : ConnectionState :=
  match signal with
  | .opened => state.after .transportOpened
  | .message _ => if signal.greets then state.after .handshakeCompleted else state
  | .closed _ _ => state.after .closed
  | .failed _ => state

/-- What changes the state of a channel while no attempt to connect is made. -/
inductive Turn where
  /-- The client heard a signal. -/
  | heard (signal : Signal)
  /-- The client was asked to disconnect. -/
  | disconnected
  deriving DecidableEq

namespace Turn

/-- The signal that was heard. -/
def signal? : Turn → Option Signal
  | heard signal => some signal
  | disconnected => none

/-- Whether the client heard a greeting. -/
def greets : Turn → Bool
  | heard signal => signal.greets
  | disconnected => false

/-- Whether the channel was closed, by either side. -/
def closes : Turn → Bool
  | heard signal => signal.closes
  | disconnected => true

/-- The state after a turn. -/
def effect (turn : Turn) (state : ConnectionState) : ConnectionState :=
  match turn with
  | heard signal => signal.effect state
  | disconnected => state.after .closed

/-- The state after a list of turns. -/
def effects (state : ConnectionState) (turns : List Turn) : ConnectionState :=
  turns.foldl (fun state turn => turn.effect state) state

theorem effects_append (state : ConnectionState) (before after : List Turn) :
    effects state (before ++ after) = effects (effects state before) after := by
  simp [effects, List.foldl_append]

theorem effects_concat (state : ConnectionState) (before : List Turn) (turn : Turn) :
    effects state (before ++ [turn]) = turn.effect (effects state before) := by
  rw [effects_append]
  rfl

/-- A turn closes the channel, or greets it, or does neither and at most completes its opening. -/
theorem effect_cases (turn : Turn) :
    (turn.closes = true ∧ turn.greets = false ∧ ∀ state, turn.effect state = .closed) ∨
      (turn.closes = false ∧ turn.greets = true ∧ ∀ state, turn.effect state = .ready) ∨
      (turn.closes = false ∧ turn.greets = false ∧
        ∀ state, turn.effect state = state ∨ turn.effect state = state.after .transportOpened) := by
  cases turn with
  | disconnected => exact Or.inl ⟨rfl, rfl, fun _ => rfl⟩
  | heard signal =>
      cases signal with
      | opened => exact Or.inr (Or.inr ⟨rfl, rfl, fun _ => Or.inr rfl⟩)
      | closed code reason => exact Or.inl ⟨rfl, rfl, fun _ => rfl⟩
      | failed e => exact Or.inr (Or.inr ⟨rfl, rfl, fun _ => Or.inl rfl⟩)
      | message frame =>
          cases hg : (Signal.message frame).greets with
          | true =>
              refine Or.inr (Or.inl ⟨rfl, hg, fun state => ?_⟩)
              simp [effect, Signal.effect, hg]
          | false =>
              refine Or.inr (Or.inr ⟨rfl, hg, fun state => Or.inl ?_⟩)
              simp [effect, Signal.effect, hg]

end Turn

namespace ConnectionState

theorem after_transportOpened_eq_closed {s : ConnectionState} :
    s.after .transportOpened = closed ↔ s = closed := by
  cases s <;> decide

theorem after_transportOpened_eq_ready {s : ConnectionState} :
    s.after .transportOpened = ready ↔ s = ready := by
  cases s <;> decide

end ConnectionState

/-- The members of a list that satisfy `p` are each followed by one that satisfies `q`. -/
def EachFollowed {α : Type} (p q : α → Bool) (l : List α) : Prop :=
  ∀ before a after, l = before ++ a :: after → p a = true → ∃ b ∈ after, q b = true

section EachFollowed

variable {α : Type} {p q : α → Bool}

theorem eachFollowed_nil : EachFollowed p q [] := by
  intro before a after h
  simp at h

/-- At the end of a list, a member that satisfies `q` settles everything before it. -/
theorem eachFollowed_concat {l : List α} {a : α} :
    EachFollowed p q (l ++ [a]) ↔ p a = false ∧ (q a = true ∨ EachFollowed p q l) := by
  constructor
  · intro h
    have last : p a = false := by
      cases hp : p a with
      | false => rfl
      | true =>
          obtain ⟨b, hb, -⟩ := h l a [] rfl hp
          simp at hb
    refine ⟨last, ?_⟩
    cases hq : q a with
    | true => exact Or.inl rfl
    | false =>
        refine Or.inr fun before c after hl hc => ?_
        obtain ⟨b, hb, hqb⟩ := h before c (after ++ [a]) (by simp [hl]) hc
        rcases List.mem_append.1 hb with hb | hb
        · exact ⟨b, hb, hqb⟩
        · rw [List.mem_singleton] at hb
          subst hb
          rw [hq] at hqb
          exact absurd hqb (by simp)
  · rintro ⟨last, settled⟩ before c after hl hc
    -- a member that satisfies `p` is not the last one, so that the last one comes after it
    rcases List.eq_nil_or_concat after with rfl | ⟨after', b, rfl⟩
    · obtain ⟨-, rfl⟩ := List.append_inj' hl rfl |>.imp id (by simpa using ·)
      rw [last] at hc
      exact absurd hc (by simp)
    · have hl' : l ++ [a] = (before ++ c :: after') ++ [b] := by simpa using hl
      obtain ⟨rfl, hab⟩ := List.append_inj' hl' rfl
      obtain rfl : a = b := by simpa using hab
      rcases settled with hq | settled
      · exact ⟨a, by simp, hq⟩
      · obtain ⟨d, hd, hqd⟩ := settled before c after' rfl hc
        exact ⟨d, by simp [hd], hqd⟩

/-- Only the members that satisfy `p` or `q` matter, and a list may be read through a map. -/
theorem eachFollowed_map {β : Type} {f : β → α} {l : List β} :
    EachFollowed p q (l.map f) ↔ EachFollowed (p ∘ f) (q ∘ f) l := by
  induction l using List.reverseRecOn with
  | nil => exact ⟨fun _ => eachFollowed_nil, fun _ => eachFollowed_nil⟩
  | append_singleton l a ih =>
      rw [List.map_append, List.map_singleton, eachFollowed_concat, eachFollowed_concat, ih]
      rfl

end EachFollowed

/-- Something holds of each member of a list, given the members in front of it and, before these,
some others. -/
def Along {α : Type} (P : List α → α → Prop) (past l : List α) : Prop :=
  ∀ before a after, l = before ++ a :: after → P (past ++ before) a

namespace Along

variable {α : Type} {P : List α → α → Prop} {past l l' : List α}

theorem nil : Along P past [] := fun before a after h => absurd h (by simp)

theorem singleton {a : α} (h : P past a) : Along P past [a] := by
  intro before b after whole
  cases before with
  | nil =>
      obtain ⟨rfl, -⟩ := List.cons.inj whole
      simpa using h
  | cons first before => exact absurd (congrArg List.length whole) (by simp)

theorem append (h : Along P past l) (h' : Along P (past ++ l) l') : Along P past (l ++ l') := by
  intro before a after whole
  rcases List.append_eq_append_iff.1 whole with ⟨between, rfl, later⟩ | ⟨between, rfl, later⟩
  · rw [← List.append_assoc]
    exact h' between a after later
  · cases between with
    | nil => simpa using h' [] a after later.symm
    | cons first between =>
        obtain ⟨rfl, rfl⟩ := List.cons.inj later
        exact h before a between rfl

end Along

namespace Turn

/-- **A channel that was not closed before is not closed after a list of turns exactly if every turn
that closes it is followed by a greeting.** -/
theorem effects_ne_closed_iff {state : ConnectionState} (hopen : state ≠ .closed)
    (turns : List Turn) : effects state turns ≠ .closed ↔ EachFollowed closes greets turns := by
  -- from the end, for the last turn that closes or greets decides
  induction turns using List.reverseRecOn with
  | nil => exact ⟨fun _ => eachFollowed_nil, fun _ => hopen⟩
  | append_singleton turns turn ih =>
      rw [effects_concat, eachFollowed_concat]
      rcases effect_cases turn with ⟨hc, hg, h⟩ | ⟨hc, hg, h⟩ | ⟨hc, hg, h⟩
      · simp [h, hc]
      · simp [h, hc, hg]
      · rw [← ih]
        rcases h (effects state turns) with h | h <;>
          simp [h, hc, hg, ConnectionState.after_transportOpened_eq_closed]

/-- **A channel that was not ready before is not ready after a list of turns exactly if every
greeting is followed by a turn that closes the channel.** -/
theorem effects_ne_ready_iff {state : ConnectionState} (hfresh : state ≠ .ready)
    (turns : List Turn) : effects state turns ≠ .ready ↔ EachFollowed greets closes turns := by
  induction turns using List.reverseRecOn with
  | nil => exact ⟨fun _ => eachFollowed_nil, fun _ => hfresh⟩
  | append_singleton turns turn ih =>
      rw [effects_concat, eachFollowed_concat]
      rcases effect_cases turn with ⟨hc, hg, h⟩ | ⟨hc, hg, h⟩ | ⟨hc, hg, h⟩
      · simp [h, hc, hg]
      · simp [h, hg]
      · rw [← ih]
        rcases h (effects state turns) with h | h <;>
          simp [h, hc, hg, ConnectionState.after_transportOpened_eq_ready]

/-- If every close was answered by a greeting, an attempt whose transport is open ends ready or
pending, as the bridge has greeted or not. -/
theorem effects_of_answered {turns : List Turn} (answered : EachFollowed closes greets turns) :
    (effects .connecting turns).after .transportOpened =
      if turns.any greets then .ready else .handshakePending := by
  induction turns using List.reverseRecOn with
  | nil => rfl
  | append_singleton turns turn ih =>
      obtain ⟨last, settled⟩ := eachFollowed_concat.1 answered
      rw [effects_concat]
      rcases effect_cases turn with ⟨hc, hg, h⟩ | ⟨hc, hg, h⟩ | ⟨hc, hg, h⟩
      · rw [hc] at last
        exact absurd last (by simp)
      · simp [h, hg, ConnectionState.after, Transition.target]
      · -- a turn that does neither leaves it to the earlier ones
        have ih := ih (settled.resolve_left (by simp [hg]))
        rcases h (effects .connecting turns) with h | h
        · simp [h, ih, hg]
        · rw [h, ih]
          cases hany : turns.any greets <;>
            simp [hany, hg, ConnectionState.after, Transition.target]

end Turn

/-! ### What an account tells of turns -/

/-- The log line with which the client takes note of a signal that it hears. -/
def Signal.line : Signal → LogLine
  | .opened => .opened
  | .message frame => .received frame
  | .closed code reason => .closed code reason
  | .failed e => .transportFailed e

namespace Occurrence

/-- The turn that an occurrence tells of. -/
def turn? : Occurrence → Option Turn
  | log .opened => some (.heard .opened)
  | log (.received content) => some (.heard (.message content))
  | log (.closed code reason) => some (.heard (.closed code reason))
  | log (.transportFailed e) => some (.heard (.failed e))
  | log .disconnected => some .disconnected
  | _ => none

/-- Whether an occurrence tells of an attempt to connect that was not refused. -/
def accepts : Occurrence → Bool
  | log (.connecting _) => true
  | _ => false

/-- Whether the transport of a connection was stopped. -/
def stops (n : Nat) : Occurrence → Bool
  | stopped k => k == n
  | _ => false

/-- Whether the factory was asked for a transport, be it in vain. -/
def asks : Occurrence → Bool
  | created _ => true
  | createFailed => true
  | _ => false

/-- Whether the session of a connection was closed by the client. -/
def closes (n : Nat) : Occurrence → Bool
  | closed k => k == n
  | _ => false

/-- Whether an observer was told a piece of news. -/
def tells : Occurrence → Bool
  | told _ _ => true
  | _ => false

/-- An occurrence that tells of no turn and of no transport that was stopped. -/
structure Silent (o : Occurrence) : Prop where
  turn : o.turn? = none := by rfl
  stops : ∀ n, o.stops n = false := by intro n; rfl

/-- An occurrence that tells of no attempt to connect either, nor of anything that one brings
about. -/
structure Plain (o : Occurrence) : Prop extends Silent o where
  accepts : o.accepts = false := by rfl
  asks : o.asks = false := by rfl
  closes : ∀ n, o.closes n = false := by intro n; rfl

/-- Whether an occurrence is none of the business of attempts to connect, nor a turn. -/
def isPlain : Occurrence → Bool
  | log .opened => false
  | log (.received _) => false
  | log (.closed _ _) => false
  | log (.transportFailed _) => false
  | log .disconnected => false
  | log (.connecting _) => false
  | created _ => false
  | createFailed => false
  | closed _ => false
  | stopped _ => false
  | _ => true

theorem Plain.of_isPlain {o : Occurrence} (h : o.isPlain = true) : o.Plain := by
  cases o with
  | log line => cases line <;> first | exact {} | exact absurd h (by simp [isPlain])
  | _ => first | exact {} | exact absurd h (by simp [isPlain])

theorem turn?_line (signal : Signal) : turn? (.log signal.line) = some (.heard signal) := by
  cases signal <;> rfl

theorem accepts_line (signal : Signal) : accepts (.log signal.line) = false := by
  cases signal <;> rfl

end Occurrence

/-- The turns that a list of occurrences tells of, in order. -/
def turns (occurrences : List Occurrence) : List Turn := occurrences.filterMap Occurrence.turn?

theorem turns_append (before after : List Occurrence) :
    turns (before ++ after) = turns before ++ turns after := by
  simp [turns]

theorem turns_singleton {o : Occurrence} {turn : Turn} (h : o.turn? = some turn) :
    turns [o] = [turn] := by
  simp [turns, h]

theorem turns_silent {o : Occurrence} (silent : o.Silent) : turns [o] = [] := by
  simp [turns, silent.turn]

namespace Scene

/-! ### What happened in between -/

/-- What happened since an earlier scene, in order. -/
def since (s s' : Scene) : List Occurrence :=
  (s'.account.take (s'.account.length - s.account.length)).reverse

/-- The calls of handlers since an earlier scene, in order. -/
def callsSince (s s' : Scene) : List (Nat × Signal) :=
  (s'.calls.take (s'.calls.length - s.calls.length)).reverse

/-- A later scene has the account, the calls and the connections of an earlier one, and more. -/
structure Grows (s s' : Scene) : Prop where
  account : s.account <:+ s'.account
  calls : s.calls <:+ s'.calls
  network : s.network.length ≤ s'.network.length

namespace Grows

theorem refl (s : Scene) : Grows s s := ⟨List.suffix_refl _, List.suffix_refl _, Nat.le_refl _⟩

theorem trans {s t u : Scene} (h : Grows s t) (h' : Grows t u) : Grows s u :=
  ⟨h.account.trans h'.account, h.calls.trans h'.calls, Nat.le_trans h.network h'.network⟩

/-- A change that touches neither the account nor the calls, and takes no connection away. -/
theorem of_eq {s s' : Scene} (account : s'.account = s.account) (calls : s'.calls = s.calls)
    (network : s.network.length ≤ s'.network.length) : Grows s s' :=
  ⟨account ▸ List.suffix_refl _, calls ▸ List.suffix_refl _, network⟩

theorem note (o : Occurrence) (s : Scene) : Grows s (s.note o) :=
  ⟨List.suffix_cons _ _, List.suffix_refl _, Nat.le_refl _⟩

theorem called (n : Nat) (signal : Signal) (s : Scene) : Grows s (s.called n signal) :=
  ⟨List.suffix_refl _, List.suffix_cons _ _, Nat.le_refl _⟩

end Grows

@[simp] theorem since_self (s : Scene) : s.since s = [] := by simp [since]

theorem since_of_account {s s' : Scene} (added : List Occurrence)
    (h : s'.account = added ++ s.account) : s.since s' = added.reverse := by
  have hlen : s'.account.length - s.account.length = added.length := by simp [h]
  rw [since, hlen, h, List.take_left']
  rfl

theorem callsSince_of_calls {s s' : Scene} (added : List (Nat × Signal))
    (h : s'.calls = added ++ s.calls) : s.callsSince s' = added.reverse := by
  have hlen : s'.calls.length - s.calls.length = added.length := by simp [h]
  rw [callsSince, hlen, h, List.take_left']
  rfl

theorem since_eq_nil {s s' : Scene} (h : s'.account = s.account) : s.since s' = [] :=
  since_of_account [] h

theorem turns_since_of_account {s s' : Scene} (h : s'.account = s.account) :
    turns (s.since s') = [] := by
  rw [since_eq_nil h]
  rfl

theorem callsSince_eq_nil {s s' : Scene} (h : s'.calls = s.calls) : s.callsSince s' = [] :=
  callsSince_of_calls [] h

@[simp] theorem since_note (o : Occurrence) (s : Scene) : s.since (s.note o) = [o] :=
  since_of_account [o] rfl

/-- What happened in two stretches, one after the other. -/
theorem since_trans {s t u : Scene} (h : Grows s t) (h' : Grows t u) :
    s.since u = s.since t ++ t.since u := by
  obtain ⟨first, hfirst⟩ := h.account
  obtain ⟨second, hsecond⟩ := h'.account
  have both : u.account = (second ++ first) ++ s.account := by
    rw [← hsecond, ← hfirst, List.append_assoc]
  rw [since_of_account first hfirst.symm, since_of_account second hsecond.symm,
    since_of_account _ both, List.reverse_append]

/-- The calls in two stretches, one after the other. -/
theorem callsSince_trans {s t u : Scene} (h : Grows s t) (h' : Grows t u) :
    s.callsSince u = s.callsSince t ++ t.callsSince u := by
  obtain ⟨first, hfirst⟩ := h.calls
  obtain ⟨second, hsecond⟩ := h'.calls
  have both : u.calls = (second ++ first) ++ s.calls := by
    rw [← hsecond, ← hfirst, List.append_assoc]
  rw [callsSince_of_calls first hfirst.symm, callsSince_of_calls second hsecond.symm,
    callsSince_of_calls _ both, List.reverse_append]

theorem calls_of_grows {s t : Scene} (h : Grows s t) :
    t.calls = (s.callsSince t).reverse ++ s.calls := by
  obtain ⟨added, hadded⟩ := h.calls
  rw [callsSince_of_calls added hadded.symm, List.reverse_reverse, hadded]

/-! ### Signals that count -/

/-- Whether the client listens to the handler of a connection: there is a client, and the generation
of the handler is its latest. -/
def listensTo (s : Scene) (n : Nat) : Bool :=
  !s.gone && (s.network[n]?.map Connection.generation == some s.client.generation)

/-- Who is listened to depends on the client and the generations alone. -/
theorem listensTo_congr {s s' : Scene} (gone : s'.gone = s.gone)
    (generation : s'.client.generation = s.client.generation)
    (links : ∀ k : Nat,
      s'.network[k]?.map Connection.generation = s.network[k]?.map Connection.generation) :
    s'.listensTo = s.listensTo := by
  funext k
  rw [listensTo, listensTo, gone, links, generation]

/-- What a change of a connection keeps is the same for all connections. -/
theorem map_network_update {β : Type} {f : Connection → Connection} {g : Connection → β}
    (keeps : ∀ c, g (f c) = g c) (n k : Nat) (s : Scene) :
    (s.update n f).network[k]?.map g = s.network[k]?.map g := by
  simp only [update, List.getElem?_modify]
  split <;> cases s.network[k]? <;> simp [keeps]

theorem links_update {f : Connection → Connection} (keeps : ∀ c, (f c).generation = c.generation)
    (n : Nat) (s : Scene) (k : Nat) :
    (s.update n f).network[k]?.map Connection.generation =
      s.network[k]?.map Connection.generation :=
  map_network_update keeps n k s

theorem isOpen_update {f : Connection → Connection} (keeps : ∀ c, (f c).isOpen = c.isOpen)
    (n k : Nat) (s : Scene) : (s.update n f).isOpen k = s.isOpen k := by
  rw [Scene.isOpen, map_network_update keeps, Scene.isOpen]

/-- A signal that is listened to is done what it asks for. -/
theorem deliver_of_listens {react : Reaction} {n : Nat} {signal : Signal} {s : Scene}
    (listens : s.listensTo n = true) :
    s.deliver react n signal = (s.called n signal).obey react n signal := by
  obtain ⟨here, same⟩ : s.gone = false ∧
      s.network[n]?.map Connection.generation = some s.client.generation := by
    simpa [listensTo] using listens
  obtain ⟨c, known, generation⟩ := Option.map_eq_some_iff.1 same
  simp [deliver, called, here, known, generation]

/-- A signal that nobody listens to leaves a log line at most, however observers react. -/
theorem deliver_of_deaf {n : Nat} {s : Scene} (deaf : s.listensTo n = false) (signal : Signal) :
    (∀ react, s.deliver react n signal = s.called n signal) ∨
      ∃ generation latest, ∀ react,
        s.deliver react n signal = (s.called n signal).log (.stale generation latest) := by
  cases gone : s.gone with
  | true => exact Or.inl fun react => deliver_of_gone gone
  | false =>
      cases known : s.network[n]? with
      | none =>
          left
          intro react
          simp [deliver, called, gone, known]
      | some c =>
          have old : c.generation ≠ s.client.generation := by
            simpa [listensTo, gone, known] using deaf
          exact Or.inr ⟨_, _, fun react => deliver_stale gone known old⟩

/-- The signals, out of a list of calls, that came through handlers which the client listens to. -/
def heard (s : Scene) (calls : List (Nat × Signal)) : List Signal :=
  (calls.filter fun call => s.listensTo call.1).map Prod.snd

theorem heard_append (s : Scene) (before after : List (Nat × Signal)) :
    s.heard (before ++ after) = s.heard before ++ s.heard after := by
  simp [heard]

theorem heard_congr {s s' : Scene} (h : s'.listensTo = s.listensTo) (calls : List (Nat × Signal)) :
    s'.heard calls = s.heard calls := by
  simp [heard, h]

end Scene

end BridgeChannel
