/-
**Exactly the allowed frames go out, on the latest session only.**

A run is looked at as its traffic: the episodes in which something happens to the client, each kept
together with the scene and the stage of an attempt in which it takes place, and lulls in between.
What is handed to sessions is read off the episodes: a greeting that the client listens to is
answered twice, and a message of the application goes out once the channel is ready, each if the
client holds an open session at that moment.

If attempts do not overlap, and transports hand sessions over only while they are being opened, the
session that the client holds is always that of the latest connection, and once the client has
disconnected it holds none until the next attempt.

Main definitions:

* `Stage`, `Deed`, `Episode` — where an attempt stands, what happens, and in which scene;
* `Episode.frames` — what is handed to sessions in an episode;
* `Scene.Enacts`, `Scene.Traffic` — one episode, and all of them between two scenes;
* `Episode.Punctual` — sessions are handed over only while their transport is being opened;
* `Step.isCalm`, `Step.isPunctual` — steps with nothing nested in them that calls back, or hands a
  session over late;
* `Script.Traffic` — the traffic of a whole script.

Main results:

* `Enacts.exact`, `Traffic.exact` — what is handed over in an episode, and in all of a run;
* `Enacts.holds`, `Traffic.latest` — the session that the client holds is the latest one;
* `Traffic.silent`, `Traffic.parted` — nothing is handed over between a disconnect and the next
  attempt;
* `traffic_exact` — **the frames of a run without overlapping attempts**.
-/
import Mathlib
import BridgeChannel.Proofs.Client.Sending

set_option autoImplicit false

namespace BridgeChannel

/-! ### Episodes -/

/-- Where an attempt to connect stands. -/
inductive Stage where
  /-- No attempt is under way. -/
  | idle
  /-- What was left behind is being torn down, and the factory is being asked. -/
  | clearing
  /-- The transport of a connection is being opened. -/
  | opening (connection : Nat)

/-- What happens to a client. -/
inductive Deed where
  /-- The handler of a connection is called.  If this is a greeting that the client answers, it
  declines video in the given scene. -/
  | hears (connection : Nat) (signal : Signal) (declining : Scene)
  /-- The application sends a message. -/
  | sends (message : Message)
  | disconnects
  /-- An attempt to connect that is not refused begins. -/
  | begins
  /-- The factory has returned a transport, and the new connection is the latest one. -/
  | launches
  /-- The factory has returned no transport. -/
  | fails
  /-- The transport has returned, be it in vain. -/
  | concludes

/-- What happens to a client, the scene in which it happens, and where an attempt stands then. -/
structure Episode where
  scene : Scene
  stage : Stage
  deed : Deed

namespace Episode

/-- **What is handed to sessions in an episode**: for a greeting that the client listens to, its
hello and the wish for no video, and for a message of the application that message, if the channel
is ready; each if the client holds an open session at that moment. -/
def frames (o : Episode) : List (Nat × String) :=
  match o.deed with
  | .hears n signal declining =>
    if o.scene.listensTo n && signal.greets then
      o.scene.handed .clientHello ++ declining.handed .noVideo
    else []
  | .sends m => if o.scene.client.state.isReady then o.scene.handed m else []
  | _ => []

/-- The call of a handler in an episode. -/
def call? (o : Episode) : Option (Nat × Signal) :=
  match o.deed with
  | .hears n signal _ => some (n, signal)
  | _ => none

/-- What the application asks to send in an episode. -/
def request? (o : Episode) : Option Message :=
  match o.deed with
  | .sends m => some m
  | _ => none

/-- Whether a session is handed over only while the transport of its connection is being opened. -/
def Punctual (o : Episode) : Prop :=
  match o.deed with
  | .hears n .opened _ => o.stage = .opening n
  | _ => True

/-- Whether the client disconnects while no attempt is under way. -/
def Parts (o : Episode) : Prop := o.stage = .idle ∧ o.deed = .disconnects

end Episode

namespace Scene

/-- What happens to a client in a scene and at a stage, and what they are afterwards. -/
inductive Enacts : Stage → Scene → Deed → Stage → Scene → Prop
  | hears {p : Stage} {s : Scene} (depth : Nat) (busy : Bool) (n : Nat) (signal : Signal) :
      Enacts p s
        (.hears n signal
          (((s.called n signal).log signal.line).welcomed (react (performApart depth busy))))
        p (s.deliver (react (performApart depth busy)) n signal)
  | sends {p : Stage} {s : Scene} (m : Message) :
      Enacts p s (.sends m) p ((s.requested m).sendMessage m)
  | disconnects {p : Stage} {s : Scene} : Enacts p s .disconnects p s.disconnect
  | begins {s : Scene} : Enacts .idle s .begins .clearing s.begun
  | launches {s : Scene} (plan : Attempt) :
      Enacts .clearing s .launches (.opening s.network.length) (s.launched plan)
  | fails {s : Scene} : Enacts .clearing s .fails .idle (s.move .connectFailed)
  | concludes {s : Scene} (plan : Attempt) (n : Nat) :
      Enacts (.opening n) s .concludes .idle (s.concluded plan n).1

/-- The episodes between two scenes, with the stages of attempts.  In between, there are lulls. -/
inductive Traffic (p : Stage) (s : Scene) : List Episode → Stage → Scene → Prop
  | start : Traffic p s [] p s
  | lull {history : List Episode} {q : Stage} {t u : Scene} (earlier : Traffic p s history q t)
      (change : Lull t u) : Traffic p s history q u
  | episode {history : List Episode} {q r : Stage} {t u : Scene} {deed : Deed}
      (earlier : Traffic p s history q t) (enacts : Enacts q t deed r u) :
      Traffic p s (history ++ [⟨t, q, deed⟩]) r u

namespace Traffic

variable {p q r : Stage} {s t u : Scene} {history history' : List Episode}

theorem append (h : Traffic p s history q t) (h' : Traffic q t history' r u) :
    Traffic p s (history ++ history') r u := by
  induction h' with
  | start => simpa using h
  | lull _ change ih => exact ih.lull change
  | episode _ enacts ih =>
      rw [← List.append_assoc]
      exact ih.episode enacts

theorem lulls (changes : Lulls s t) : Traffic p s [] p t := by
  induction changes with
  | refl => exact .start
  | tail _ change ih => exact ih.lull change

/-- The last episode of a run, and the lulls after it. -/
theorem last {o : Episode} (h : Traffic p s (history ++ [o]) r u) :
    ∃ t, Traffic p s history o.stage o.scene ∧ Enacts o.stage o.scene o.deed r t ∧ Lulls t u := by
  generalize whole : history ++ [o] = all at h
  induction h with
  | start => exact absurd whole (by simp)
  | lull _ change ih =>
      obtain ⟨t, earlier, enacts, quiet⟩ := ih whole
      exact ⟨t, earlier, enacts, quiet.tail change⟩
  | @episode all q r t u deed earlier enacts _ =>
      obtain ⟨rfl, same⟩ := List.append_inj' whole rfl
      obtain rfl : o = ⟨t, q, deed⟩ := by simpa using same
      exact ⟨u, earlier, enacts, .refl⟩

/-- The traffic of a run is that of its beginning, and of the rest. -/
theorem split (h : Traffic p s (history ++ history') r u) :
    ∃ q t, Traffic p s history q t ∧ Traffic q t history' r u := by
  induction history' using List.reverseRecOn generalizing r u with
  | nil => exact ⟨r, u, by simpa using h, .start⟩
  | append_singleton history' o ih =>
      rw [← List.append_assoc] at h
      obtain ⟨u', earlier, enacts, quiet⟩ := h.last
      obtain ⟨q, t, before, after⟩ := ih earlier
      have whole := (after.episode enacts).append (lulls quiet)
      exact ⟨q, t, before, by simpa using whole⟩

end Traffic

/-! ### What is handed over -/

/-- What is handed over when a handler is called are the answers of the client. -/
theorem frames_hears (p : Stage) (s : Scene) (react : Reaction) (n : Nat) (signal : Signal) :
    Episode.frames ⟨s, p, .hears n signal (((s.called n signal).log signal.line).welcomed react)⟩ =
      if s.listensTo n then (s.called n signal).answers react signal else [] := by
  cases listens : s.listensTo n <;> cases greets : signal.greets <;>
    simp [Episode.frames, answers, listens, greets]
  rfl

/-- An episode is taken account of between two scenes. -/
structure Accounts (o : Episode) (s t : Scene) : Prop where
  sends : t.sends = o.frames.reverse ++ s.sends
  calls : t.calls = o.call?.toList ++ s.calls
  requests : t.requests = o.request?.toList ++ s.requests
  calm : t.roster.Calm

/-- **What is handed over in an episode.** -/
theorem Enacts.exact {p q : Stage} {s t : Scene} {deed : Deed} (h : Enacts p s deed q t)
    (calm : s.roster.Calm) : Accounts ⟨s, p, deed⟩ s t := by
  cases h with
  | hears depth busy n signal =>
      obtain ⟨session, -, heard⟩ := hands_deliver depth busy calm n signal
      rw [← frames_hears p] at heard
      exact ⟨heard.sends, heard.calls, heard.requests, heard.calm calm⟩
  | sends m =>
      have sent := hands_sendMessage m (s.requested m)
      exact ⟨sent.sends, sent.calls, sent.requests, sent.calm calm⟩
  | disconnects =>
      have left := hands_disconnect s
      exact ⟨left.sends, left.calls, left.requests, left.calm calm⟩
  | concludes plan n =>
      obtain ⟨session, -, concluded⟩ := hands_concluded plan n s
      exact ⟨concluded.sends, concluded.calls, concluded.requests, concluded.calm calm⟩
  | _ => exact ⟨rfl, rfl, rfl, calm⟩

/-- **What is handed over in a run, in order, which handlers are called, and what the application
asks to send.** -/
theorem Traffic.exact {p q : Stage} {s t : Scene} {history : List Episode}
    (h : Traffic p s history q t) (calm : s.roster.Calm) :
    t.sends = (history.flatMap Episode.frames).reverse ++ s.sends ∧
      t.calls = (history.filterMap Episode.call?).reverse ++ s.calls ∧
      t.requests = (history.filterMap Episode.request?).reverse ++ s.requests ∧
      t.roster.Calm := by
  induction h with
  | start => exact ⟨rfl, rfl, rfl, calm⟩
  | lull _ change ih =>
      obtain ⟨sends, calls, requests, calm⟩ := ih
      have quiet := Hands.lull change
      exact ⟨quiet.sends.trans sends, quiet.calls.trans calls, quiet.requests.trans requests,
        quiet.calm calm⟩
  | episode _ enacts ih =>
      obtain ⟨sends, calls, requests, calm⟩ := ih
      obtain ⟨sends', calls', requests', calm'⟩ := enacts.exact calm
      refine ⟨?_, ?_, ?_, calm'⟩
      · rw [sends', sends]
        simp
      · rw [calls', calls, List.filterMap_append]
        cases h : Episode.call? _ <;> simp [h]
      · rw [requests', requests, List.filterMap_append]
        cases h : Episode.request? _ <;> simp [h]

/-! ### The session that the client holds -/

/-- What the client holds at a stage: while no attempt is under way, the session of the latest
connection at most; while it clears away what was left behind, none; and while a transport is being
opened, that is the one of the latest connection, whose session the client may hold already. -/
def Holds : Stage → Scene → Prop
  | .idle, s => ∀ k, s.client.session = some k → k + 1 = s.network.length
  | .clearing, s => s.client.session = none
  | .opening n, s => n + 1 = s.network.length ∧ ∀ k, s.client.session = some k → k = n

/-- The session that is held is that of the latest connection. -/
theorem Holds.latest {p : Stage} {s : Scene} (h : Holds p s) {k : Nat}
    (session : s.client.session = some k) : k + 1 = s.network.length := by
  cases p with
  | idle => exact h k session
  | clearing => exact absurd (h.symm.trans session) (by simp)
  | opening n =>
      obtain ⟨latest, held⟩ := h
      rw [held k session, latest]

/-- What a client may hold with a session it may hold with none, or with the same one. -/
theorem Holds.of_session {p : Stage} {s t : Scene} (h : Holds p s)
    (length : t.network.length = s.network.length)
    (session : t.client.session = s.client.session ∨ t.client.session = none) : Holds p t := by
  have held : ∀ {k}, t.client.session = some k → s.client.session = some k := by
    intro k hk
    rcases session with same | none_
    · rw [← same, hk]
    · rw [none_] at hk
      exact absurd hk (by simp)
  cases p with
  | idle =>
      intro k hk
      rw [length]
      exact h k (held hk)
  | clearing => exact session.elim (fun same => same.trans h) id
  | opening n =>
      refine ⟨length ▸ h.1, fun k hk => h.2 k (held hk)⟩

/-- **The client goes on to hold the session of the latest connection only.** -/
theorem Enacts.holds {p q : Stage} {s t : Scene} {deed : Deed} (h : Enacts p s deed q t)
    (calm : s.roster.Calm) (punctual : Episode.Punctual ⟨s, p, deed⟩) (holds : Holds p s) :
    Holds q t := by
  cases h with
  | hears depth busy n signal =>
      obtain ⟨session, taken, heard⟩ := hands_deliver depth busy calm n signal
      rcases taken with rfl | ⟨rfl, rfl⟩
      · exact holds.of_session heard.length (.inl heard.session)
      · -- a session that is handed over is that of the connection whose transport is being opened
        obtain rfl : p = .opening n := punctual
        refine ⟨holds.1.trans heard.length.symm, fun k hk => ?_⟩
        exact (Option.some.inj (heard.session.symm.trans hk)).symm
  | sends m =>
      have sent := hands_sendMessage m (s.requested m)
      exact holds.of_session sent.length (.inl sent.session)
  | disconnects =>
      have left := hands_disconnect s
      exact holds.of_session left.length (.inr left.session)
  | begins => rfl
  | launches plan =>
      refine ⟨(length_launched plan s).symm, fun k hk => ?_⟩
      exact absurd (holds.symm.trans hk) (by simp)
  | fails => exact fun k hk => absurd (holds.symm.trans hk) (by simp)
  | concludes plan n =>
      obtain ⟨latest, held⟩ := holds
      obtain ⟨session, taken, concluded⟩ := hands_concluded plan n s
      intro k hk
      rw [concluded.length]
      have holds : session = some k := concluded.session.symm.trans hk
      rcases taken with rfl | rfl | rfl
      · rw [held k holds]
        exact latest
      · rw [← Option.some.inj holds]
        exact latest
      · exact absurd holds (by simp)

/-- What is handed over in an episode goes to the session that the client holds then. -/
theorem Enacts.session_of_frames {p q : Stage} {s t : Scene} {deed : Deed} (h : Enacts p s deed q t)
    (calm : s.roster.Calm) {frame : Nat × String} (handed : frame ∈ Episode.frames ⟨s, p, deed⟩) :
    s.client.session = some frame.1 := by
  cases h with
  | hears depth busy n signal =>
      rw [frames_hears] at handed
      unfold answers at handed
      split at handed
      · split at handed
        · rcases List.mem_append.1 handed with hello | declined
          · exact session_of_handed hello
          · -- the session is the same once the observers have been told
            have welcomed := (hands_welcomed (s := (s.called n signal).log signal.line) depth busy
              calm).1
            exact welcomed.session.symm.trans (session_of_handed declined)
        · exact absurd handed (by simp)
      · exact absurd handed (by simp)
  | sends m =>
      unfold Episode.frames at handed
      dsimp only at handed
      split at handed
      · exact session_of_handed handed
      · exact absurd handed (by simp)
  | _ => exact absurd handed (by simp [Episode.frames])

/-- **Everything is handed to the session of the latest connection.** -/
theorem Traffic.latest {p q : Stage} {s t : Scene} {history : List Episode}
    (h : Traffic p s history q t) (calm : s.roster.Calm)
    (punctual : ∀ o ∈ history, o.Punctual) (holds : Holds p s) :
    Holds q t ∧ ∀ o ∈ history, ∀ frame ∈ o.frames, frame.1 + 1 = o.scene.network.length := by
  induction h with
  | start => exact ⟨holds, fun o ho => absurd ho (by simp)⟩
  | lull _ change ih =>
      obtain ⟨holds, latest⟩ := ih punctual
      have quiet := Hands.lull change
      exact ⟨holds.of_session quiet.length (.inl quiet.session), latest⟩
  | episode earlier enacts ih =>
      obtain ⟨holds, latest⟩ := ih fun o ho => punctual o (List.mem_append_left _ ho)
      obtain ⟨-, -, -, calm⟩ := earlier.exact calm
      refine ⟨enacts.holds calm (punctual _ (by simp)) holds, fun o ho => ?_⟩
      rcases List.mem_append.1 ho with ho | ho
      · exact latest o ho
      · rw [List.mem_singleton.1 ho]
        exact fun frame handed => holds.latest (enacts.session_of_frames calm handed)

/-- **A client that holds no session hands nothing over until an attempt begins.** -/
theorem Traffic.silent {q : Stage} {s t : Scene} {history : List Episode}
    (h : Traffic .idle s history q t) (calm : s.roster.Calm)
    (punctual : ∀ o ∈ history, o.Punctual) (unbegun : ∀ o ∈ history, o.deed ≠ .begins)
    (empty : s.client.session = none) :
    q = .idle ∧ t.client.session = none ∧ history.flatMap Episode.frames = [] := by
  induction h with
  | start => exact ⟨rfl, empty, rfl⟩
  | lull _ change ih =>
      obtain ⟨idle, empty, silent⟩ := ih punctual unbegun
      exact ⟨idle, (Hands.lull change).session.trans empty, silent⟩
  | @episode history q r t u deed earlier enacts ih =>
      obtain ⟨rfl, empty, silent⟩ := ih (fun o ho => punctual o (List.mem_append_left _ ho))
        fun o ho => unbegun o (List.mem_append_left _ ho)
      obtain ⟨-, -, -, calm⟩ := earlier.exact calm
      have nothing : Episode.frames ⟨t, .idle, deed⟩ = [] := by
        refine List.eq_nil_iff_forall_not_mem.2 fun frame handed => ?_
        exact absurd (empty.symm.trans (enacts.session_of_frames calm handed)) (by simp)
      have last : Episode.Punctual ⟨t, .idle, deed⟩ := punctual _ (by simp)
      have other : deed ≠ .begins := unbegun ⟨t, .idle, deed⟩ (by simp)
      have ended : r = .idle ∧ u.client.session = none := by
        cases enacts with
        | hears depth busy n signal =>
            obtain ⟨session, taken, heard⟩ := hands_deliver depth busy calm n signal
            refine ⟨rfl, heard.session.trans ?_⟩
            rcases taken with rfl | ⟨rfl, rfl⟩
            · exact empty
            · exact absurd last (by simp [Episode.Punctual])
        | sends m => exact ⟨rfl, (hands_sendMessage m (t.requested m)).session.trans empty⟩
        | disconnects => exact ⟨rfl, (hands_disconnect t).session⟩
        | begins => exact absurd rfl other
      exact ⟨ended.1, ended.2, by simp [silent, nothing]⟩

/-- **Nothing is handed over between a disconnect while no attempt is under way and the next
attempt.** -/
theorem Traffic.parted {p q : Stage} {s t : Scene} {before middle after : List Episode}
    {o : Episode} (h : Traffic p s (before ++ o :: (middle ++ after)) q t) (calm : s.roster.Calm)
    (punctual : ∀ e ∈ before ++ o :: (middle ++ after), e.Punctual) (parts : o.Parts)
    (unbegun : ∀ e ∈ middle, e.deed ≠ .begins) : middle.flatMap Episode.frames = [] := by
  have whole : Traffic p s ((before ++ [o]) ++ (middle ++ after)) q t := by simpa using h
  obtain ⟨r, u, first, rest⟩ := whole.split
  obtain ⟨r', u', later, -⟩ := rest.split
  obtain ⟨-, -, -, calm⟩ := first.exact calm
  -- the client has disconnected, and does nothing but wait before the next episode
  have parted : r = .idle ∧ u.client.session = none := by
    obtain ⟨scene, stage, deed⟩ := o
    obtain ⟨rfl, rfl⟩ : stage = .idle ∧ deed = .disconnects := parts
    obtain ⟨v, -, enacts, quiet⟩ := first.last
    cases enacts with
    | disconnects => exact ⟨rfl, (Hands.lulls quiet).session.trans (hands_disconnect scene).session⟩
  obtain ⟨rfl, empty⟩ := parted
  exact (later.silent calm (fun e he => punctual e (by simp [he])) unbegun empty).2.2

end Scene

/-! ### Steps -/

namespace Step

mutual

/-- Whether something can be said of a step, and of every step that happens in its midst. -/
def throughout (p : Step → Bool) : Step → Bool
  | connect plan during => p (.connect plan during) && throughoutDuring p during
  | step => p step

def throughoutDuring (p : Step → Bool) : List (Moment × Step) → Bool
  | [] => true
  | (_, step) :: rest => step.throughout p && throughoutDuring p rest

end

theorem of_throughout {p : Step → Bool} {step : Step} (h : step.throughout p = true) :
    p step = true := by
  cases step with
  | connect plan during =>
      rw [throughout, Bool.and_eq_true] at h
      exact h.1
  | _ => exact h

theorem throughout_of_mem {p : Step → Bool} {during : List (Moment × Step)}
    (h : throughoutDuring p during = true) : ∀ d ∈ during, d.2.throughout p = true := by
  induction during with
  | nil => exact fun d hd => absurd hd (by simp)
  | cons first rest ih =>
      obtain ⟨m, step⟩ := first
      rw [throughoutDuring, Bool.and_eq_true] at h
      intro d hd
      rcases List.mem_cons.1 hd with rfl | hd
      · exact h.1
      · exact ih h.2 d hd

theorem throughout_during {p : Step → Bool} {plan : Attempt} {during : List (Moment × Step)}
    (h : (connect plan during).throughout p = true) : ∀ d ∈ during, d.2.throughout p = true := by
  rw [throughout, Bool.and_eq_true] at h
  exact throughout_of_mem h.2

/-- Whether a step, with all that happens in its midst, brings about no observer that calls back. -/
def isCalm : Step → Bool :=
  throughout fun
    | observe _ reactions _ => reactions.all fun reaction => reaction.2.isBystander
    | _ => true

/-- Whether a step, with all that happens in its midst, hands no session over, but for those that
transports hand over while they are being opened. -/
def isPunctual : Step → Bool :=
  throughout fun
    | signal _ .opened => false
    | _ => true

end Step

namespace Command

def isCalm : Command → Bool
  | step s => s.isCalm
  | dropClient => true

def isPunctual : Command → Bool
  | step s => s.isPunctual
  | dropClient => true

end Command

/-- A stream hands no session over. -/
theorem WebSocket.Reader.advance_ne_opened (alive : Bool) (item : Option StreamItem) (r : Reader) :
    (r.advance alive item).2 ≠ some .opened := by
  have finished : (r.finish alive).2 ≠ some .opened := by
    unfold finish
    split <;> simp
  unfold advance
  split
  · simp
  · exact finished
  · exact finished
  next item _ =>
    split
    · cases item with
      | ok frame => cases frame <;> simp [take]
      | error e => simp
    · simp

namespace Scene

/-- One scene leads to another, with stages of attempts.  If something is given, sessions are handed
over only while their transport is being opened. -/
def Carries (P : Prop) (p : Stage) (s : Scene) (q : Stage) (t : Scene) : Prop :=
  ∃ history, Traffic p s history q t ∧ (P → ∀ o ∈ history, o.Punctual)

namespace Carries

variable {P : Prop} {p q r : Stage} {s t u : Scene}

theorem trans (h : Carries P p s q t) (h' : Carries P q t r u) : Carries P p s r u := by
  obtain ⟨history, h, punctual⟩ := h
  obtain ⟨history', h', punctual'⟩ := h'
  refine ⟨history ++ history', h.append h', fun given o ho => ?_⟩
  exact (List.mem_append.1 ho).elim (punctual given o) (punctual' given o)

theorem lulls (changes : Lulls s t) : Carries P p s p t :=
  ⟨[], .lulls changes, fun _ o ho => absurd ho (by simp)⟩

theorem refl (s : Scene) : Carries P p s p s := lulls .refl

theorem episode {deed : Deed} (enacts : Enacts p s deed q t)
    (punctual : P → Episode.Punctual ⟨s, p, deed⟩) : Carries P p s q t := by
  refine ⟨[⟨s, p, deed⟩], .episode .start enacts, fun given o ho => ?_⟩
  rw [List.mem_singleton.1 ho]
  exact punctual given

theorem deliver (depth : Nat) (busy : Bool) (n : Nat) {signal : Signal}
    (other : P → signal ≠ .opened) (s : Scene) :
    Carries P p s p (s.deliver (react (performApart depth busy)) n signal) := by
  refine .episode (.hears depth busy n signal) fun given => ?_
  cases signal with
  | opened => exact absurd rfl (other given)
  | _ => trivial

theorem engaged (depth : Nat) (busy : Bool) (n : Nat) {signal : Signal}
    (other : P → signal ≠ .opened) (s : Scene) :
    Carries P p s p (s.engaged n (Scene.deliver (react (performApart depth busy)) n signal)) :=
  have begun := lulls (.update s n (f := fun c => { c with running := c.running + 1 }) fun _ => rfl)
  (begun.trans (deliver depth busy n other _)).trans
    (lulls (.update _ n (f := fun c => { c with running := c.running - 1 }) fun _ => rfl))

theorem read (depth : Nat) (busy : Bool) (n : Nat) (item : Option WebSocket.StreamItem)
    (s : Scene) : Carries P p s p (s.read (react (performApart depth busy)) n item) := by
  unfold Scene.read
  split
  · exact refl s
  next c _ =>
    split
    · exact refl s
    · have other := c.reader.advance_ne_opened (s.isAlive n) item
      generalize c.reader.advance (s.isAlive n) item = advanced at other
      obtain ⟨reader, signal⟩ := advanced
      dsimp only at other ⊢
      have updated : Carries P p s p (s.update n fun c =>
          { c with reader, isOpen := c.isOpen && !reader.hasClosed }) :=
        lulls (.update s n fun _ => rfl)
      cases signal with
      | none => exact updated
      | some signal =>
          exact updated.trans (engaged depth busy n (fun _ => by simpa using other) _)

end Carries

section Steps

variable {P : Prop}

/-- Every step that does not ask the client to connect has its traffic. -/
theorem carries_other {p : Stage} (depth : Nat) (busy : Bool) {step : Step}
    (calm : step.isCalm = true) (punctual : P → step.isPunctual = true)
    (other : step.connects = false) (s : Scene) :
    Carries P p s p (take (performApart depth busy) step s).1 := by
  rcases take_cases (performApart depth busy) step s with same | effect
  · rw [same]
    exact .refl s
  · generalize (take (performApart depth busy) step s).1 = t at effect
    cases effect with
    | connect plan during => exact absurd other (by simp [Step.connects])
    | disconnect => exact .episode .disconnects fun _ => trivial
    | send message => exact .episode (.sends message) fun _ => trivial
    | observe name reactions times =>
        have calm : ∀ reaction ∈ reactions, reaction.2.isBystander = true := by
          simpa using Step.of_throughout calm
        refine .lulls (.single (.withRoster s fun before => ?_))
        exact .of_everyone rfl (before.create (o := { name, reactions, remaining := times }) calm)
    | signal connection n signal =>
        refine .engaged depth busy n (fun given => ?_) s
        rintro rfl
        exact absurd (Step.of_throughout (punctual given)) (by simp)
    | stream connection n item => exact .read depth busy n item s
    | clearObservers => exact .lulls (.withRoster s rfl)
    | addAgain owned => exact .lulls (.withRoster s rfl)
    | dropObserver name => exact .lulls (.withRoster s rfl)
    | _ => exact .lulls (.update s _ fun _ => rfl)

/-- In the midst of an attempt, every step has its traffic, and no attempt begins. -/
theorem carries_busy (depth : Nat) {step : Step} (calm : step.isCalm = true)
    (punctual : P → step.isPunctual = true) (p : Stage) (s : Scene) :
    Carries P p s p (s.performApart depth true step).1 := by
  cases depth with
  | zero => exact .refl s
  | succ depth =>
      cases starts : s.starts step with
      | true =>
          simp only [performApart, starts, Bool.and_self, if_true]
          exact .refl s
      | false =>
          simp only [performApart, starts, Bool.and_false, Bool.true_or]
          rw [if_neg (by simp)]
          cases other : step.connects with
          | false => exact carries_other depth true calm punctual other s
          | true =>
              cases step with
              | connect plan during =>
                  rcases take_of_refused (performApart depth true) starts with same | ⟨_, -, noted⟩
                  · rw [same]
                    exact .refl s
                  · rw [noted]
                    exact .lulls (.log s _)
              | _ => exact absurd other (by simp [Step.connects])

theorem carries_interludes (depth : Nat) {during : List (Moment × Step)}
    (calm : ∀ d ∈ during, d.2.isCalm = true) (punctual : P → ∀ d ∈ during, d.2.isPunctual = true)
    (m : Moment) (p : Stage) (s : Scene) :
    Carries P p s p (interludes (performApart depth true) during m s) := by
  unfold interludes labelled
  have nested : ∀ d ∈ during.filter fun d => d.1 == m, d ∈ during := fun d hd =>
    (List.mem_filter.1 hd).1
  generalize (during.filter fun d => d.1 == m) = steps at nested
  induction steps generalizing s with
  | nil => exact .refl s
  | cons d steps ih =>
      have there := nested d List.mem_cons_self
      have first : Carries P p s p (s.nest (performApart depth true) d.2) :=
        ((Carries.lulls (.note s _)).trans
          (carries_busy depth (calm d there) (fun given => punctual given d there) p _)).trans
          (.lulls (.note _ _))
      exact first.trans (ih _ fun d hd => nested d (List.mem_cons_of_mem _ hd))

/-- What is torn down has its traffic. -/
theorem clearing_carries (P : Prop) (p : Stage) : Clearing fun s t => Carries P p s p t where
  refl := .refl
  trans := .trans
  note plain untold s := .lulls (clearing_lulls.note plain untold s)
  update n _ s mild := .lulls (clearing_lulls.update n s mild)
  close opened := .lulls (clearing_lulls.close opened)
  letGo held := .lulls (clearing_lulls.letGo held)

/-- **An attempt has its traffic, if what happens in its midst does.** -/
theorem carries_connect {between : Interludes}
    (hbetween : ∀ m p s, Carries P p s p (between m s)) (plan : Attempt) (s : Scene) :
    Carries P .idle s .idle (s.connect plan between).1 := by
  have cleared : Carries P .idle s .clearing (s.cleared between) := by
    have begun : Carries P .idle s .clearing s.begun := .episode .begins fun _ => trivial
    have torn : Carries P .clearing s.begun .clearing (s.torn between) :=
      (clearing_carries P .clearing).teardown (fun m s => hbetween m _ s) (s.move .beginConnect)
    exact ((begun.trans torn).trans (.lulls (.log _ _))).trans (hbetween .creating _ _)
  rcases connect_cases plan between s with hc | hc | ⟨-, -, ⟨e, -, hc⟩ | ⟨-, hc⟩⟩
  · rw [hc]
    exact .lulls (.log s _)
  · rw [hc]
    exact .lulls (.log s _)
  · rw [hc]
    have failed := cleared.trans
      (.lulls ((Lulls.note _ .createFailed).trans (Lulls.log _ (.startFailed e))))
    exact failed.trans (.episode .fails fun _ => trivial)
  · rw [hc]
    generalize s.cleared between = t at cleared ⊢
    have launched : Carries P .clearing t (.opening t.network.length) (t.launched plan) :=
      .episode (.launches plan) fun _ => trivial
    have opened : Carries P (.opening t.network.length) (t.launched plan)
        (.opening t.network.length) (t.answered plan between) := by
      unfold answered openTransport
      generalize t.launched plan = u
      generalize t.network.length = n
      have asked := (Lulls.note u (.opened n u.client.config.address
        u.client.config.connectTimeout)).trans
        (Lulls.update _ n (f := fun c => { c with isOpen := plan.sessionOpen }) fun _ => rfl)
      dsimp only
      refine (Carries.trans (.lulls asked) ?_).trans (hbetween .opening _ _)
      split
      · rw [← deliver_opened (react (performApart 0 true))]
        exact .episode (.hears 0 true n .opened) fun _ => rfl
      · exact .refl _
    exact ((cleared.trans launched).trans opened).trans
      (.episode (.concludes plan _) fun _ => trivial)

/-- **Every step has its traffic**, if it brings about no observer that calls back. -/
theorem carries_idle (depth : Nat) {step : Step} (calm : step.isCalm = true)
    (punctual : P → step.isPunctual = true) (s : Scene) :
    Carries P .idle s .idle (s.performApart depth false step).1 := by
  cases depth with
  | zero => exact .refl s
  | succ depth =>
      simp only [performApart, Bool.false_and, Bool.false_or]
      rw [if_neg (by simp)]
      cases other : step.connects with
      | false => exact carries_other depth _ calm punctual other s
      | true =>
          cases step with
          | connect plan during =>
              have calm := Step.throughout_during calm
              have between := carries_interludes (P := P) depth calm fun given =>
                Step.throughout_during (punctual given)
              have taken := take_cases (performApart depth true) (.connect plan during) s
              generalize (take (performApart depth true) (.connect plan during) s).1 = t at taken ⊢
              rcases taken with rfl | effect
              · exact .refl t
              · cases effect
                exact carries_connect between plan s
          | _ => exact absurd other (by simp [Step.connects])

theorem carries_command (depth : Nat) {command : Command} (calm : command.isCalm = true)
    (punctual : P → command.isPunctual = true) (s : Scene) :
    Carries P .idle s .idle (command.performWith (performApart depth false) s).1 := by
  cases command with
  | step step => exact carries_idle depth calm punctual s
  | dropClient =>
      simp only [Command.performWith, asClient]
      split
      · exact .refl s
      · have left : ∀ t : Scene, Lulls t (Scene.setHandler none { t with gone := true }) := fun t =>
          (Relation.ReflTransGen.single (.gone t)).tail (.setHandler _ none)
        rw [simply]
        rcases dropClient_cases s with dropped | ⟨-, -, dropped⟩
        · rw [dropped]
          exact .trans (.episode .disconnects fun _ => trivial) (.lulls (left s.disconnect))
        · rw [dropped]
          exact .lulls (left s)

end Steps

end Scene

/-! ### Scripts -/

/-- The traffic of a script that is performed from a scene on.  The account starts anew with every
command. -/
inductive Script.Traffic (depth : Nat) : Script → Scene → List Episode → Prop
  | done (s : Scene) : Traffic depth [] s []
  | command {command : Command} {rest : Script} {s : Scene} {history later : List Episode}
      (first : Scene.Traffic .idle { s with account := [] } history .idle
        (command.perform depth { s with account := [] }).1)
      (others : Traffic depth rest (command.perform depth { s with account := [] }).1 later) :
      Traffic depth (command :: rest) s (history ++ later)

namespace Script

/-- The traffic of a script is that of a run from its first scene to its last. -/
theorem Traffic.whole {depth : Nat} {script : Script} {s : Scene} {history : List Episode}
    (h : script.Traffic depth s history) :
    Scene.Traffic .idle s history .idle (script.leads depth s) := by
  induction h with
  | done s => exact .start
  | @command command rest s history later first _ ih =>
      have forgotten : Scene.Traffic .idle s [] .idle { s with account := [] } :=
        .lull .start (.forgotten s)
      exact (forgotten.append first).append ih

/-- **A script without overlapping attempts has its traffic**, if it brings about no observer that
calls back.  If it hands no session over late, nobody does. -/
theorem exists_traffic {depth : Nat} {script : Script} {s : Scene} (apart : script.Apart depth s)
    (calm : script.all Command.isCalm = true) :
    ∃ history, script.Traffic depth s history ∧
      (script.all Command.isPunctual = true → ∀ o ∈ history, o.Punctual) := by
  induction script generalizing s with
  | nil => exact ⟨[], .done s, fun _ o ho => absurd ho (by simp)⟩
  | cons command rest ih =>
      rw [List.all_cons, Bool.and_eq_true] at calm
      obtain ⟨same, others⟩ := apart.cons
      obtain ⟨history, first, punctual⟩ := Scene.carries_command
        (P := command.isPunctual = true) depth calm.1 id { s with account := [] }
      obtain ⟨later, traffic, punctual'⟩ := ih others calm.2
      rw [same] at first
      refine ⟨history ++ later, .command first traffic, fun given o ho => ?_⟩
      rw [List.all_cons, Bool.and_eq_true] at given
      exact (List.mem_append.1 ho).elim (punctual given.1 o) (punctual' given.2 o)

end Script

/-- **Exactly the allowed frames go out**, in a run without overlapping attempts in which observers
do not call back: those that the episodes of the run allow, in their order, where every call of a
handler is an episode, and so is every message that the application asks to send.  If sessions are
handed over only while their transport is being opened, all of them go to the session of the latest
connection, and none goes out between a disconnect while no attempt is under way and the next
attempt. -/
theorem traffic_exact (config : Config) {depth : Nat} {script : Script}
    (apart : script.Apart depth (.start config)) (calm : script.all Command.isCalm = true) :
    (∃ history, script.Traffic depth (.start config) history ∧
      (script.all Command.isPunctual = true → ∀ o ∈ history, o.Punctual)) ∧
    (∀ history, script.Traffic depth (.start config) history →
      (script.leads depth (.start config)).sends.reverse = history.flatMap Episode.frames ∧
      (script.leads depth (.start config)).calls.reverse = history.filterMap Episode.call? ∧
      (script.leads depth (.start config)).requests.reverse =
        history.filterMap Episode.request? ∧
      ((∀ o ∈ history, o.Punctual) →
        (∀ o ∈ history, ∀ frame ∈ o.frames, frame.1 + 1 = o.scene.network.length) ∧
        ∀ before o middle after, history = before ++ o :: (middle ++ after) → o.Parts →
          (∀ e ∈ middle, e.deed ≠ .begins) → middle.flatMap Episode.frames = [])) ∧
    ∀ m : Message, (∃ text, m.encode = .ok text) ↔ ∀ name body, m ≠ .unknown name body := by
  have nobody : (Scene.start config).roster.Calm := fun o ho => absurd ho (by simp [Scene.start])
  have nothing : Scene.Holds .idle (.start config) := fun k hk => absurd hk (by simp [Scene.start])
  refine ⟨Script.exists_traffic apart calm, fun history traffic => ?_, Message.encode_ok_iff⟩
  obtain ⟨sends, calls, requests, -⟩ := traffic.whole.exact nobody
  refine ⟨?_, ?_, ?_, fun punctual => ⟨?_, ?_⟩⟩
  · rw [sends]
    simp [Scene.start]
  · rw [calls]
    simp [Scene.start]
  · rw [requests]
    simp [Scene.start]
  · exact (traffic.whole.latest nobody punctual nothing).2
  · rintro before o middle after rfl parts unbegun
    exact traffic.whole.parted nobody punctual parts unbegun

/-- Two connections are greeted, and one message of the application goes out.  A greeting that comes
late, after the first one was disconnected, is answered with nothing. -/
theorem traffic_exact_late_greeting :
    let config : Config := ⟨"wss://bridge/channel", "a", .ofSeconds 10, .ofSeconds 2⟩
    let greeting :=
      Command.step (.signal none (.message "\x7b\"colibriClass\":\"ServerHello\"\x7d"))
    let script : Script := [.step (.connect {} []), greeting,
      .step (.send (.endpointMessage ⟨none, some "b", []⟩)), .step (.send (.unknown "c" .null)),
      .step .disconnect, greeting, .step .disconnect, .step (.connect {} []), greeting]
    let hello := "\x7b\"colibriClass\":\"ClientHello\"\x7d"
    let declined := "\x7b\"colibriClass\":\"ReceiverVideoConstraints\",\"lastN\":0," ++
      "\"defaultConstraints\":\x7b\x7d\x7d"
    let message := "\x7b\"colibriClass\":\"EndpointMessage\",\"to\":\"b\"\x7d"
    (script.Apart 2 (.start config) ∧ script.all Command.isCalm = true) ∧
      (script.leads 2 (.start config)).sends.reverse =
        [(0, hello), (0, declined), (0, message), (1, hello), (1, declined)] ∧
      ∃ history, script.Traffic 2 (.start config) history ∧ (∀ o ∈ history, o.Punctual) ∧
        (script.leads 2 (.start config)).sends.reverse = history.flatMap Episode.frames ∧
        history.filterMap Episode.request? =
          [.endpointMessage ⟨none, some "b", []⟩, .unknown "c" .null] ∧
        ∀ o ∈ history, ∀ frame ∈ o.frames, frame.1 + 1 = o.scene.network.length := by
  intro config greeting script hello declined message
  have apart : script.course (Scene.performApart 2 false) (.start config) =
      script.course (Scene.perform 2) (.start config) := by cbv
  have calm : script.all Command.isCalm = true := by decide +kernel
  have punctual : script.all Command.isPunctual = true := by decide +kernel
  obtain ⟨⟨history, traffic, timely⟩, exact_, -⟩ := traffic_exact config apart calm
  obtain ⟨sends, -, requests, latest⟩ := exact_ history traffic
  have asked : (script.leads 2 (.start config)).requests.reverse =
      [.endpointMessage ⟨none, some "b", []⟩, .unknown "c" .null] := by cbv
  exact ⟨⟨apart, calm⟩, by decide +kernel, history, traffic, timely punctual, sends,
    requests.symm.trans asked, (latest (timely punctual)).1⟩

end BridgeChannel
