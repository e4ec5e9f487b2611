/-
**A client with one observer and one connection.**

An observer that does nothing when it is called leaves the client to its bridge.  What such an
observer is told of a connection can be read off its stream: nothing up to the greeting of the
bridge, then the greeting and each message with news after it, and last of all the close.

The reader of the connection is at work as soon as the transport has handed its session over, which
may be before the attempt to connect is over.  It makes no difference how much of the stream it has
read by then, unless that was all of it: a close that is reported meanwhile makes the attempt fail.

Main definitions:

* `WebSocket.messages`, `Message.tidings` — the messages in a stream, and what there is to tell of
  them;
* `Signal.tidings` — what there is to tell of signals, one after the other;
* `Scene.news` — what observers were told;
* `Scene.Attached`, `Scene.Brings` — a client with its only observer and its only connection, and
  how it goes on;
* `Scene.visit` — a client that connects, and reads the stream of its connection.

Main results:

* `tidings_whole` — what there is to tell of all signals that a stream leads to;
* `brings_deliver`, `brings_read`, `brings_readAll` — **a signal, an item of the stream and all of
  them are told of, each in the state that it finds**;
* `success_connect_attended` — when the attempt succeeds;
* `news_visit` — **all that is told of a stream that is read to its end**.
-/
import BridgeChannel.Proofs.Client.Connecting
import BridgeChannel.Proofs.Client.Answering
import BridgeChannel.Proofs.WebSocket.Reading

set_option autoImplicit false

namespace BridgeChannel

open WebSocket (CloseStatus Reader StreamItem)

/-! ### What there is to tell -/

/-- Whether a message is the greeting of the bridge. -/
def Message.greets : Message → Bool
  | .serverHello _ => true
  | _ => false

/-- What there is to tell of messages: nothing before the greeting, and all news from then on. -/
def Message.tidings (messages : List Message) : List Event :=
  (messages.dropWhile fun m => !m.greets).filterMap (Message.news .ready)

/-- The messages in texts, as far as these can be read. -/
def Message.decoded (texts : List String) : List Message :=
  texts.filterMap fun text => (Message.decode text).toOption

theorem Message.decoded_cons (text : String) (texts : List String) :
    Message.decoded (text :: texts) =
      (Message.decode text).toOption.toList ++ Message.decoded texts := by
  rw [decoded, List.filterMap_cons, decoded]
  cases Message.decode text <;> rfl

/-- The messages in a stream. -/
def WebSocket.messages (items : List StreamItem) : List Message :=
  Message.decoded ((WebSocket.frames items).filterMap WebSocket.Frame.content?)

/-- A reader whose handler lasts, once it has taken some items, and what it has called the handler
with. -/
def WebSocket.Reader.after (items : List (Option StreamItem)) : Reader × List Signal :=
  Reader.runFrom (fun _ => true) 0 {} items

theorem WebSocket.Reader.after_append (early late : List (Option StreamItem)) :
    (Reader.after (early ++ late)).2 = (Reader.after early).2 ++
      (Reader.runFrom (fun _ => true) early.length (Reader.after early).1 late).2 := by
  rw [after, runFrom_append, Nat.zero_add]
  rfl

namespace Signal

/-- The state after signals. -/
def effects (state : ConnectionState) (signals : List Signal) : ConnectionState :=
  signals.foldl (fun state signal => signal.effect state) state

/-- What there is to tell of signals, one after the other. -/
def tidings (state : ConnectionState) : List Signal → List Event
  | [] => []
  | signal :: rest => (signal.news state).toList ++ tidings (signal.effect state) rest

theorem tidings_append (state : ConnectionState) (before after : List Signal) :
    tidings state (before ++ after) =
      tidings state before ++ tidings (effects state before) after := by
  induction before generalizing state with
  | nil => rfl
  | cons signal rest ih =>
      rw [List.cons_append, tidings, tidings, ih, List.append_assoc]
      rfl

theorem effects_append (state : ConnectionState) (before after : List Signal) :
    effects state (before ++ after) = effects (effects state before) after :=
  List.foldl_append

theorem tidings_singleton (state : ConnectionState) (signal : Signal) :
    tidings state [signal] = (signal.news state).toList := List.append_nil _

/-- Of a text, its message is what there is to tell. -/
theorem news_message (state : ConnectionState) (text : String) :
    (Signal.message text).news state =
      (Message.decode text).toOption.bind (Message.news state) := by
  rw [Signal.news]
  cases Message.decode text <;> rfl

theorem effect_message (state : ConnectionState) (text : String) :
    (Signal.message text).effect state =
      if (Message.decode text).toOption.any Message.greets then .ready else state := by
  rw [Signal.effect, Signal.greets]
  cases Message.decode text with
  | error e => rfl
  | ok m => cases m <;> rfl

/-- It only counts whether the channel is ready. -/
theorem news_congr {state state' : ConnectionState} (same : state = .ready ↔ state' = .ready)
    (signal : Signal) : signal.news state = signal.news state' := by
  cases signal with
  | message text =>
      rw [news_message, news_message]
      congr 1
      funext m
      cases m <;> simp [Message.news, same]
  | _ => rfl

theorem effect_congr {state state' : ConnectionState} (same : state = .ready ↔ state' = .ready)
    (signal : Signal) : signal.effect state = .ready ↔ signal.effect state' = .ready := by
  cases signal with
  | opened =>
      rw [effect, effect, ConnectionState.after_transportOpened_eq_ready,
        ConnectionState.after_transportOpened_eq_ready, same]
  | message text =>
      rw [effect_message, effect_message]
      split
      · exact Iff.rfl
      · exact same
  | closed code reason => exact Iff.rfl
  | failed e => exact same

theorem tidings_congr {state state' : ConnectionState} (same : state = .ready ↔ state' = .ready)
    (signals : List Signal) : tidings state signals = tidings state' signals := by
  induction signals generalizing state state' with
  | nil => rfl
  | cons signal rest ih => rw [tidings, tidings, news_congr same, ih (effect_congr same signal)]

/-- Once the channel is ready, all news in texts is told. -/
theorem tidings_ready (texts : List String) (rest : List Signal) :
    tidings .ready (texts.map .message ++ rest) =
      (Message.decoded texts).filterMap (Message.news .ready) ++ tidings .ready rest := by
  induction texts with
  | nil => rfl
  | cons text texts ih =>
      have stays : (Signal.message text).effect .ready = .ready := by
        rw [effect_message, ite_self]
      rw [List.map_cons, List.cons_append, tidings, stays, ih, news_message, Message.decoded_cons,
        List.filterMap_append, List.append_assoc]
      congr 1
      cases (Message.decode text).toOption with
      | none => rfl
      | some m => cases told : Message.news .ready m <;> simp [told]

/-- Until then, texts are told of from the greeting on.  What comes behind them must not depend on
whether the channel is ready. -/
theorem tidings_unready {state : ConnectionState} (unready : state ≠ .ready) (texts : List String)
    {rest : List Signal} (even : tidings state rest = tidings .ready rest) :
    tidings state (texts.map .message ++ rest) =
      Message.tidings (Message.decoded texts) ++ tidings .ready rest := by
  induction texts with
  | nil => exact even
  | cons text texts ih =>
      rw [List.map_cons, List.cons_append, tidings, news_message, effect_message,
        Message.decoded_cons]
      cases (Message.decode text).toOption with
      | none => exact ih
      | some m =>
          cases greets : m.greets with
          | true =>
              have told : Message.news state m = Message.news .ready m := by
                cases m <;> first | rfl | exact absurd greets (by simp [Message.greets])
              have first : Message.tidings (m :: Message.decoded texts) =
                  (m :: Message.decoded texts).filterMap (Message.news .ready) := by
                rw [Message.tidings, List.dropWhile_cons_of_neg (by simp [greets])]
              rw [Option.any_some, greets, if_pos rfl, tidings_ready, Option.bind_some, told,
                Option.toList_some, List.singleton_append, first, List.filterMap_cons]
              cases Message.news .ready m <;> rfl
          | false =>
              have untold : Message.news state m = none := by
                cases m with
                | serverHello version => exact absurd greets (by simp [Message.greets])
                | _ => simp [Message.news, unready]
              have dropped : Message.tidings (m :: Message.decoded texts) =
                  Message.tidings (Message.decoded texts) := by
                rw [Message.tidings, List.dropWhile_cons_of_pos (by simp [greets]), Message.tidings]
              simpa [greets, untold, dropped] using ih

/-- **What there is to tell of the signals that a stream leads to.** -/
theorem tidings_whole {state : ConnectionState} (unready : state ≠ .ready)
    (items : List StreamItem) :
    tidings state (Reader.after (items.map some ++ [none])).2 =
      Message.tidings (WebSocket.messages items) ++
        [.disconnected (WebSocket.closing items).code (WebSocket.closing items).reason] := by
  have signals : (Reader.after (items.map some ++ [none])).2 =
      (Reader.run (fun _ => true) items).2 := rfl
  rw [signals, Reader.run_lasting, tidings_unready unready]
  · cases WebSocket.error? items <;> rfl
  · cases WebSocket.error? items <;> rfl

/-- Of the signals that a reader calls its handler with, only the close closes the channel, and it
is the last one. -/
theorem effects_advance {state : ConnectionState} {reader : Reader}
    (same : state = .closed ↔ reader.phase = .finished) (item : Option StreamItem) :
    effects state (reader.advance true item).2.toList = .closed ↔
      (reader.advance true item).1.phase = .finished := by
  cases phase : reader.phase with
  | finished =>
      rw [Reader.advance_finished phase]
      exact same
  | ending =>
      rw [Reader.advance_finish (.inl phase)]
      exact ⟨fun _ => rfl, fun _ => rfl⟩
  | reading =>
      have unclosed : state ≠ .closed := fun closed => by simp [same.1 closed] at phase
      cases item with
      | none =>
          rw [Reader.advance_finish (.inr ⟨phase, rfl⟩)]
          exact ⟨fun _ => rfl, fun _ => rfl⟩
      | some item =>
          cases item with
          | error e =>
              rw [Reader.advance_error phase]
              exact ⟨fun closed => absurd closed unclosed, fun finished => by simp at finished⟩
          | ok frame =>
              rw [Reader.advance_frame phase]
              refine ⟨fun closed => absurd closed ?_, fun finished => by simp [phase] at finished⟩
              cases frame.content? with
              | none => exact unclosed
              | some text =>
                  have effect := effect_message state text
                  change (Signal.message text).effect state ≠ .closed
                  rw [effect]
                  split
                  · simp
                  · exact unclosed

theorem effects_runFrom {state : ConnectionState} {reader : Reader}
    (same : state = .closed ↔ reader.phase = .finished) (look : Nat)
    (items : List (Option StreamItem)) :
    effects state (Reader.runFrom (fun _ => true) look reader items).2 = .closed ↔
      (Reader.runFrom (fun _ => true) look reader items).1.phase = .finished := by
  induction items generalizing state reader look with
  | nil => exact same
  | cons item rest ih =>
      rw [Reader.runFrom_cons, effects_append]
      exact ih (effects_advance same item) (look + 1)

theorem effects_after {state : ConnectionState} (unclosed : state ≠ .closed)
    (items : List (Option StreamItem)) :
    effects state (Reader.after items).2 = .closed ↔ (Reader.after items).1.phase = .finished :=
  effects_runFrom ⟨fun closed => absurd closed unclosed, fun finished => by simp at finished⟩ 0
    items

end Signal

/-! ### A client with one observer and one connection -/

/-- The event that an observer was told. -/
def Occurrence.event? : Occurrence → Option Event
  | .told _ event => some event
  | _ => none

theorem Occurrence.event?_of_untold {o : Occurrence} (untold : o.tells = false) :
    o.event? = none := by
  cases o with
  | told name event => exact absurd untold (by simp [tells])
  | _ => rfl

namespace Roster

/-- The roster of an observer that nobody else ever joined. -/
def sole (o : Observer) : Roster Observer :=
  { everyone := [o], owned := [(o.name, 0)], registered := [0] }

theorem prune_sole (o : Observer) : (sole o).prune = sole o := rfl

end Roster

namespace Scene

/-- What observers were told, in order. -/
def news (s : Scene) : List Event := s.account.reverse.filterMap Occurrence.event?

theorem news_congr {s t : Scene} (account : t.account = s.account) : t.news = s.news := by
  rw [news, news, account]

theorem news_note (o : Occurrence) (s : Scene) :
    (s.note o).news = s.news ++ o.event?.toList := by
  have account : (s.note o).account = o :: s.account := rfl
  rw [news, account, List.reverse_cons, List.filterMap_append, news]
  cases told : o.event? <;> simp [told]

@[simp] theorem news_log (line : LogLine) (s : Scene) : (s.log line).news = s.news :=
  (news_note _ s).trans (List.append_nil _)

@[simp] theorem news_move (t : Transition) (s : Scene) : (s.move t).news = s.news :=
  news_congr rfl

@[simp] theorem news_called (n : Nat) (signal : Signal) (s : Scene) :
    (s.called n signal).news = s.news := news_congr rfl

@[simp] theorem news_setSession (n : Option Nat) (s : Scene) :
    (s.setSession n).news = s.news := news_congr rfl

@[simp] theorem news_setTransport (n : Option Nat) (s : Scene) :
    (s.setTransport n).news = s.news := news_congr rfl

@[simp] theorem news_update (n : Nat) (f : Connection → Connection) (s : Scene) :
    (s.update n f).news = s.news := news_congr rfl

@[simp] theorem news_sendFrame (m : Message) (s : Scene) : (s.sendFrame m).news = s.news := by
  unfold sendFrame
  split
  · exact news_log _ s
  · split
    · exact news_log _ s
    next n _ _ frame _ =>
      have out : ((s.log (.sending frame)).submitted n frame).news = s.news :=
        (news_congr rfl).trans (news_log _ s)
      dsimp only
      split
      · exact (news_log _ _).trans out
      · rw [news_note, out]
        exact List.append_nil _

@[simp] theorem news_sendMessage (m : Message) (s : Scene) : (s.sendMessage m).news = s.news := by
  unfold sendMessage
  split
  · exact news_sendFrame m s
  · exact news_log _ s

/-- An observer without reactions is told a piece of news, and that is all. -/
theorem tell_sole {act : Performance} {o : Observer} {s : Scene} (calm : o.reactions = [])
    (sole : s.roster = .sole o) (event : Event) :
    s.tell (react act) event = s.note (.told o.name event) := by
  obtain ⟨client, gone, network, roster, account, calls, sends⟩ := s
  obtain rfl : roster = .sole o := sole
  have called (s : Scene) (everyone : s.roster.everyone = [o]) :
      react act 0 event s = s.note (.told o.name event) := by
    simp [react, everyone, calm, labelled]
  unfold tell notify
  dsimp only [HasRoster.modify, HasRoster.roster, HasRoster.withRoster]
  rw [Roster.prune_sole]
  refine (callEach_cons _ 0 [] _).trans ?_
  -- letting go of the observer takes the roster back to what it was
  rw [called _ rfl]
  rfl

/-- The client has one observer, which never reacts, and one connection, whose handler it owns; it
has not closed the session of the connection. -/
structure Attached (plan : Attempt) (reader : Reader) (s : Scene) : Prop where
  here : s.gone = false
  sole : ∃ o : Observer, o.reactions = [] ∧ s.roster = .sole o
  handler : s.client.handler = some 0
  link : ∃ isOpen held running, s.network =
    [{ conduct := plan, generation := s.client.generation, isOpen, held, running, reader }]
  unclosed : ∀ o ∈ s.account, o.closes 0 = false

namespace Attached

variable {plan : Attempt} {reader : Reader} {s : Scene} (h : s.Attached plan reader)

include h

theorem note {o : Occurrence} (unclosed : o.closes 0 = false) :
    (s.note o).Attached plan reader :=
  { h with
    unclosed := by
      intro o' ho'
      rcases List.mem_cons.1 ho' with rfl | earlier
      · exact unclosed
      · exact h.unclosed o' earlier }

theorem log (line : LogLine) : (s.log line).Attached plan reader := h.note rfl

theorem called (n : Nat) (signal : Signal) : (s.called n signal).Attached plan reader := { h with }

theorem submitted (n : Nat) (frame : String) : (s.submitted n frame).Attached plan reader :=
  { h with }

theorem move (t : Transition) : (s.move t).Attached plan reader := { h with }

theorem setSession (n : Option Nat) : (s.setSession n).Attached plan reader := { h with }

theorem setTransport (n : Option Nat) : (s.setTransport n).Attached plan reader := { h with }

/-- The connection changes, but not what it is to the client. -/
theorem update {f : Connection → Connection} {reader' : Reader}
    (keeps : ∀ isOpen held running, ∃ isOpen' held' running',
      f { conduct := plan, generation := s.client.generation, isOpen, held, running, reader } =
        { conduct := plan, generation := s.client.generation, isOpen := isOpen', held := held',
          running := running', reader := reader' }) :
    (s.update 0 f).Attached plan reader' where
  here := h.here
  sole := h.sole
  handler := h.handler
  link := by
    obtain ⟨isOpen, held, running, network⟩ := h.link
    obtain ⟨isOpen', held', running', changed⟩ := keeps isOpen held running
    refine ⟨isOpen', held', running', ?_⟩
    have whole : (s.update 0 f).network = s.network.modify 0 f := rfl
    rw [whole, network]
    exact congrArg (fun c => [c]) changed
  unclosed := h.unclosed

theorem sendFrame (m : Message) : (s.sendFrame m).Attached plan reader := by
  unfold Scene.sendFrame
  split
  · exact h.log _
  · split
    · exact h.log _
    next n _ _ frame _ =>
      have out := (h.log (.sending frame)).submitted n frame
      dsimp only
      split
      · exact out.log _
      · exact out.note rfl

theorem sendMessage (m : Message) : (s.sendMessage m).Attached plan reader := by
  unfold Scene.sendMessage
  split
  · exact h.sendFrame m
  · exact h.log _

theorem known : ∃ c, s.network[0]? = some c ∧ c.conduct = plan ∧ c.reader = reader ∧
    c.generation = s.client.generation ∧ c.released = false := by
  obtain ⟨isOpen, held, running, network⟩ := h.link
  exact ⟨_, by rw [network]; rfl, rfl, rfl, rfl, rfl⟩

theorem alive : s.isAlive 0 = true := by
  rw [isAlive, h.handler]
  rfl

theorem listens : s.listensTo 0 = true := by
  obtain ⟨c, known, -, -, generation, -⟩ := h.known
  rw [listensTo, h.here, known, Option.map_some, generation]
  simp

theorem tell_eq (act : Performance) (event : Event) :
    ∃ name, s.tell (react act) event = s.note (.told name event) := by
  obtain ⟨o, calm, sole⟩ := h.sole
  exact ⟨o.name, tell_sole calm sole event⟩

end Attached

/-- The client comes from one scene to another: it tells some news on the way, and is in the given
state then. -/
structure Brings (plan : Attempt) (reader : Reader) (events : List Event) (state : ConnectionState)
    (s t : Scene) : Prop where
  attached : t.Attached plan reader
  news : t.news = s.news ++ events
  state : t.client.state = state

namespace Brings

variable {plan : Attempt} {reader reader' : Reader} {events events' : List Event}
  {state state' : ConnectionState} {s t u : Scene}

/-- Nothing was told. -/
theorem quiet (attached : t.Attached plan reader) (news : t.news = s.news)
    (state : t.client.state = s.client.state) :
    Brings plan reader [] s.client.state s t :=
  ⟨attached, by rw [news, List.append_nil], state⟩

theorem trans (h : Brings plan reader events state s t)
    (h' : Brings plan reader' events' state' t u) :
    Brings plan reader' (events ++ events') state' s u :=
  ⟨h'.attached, by rw [h'.news, h.news, List.append_assoc], h'.state⟩

end Brings

section Signals

variable {plan : Attempt} {reader : Reader} (act : Performance) {s : Scene}

theorem brings_tell (h : s.Attached plan reader) (event : Event) :
    Brings plan reader [event] s.client.state s (s.tell (react act) event) := by
  obtain ⟨name, told⟩ := h.tell_eq act event
  rw [told]
  exact ⟨h.note rfl, news_note _ _, rfl⟩

theorem brings_greet (h : s.Attached plan reader) :
    Brings plan reader [.connected] .ready s (s.greet (react act)) := by
  have ready : Brings plan reader [] .ready s
      ((((s.log .greeted).sendFrame .clientHello).move .handshakeCompleted).log .nowReady) :=
    ⟨(((h.log _).sendFrame _).move _).log _, by simp, rfl⟩
  have told := brings_tell act ready.attached .connected
  have declined : Brings plan reader [] _ _ (s.greet (react act)) :=
    .quiet (((told.attached).sendMessage .noVideo).log .videoDeclined)
      ((news_log _ _).trans (news_sendMessage _ _)) (congrArg Client.state (client_sendMessage _ _))
  have whole := (ready.trans told).trans declined
  rw [told.state] at whole
  exact whole

theorem brings_pass (h : s.Attached plan reader) (c : MessageClass) (line : LogLine)
    (event : Event) :
    Brings plan reader (if s.client.state = .ready then some event else none).toList
      s.client.state s (s.pass (react act) c line event) := by
  unfold pass
  by_cases ready : s.client.state = .ready
  · rw [if_pos ready, if_pos ((ConnectionState.isReady_iff _).2 ready)]
    exact (Brings.quiet (h.log line) (news_log _ _) rfl).trans (brings_tell act (h.log line) event)
  · rw [if_neg ready, if_neg (mt (ConnectionState.isReady_iff _).1 ready)]
    exact .quiet (h.log _) (news_log _ _) rfl

/-- A message of the bridge is told of if there is news in it. -/
theorem brings_dispatch (h : s.Attached plan reader) (m : Message) :
    Brings plan reader (m.news s.client.state).toList
      (if m.greets then .ready else s.client.state) s (s.dispatch (react act) m) := by
  cases m with
  | serverHello version => exact brings_greet act h
  | endpointMessage e => exact brings_pass act h _ _ _
  | dominantSpeaker endpoint previous => exact brings_pass act h _ _ _
  | connectivity endpoint active => exact brings_pass act h _ _ _
  | senderVideoConstraints constraints => exact .quiet h rfl rfl
  | _ => exact .quiet (h.log _) (news_log _ _) rfl

/-- **A signal of the only connection is told of, and moves the state.** -/
theorem brings_deliver (h : s.Attached plan reader) (signal : Signal) :
    Brings plan reader (signal.news s.client.state).toList (signal.effect s.client.state) s
      (s.deliver (react act) 0 signal) := by
  rw [deliver_of_listens h.listens]
  have called : Brings plan reader [] s.client.state s (s.called 0 signal) :=
    .quiet (h.called 0 signal) (news_called _ _ _) rfl
  have heard := called.attached
  cases signal with
  | opened =>
      exact ⟨((heard.log .opened).setSession _).move .transportOpened,
        by simp [obey, accept, Signal.news], rfl⟩
  | failed e => exact called.trans (.quiet (heard.log _) (news_log _ _) rfl)
  | closed code reason =>
      have closed : Brings plan reader [] .closed s
          (((s.called 0 (.closed code reason)).log (.closed code reason)).move .closed) :=
        ⟨(heard.log _).move _, by simp, rfl⟩
      exact closed.trans (brings_tell act closed.attached _)
  | message text =>
      rw [Signal.news_message, Signal.effect_message]
      have received := called.trans (.quiet (heard.log (.received text)) (news_log _ _) rfl)
      simp only [obey, receive]
      cases Message.decode text with
      | ok m => exact received.trans (brings_dispatch act received.attached m)
      | error e =>
          cases e <;> exact received.trans (.quiet (received.attached.log _) (news_log _ _) rfl)

/-- While a handler is called, its connection is kept. -/
theorem brings_engaged (h : s.Attached plan reader) (signal : Signal) :
    Brings plan reader (signal.news s.client.state).toList (signal.effect s.client.state) s
      (s.engaged 0 (deliver (react act) 0 signal)) := by
  have entered : Brings plan reader [] s.client.state s
      (s.update 0 fun c => { c with running := c.running + 1 }) :=
    .quiet (h.update fun _ _ _ => ⟨_, _, _, rfl⟩) (news_update _ _ _) rfl
  have heard := entered.trans (brings_deliver act entered.attached signal)
  refine ⟨heard.attached.update (f := fun c => { c with running := c.running - 1 })
    fun _ _ _ => ⟨_, _, _, rfl⟩, ?_, heard.state⟩
  exact (news_update _ _ _).trans heard.news

/-- **What an item of the stream makes the reader call the handler with is told of.** -/
theorem brings_read (h : s.Attached plan reader) (opens : plan.connectError = none)
    (item : Option StreamItem) :
    Brings plan (reader.advance true item).1
      (Signal.tidings s.client.state (reader.advance true item).2.toList)
      (Signal.effects s.client.state (reader.advance true item).2.toList) s
      (s.read (react act) 0 item) := by
  obtain ⟨c, known, conduct, same, -⟩ := h.known
  rw [read_eq known (conduct ▸ opens), h.alive, same]
  have advanced : Brings plan (reader.advance true item).1 [] s.client.state s
      (s.advanced 0 (reader.advance true item).1) :=
    .quiet (h.update fun _ _ _ => ⟨_, _, _, rfl⟩) (news_update _ _ _) rfl
  cases (reader.advance true item).2 with
  | none => exact advanced
  | some signal =>
      rw [Option.toList_some, Signal.tidings_singleton]
      exact advanced.trans (brings_engaged act advanced.attached signal)

/-- Items are read one after the other. -/
def readAll (act : Performance) (items : List (Option StreamItem)) (s : Scene) : Scene :=
  items.foldl (fun s item => s.read (react act) 0 item) s

/-- **The same for all items together.** -/
theorem brings_readAll (h : s.Attached plan reader) (opens : plan.connectError = none)
    (look : Nat) (items : List (Option StreamItem)) :
    Brings plan (Reader.runFrom (fun _ => true) look reader items).1
      (Signal.tidings s.client.state (Reader.runFrom (fun _ => true) look reader items).2)
      (Signal.effects s.client.state (Reader.runFrom (fun _ => true) look reader items).2) s
      (s.readAll act items) := by
  induction items generalizing s reader look with
  | nil => exact .quiet h rfl rfl
  | cons item rest ih =>
      have first := brings_read act h opens item
      have others := ih first.attached (look + 1)
      rw [first.state] at others
      rw [Reader.runFrom_cons, Signal.tidings_append, Signal.effects_append]
      exact first.trans others

end Signals

/-! ### The attempt to connect -/

/-- Some items of the stream are read while the transport is being opened. -/
def meanwhile (act : Performance) (early : List (Option StreamItem)) : Interludes :=
  fun m s => if m = .opening then s.readAll act early else s

theorem meanwhile_nil (act : Performance) : meanwhile act [] = quietly := by
  funext m s
  exact ite_self s

section Opening

variable {plan : Attempt} {reader : Reader} {s : Scene}

/-- The transport may hand the session over, which is no news. -/
theorem brings_announce (h : s.Attached plan {}) (connecting : s.client.state = .connecting) :
    ∃ pending, pending ≠ .ready ∧ pending ≠ .closed ∧
      Brings plan {} [] pending s (if plan.announced then s.announce 0 else s) := by
  cases plan.announced with
  | true =>
      have handed := brings_deliver (perform 0) h .opened
      rw [deliver_opened, connecting] at handed
      exact ⟨_, by decide, by decide, handed⟩
  | false =>
      have same : Brings plan {} [] s.client.state s s := .quiet h rfl rfl
      rw [connecting] at same
      exact ⟨_, by decide, by decide, same⟩

/-- Until the transport answers, the first items of the stream are read. -/
theorem brings_openTransport (act : Performance) (early : List (Option StreamItem))
    (h : s.Attached plan {}) (opens : plan.connectError = none)
    (connecting : s.client.state = .connecting) :
    ∃ pending, pending ≠ .ready ∧ pending ≠ .closed ∧
      Brings plan (Reader.after early).1
        (Signal.tidings pending (Reader.after early).2)
        (Signal.effects pending (Reader.after early).2) s
        (s.openTransport plan (meanwhile act early) 0) := by
  have asked : Brings plan {} [] s.client.state s
      ((s.note (.opened 0 s.client.config.address s.client.config.connectTimeout)).update 0
        fun c => { c with isOpen := plan.sessionOpen }) :=
    .quiet ((h.note rfl).update fun _ _ _ => ⟨_, _, _, rfl⟩)
      ((news_update _ _ _).trans ((news_note _ s).trans (List.append_nil _))) rfl
  obtain ⟨pending, unready, unclosed, handed⟩ :=
    brings_announce asked.attached (asked.state.trans connecting)
  have read := brings_readAll act handed.attached opens 0 early
  rw [handed.state] at read
  exact ⟨pending, unready, unclosed, (asked.trans handed).trans read⟩

/-- An attempt that is settled succeeds unless the close was reported already. -/
theorem success_settle_of_attached (h : s.Attached plan reader) :
    (s.settle 0).2 = true ↔ s.client.state ≠ .closed := by
  obtain ⟨c, known, -, -, -, released⟩ := h.known
  have unreleased : s.isReleased 0 = false := by
    rw [isReleased, known, Option.map_some, released]
    rfl
  rw [success_settle, and_iff_right unreleased]

/-- Settling an attempt is no news. -/
theorem brings_settle (h : s.Attached plan reader) (success : (s.settle 0).2 = true) :
    Brings plan reader [] (s.client.state.after .transportOpened) s
      ((s.settle 0).1.update 0 fun c => { c with running := c.running - 1 }) := by
  rw [settle_of_success success]
  have filled := (((h.setSession (some 0)).setTransport (some 0)).move .transportOpened).log
    .connected
  exact ⟨filled.update fun _ _ _ => ⟨_, _, _, rfl⟩, by simp [Scene.filled], rfl⟩

end Opening

/-- Nobody was told anything. -/
structure Mute (s t : Scene) : Prop where
  news : t.news = s.news
  network : s.network.length ≤ t.network.length

theorem Mute.of_same {s t : Scene} (account : t.account = s.account)
    (network : s.network.length ≤ t.network.length) : Mute s t := ⟨news_congr account, network⟩

theorem Mute.note {o : Occurrence} (untold : o.event? = none) (s : Scene) : Mute s (s.note o) :=
  ⟨by rw [news_note, untold, Option.toList_none, List.append_nil], Nat.le_refl _⟩

/-- An attempt to connect is no news. -/
theorem phased_mute : Phased Mute where
  refl _ := ⟨rfl, Nat.le_refl _⟩
  trans h h' := ⟨h'.news.trans h.news, Nat.le_trans h.network h'.network⟩
  longer h := h.network
  note untold _ s := .note (Occurrence.event?_of_untold untold) s
  close _ := .note rfl _
  update _ _ _ _ := .of_same rfl (by simp [Scene.update])
  move _ _ := .of_same rfl (Nat.le_refl _)
  setSession _ _ := .of_same rfl (Nat.le_refl _)
  leaveTransport _ := .of_same rfl (Nat.le_refl _)
  leaveHandler _ := .of_same rfl (Nat.le_refl _)
  launched plan s := ⟨news_note (.created s.network.length) s |>.trans (List.append_nil _), by simp⟩
  takeTransport h _ _ := ⟨h.news, h.network⟩
  announce n s := by
    have called : Mute s (s.called n .opened) := .of_same rfl (Nat.le_refl _)
    unfold Scene.announce
    dsimp only
    split
    · exact called
    · split
      · exact called
      · split
        · exact ⟨by simp [accept], Nat.le_refl _⟩
        · exact ⟨by simp, Nat.le_refl _⟩

section Connecting

variable (act : Performance) (config : Config) (o : Observer) (plan : Attempt)
  (early : List (Option StreamItem))

/-- A client that nothing has happened to but that it has got an observer. -/
def attended : Scene := (Scene.start config).welcome o

/-- It connects, and its stream is read: some items while the attempt is under way, the others once
it has succeeded. -/
def visit (late : List (Option StreamItem)) : Scene × Bool :=
  let (s, success) := (attended config o).connect plan (meanwhile act early)
  (if success then s.readAll act late else s, success)

/-- The scene in which the transport is asked to open. -/
def opening : Scene := ((attended config o).cleared (meanwhile act early)).launched plan

theorem account_opening :
    (opening act config o plan early).account =
      [.created 0, .log (.connecting config.address)] := rfl

theorem attached_opening (calm : o.reactions = []) :
    (opening act config o plan early).Attached plan {} where
  here := rfl
  sole := ⟨o, calm, rfl⟩
  handler := rfl
  link := ⟨_, _, _, rfl⟩
  unclosed o' ho' := by
    rw [account_opening] at ho'
    rcases List.mem_pair.1 ho' with rfl | rfl <;> rfl

/-- An attempt comes to its end where the transport answers. -/
theorem connect_attended (address : config.hasAddress = true) (created : plan.createError = none) :
    (attended config o).connect plan (meanwhile act early) =
      ((opening act config o plan early).openTransport plan (meanwhile act early) 0).concluded
        plan 0 :=
  connect_eq_of_created _ address rfl created

/-- **The attempt succeeds if there is an address, the transport opens, and the close is not
reported meanwhile.** -/
theorem success_connect_attended (calm : o.reactions = []) :
    ((attended config o).connect plan (meanwhile act early)).2 = true ↔
      config.hasAddress = true ∧ plan.createError = none ∧ plan.connectError = none ∧
        (Reader.after early).1.phase ≠ .finished := by
  cases address : config.hasAddress with
  | false => simp [connect, attended, welcome, Scene.start, address]
  | true =>
      cases created : plan.createError with
      | some e =>
          have failed := connect_eq_of_createError (s := attended config o) (meanwhile act early)
            address rfl created
          simp [failed]
      | none =>
          rw [connect_attended act config o plan early address created, concluded]
          cases opens : plan.connectError with
          | some e => simp
          | none =>
              obtain ⟨pending, -, unclosed, read⟩ := brings_openTransport act early
                (attached_opening act config o plan early calm) opens rfl
              have closed := Signal.effects_after unclosed early
              simp [success_settle_of_attached read.attached, read.state, closed]

/-- **It goes on from what has been read of the stream.** -/
theorem connected_attended (calm : o.reactions = [])
    (success : ((attended config o).connect plan (meanwhile act early)).2 = true) :
    ∃ pending, pending ≠ .ready ∧ ∃ state,
      (state = .ready ↔
        Signal.effects pending (Reader.after early).2 = .ready) ∧
      Brings plan (Reader.after early).1
        (Signal.tidings pending (Reader.after early).2) state
        (opening act config o plan early)
        ((attended config o).connect plan (meanwhile act early)).1 := by
  obtain ⟨address, created, opens, -⟩ :=
    (success_connect_attended act config o plan early calm).1 success
  obtain ⟨pending, unready, -, read⟩ := brings_openTransport act early
    (attached_opening act config o plan early calm) opens rfl
  rw [connect_attended act config o plan early address created, concluded, opens] at success ⊢
  have settled := brings_settle read.attached success
  have whole := read.trans settled
  rw [List.append_nil] at whole
  refine ⟨pending, unready, _, ?_, whole⟩
  rw [ConnectionState.after_transportOpened_eq_ready, read.state]

theorem visit_eq (late : List (Option StreamItem)) :
    visit act config o plan early late =
      (if ((attended config o).connect plan (meanwhile act early)).2 then
          ((attended config o).connect plan (meanwhile act early)).1.readAll act late
        else ((attended config o).connect plan (meanwhile act early)).1,
        ((attended config o).connect plan (meanwhile act early)).2) := rfl

/-- **Once it has read the whole stream, all is told.** -/
theorem news_visit (calm : o.reactions = []) {items : List StreamItem}
    {late : List (Option StreamItem)} (whole : early ++ late = items.map some ++ [none])
    (success : (visit act config o plan early late).2 = true) :
    (visit act config o plan early late).1.news =
      Message.tidings (WebSocket.messages items) ++
        [.disconnected (WebSocket.closing items).code (WebSocket.closing items).reason] := by
  rw [visit_eq] at success ⊢
  obtain ⟨-, -, opens, -⟩ := (success_connect_attended act config o plan early calm).1 success
  obtain ⟨pending, unready, state, same, before⟩ :=
    connected_attended act config o plan early calm success
  have after := brings_readAll act before.attached opens early.length late
  -- the end of the attempt moves the state, but does not make the channel ready
  rw [before.state, Signal.tidings_congr same] at after
  have fresh : (opening act config o plan early).news = [] := rfl
  rw [if_pos success, after.news, before.news, fresh, List.nil_append, ← Signal.tidings_append,
    ← Reader.after_append, whole, Signal.tidings_whole unready]

end Connecting

end Scene

end BridgeChannel
