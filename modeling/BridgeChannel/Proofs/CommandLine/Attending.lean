/-
**The program, from its attempt to connect to its last line.**

The program has one observer, which prints a line for every piece of news and does nothing else.  It
prints nothing up to the greeting of the bridge, then a line for the greeting and for each message
with news after it, and last of all how the channel closed.  It fails exactly if it cannot connect.

This holds of the program on every network.  It holds as well of a program whose reader is at work
before the attempt to connect is over, wherever the end of the attempt falls in the stream.

Main definitions:

* `Bridge.stream` — the stream that the turns of a bridge make;
* `CommandLine.noticeOf?` — the line for a message;
* `CommandLine.resultOf` — exit code and lines, given whether the client connected, and the account;
* `CommandLine.Attends` — what a run has to come to, given the stream.

Main results:

* `converse_eq_readAll` — the turns of a bridge are heard as its stream;
* `hold_eq_visit` — the dialogue of the program is a visit whose stream is read after the attempt;
* `attend_tells_stream` — **what the program prints and how it exits**.
-/
import BridgeChannel.CommandLine.Run
import BridgeChannel.Proofs.Client.Following

set_option autoImplicit false

namespace BridgeChannel

open WebSocket (CloseStatus Reader StreamItem)

/-! ### Runs of the program -/

/-- The stream that the turns of a bridge make.  The other side never closes, so that a bridge that
waits for it to close goes away in the end. -/
def Bridge.stream : List Bridge.Turn → List StreamItem
  | [] | .drop :: _ | .awaitClose :: _ => [.error .resetWithoutClosing]
  | .text content :: rest => .ok (.text content) :: stream rest
  | .binary data :: rest => .ok (.binary data) :: stream rest
  | .ping data :: rest => .ok (.ping data) :: stream rest
  | .pong data :: rest => .ok (.pong data) :: stream rest
  | .fragments parts :: rest => .ok (.text (String.join parts)) :: stream rest
  | .badText :: _ => [.error .invalidText]
  | .expect _ :: rest => stream rest
  | .close status :: _ => [.ok (.close status)]

/-- The stream of a server that accepts the connection. -/
def Bridge.Server.stream : Bridge.Server → List StreamItem
  | .accepting turns => Bridge.stream turns
  | _ => []

namespace Dialogue

section Attached

variable {plan : Attempt} {reader : Reader} {s : Scene} (depth : Nat)

theorem hear_asPartner (h : s.Attached plan reader) (item : Option StreamItem) :
    (asPartner (depth + 1) 0).hear item s = s.read (Scene.react (Scene.perform depth)) 0 item := by
  obtain ⟨isOpen, held, running, network⟩ := h.link
  have meant : s.meant? (some 0) = some 0 := by simp [Scene.meant?, network]
  have stream : (s.perform (depth + 1) (.stream (some 0) item)).1 =
      s.read (Scene.react (Scene.perform depth)) 0 item := by
    simp only [Scene.perform, Scene.take, Scene.atConnection, meant]
    rfl
  exact stream

/-- No close frame goes out. -/
theorem close_not_mem_sent (h : s.Attached plan reader) :
    WebSocket.Outgoing.close ∉ (asPartner depth 0).sent s := by
  intro sent
  obtain ⟨o, there, out⟩ := List.mem_filterMap.1 sent
  have unclosed := h.unclosed o (List.mem_reverse.1 there)
  cases o with
  | closed n =>
      have other : n ≠ 0 := by simpa [Occurrence.closes] using unclosed
      simp [Occurrence.outgoing?, other] at out
  | _ => simp [Occurrence.outgoing?] at out

theorem hearLast_asPartner (h : s.Attached plan reader) (opens : plan.connectError = none)
    (item : StreamItem) :
    (asPartner (depth + 1) 0).hearLast item s =
      s.readAll (Scene.perform depth) ([item].map some ++ [none]) := by
  have taken := Scene.brings_read (Scene.perform depth) h opens (some item)
  rw [Bridge.Partner.hearLast, hear_asPartner depth h, hear_asPartner depth taken.attached]
  rfl

/-- **The turns of a bridge are heard as its stream.** -/
theorem converse_eq_readAll (h : s.Attached plan reader) (opens : plan.connectError = none)
    (turns : List Bridge.Turn) (n : Nat) :
    (Bridge.converse (asPartner (depth + 1) 0) turns n s).1 =
      s.readAll (Scene.perform depth) ((Bridge.stream turns).map some ++ [none]) := by
  induction turns generalizing n s reader with
  | nil => exact hearLast_asPartner depth h opens _
  | cons turn turns ih =>
      have last := hearLast_asPartner depth h opens
      have first (item : StreamItem) :
          (Bridge.converse (asPartner (depth + 1) 0) turns n
            ((asPartner (depth + 1) 0).hear (some item) s)).1 =
          s.readAll (Scene.perform depth) ((item :: Bridge.stream turns).map some ++ [none]) := by
        rw [hear_asPartner depth h]
        exact ih (Scene.brings_read (Scene.perform depth) h opens (some item)).attached n
      cases turn with
      | text content => exact first _
      | binary data => exact first _
      | ping data => exact first _
      | pong data => exact first _
      | fragments parts => exact first _
      | expect count => exact ih h _
      | badText => exact last _
      | close status => exact last _
      | drop => exact last _
      | awaitClose =>
          have unsent : WebSocket.Outgoing.close ∉ ((asPartner (depth + 1) 0).sent s).drop n :=
            fun sent => close_not_mem_sent (depth + 1) h (List.mem_of_mem_drop sent)
          rw [Bridge.converse, if_neg unsent]
          exact last _

end Attached

/-- The observer of the program, which never reacts to anything. -/
def printer (times : Nat) : Observer := { name := "", remaining := times }

/-- How the program fares: it attempts to connect, and the bridge does its turns if it has. -/
theorem hold_eq (config : Config) (network : Bridge.Network) :
    ∃ times,
      let server := network config.address
      let c := (Scene.attended config (printer times)).connect
        (server.attempt config.connectTimeout) Scene.quietly
      (hold config network "" []).success = c.2 ∧
        (hold config network "" []).account = (if c.2 then
          (Bridge.converse (asPartner 2 0)
            ((server.answer config.connectTimeout).toOption.getD []) 0 c.1).1
          else c.1).account.reverse := by
  refine ⟨(((network config.address).answer config.connectTimeout).toOption.getD []).length + 2, ?_⟩
  have cost (times : Nat) : (Step.observe "" [] times).cost + 1 = 2 := by
    simp [Step.cost, Step.costReactions]
  have start (times : Nat) : (Scene.perform 2 (.observe "" [] times) (Scene.start config)).1 =
      Scene.attended config (printer times) := rfl
  unfold hold
  dsimp only
  rw [cost, start]
  obtain ⟨s, success⟩ := (Scene.attended config (printer _)).connect
    ((network config.address).attempt config.connectTimeout) Scene.quietly
  cases success <;> exact ⟨rfl, rfl⟩

/-- A client that does not connect tells nothing. -/
theorem untold_of_failure {config : Config} {network : Bridge.Network}
    (failure : (hold config network "" []).success = false) :
    (hold config network "" []).account.filterMap Occurrence.event? = [] := by
  obtain ⟨times, success, account⟩ := hold_eq config network
  rw [account, ← success, failure, if_neg (by simp)]
  exact (Scene.phased_mute.connect Scene.phased_mute.quietly _ _).news

/-- A server that lets the program connect accepts the connection. -/
theorem accepting_of_connectError {server : Bridge.Server} {limit : Duration}
    (opens : (server.attempt limit).connectError = none) : ∃ turns, server = .accepting turns := by
  cases server with
  | accepting turns => exact ⟨turns, rfl⟩
  | _ => exact absurd opens (by simp [Bridge.Server.attempt, Bridge.Server.answer])

/-- **The dialogue of the program is the reading of the whole stream.** -/
theorem hold_eq_visit (config : Config) (network : Bridge.Network) :
    ∃ times,
      let server := network config.address
      let v := Scene.visit (Scene.perform 1) config (printer times)
        (server.attempt config.connectTimeout) [] (server.stream.map some ++ [none])
      (hold config network "" []).success = v.2 ∧
        (hold config network "" []).account = v.1.account.reverse := by
  obtain ⟨times, success, account⟩ := hold_eq config network
  refine ⟨times, ?_⟩
  dsimp only
  rw [Scene.visit_eq, Scene.meanwhile_nil]
  refine ⟨success, account.trans ?_⟩
  split
  next connected =>
    rw [← Scene.meanwhile_nil (Scene.perform 1)] at connected ⊢
    obtain ⟨-, -, opens, -⟩ :=
      (Scene.success_connect_attended _ config (printer times) _ [] rfl).1 connected
    obtain ⟨_, -, _, -, before⟩ :=
      Scene.connected_attended _ config (printer times) _ [] rfl connected
    obtain ⟨turns, accepting⟩ := accepting_of_connectError opens
    rw [converse_eq_readAll 1 before.attached opens, accepting]
    rfl
  · rfl

end Dialogue

namespace CommandLine

/-- The line for a message of the bridge, once the channel is ready. -/
def noticeOf? : Message → Option String
  | .serverHello _ => some "Channel ready"
  | .endpointMessage e =>
    some ("Endpoint message from " ++ e.sender.getD "<bridge>" ++ ": " ++ (Json.obj e.payload).text)
  | .dominantSpeaker endpoint _ => some ("Dominant speaker: " ++ endpoint)
  | .connectivity endpoint active =>
    some ("Endpoint " ++ endpoint ++ " active: " ++ toString active)
  | .clientHello | .senderVideoConstraints _ | .receiverVideoConstraints _ _ | .unknown _ _ => none

/-- What a run comes to, but for what the bridge reads, given whether it connected and what happened
in it: the observer prints a line for all news, and the last line is printed if it connected. -/
def resultOf (connected : Bool) (account : List Occurrence) : Result :=
  let news := account.filterMap Occurrence.event?
  if connected then
    let (before, status) := untilClosed news
    { exitCode := 0, lines := before.filterMap lineOf? ++ (status.map closingLine).toList }
  else { exitCode := 1, lines := news.filterMap lineOf? }

/-- What a run has to come to whose connection has the given stream. -/
structure Attends (connected : Bool) (account : List Occurrence) (items : List StreamItem)
    (result : Result) : Prop where
  /-- The program fails exactly if it has not connected. -/
  fails_iff : result.exitCode = 1 ↔ connected = false
  /-- Otherwise it succeeds. -/
  succeeds : connected = true → result.exitCode = 0
  /-- The observer is told the news in the messages from the greeting on, and then of one close. -/
  told : connected = true → account.filterMap Occurrence.event? =
    Message.tidings (WebSocket.messages items) ++
      [.disconnected (WebSocket.closing items).code (WebSocket.closing items).reason]
  /-- There is a line for each of these messages, and one for the close. -/
  lines : connected = true → result.lines =
    ((WebSocket.messages items).dropWhile fun m => !m.greets).filterMap noticeOf? ++
      [closingLine (WebSocket.closing items)]

theorem noticeOf?_eq (m : Message) : noticeOf? m = (m.news .ready).bind lineOf? := by
  cases m <;> rfl

theorem filterMap_lineOf?_tidings (messages : List Message) :
    (Message.tidings messages).filterMap lineOf? =
      (messages.dropWhile fun m => !m.greets).filterMap noticeOf? := by
  rw [Message.tidings, List.filterMap_filterMap]
  exact List.filterMap_congr fun m _ => (noticeOf?_eq m).symm

/-- Messages never say that the channel closed. -/
theorem untilClosed_tidings (messages : List Message) (status : CloseStatus) :
    untilClosed (Message.tidings messages ++ [.disconnected status.code status.reason]) =
      (Message.tidings messages, some status) := by
  have lasting (event : Event) (there : event ∈ Message.tidings messages) :
      event.kind ≠ .disconnected := by
    obtain ⟨m, -, told⟩ := List.mem_filterMap.1 there
    cases m <;> simp [Message.news] at told <;> subst told <;> simp [Event.kind]
  generalize Message.tidings messages = events at lasting ⊢
  induction events with
  | nil => rfl
  | cons event events ih =>
      have rest := ih fun e there => lasting e (List.mem_cons_of_mem _ there)
      have first := lasting event List.mem_cons_self
      cases event with
      | disconnected code reason => exact absurd rfl first
      | _ => simp [untilClosed, rest]

/-- It is enough that all is told. -/
theorem attends_resultOf {connected : Bool} {account : List Occurrence} {items : List StreamItem}
    (told : connected = true → account.filterMap Occurrence.event? =
      Message.tidings (WebSocket.messages items) ++
        [.disconnected (WebSocket.closing items).code (WebSocket.closing items).reason]) :
    Attends connected account items (resultOf connected account) where
  fails_iff := by cases connected <;> simp [resultOf]
  succeeds success := by simp [resultOf, success]
  told := told
  lines success := by
    rw [resultOf, if_pos success, told success, untilClosed_tidings]
    exact congrArg (· ++ _) (filterMap_lineOf?_tidings _)

/-- What the bridge reads makes no difference. -/
theorem attend_eq (config : Config) (network : Bridge.Network) :
    let dialogue := Dialogue.hold config network "" []
    let result := resultOf dialogue.success dialogue.account
    (attend config network).exitCode = result.exitCode ∧
      (attend config network).lines = result.lines := by
  dsimp only
  rw [attend, resultOf]
  dsimp only
  split
  · exact ⟨rfl, rfl⟩
  next failure =>
    rw [Dialogue.untold_of_failure (Bool.eq_false_iff.2 failure)]
    exact ⟨rfl, rfl⟩

/-! ### The whole -/

/-- A visit whose stream is read to its end. -/
theorem attends_visit (act : Scene.Performance) (config : Config) {o : Observer}
    (calm : o.reactions = []) (plan : Attempt) {items : List StreamItem}
    {early late : List (Option StreamItem)} (whole : early ++ late = items.map some ++ [none]) :
    let v := Scene.visit act config o plan early late
    Attends v.2 v.1.account.reverse items (resultOf v.2 v.1.account.reverse) :=
  attends_resultOf (Scene.news_visit act config o plan early calm whole)

/-- The program, for every network. -/
theorem attends_attend (config : Config) (network : Bridge.Network) :
    let dialogue := Dialogue.hold config network "" []
    Attends dialogue.success dialogue.account (network config.address).stream
      (attend config network) := by
  obtain ⟨times, success, account⟩ := Dialogue.hold_eq_visit config network
  obtain ⟨exitCode, lines⟩ := attend_eq config network
  have whole : [] ++ ((network config.address).stream.map some ++ [none]) =
      (network config.address).stream.map some ++ [none] := rfl
  have visited := attends_visit (Scene.perform 1) config (o := Dialogue.printer times) rfl
    ((network config.address).attempt config.connectTimeout) whole
  dsimp only
  rw [success, account] at exitCode lines ⊢
  exact ⟨exitCode ▸ visited.fails_iff, exitCode ▸ visited.succeeds, visited.told,
    lines ▸ visited.lines⟩

/-- The program connects if there is an address at which a server accepts the connection. -/
theorem success_hold_printer (config : Config) (network : Bridge.Network) :
    (Dialogue.hold config network "" []).success = true ↔
      config.hasAddress = true ∧ ∃ turns, network config.address = .accepting turns := by
  obtain ⟨times, success, -⟩ := Dialogue.hold_eq_visit config network
  rw [success, Scene.visit_eq, Scene.success_connect_attended _ _ _ _ _ rfl]
  constructor
  · rintro ⟨address, -, opens, -⟩
    exact ⟨address, Dialogue.accepting_of_connectError opens⟩
  · rintro ⟨address, turns, accepting⟩
    rw [accepting]
    exact ⟨address, rfl, rfl, by decide⟩

/-- **What the program prints and how it exits.**  On any network, it connects exactly if there is
an address at which a server accepts the connection, whatever the server sends then.  It fails
exactly if it does not connect.  Otherwise it succeeds, and prints

* nothing for the messages up to the first greeting of the bridge,
* from then on one line for each greeting, message of an endpoint, change of the speaker and change
  of a connectivity, in order, and none for other messages and for what cannot be read,
* last of all the status of the one close: the one that the close frame gives, 1005 if that gives
  none, and 1006 if there was no close frame.

This does not change if the first items of the stream, which may be any, are read while the attempt
to connect is still under way, whatever else the transport makes of the attempt.  Only if the close
is among what is reported by then, the attempt fails. -/
theorem attend_tells_stream (config : Config) (network : Bridge.Network) (plan : Attempt)
    (items : List StreamItem) (early late : List (Option StreamItem))
    (whole : early ++ late = items.map some ++ [none]) :
    let dialogue := Dialogue.hold config network "" []
    let v := Scene.visit (Scene.perform 1) config (Dialogue.printer 0) plan early late
    ((dialogue.success = true ↔
        config.hasAddress = true ∧ ∃ turns, network config.address = .accepting turns) ∧
      Attends dialogue.success dialogue.account (network config.address).stream
        (attend config network)) ∧
    ((v.2 = true ↔
        config.hasAddress = true ∧ plan.createError = none ∧ plan.connectError = none ∧
          (Reader.after early).1.phase ≠ .finished) ∧
      Attends v.2 v.1.account.reverse items (resultOf v.2 v.1.account.reverse)) := by
  refine ⟨⟨success_hold_printer config network, attends_attend config network⟩, ?_,
    attends_visit (Scene.perform 1) config rfl plan whole⟩
  exact Scene.success_connect_attended _ config _ plan early rfl

/-- The bridge tells of a speaker before it greets and after that, and closes without a status.  In
the second run, it closes once it has greeted; the greeting is read while the program connects. -/
theorem attend_tells_stream_untimely :
    let config : Config := ⟨"wss://bridge/channel", "a", .ofSeconds 10, .ofSeconds 2⟩
    let hello := "\x7b\"colibriClass\":\"ServerHello\"\x7d"
    let speaker := "\x7b\"colibriClass\":\"DominantSpeakerEndpointChangeEvent\"," ++
      "\"dominantSpeakerEndpoint\":\"b\"\x7d"
    let network := Bridge.only config.address (.accepting
      [.text speaker, .text hello, .binary [0], .text "?", .text speaker, .close none])
    let items : List StreamItem := [.ok (.text hello), .ok (.close (some ⟨1000, "bye"⟩))]
    let early : List (Option StreamItem) := [some (.ok (.text hello))]
    let late : List (Option StreamItem) := [some (.ok (.close (some ⟨1000, "bye"⟩))), none]
    let dialogue := Dialogue.hold config network "" []
    let v := Scene.visit (Scene.perform 1) config (Dialogue.printer 0) {} early late
    early ++ late = items.map some ++ [none] ∧
      (Attends dialogue.success dialogue.account (network config.address).stream
          (attend config network) ∧
        dialogue.success = true ∧ (attend config network).lines =
          ["Channel ready", "Dominant speaker: b", "Channel closed (1005 - ), exiting"]) ∧
      Attends v.2 v.1.account.reverse items (resultOf v.2 v.1.account.reverse) ∧
        v.2 = true ∧ (resultOf v.2 v.1.account.reverse).lines =
          ["Channel ready", "Channel closed (1000 - bye), exiting"] := by
  intro config hello speaker network items early late dialogue v
  have whole : early ++ late = items.map some ++ [none] := rfl
  obtain ⟨⟨connects, attends⟩, visits, visited⟩ :=
    attend_tells_stream config network {} items early late whole
  have address : config.hasAddress = true := by decide +kernel
  refine ⟨whole, ⟨attends, connects.2 ⟨address, _, rfl⟩, ?_⟩, visited,
    visits.2 ⟨address, rfl, rfl, by decide +kernel⟩, ?_⟩
  · decide +kernel
  · decide +kernel

end CommandLine

end BridgeChannel
