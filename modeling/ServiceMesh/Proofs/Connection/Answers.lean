import ServiceMesh.Proofs.Connection.Flooding
import ServiceMesh.Proofs.Connection.Trace

/-!
# Every call of a client gets its own answer

A client may be told anything by its peer: frames of any kind, with any id and in any order.  Its
calls have odd stream ids, each its own.  A reply is the answer that the first arrival of its call
gives; a response stream shows the script of the arrivals of its call; and nothing that is not in the
trace of a call makes a difference to it.

Frames of other ids can keep the frames of a call out of its trace in one way only: as grants of more
credits than a producer can hold, which bring the reader down for all calls
(`floodedChannel_silences`).
-/

namespace ServiceMesh

theorem ReplyPart.outlook_opening (connection : Connection) (streamId : UInt64)
    (isHanded : Bool) (arrivals : List Arrival) :
    (ReplyPart.opening streamId isHanded).outlook connection arrivals =
      if isHanded then (arrivals.head?.map connection.answer).toList else [] := by
  cases isHanded <;> rfl

theorem ReplyPart.shows_eq (connection : Connection) (part : ReplyPart) :
    part.shows connection .asked = (part.outlook connection []).head? := by
  rcases part with ⟨⟨streamId, result, isFinished⟩, isFed⟩
  cases isFinished <;> cases result <;> cases isFed <;> rfl

namespace Connection

/-! ## What a call is answered -/

/-- The stream ids that were handed out are odd and distinct, and each reply and each inbound stream
has one of its own. -/
structure IdsApart (history : List Step) (finish : Connection) : Prop where
  odd : ∀ streamId ∈ issued history, streamId.toNat % 2 = 1
  distinct : (issued history).Nodup
  receivers : ∀ streamId ∈ finish.receiverIds, streamId ∈ issued history
  apart : finish.receiverIds.Nodup

/-- The caller of a reply gets the answer of the first arrival, and gets it once. -/
structure ReplyAnswered (start finish : Connection) (history : List Step) (number : Nat) :
    Prop where
  once : resolved number history <+:
    ((arrivals (replyEvents number history)).head?.map start.answer).toList
  next : handedReply number history = true → .left ∉ replyEvents number history →
    (finish.pollReply number).1 =
      if resolved number history = [] then
        (arrivals (replyEvents number history)).head?.map start.answer
      else none

/-- The consumer of an inbound stream sees the script of the arrivals, and then the end if the call
has ended. -/
structure StreamAnswered (start finish : Connection) (history : List Step) (number : Nat) :
    Prop where
  inOrder : seen number history <+: start.script (arrivals (streamEvents number history))
  next : handed number history = true → .left ∉ streamEvents number history →
    (finish.pullInbound number).1 =
      (start.script (arrivals (streamEvents number history)))[(seen number history).length]?.getD
        (if (arrivals (streamEvents number history)).any start.endsWith then .ended else .pending)

/-- What the callers and the consumers of a stream id see in one run, they see in another one. -/
structure SameAnswers (streamId : UInt64) (first second : Connection)
    (firstHistory secondHistory : List Step) : Prop where
  replies : ∀ (number : Nat) reply, first.replies[number]? = some reply →
    reply.streamId = streamId →
      ∃ other, second.replies[number]? = some other ∧ other.streamId = streamId ∧
        resolved number firstHistory = resolved number secondHistory ∧
        (first.pollReply number).1 = (second.pollReply number).1
  streams : ∀ (number : Nat) stream, first.inbound[number]? = some stream →
    stream.streamId = streamId →
      ∃ other, second.inbound[number]? = some other ∧ other.streamId = streamId ∧
        seen number firstHistory = seen number secondHistory ∧
        (first.pullInbound number).1 = (second.pullInbound number).1

/-! ## One run -/

section

variable {start : Connection} {actions : List Action} {number : Nat}

theorem replyPart_of_present {connection : Connection} {reply : PendingReply}
    (present : connection.replies[number]? = some reply) :
    ∃ part, connection.replyPart number = some part ∧ part.reply = reply := by
  rw [replyPart, present]
  exact ⟨_, rfl, rfl⟩

theorem StreamLaw.answered {history : List Step} {part : StreamPart} {finish : Connection}
    (law : StreamLaw start number history part)
    (present : finish.streamPart number = some part) :
    StreamAnswered start finish history number := by
  constructor
  · have within := StreamPart.shown_prefix_outlook start
      (streamEvents number history) (streamOpening number history part.stream)
    rw [← law.seen, streamOpening, StreamPart.outlook_opening] at within
    refine within.trans ?_
    split
    · exact List.prefix_rfl
    · exact List.nil_prefix
  · intro isHanded stays
    have whole := StreamPart.shown_append_outlook start stays
      (streamOpening number history part.stream) []
    rw [← law.seen, ← law.state, List.append_nil, streamOpening, isHanded,
      StreamPart.outlook_opening, if_pos rfl] at whole
    have fed := StreamPart.isFed_run start stays
      (streamOpening number history part.stream)
    rw [← law.state, streamOpening, isHanded] at fed
    rw [pullInbound_signal present, StreamPart.signal_eq start law.sound, ← whole,
      List.getElem?_append_right (Nat.le_refl _), Nat.sub_self, ← List.head?_eq_getElem?, fed]
    cases (arrivals (streamEvents number history)).any start.endsWith <;> rfl

theorem ReplyLaw.answered {history : List Step} {part : ReplyPart} {finish : Connection}
    (law : ReplyLaw start number history part) (grown : Extends start finish)
    (present : finish.replyPart number = some part) :
    ReplyAnswered start finish history number := by
  have sound := ReplyPart.sound_opening part.reply.streamId (handedReply number history)
  constructor
  · have within := ReplyPart.shown_prefix_outlook start
      (replyEvents number history) sound
    rw [← replyOpening, ← law.resolved, replyOpening, ReplyPart.outlook_opening] at within
    refine within.trans ?_
    split
    · exact List.prefix_rfl
    · exact List.nil_prefix
  · intro isHanded stays
    have whole := ReplyPart.shown_append_outlook start stays sound []
    rw [← replyOpening, ← law.resolved, ← law.state, List.append_nil, replyOpening, isHanded,
      ReplyPart.outlook_opening, if_pos rfl] at whole
    rw [pollReply_shows present, ReplyPart.shows_extends grown, ReplyPart.shows_eq]
    cases found : (arrivals (replyEvents number history)).head?.map start.answer with
    | none =>
        rw [found, Option.toList_none, List.append_eq_nil_iff] at whole
        rw [if_pos whole.1, whole.2, List.head?_nil]
    | some answer =>
        rw [found, Option.toList_some] at whole
        rcases List.append_eq_cons_iff.mp whole with ⟨none_, outlook⟩ | ⟨rest, some_, outlook⟩
        · rw [if_pos none_, outlook, List.head?_cons]
        · rcases List.append_eq_nil_iff.mp outlook.symm with ⟨_, nothing⟩
          rw [some_, if_neg (List.cons_ne_nil _ _), nothing, List.head?_nil]

end

/-! ## Two runs -/

section

variable {start : Connection} {first second : List Action} {streamId : UInt64}

theorem outline_of_same_trace (wired : Wired start) (calls : start.role = .client)
    (same : trace streamId (start.history first) = trace streamId (start.history second)) :
    (start.after first).outline = (start.after second).outline := by
  rw [← (along_trace wired calls streamId first).1, ← (along_trace wired calls streamId second).1,
    same]

theorem stream_of_same_trace (wired : Wired start) (calls : start.role = .client)
    (same : trace streamId (start.history first) = trace streamId (start.history second))
    {number : Nat} {stream : InboundStream}
    (present : (start.after first).inbound[number]? = some stream) :
    ∃ other, (start.after second).inbound[number]? = some other ∧
      other.streamId = stream.streamId ∧ other.isRequester = stream.isRequester := by
  have names := congrArg (fun outline => outline.streams[number]?)
    (outline_of_same_trace wired calls same)
  simp only [outline, List.getElem?_map, present, Option.map_some] at names
  rcases Option.map_eq_some_iff.mp names.symm with ⟨other, atOther, named⟩
  rw [Prod.mk.injEq] at named
  exact ⟨other, atOther, named⟩

theorem reply_of_same_trace (wired : Wired start) (calls : start.role = .client)
    (same : trace streamId (start.history first) = trace streamId (start.history second))
    {number : Nat} {reply : PendingReply}
    (present : (start.after first).replies[number]? = some reply) :
    ∃ other, (start.after second).replies[number]? = some other ∧
      other.streamId = reply.streamId := by
  have names := congrArg (fun outline => outline.replies[number]?)
    (outline_of_same_trace wired calls same)
  simp only [outline, List.getElem?_map, present, Option.map_some] at names
  exact Option.map_eq_some_iff.mp names.symm

theorem streamLaw_of_same_trace (wired : Wired start) (calls : start.role = .client)
    (same : trace streamId (start.history first) = trace streamId (start.history second))
    {number : Nat} {firstPart secondPart : StreamPart}
    (firstPresent : (start.after first).streamPart number = some firstPart)
    (secondPresent : (start.after second).streamPart number = some secondPart)
    (firstId : firstPart.stream.streamId = streamId)
    (secondId : secondPart.stream.streamId = streamId)
    (side : firstPart.stream.isRequester = secondPart.stream.isRequester)
    (firstLaw : StreamLaw start number (start.history first) firstPart)
    (secondLaw : StreamLaw start number (start.history second) secondPart) :
    seen number (start.history first) = seen number (start.history second) ∧
      firstPart = secondPart := by
  have atFirst := (streamPart_eq_some.mp firstPresent).1
  have atSecond := (streamPart_eq_some.mp secondPresent).1
  have events : streamEvents number (start.history first) =
      streamEvents number (start.history second) := by
    rw [streamEvents_eq_traced wired calls streamId
        (fun stream present => by
          rw [atFirst, Option.some.injEq] at present
          rw [← present, firstId]),
      streamEvents_eq_traced wired calls streamId
        (fun stream present => by
          rw [atSecond, Option.some.injEq] at present
          rw [← present, secondId]),
      same]
  have opening : streamOpening number (start.history first) firstPart.stream =
      streamOpening number (start.history second) secondPart.stream := by
    rw [streamOpening, streamOpening, handed_eq_traced wired calls first number streamId,
      handed_eq_traced wired calls second number streamId, same, firstId, secondId, side]
  constructor
  · rw [firstLaw.seen, secondLaw.seen, events, opening]
  · rw [firstLaw.state, secondLaw.state, events, opening]

theorem replyLaw_of_same_trace (wired : Wired start) (calls : start.role = .client)
    (same : trace streamId (start.history first) = trace streamId (start.history second))
    {number : Nat} {firstPart secondPart : ReplyPart}
    (firstPresent : (start.after first).replyPart number = some firstPart)
    (secondPresent : (start.after second).replyPart number = some secondPart)
    (firstId : firstPart.reply.streamId = streamId)
    (secondId : secondPart.reply.streamId = streamId)
    (firstLaw : ReplyLaw start number (start.history first) firstPart)
    (secondLaw : ReplyLaw start number (start.history second) secondPart) :
    resolved number (start.history first) = resolved number (start.history second) ∧
      firstPart = secondPart := by
  have atFirst := (replyPart_eq_some.mp firstPresent).1
  have atSecond := (replyPart_eq_some.mp secondPresent).1
  have events : replyEvents number (start.history first) =
      replyEvents number (start.history second) := by
    rw [replyEvents_eq_traced wired calls streamId
        (fun reply present => by
          rw [atFirst, Option.some.injEq] at present
          rw [← present, firstId]),
      replyEvents_eq_traced wired calls streamId
        (fun reply present => by
          rw [atSecond, Option.some.injEq] at present
          rw [← present, secondId]),
      same]
  have opening : replyOpening number (start.history first) firstPart.reply =
      replyOpening number (start.history second) secondPart.reply := by
    rw [replyOpening, replyOpening, handedReply_eq_traced wired calls first number streamId,
      handedReply_eq_traced wired calls second number streamId, same, firstId, secondId]
  constructor
  · rw [firstLaw.resolved, secondLaw.resolved, events, opening]
  · rw [firstLaw.state, secondLaw.state, events, opening]

end

/-! ## The runs of a client -/

section

variable {peer : String} {codec : MessageCodec} {config : Config} {actions : List Action}

theorem client_streamLaw (few : calls actions < 2 ^ 63) {number : Nat} {part : StreamPart}
    (present : ((spawn .client peer codec config).after actions).streamPart number =
      some part) :
    StreamLaw (spawn .client peer codec config) number
      ((spawn .client peer codec config).history actions) part := by
  have claims := claims_after .client peer codec config actions
  have once := nodup_claimed_of_calls peer codec config few
  exact (streamLaw_after (wired_spawn .client peer codec config) rfl actions number).2 part
    present (claims.soleStream once (streamPart_eq_some.mp present).1)

theorem client_replyLaw (few : calls actions < 2 ^ 63) {number : Nat} {part : ReplyPart}
    (present : ((spawn .client peer codec config).after actions).replyPart number =
      some part) :
    ReplyLaw (spawn .client peer codec config) number
      ((spawn .client peer codec config).history actions) part := by
  have claims := claims_after .client peer codec config actions
  have once := nodup_claimed_of_calls peer codec config few
  exact (replyLaw_after (wired_spawn .client peer codec config) rfl actions number).2 part
    present (claims.soleReply once (replyPart_eq_some.mp present).1)

theorem idsApart_client (few : calls actions < 2 ^ 63) :
    IdsApart ((spawn .client peer codec config).history actions)
      ((spawn .client peer codec config).after actions) := by
  have claims := claims_after .client peer codec config actions
  have once := nodup_claimed_of_calls peer codec config few
  rcases issued_after .client peer codec config actions with ⟨count, within, ids, _⟩
  constructor
  · intro streamId member
    rw [ids, oddIds, List.mem_map] at member
    rcases member with ⟨index, inRange, rfl⟩
    rw [List.mem_range] at inRange
    rw [toNat_oddId (by omega)]
    omega
  · rw [← claimed_client]
    exact once
  · rw [← claimed_client]
    exact claims.receivers
  · exact (claims.apart once).1

theorem sameAnswers_client {others : List Action} {streamId : UInt64}
    (few : calls actions < 2 ^ 63) (fewOthers : calls others < 2 ^ 63)
    (same : trace streamId ((spawn .client peer codec config).history actions) =
      trace streamId ((spawn .client peer codec config).history others)) :
    SameAnswers streamId ((spawn .client peer codec config).after actions)
      ((spawn .client peer codec config).after others)
      ((spawn .client peer codec config).history actions)
      ((spawn .client peer codec config).history others) := by
  have wired := wired_spawn .client peer codec config
  constructor
  · intro number reply present named
    rcases reply_of_same_trace wired rfl same present with ⟨other, atOther, carries⟩
    rcases replyPart_of_present present with ⟨firstPart, firstPresent, rfl⟩
    rcases replyPart_of_present atOther with ⟨secondPart, secondPresent, rfl⟩
    rcases replyLaw_of_same_trace wired rfl same firstPresent
      secondPresent named (carries.trans named) (client_replyLaw few firstPresent)
      (client_replyLaw fewOthers secondPresent) with ⟨resolves, parts⟩
    refine ⟨_, atOther, carries.trans named, resolves, ?_⟩
    rw [pollReply_shows firstPresent, pollReply_shows secondPresent, parts,
      ReplyPart.shows_extends (extends_after wired actions),
      ReplyPart.shows_extends (extends_after wired others)]
  · intro number stream present named
    rcases stream_of_same_trace wired rfl same present with ⟨other, atOther, carries, side⟩
    have firstPresent := streamPart_of_present present
    have secondPresent := streamPart_of_present atOther
    rcases streamLaw_of_same_trace wired rfl same firstPresent
      secondPresent named (carries.trans named) side.symm (client_streamLaw few firstPresent)
      (client_streamLaw fewOthers secondPresent) with ⟨sees, parts⟩
    refine ⟨_, atOther, carries.trans named, sees, ?_⟩
    rw [pullInbound_signal firstPresent, pullInbound_signal secondPresent, parts]

/--
Whatever a client is told, its calls have distinct odd stream ids; each reply
is the answer of the first arrival for its id and comes once; each response
stream shows the script of the arrivals for its id; and a run with the same
trace of a stream id shows the call the same.  So does a run in which the same
arrives for the id, if in neither run a producer gets more credits than it can
hold.
-/
theorem client_calls_get_their_own_answers (peer : String) (codec : MessageCodec)
    (config : Config) (actions : List Action) (few : calls actions < 2 ^ 63) :
    IdsApart ((spawn .client peer codec config).history actions)
        ((spawn .client peer codec config).after actions) ∧
      (∀ (number : Nat) reply,
        ((spawn .client peer codec config).after actions).replies[number]? = some reply →
          ReplyAnswered (spawn .client peer codec config)
            ((spawn .client peer codec config).after actions)
            ((spawn .client peer codec config).history actions) number) ∧
      (∀ (number : Nat) stream,
        ((spawn .client peer codec config).after actions).inbound[number]? = some stream →
          StreamAnswered (spawn .client peer codec config)
            ((spawn .client peer codec config).after actions)
            ((spawn .client peer codec config).history actions) number) ∧
      (∀ (others : List Action) (streamId : UInt64), calls others < 2 ^ 63 →
        trace streamId ((spawn .client peer codec config).history actions) =
            trace streamId ((spawn .client peer codec config).history others) →
          SameAnswers streamId ((spawn .client peer codec config).after actions)
            ((spawn .client peer codec config).after others)
            ((spawn .client peer codec config).history actions)
            ((spawn .client peer codec config).history others)) ∧
      ∀ (others : List Action) (streamId : UInt64), calls others < 2 ^ 63 →
        arriving streamId actions = arriving streamId others →
          ¬ Flooded (spawn .client peer codec config) actions →
            ¬ Flooded (spawn .client peer codec config) others →
              SameAnswers streamId ((spawn .client peer codec config).after actions)
                ((spawn .client peer codec config).after others)
                ((spawn .client peer codec config).history actions)
                ((spawn .client peer codec config).history others) := by
  refine ⟨idsApart_client few, ?_, ?_, fun others streamId => sameAnswers_client few, ?_⟩
  · intro number reply present
    rcases replyPart_of_present present with ⟨part, atNumber, _⟩
    exact (client_replyLaw few atNumber).answered
      (extends_after (wired_spawn .client peer codec config) actions) atNumber
  · intro number stream present
    have atNumber := streamPart_of_present present
    exact (client_streamLaw few atNumber).answered atNumber
  · intro others streamId fewOthers same calm also
    exact sameAnswers_client few fewOthers
      (trace_eq_of_arriving (wired_spawn .client peer codec config) calm also same)

end

/-- A call that fails at the peer, after an error that no call is waiting for. -/
def failedCall : List Action :=
  [.requestResponse (Message.blank.withQualifier "Greeting/hello"),
    .receive (.error 3 503 "gone"), .receive (.error 1 404 "unknown"), .pollReply 0]

theorem failedCall_answered :
    calls failedCall < 2 ^ 63 ∧
      resolved 0 ((spawn .client "peer" (.ofRegistry .withJson) .standard).history failedCall) =
        [.error (.remote 404 "unknown")] ∧
      ReplyAnswered (spawn .client "peer" (.ofRegistry .withJson) .standard)
        ((spawn .client "peer" (.ofRegistry .withJson) .standard).after failedCall)
        ((spawn .client "peer" (.ofRegistry .withJson) .standard).history failedCall) 0 := by
  have few : calls failedCall < 2 ^ 63 := by decide
  have present : 0 < ((spawn .client "peer" (.ofRegistry .withJson) .standard).after
      failedCall).replies.length := by
    decide +kernel
  refine ⟨few, rfl, ?_⟩
  exact (client_calls_get_their_own_answers _ _ _ _ few).2.1 0 _
    (List.getElem?_eq_getElem present)

/-- A channel, and a call beside it. -/
def twoCalls : List Action :=
  [.requestChannel (some (.ok (Message.blank.withQualifier "Greeting/chat"))),
    .requestResponse (Message.blank.withQualifier "Greeting/hello")]

/-- The call beside the channel fails at the peer. -/
def failure : List Action := [.receive (.error 3 404 "unknown")]

theorem calls_append (first second : List Action) :
    calls (first ++ second) = calls first + calls second :=
  List.countP_append

/-- A flood opens no call. -/
theorem calls_flood (streamId : UInt64) (count : UInt32) (times : Nat) :
    calls (flood streamId count times) = 0 := by
  rw [calls, flood, List.countP_replicate]
  exact if_neg (by simp [Action.opensCall])

/-- A flood does not concern other stream ids. -/
theorem arriving_flood {streamId other : UInt64} (apart : streamId ≠ other) (count : UInt32)
    (times : Nat) : arriving other (flood streamId count times) = [] := by
  rw [arriving, List.filter_eq_nil_iff]
  intro action member
  rw [List.eq_of_mem_replicate member, Action.concerns, Frame.streamId, decide_eq_true_eq]
  exact apart

/-- Frames of another stream id do make a difference to a call: for this one the same arrives in both
runs, but in the second one the channel was granted more credits than its producer can hold before. -/
theorem floodedChannel_silences :
    calls (twoCalls ++ failure) < 2 ^ 63 ∧
      calls (twoCalls ++ flood 1 0xFFFFFFFF (2 ^ 29 + 1) ++ failure) < 2 ^ 63 ∧
      arriving 3 (twoCalls ++ failure) =
        arriving 3 (twoCalls ++ flood 1 0xFFFFFFFF (2 ^ 29 + 1) ++ failure) ∧
      (((spawn .client "peer" (.ofRegistry .withJson) .standard).after
        (twoCalls ++ failure)).pollReply 0).1 = some (.error (.remote 404 "unknown")) ∧
      (((spawn .client "peer" (.ofRegistry .withJson) .standard).after
        (twoCalls ++ flood 1 0xFFFFFFFF (2 ^ 29 + 1) ++ failure)).pollReply 0).1 = none := by
  have reading : ((spawn .client "peer" (.ofRegistry .withJson) .standard).after
      twoCalls).reads = true := by
    decide +kernel
  have listed : ((spawn .client "peer" (.ofRegistry .withJson) .standard).after
      twoCalls).outbound.find? 1 = some 0 := by
    decide +kernel
  have present : ((spawn .client "peer" (.ofRegistry .withJson) .standard).after
      twoCalls).replies[0]? = some ⟨3, none, false⟩ := by
    rfl
  have fed : ((spawn .client "peer" (.ofRegistry .withJson) .standard).after
      twoCalls).sinks.find? 3 = some (.reply 0) := by
    decide +kernel
  rcases flooded_after .client "peer" (.ofRegistry .withJson) .standard reading listed with
    ⟨more, -, stopped⟩
  refine ⟨by decide, ?_, ?_, rfl, ?_⟩
  · rw [calls_append, calls_append, calls_flood]
    decide
  · rw [arriving, arriving, List.filter_append, List.filter_append, List.filter_append, ← arriving,
      ← arriving, ← arriving, arriving_flood (by decide), List.append_nil]
  · rw [after_append, after_append, stopped, failure, after_cons, after_nil, perform_stopped rfl]
    simp [pollReply, supply, updateProducer, present, fed]

end Connection

end ServiceMesh
