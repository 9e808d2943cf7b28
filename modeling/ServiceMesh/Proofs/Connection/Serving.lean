import ServiceMesh.Connection.Serve
import ServiceMesh.Proofs.Connection.Exchange
import ServiceMesh.Proofs.Connection.Supply

/-!
# How a server answers

The frames that a server sends for a request follow the grammar of its mode (`Answer`): none, or one
response or one error, or messages and then one frame that ends them.  A run may stop anywhere, so
what was sent is a first part of such an answer.

Other calls may use the connection at the same time.  Only the id of this one must be its own, so the
run of its producer is followed from the request on (`producerPart_run`), through actions of which
none claims the id.

The main statement is `requests_are_answered`.
-/

namespace ServiceMesh.Connection

/-- The frames of a call that go to the receiver of its messages. -/
def contentOf (streamId : UInt64) (history : List Step) : List Frame :=
  (sent history).filter (Frame.isContent streamId)

theorem contentOf_cons (streamId : UInt64) (step : Step) (history : List Step) :
    contentOf streamId (step :: history) =
      (step.before.sends step.action).filter (Frame.isContent streamId) ++
        contentOf streamId history := by
  simp [contentOf, sent]

theorem contentOf_append (streamId : UInt64) (first second : List Step) :
    contentOf streamId (first ++ second) =
      contentOf streamId first ++ contentOf streamId second := by
  simp [contentOf, sent]

theorem claimed_cons (step : Step) (history : List Step) :
    claimed (step :: history) = step.claimed.toList ++ claimed history := by
  cases claims : step.claimed <;> simp [claimed, claims]

theorem claimed_append (first second : List Step) :
    claimed (first ++ second) = claimed first ++ claimed second := by
  simp [claimed]

theorem given_cons (number : Nat) (step : Step) (history : List Step) :
    given number (step :: history) = (step.given number).toList ++ given number history := by
  rw [given, List.filterMap_cons]
  cases step.given number <;> rfl

theorem producerEvents_cons (number : Nat) (step : Step) (history : List Step) :
    producerEvents number (step :: history) =
      (step.before.producerEvent number step.action).toList ++ producerEvents number history := by
  cases event : step.before.producerEvent number step.action <;> simp [producerEvents, event]

/-! ## A producer from some moment on -/

section

variable {connection : Connection} {number : Nat} {streamId : UInt64}

theorem soleProducer_iff :
    SoleProducer connection number streamId ↔
      ∀ other, connection.producerIds[other]? = some streamId → other = number := by
  simp only [SoleProducer, producerIds, List.getElem?_map, Option.map_eq_some_iff]
  constructor
  · rintro sole other ⟨producer, present, carries⟩
    exact sole other producer present carries
  · intro sole other producer present carries
    exact sole other ⟨producer, present, carries⟩

/-- A producer stays alone with its id as long as the id is not claimed. -/
theorem SoleProducer.perform (wired : Wired connection)
    (sole : SoleProducer connection number streamId) {action : Action}
    (apart : Step.claimed ⟨connection, action⟩ ≠ some streamId) :
    SoleProducer (connection.perform action).2 number streamId := by
  rw [soleProducer_iff] at sole ⊢
  rcases producerIds_perform wired action with same | ⟨added, claims, grown⟩
  · rwa [same]
  · intro other present
    rw [grown, List.getElem?_append] at present
    split at present
    · exact sole other present
    · have same := List.mem_singleton.mp (List.mem_of_getElem? present)
      exact (apart (same ▸ claims)).elim

theorem notMem_producerIds_perform (wired : Wired connection)
    (absent : streamId ∉ connection.producerIds) {action : Action}
    (apart : Step.claimed ⟨connection, action⟩ ≠ some streamId) :
    streamId ∉ (connection.perform action).2.producerIds := by
  rcases producerIds_perform wired action with same | ⟨added, claims, grown⟩
  · rwa [same]
  · rw [grown, List.mem_append, List.mem_singleton, not_or]
    exact ⟨absent, fun same => apart (same ▸ claims)⟩

/-- From any moment on a producer is what its events make of it, as long as its id is not claimed
again. -/
theorem producerPart_run (wired : Wired connection) {part : ProducerPart}
    (present : connection.producerPart number = some part)
    (sole : SoleProducer connection number part.producer.streamId) {actions : List Action}
    (unclaimed : part.producer.streamId ∉ claimed (connection.history actions)) :
    (connection.after actions).producerPart number =
        some (part.run connection.codec (producerEvents number (connection.history actions))) ∧
      contentOf part.producer.streamId (connection.history actions) =
        part.content connection.codec (producerEvents number (connection.history actions)) ∧
      SoleProducer (connection.after actions) number part.producer.streamId ∧
      given number (connection.history actions) =
        part.given connection.codec (producerEvents number (connection.history actions)) := by
  induction actions generalizing connection part with
  | nil => exact ⟨present, rfl, sole, rfl⟩
  | cons action actions induction =>
      rw [history, claimed_cons, List.mem_append, not_or] at unclaimed
      have apart : Step.claimed ⟨connection, action⟩ ≠ some part.producer.streamId :=
        fun claims => unclaimed.1 (by rw [claims]; exact List.mem_singleton.mpr rfl)
      have grown := extends_perform wired action
      have soleLater := sole.perform wired apart
      have advanced := producerPart_perform wired present action soleLater
      have posts := content_sends present sole apart
      have gives := given_eq_gives present action
      rw [history, after_cons, producerEvents_cons, contentOf_cons, posts, given_cons, gives]
      cases event : connection.producerEvent number action with
      | none =>
          rw [event] at advanced
          have rest := induction grown.2 advanced soleLater unclaimed.2
          rw [grown.1.codec] at rest
          exact rest
      | some event' =>
          rw [event, ProducerPart.advance] at advanced
          have carries : (part.step connection.codec event').producer.streamId =
              part.producer.streamId := ProducerPart.streamId_step part event'
          have rest := induction grown.2 advanced (carries.symm ▸ soleLater)
            (carries.symm ▸ unclaimed.2)
          rw [grown.1.codec, carries] at rest
          exact ⟨rest.1, congrArg _ rest.2.1, rest.2.2.1, congrArg _ rest.2.2.2⟩

/-- Without a producer nothing is sent, as long as the id is not claimed again. -/
theorem contentOf_of_absent (wired : Wired connection)
    (absent : streamId ∉ connection.producerIds) {actions : List Action}
    (unclaimed : streamId ∉ claimed (connection.history actions)) :
    contentOf streamId (connection.history actions) = [] ∧
      streamId ∉ (connection.after actions).producerIds := by
  induction actions generalizing connection with
  | nil => exact ⟨rfl, absent⟩
  | cons action actions induction =>
      rw [history, claimed_cons, List.mem_append, not_or] at unclaimed
      have apart : Step.claimed ⟨connection, action⟩ ≠ some streamId :=
        fun claims => unclaimed.1 (by rw [claims]; exact List.mem_singleton.mpr rfl)
      have silent : (connection.sends action).filter (Frame.isContent streamId) = [] := by
        refine content_sends_of_ne ?_ apart
        intro other producer _ present carries
        exact absent (carries ▸ mem_producerIds present)
      rw [history, contentOf_cons, silent, List.nil_append]
      exact induction (extends_perform wired action).2
        (notMem_producerIds_perform wired absent apart) unclaimed.2

end

/-! ## The grammar of answers -/

/-- Whether a mode has a stream of responses. -/
def Streamed (mode : Mode) : Prop := mode = .requestStream ∨ mode = .requestChannel

/-- The complete answers to a request.  Only the frames that go to the receiver of messages count. -/
inductive Answer (streamId : UInt64) : Mode → List Frame → Prop where
  /-- Nobody waits for an answer. -/
  | silence : Answer streamId .fireAndForget []
  /-- One response. -/
  | response (envelope : Envelope) : Answer streamId .requestResponse [.next streamId envelope]
  /-- One error in place of the response. -/
  | failure (code : UInt16) (text : String) :
      Answer streamId .requestResponse [.error streamId code text]
  /-- Messages and the regular end. -/
  | completed {mode : Mode} (many : Streamed mode) (envelopes : List Envelope) :
      Answer streamId mode (envelopes.map (.next streamId) ++ [.complete streamId])
  /-- Messages and an error. -/
  | failed {mode : Mode} (many : Streamed mode) (envelopes : List Envelope) (code : UInt16)
      (text : String) :
      Answer streamId mode (envelopes.map (.next streamId) ++ [.error streamId code text])

/-- The frames that an answer may begin with. -/
def Answering (streamId : UInt64) (mode : Mode) (frames : List Frame) : Prop :=
  ∃ answer, Answer streamId mode answer ∧ frames <+: answer

section

variable {streamId : UInt64} {mode : Mode}

theorem answering_nil (streamId : UInt64) (mode : Mode) : Answering streamId mode [] := by
  cases mode with
  | fireAndForget => exact ⟨[], .silence, List.prefix_refl []⟩
  | requestResponse => exact ⟨_, .failure 0 "", List.nil_prefix⟩
  | requestStream => exact ⟨_, .completed (.inl rfl) [], List.nil_prefix⟩
  | requestChannel => exact ⟨_, .completed (.inr rfl) [], List.nil_prefix⟩

theorem answering_ofError (error : CallError) (answered : mode ≠ .fireAndForget) :
    Answering streamId mode [.ofError streamId error] := by
  refine ⟨[.ofError streamId error], ?_, List.prefix_refl _⟩
  cases mode with
  | fireAndForget => exact (answered rfl).elim
  | requestResponse => exact .failure _ _
  | requestStream => exact .failed (.inl rfl) [] _ _
  | requestChannel => exact .failed (.inr rfl) [] _ _

theorem answering_responseFrame (codec : MessageCodec) (result : Outcome Message) :
    Answering streamId .requestResponse [responseFrame codec streamId result] := by
  refine ⟨_, ?_, List.prefix_refl _⟩
  rw [responseFrame]
  split
  · exact .response _
  · exact .failure _ _

theorem last_frameFor {codec : MessageCodec} {signal : Signal (Outcome Message)}
    {frame : Frame} (made : frameFor codec streamId signal = some (frame, true)) :
    frame = .complete streamId ∨ ∃ error, frame = .ofError streamId error := by
  cases frameFor_eq_some_iff.mp made with
  | ended => exact .inl rfl
  | unencodable | failed | crashed => exact .inr ⟨_, rfl⟩

theorem answering_of_supplies {codec : MessageCodec} {given : List (Signal (Outcome Message))}
    {content : List Frame} {messages : List Message} {envelopes : List Envelope}
    {last : Option (Signal (Outcome Message) × Frame)} (many : Streamed mode)
    (supplies : ProducerPart.Supplies codec streamId given content messages envelopes last) :
    Answering streamId mode content := by
  rw [supplies.content_eq]
  cases ends : last with
  | none =>
      refine ⟨_, .completed many envelopes, ?_⟩
      simp
  | some ending =>
      rcases ending with ⟨signal, frame⟩
      rcases last_frameFor (supplies.ends signal frame ends) with rfl | ⟨error, rfl⟩
      · exact ⟨_, .completed many envelopes, List.prefix_refl _⟩
      · exact ⟨_, .failed many envelopes _ _, List.prefix_refl _⟩

theorem Answer.length_of_response {frames : List Frame}
    (answer : Answer streamId .requestResponse frames) :
    frames.length = 1 := by
  cases answer with
  | response _ | failure _ _ => rfl
  | completed many _ | failed many _ _ _ => simp [Streamed] at many

theorem Answer.eq_nil {frames : List Frame} (answer : Answer streamId .fireAndForget frames) :
    frames = [] := by
  cases answer with
  | silence => rfl
  | completed many _ | failed many _ _ _ => simp [Streamed] at many

/-- A stream of messages ends with its first frame that is no message. -/
theorem Answer.exists_last {frames : List Frame} (answer : Answer streamId mode frames)
    (many : Streamed mode) :
    ∃ messages last, frames = messages ++ [last] ∧
      (∀ frame ∈ messages, frame.isNext = true) ∧ last.isNext = false := by
  have nexts (envelopes : List Envelope) :
      ∀ frame ∈ envelopes.map (Frame.next streamId), frame.isNext = true := by
    simp [Frame.isNext]
  cases answer with
  | silence | response _ | failure _ _ => simp [Streamed] at many
  | completed _ envelopes => exact ⟨_, _, rfl, nexts envelopes, rfl⟩
  | failed _ envelopes code text => exact ⟨_, _, rfl, nexts envelopes, rfl⟩

theorem eq_nil_of_prefix_last {first second rest : List Frame} {last other : Frame}
    (ends : last.isNext = false) (nexts : ∀ frame ∈ second, frame.isNext = true)
    (within : first ++ [last] ++ rest <+: second ++ [other]) :
    rest = [] := by
  induction first generalizing second with
  | nil =>
      cases second with
      | nil => simpa using within.length_le
      | cons frame frames =>
          have same := (List.cons_prefix_cons.mp within).1
          have next := nexts frame List.mem_cons_self
          rw [← same, ends] at next
          cases next
  | cons frame frames induction =>
      cases second with
      | nil => simpa using within.length_le
      | cons frame' frames' =>
          exact induction (fun frame member => nexts frame (List.mem_cons_of_mem _ member))
            (List.cons_prefix_cons.mp within).2

/-- Nothing follows a complete answer. -/
theorem Answer.eq_nil_of_prefix {first second rest : List Frame}
    (complete : Answer streamId mode first) (answer : Answer streamId mode second)
    (within : first ++ rest <+: second) :
    rest = [] := by
  have length := within.length_le
  rw [List.length_append] at length
  by_cases many : Streamed mode
  · rcases complete.exists_last many with ⟨messages, last, rfl, _, ends⟩
    rcases answer.exists_last many with ⟨_, _, rfl, nexts, _⟩
    exact eq_nil_of_prefix_last ends nexts within
  · cases mode with
    | fireAndForget =>
        rw [answer.eq_nil, List.length_nil] at length
        exact List.length_eq_zero_iff.mp (by omega)
    | requestResponse =>
        rw [complete.length_of_response, answer.length_of_response] at length
        exact List.length_eq_zero_iff.mp (by omega)
    | requestStream | requestChannel => simp [Streamed] at many

end

/-! ## What a producer answers -/

section

variable {codec : MessageCodec} {part : ProducerPart}

/-- Who waits for a single response goes on waiting, or sends it and ends, or just ends. -/
theorem answering_step (codec : MessageCodec) (waits : part.producer.phase = .answering)
    (event : ProducerEvent) :
    (part.posts codec event = [] ∧ (part.step codec event).producer.phase = .answering) ∨
      (part.step codec event).producer.phase = .ended ∧
        (part.posts codec event = [] ∨ ∃ result, part.posts codec event =
          [responseFrame codec part.producer.streamId result]) := by
  cases event with
  | granted count =>
      refine .inl ⟨rfl, ?_⟩
      rw [ProducerPart.step]
      split <;> exact waits
  | stopped =>
      rw [ProducerPart.step]
      split
      · exact .inr ⟨rfl, .inl rfl⟩
      · exact .inl ⟨rfl, waits⟩
  | credited => exact .inl ⟨rfl, by simp [ProducerPart.step, waits]⟩
  | gave signal isTaken =>
      exact .inl ⟨by simp [ProducerPart.posts, waits], by simp [ProducerPart.step, waits]⟩
  | answered result =>
      refine .inr ⟨by simp [ProducerPart.step, ProducerPart.stop, waits], .inr ⟨result, ?_⟩⟩
      simp [ProducerPart.posts, waits]

/-- A single response is sent once. -/
theorem answering_of_waits (codec : MessageCodec) (sound : part.Sound)
    (waits : part.producer.phase = .answering) (events : List ProducerEvent) :
    Answering part.producer.streamId .requestResponse (part.content codec events) := by
  induction events generalizing part with
  | nil => exact answering_nil _ _
  | cons event events induction =>
      rw [ProducerPart.content_cons]
      rcases answering_step codec waits event with ⟨silent, still⟩ | ⟨ended, posts⟩
      · have rest := induction (sound.step codec event) still
        rw [ProducerPart.streamId_step] at rest
        rwa [silent, List.nil_append]
      · rw [(ProducerPart.run_of_ended codec (sound.step codec event) ended events).2.2,
          List.append_nil]
        rcases posts with silent | ⟨result, once⟩
        · rw [silent]
          exact answering_nil _ _
        · rw [once]
          exact answering_responseFrame codec result

/-- A producer that has started for a request of a mode. -/
inductive Serves (mode : Mode) (part : ProducerPart) : Prop where
  /-- It waits for the one response. -/
  | single (once : mode = .requestResponse) (waits : part.producer.phase = .answering)
  /-- It sends a stream of responses. -/
  | stream (many : Streamed mode) (pumps : part.producer.phase ≠ .answering)

theorem Serves.answering {mode : Mode} (serves : Serves mode part) (codec : MessageCodec)
    (sound : part.Sound) (events : List ProducerEvent) :
    Answering part.producer.streamId mode (part.content codec events) := by
  cases serves with
  | single once waits => exact once ▸ answering_of_waits codec sound waits events
  | stream many pumps =>
      rcases ProducerPart.supplies_run sound pumps events with ⟨_, _, _, supplies, _⟩
      exact answering_of_supplies many supplies

end

/-! ## From the request on -/

section

variable {connection : Connection} {mode : Mode} {streamId : UInt64} {envelope : Envelope}

theorem receiveRequest_of_refusal (mode : Mode) (streamId : UInt64) {error : CallError}
    (refused : connection.refusal envelope = some error) :
    connection.receiveRequest mode streamId envelope =
      (none, connection.reject mode streamId error) := by
  cases decodes : connection.codec.decode envelope with
  | error failure =>
      simp only [refusal, decodes, Option.some.injEq] at refused
      simp only [receiveRequest, decodes, refused]
  | ok message =>
      by_cases blank : message.qualifier = ""
      · simp only [refusal, decodes, if_pos blank, Option.some.injEq] at refused
        simp only [receiveRequest, decodes, if_pos blank, refused]
      · simp [refusal, decodes, blank] at refused

theorem receiveRequest_of_welcome (mode : Mode) (streamId : UInt64)
    (welcome : connection.refusal envelope = none) :
    ∃ message, connection.receiveRequest mode streamId envelope =
      (some (connection.accept mode streamId message).1,
        (connection.accept mode streamId message).2) := by
  cases decodes : connection.codec.decode envelope with
  | error failure => simp [refusal, decodes] at welcome
  | ok message =>
      by_cases blank : message.qualifier = ""
      · simp [refusal, decodes, blank] at welcome
      · exact ⟨message, by simp [receiveRequest, decodes, blank]⟩

/-- What a request comes to at once: it is answered and done with, or gets a producer. -/
inductive Received (later : Connection) (mode : Mode) (streamId : UInt64) (frames : List Frame) :
    Prop where
  /-- The request was refused, or nobody waits for an answer. -/
  | settled (absent : streamId ∉ later.producerIds) (answers : Answering streamId mode frames)
  /-- A producer answers it. -/
  | served {number : Nat} {part : ProducerPart} (present : later.producerPart number = some part)
      (carries : part.producer.streamId = streamId) (sole : SoleProducer later number streamId)
      (sound : part.Sound) (serves : Serves mode part) (silent : frames = [])

theorem received_startProducer (fresh : streamId ∉ connection.producerIds) (credits : Nat)
    {phase : ProducerPhase} (starts : phase ≠ .ended)
    (serves : Serves mode (.opening streamId credits phase)) :
    Received (connection.startProducer streamId credits phase).2 mode streamId [] := by
  have ids : (connection.startProducer streamId credits phase).2.producerIds =
      connection.producerIds ++ [streamId] := by
    simp [startProducer, producerIds]
  have present : (connection.startProducer streamId credits phase).2.producerPart
      connection.producers.length = some (.opening streamId credits phase) := by
    rw [producerPart_eq_some]
    simp [startProducer, ProducerPart.opening]
  refine .served present rfl ?_ (ProducerPart.sound_opening streamId credits starts) serves rfl
  rw [soleProducer_iff, ids]
  intro other found
  rw [List.getElem?_append] at found
  split at found
  · exact (fresh (List.mem_of_getElem? found)).elim
  · rename_i beyond
    have within := (List.getElem?_eq_some_iff.mp found).1
    simp only [List.length_singleton, producerIds, List.length_map] at beyond within
    omega

theorem received_accept (fresh : streamId ∉ connection.producerIds) (message : Message) :
    Received (connection.accept mode streamId message).2 mode streamId [] := by
  cases mode with
  | fireAndForget => exact .settled fresh (answering_nil _ _)
  | requestResponse =>
      exact received_startProducer fresh 0 (by decide) (.single rfl rfl)
  | requestStream =>
      exact received_startProducer fresh connection.window (by decide)
        (.stream (.inl rfl) (by simp [ProducerPart.opening]))
  | requestChannel =>
      have same : streamId ∉ (connection.openRequests streamId).2.producerIds := fresh
      exact received_startProducer same connection.window (by decide)
        (.stream (.inr rfl) (by simp [ProducerPart.opening]))

/-- A request that a server takes is refused, needs no answer, or gets a producer. -/
theorem received_request (reading : connection.reads = true) (server : connection.role = .server)
    (fresh : streamId ∉ connection.producerIds) (mode : Mode) (envelope : Envelope) :
    Received (connection.perform (.receive (.request mode streamId envelope))).2 mode streamId
      ((connection.sends (.receive (.request mode streamId envelope))).filter
        (Frame.isContent streamId)) := by
  simp only [perform, receive_request_server reading server, Prod.map_snd, id_eq, sends, reading,
    if_true, answersTo, server]
  cases refused : connection.refusal envelope with
  | none =>
      rcases receiveRequest_of_welcome mode streamId refused with ⟨message, equal⟩
      rw [equal]
      exact received_accept fresh message
  | some error =>
      rw [receiveRequest_of_refusal mode streamId refused]
      have outbox := outbox_reject connection mode streamId error
      simp only [Connection.outbox, Prod.mk.injEq] at outbox
      refine .settled (by rwa [producerIds, outbox.2]) ?_
      by_cases silent : mode = .fireAndForget
      · simp only [if_pos silent]
        exact answering_nil _ _
      · simpa [if_neg silent, Frame.isContent, Frame.ofError] using
          answering_ofError error silent

/-- From the request on the frames of the call begin an answer. -/
theorem answering_from_request (wired : Wired connection) (reading : connection.reads = true)
    (server : connection.role = .server) (fresh : streamId ∉ connection.producerIds)
    (mode : Mode) (envelope : Envelope) {actions : List Action}
    (unclaimed : streamId ∉ claimed
      ((connection.perform (.receive (.request mode streamId envelope))).2.history actions)) :
    Answering streamId mode (contentOf streamId
      (connection.history (.receive (.request mode streamId envelope) :: actions))) := by
  have wiredLater := (extends_perform wired (.receive (.request mode streamId envelope))).2
  rw [history, contentOf_cons]
  cases received_request reading server fresh mode envelope with
  | settled absent answers =>
      rw [(contentOf_of_absent wiredLater absent unclaimed).1, List.append_nil]
      exact answers
  | served present carries sole sound serves silent =>
      subst carries
      rw [silent, List.nil_append, (producerPart_run wiredLater present sole unclaimed).2.1]
      exact serves.answering _ sound _

theorem producerPart_later (wired : Wired connection) {number : Nat} {part : ProducerPart}
    (present : connection.producerPart number = some part)
    (sole : SoleProducer connection number part.producer.streamId) (sound : part.Sound)
    {actions : List Action}
    (unclaimed : part.producer.streamId ∉ claimed (connection.history actions)) :
    ∃ later, (connection.after actions).producerPart number = some later ∧
      later.producer.streamId = part.producer.streamId ∧
      SoleProducer (connection.after actions) number part.producer.streamId ∧ later.Sound := by
  rcases producerPart_run wired present sole unclaimed with ⟨there, _, soleThere, _⟩
  exact ⟨_, there, ProducerPart.streamId_run _ _, soleThere, sound.run _ _⟩

/-- A producer whose call is cancelled sends nothing more. -/
theorem contentOf_cancelled (wired : Wired connection) (reading : connection.reads = true)
    {number : Nat} {part : ProducerPart} (present : connection.producerPart number = some part)
    (carries : part.producer.streamId = streamId) (sole : SoleProducer connection number streamId)
    (sound : part.Sound) {actions : List Action}
    (unclaimed : streamId ∉ claimed (connection.history (.receive (.cancel streamId) :: actions))) :
    contentOf streamId (connection.history (.receive (.cancel streamId) :: actions)) = [] := by
  subst carries
  have event : connection.producerEvent number (.receive (.cancel part.producer.streamId)) =
      some .stopped := by
    simp [producerEvent, (producerPart_eq_some.mp present).1, reading, Frame.streamId]
  have ended : (part.step connection.codec .stopped).producer.phase = .ended := by
    rw [ProducerPart.step]
    split
    · rfl
    · rename_i unlisted
      rw [sound, decide_eq_true_eq, not_not] at unlisted
      exact unlisted
  rw [(producerPart_run wired present sole unclaimed).2.1, history, producerEvents_cons, event,
    Option.toList_some, List.singleton_append, ProducerPart.content_cons,
    (ProducerPart.run_of_ended _ (sound.step _ .stopped) ended _).2.2]
  rfl

/-- After a cancellation nothing is sent for a request that was taken before. -/
theorem contentOf_after_cancel (wired : Wired connection) (reading : connection.reads = true)
    (server : connection.role = .server) (fresh : streamId ∉ connection.producerIds)
    (mode : Mode) (envelope : Envelope) {first second : List Action}
    (unclaimed : streamId ∉ claimed
      ((connection.perform (.receive (.request mode streamId envelope))).2.history
        (first ++ .receive (.cancel streamId) :: second)))
    (taken : (connection.after
      (.receive (.request mode streamId envelope) :: first)).reads = true) :
    contentOf streamId ((connection.after (.receive (.request mode streamId envelope) :: first)).history
      (.receive (.cancel streamId) :: second)) = [] := by
  have wiredLater := (extends_perform wired (.receive (.request mode streamId envelope))).2
  have wiredThere := wired_after wiredLater first
  rw [history_append, claimed_append, List.mem_append, not_or] at unclaimed
  rw [after_cons] at taken ⊢
  cases received_request reading server fresh mode envelope with
  | settled absent answers =>
      have absentThere := (contentOf_of_absent wiredLater absent unclaimed.1).2
      exact (contentOf_of_absent wiredThere absentThere unclaimed.2).1
  | served present carries sole sound serves silent =>
      subst carries
      rcases producerPart_later wiredLater present sole sound unclaimed.1 with
        ⟨later, there, same, soleThere, soundThere⟩
      exact contentOf_cancelled wiredThere taken there same soleThere soundThere unclaimed.2

end

/-! ## What concerns one call -/

section

variable {connection : Connection} {streamId : UInt64}

/-- The action is about a call: its request or another frame of it arrives, its handler or the
consumer of its requests takes a step, or the call is opened. -/
def Concerns (connection : Connection) (streamId : UInt64) (action : Action) : Prop :=
  action.closes = false ∧
    (ConcernsInbox connection streamId action ∨ ConcernsOutbox connection streamId action)

theorem Concerns.eq_of_inbox {action : Action} {other : UInt64}
    (concerns : Concerns connection streamId action)
    (otherwise : ConcernsInbox connection other action) :
    other = streamId := by
  rcases concerns with ⟨calm, concerned⟩
  cases action with
  | close | endReader | endWriter => simp [Action.closes] at calm
  | fireAndForget message => exact otherwise.elim
  | requestResponse message | requestStream message =>
      exact otherwise.symm.trans (concerned.resolve_right id)
  | requestChannel first => exact otherwise.symm.trans (concerned.elim id id)
  | pollReply number | dropReply number =>
      rcases otherwise with ⟨reply, present, rfl⟩
      rcases concerned.resolve_right id with ⟨_, present', rfl⟩
      rw [present, Option.some.injEq] at present'
      rw [present']
  | pullInbound number =>
      rcases otherwise with ⟨stream, present, rfl⟩
      rcases concerned.resolve_right id with ⟨_, present', rfl⟩
      rw [present, Option.some.injEq] at present'
      rw [present']
  | dropInbound number =>
      rcases otherwise with ⟨stream, present, rfl⟩
      rcases concerned.elim id id with ⟨_, present', rfl⟩
      rw [present, Option.some.injEq] at present'
      rw [present']
  | receive frame => exact otherwise.symm.trans (concerned.elim id id)
  | takeCredit _ | produce _ _ | respond _ _ | transmit => exact otherwise.elim

theorem Concerns.eq_of_outbox {action : Action} {other : UInt64}
    (concerns : Concerns connection streamId action)
    (otherwise : ConcernsOutbox connection other action) :
    other = streamId := by
  rcases concerns with ⟨calm, concerned⟩
  cases action with
  | close | endReader | endWriter => simp [Action.closes] at calm
  | requestChannel first => exact otherwise.symm.trans (concerned.elim id id)
  | dropInbound number =>
      rcases otherwise with ⟨stream, present, rfl⟩
      rcases concerned.elim id id with ⟨_, present', rfl⟩
      rw [present, Option.some.injEq] at present'
      rw [present']
  | takeCredit number | produce number _ | respond number _ =>
      rcases otherwise with ⟨producer, present, rfl⟩
      rcases concerned.resolve_left id with ⟨_, present', rfl⟩
      rw [present, Option.some.injEq] at present'
      rw [present']
  | receive frame => exact otherwise.symm.trans (concerned.elim id id)
  | _ => exact otherwise.elim

/-- An action about one call leaves the connection open and keeps what belongs to other calls. -/
theorem keeps_others (wired : Wired connection) {action : Action}
    (concerns : Concerns connection streamId action) :
    (connection.perform action).2.isClosed = connection.isClosed ∧
      ∀ other, other ≠ streamId → KeepsInbox other connection (connection.perform action).2 ∧
        KeepsOutbox other connection (connection.perform action).2 :=
  ⟨(calm_perform wired concerns.1).2, fun _ apart =>
    ⟨keepsInbox_perform wired fun otherwise => apart (concerns.eq_of_inbox otherwise),
      keepsOutbox_perform wired fun otherwise => apart (concerns.eq_of_outbox otherwise)⟩⟩

/-- A handler crashes at its work for a call, for a reason that may be known: at its one response,
before there is a stream of responses, or at an item of the stream. -/
inductive Crashes (connection : Connection) (streamId : UInt64) (cause : Option String) :
    Action → Prop where
  /-- It was at its one response. -/
  | response {number credits : Nat} {result : Outcome Message}
      (working : connection.producers[number]? = some ⟨streamId, credits, .answering⟩)
      (crashed : resultOf (.crashed cause : Conclusion Unit (Outcome Message)) = some result) :
      Crashes connection streamId cause (.respond number result)
  /-- It had yet to make a stream. -/
  | stream {number credits : Nat} {signal : Signal (Outcome Message)}
      (working : connection.producers[number]? = some ⟨streamId, credits, .pulling⟩)
      (crashed : (responsesOf (.error cause : Except _ (Source Unit _))).next.2.1 = signal) :
      Crashes connection streamId cause (.produce number signal)
  /-- It was at an item. -/
  | item {number credits : Nat}
      (working : connection.producers[number]? = some ⟨streamId, credits, .pulling⟩) :
      Crashes connection streamId cause (.produce number (.crashed cause))

/-- The peer hears of a crash by an error with the code of an internal failure. -/
theorem Crashes.sends_error {cause : Option String} {action : Action}
    (crashes : Crashes connection streamId cause action) :
    connection.sends action = [.error streamId 500 (crashError cause).message] := by
  cases crashes with
  | response working crashed =>
      rw [resultOf, Option.some.injEq] at crashed
      rw [sends, working, ← crashed]
      rfl
  | stream working crashed =>
      rw [sends, working, ← crashed]
      rfl
  | item working =>
      rw [sends, working]
      rfl

end

/-! ## Requests in a run -/

section

variable {start : Connection}

theorem exists_of_mem_history {actions : List Action} {step : Step}
    (member : step ∈ start.history actions) :
    ∃ first second, actions = first ++ step.action :: second ∧
      start.after first = step.before := by
  induction actions generalizing start with
  | nil => simp [history] at member
  | cons action actions induction =>
      rw [history, List.mem_cons] at member
      rcases member with rfl | later
      · exact ⟨[], actions, rfl, rfl⟩
      · rcases induction later with ⟨first, second, rfl, there⟩
        exact ⟨action :: first, second, rfl, there⟩

theorem exists_of_mem_taken {actions : List Action} {frame : Frame}
    (member : frame ∈ taken (start.history actions)) :
    ∃ first second, actions = first ++ .receive frame :: second ∧
      (start.after first).reads = true := by
  rcases List.mem_filterMap.mp member with ⟨⟨before, action⟩, inHistory, takes⟩
  rcases exists_of_mem_history inHistory with ⟨first, second, split, there⟩
  cases action with
  | receive arrived =>
      simp only [Step.taken] at takes
      split at takes
      · rename_i reading
        rw [Option.some.injEq] at takes
        exact ⟨first, second, by rw [split, takes], there ▸ reading⟩
      · cases takes
  | _ => cases takes

end

/-- How a request is answered in a run. -/
structure Served (start : Connection) (actions : List Action) (mode : Mode) (streamId : UInt64) :
    Prop where
  /-- The frames that are sent for it begin an answer of its mode, and so do those of them that the
  writer takes. -/
  grammar : Answering streamId mode (contentOf streamId (start.history actions)) ∧
    posted (start.history actions) <+: sent (start.history actions)
  /-- Once the answer is complete, nothing is sent for it any more. -/
  final : ∀ first second, actions = first ++ second →
    Answer streamId mode (contentOf streamId (start.history first)) →
    contentOf streamId ((start.after first).history second) = []
  /-- Once a cancellation was taken, nothing is sent for it any more. -/
  cancelled : ∀ first second envelope, actions = first ++ .receive (.cancel streamId) :: second →
    .request mode streamId envelope ∈ taken (start.history first) →
    (start.after first).reads = true →
    contentOf streamId
      ((start.after first).history (.receive (.cancel streamId) :: second)) = []
  /-- A crash of its handler becomes an error. -/
  crashes : ∀ first action second cause, actions = first ++ action :: second →
    Crashes (start.after first) streamId cause action →
    (start.after first).sends action = [.error streamId 500 (crashError cause).message]
  /-- Nothing that is about it closes the connection or changes what belongs to another call. -/
  apart : ∀ first action second, actions = first ++ action :: second →
    Concerns (start.after first) streamId action →
    (start.after (first ++ [action])).isClosed = (start.after first).isClosed ∧
      ∀ other, other ≠ streamId →
        KeepsInbox other (start.after first) (start.after (first ++ [action])) ∧
          KeepsOutbox other (start.after first) (start.after (first ++ [action]))

section

variable (peer : String) (codec : MessageCodec) (config : Config)

/-- A server has claimed no id before its only claim, and claims it no more after. -/
theorem claimed_apart {first second : List Action} {mode : Mode} {streamId : UInt64}
    {envelope : Envelope}
    (reading : ((spawn .server peer codec config).after first).reads = true)
    (once : (claimed ((spawn .server peer codec config).history
      (first ++ .receive (.request mode streamId envelope) :: second))).count streamId = 1) :
    streamId ∉ claimed ((spawn .server peer codec config).history first) ∧
      streamId ∉ claimed ((((spawn .server peer codec config).after first).perform
        (.receive (.request mode streamId envelope))).2.history second) := by
  have server : ((spawn .server peer codec config).after first).role = .server :=
    (extends_after (wired_spawn .server peer codec config) first).role
  have claims : Step.claimed ⟨(spawn .server peer codec config).after first,
      .receive (.request mode streamId envelope)⟩ = some streamId := if_pos ⟨reading, server⟩
  rw [history_append, claimed_append, history, claimed_cons, claims, List.count_append,
    Option.toList_some, List.singleton_append, List.count_cons_self] at once
  exact ⟨List.count_eq_zero.mp (by omega), List.count_eq_zero.mp (by omega)⟩

/-- A server answers every request by the grammar of its mode, whatever its handler does and
whatever else happens on the connection, if nothing else claims the id of the request. -/
theorem requests_are_answered (actions : List Action) {mode : Mode} {streamId : UInt64}
    {envelope : Envelope}
    (request : .request mode streamId envelope ∈
      taken ((spawn .server peer codec config).history actions))
    (once : (claimed ((spawn .server peer codec config).history actions)).count streamId = 1) :
    Served (spawn .server peer codec config) actions mode streamId := by
  have wired := wired_spawn .server peer codec config
  have server (first : List Action) :
      ((spawn .server peer codec config).after first).role = .server :=
    (extends_after wired first).role
  have fresh {first : List Action}
      (unclaimed : streamId ∉ claimed ((spawn .server peer codec config).history first)) :
      streamId ∉ ((spawn .server peer codec config).after first).producerIds :=
    fun member => unclaimed ((claims_after .server peer codec config first).producers _ member)
  have grammar : Answering streamId mode
      (contentOf streamId ((spawn .server peer codec config).history actions)) := by
    rcases exists_of_mem_taken request with ⟨first, second, rfl, reading⟩
    rcases claimed_apart peer codec config reading once with ⟨before, after⟩
    have silent : contentOf streamId ((spawn .server peer codec config).history first) = [] :=
      content_of_unclaimed .server peer codec config first before
    rw [history_append, contentOf_append, silent, List.nil_append]
    exact answering_from_request (wired_after wired first) reading (server first) (fresh before)
      mode envelope after
  refine ⟨⟨grammar, (posted_prefix_sent wired actions).1⟩, ?_, ?_, ?_, ?_⟩
  · rintro first second rfl complete
    rcases grammar with ⟨answer, answers, within⟩
    rw [history_append, contentOf_append] at within
    exact complete.eq_nil_of_prefix answers within
  · rintro first second envelope rfl requested taken
    rcases exists_of_mem_taken requested with ⟨earlier, later, rfl, reading⟩
    rw [List.append_assoc, List.cons_append] at once
    rcases claimed_apart peer codec config reading once with ⟨before, after⟩
    rw [after_append] at taken ⊢
    exact contentOf_after_cancel (wired_after wired earlier) reading (server earlier)
      (fresh before) mode envelope after taken
  · rintro first action second cause rfl crashes
    exact crashes.sends_error
  · rintro first action second rfl concerns
    rw [after_concat]
    exact keeps_others (wired_after wired first) concerns

end

/-- A stream of responses whose handler crashes after the first one. -/
def crashedStream : List Action :=
  [.receive (.request .requestStream 1
      ⟨[], Utf8.encode "\x7b\"q\":\"Greeting/count\"\x7d"⟩),
    .takeCredit 0, .produce 0 (.item (.ok (Message.blank.withQualifier "Greeting/count"))),
    .takeCredit 0, .produce 0 (.crashed (some "no more")), .takeCredit 0]

theorem crashedStream_served :
    (.request .requestStream 1 ⟨[], Utf8.encode "\x7b\"q\":\"Greeting/count\"\x7d"⟩ ∈
      taken ((spawn .server "peer" (.ofRegistry .withJson) .standard).history crashedStream)) ∧
    (claimed ((spawn .server "peer" (.ofRegistry .withJson) .standard).history
      crashedStream)).count 1 = 1 ∧
    (contentOf 1 ((spawn .server "peer" (.ofRegistry .withJson) .standard).history
      crashedStream)).map Frame.kind = [5, 7] ∧
    Served (spawn .server "peer" (.ofRegistry .withJson) .standard) crashedStream
      .requestStream 1 := by
  have request : .request .requestStream 1
      ⟨[], Utf8.encode "\x7b\"q\":\"Greeting/count\"\x7d"⟩ ∈
        taken ((spawn .server "peer" (.ofRegistry .withJson) .standard).history crashedStream) := by
    decide +kernel
  have once : (claimed ((spawn .server "peer" (.ofRegistry .withJson) .standard).history
      crashedStream)).count 1 = 1 := by
    decide +kernel
  exact ⟨request, once, by decide +kernel, requests_are_answered _ _ _ _ request once⟩

end ServiceMesh.Connection
