import ServiceMesh.Proofs.Dispatch.Functional
import ServiceMesh.Proofs.Dispatch.Registrations
import ServiceMesh.Proofs.Flow.Pulls

/-!
# Streams of responses

A dispatcher answers a request, or a stream of requests, with what the handler gives, each response of
a typed handler wrapped on the way, up to the first error (`Forwards`).  A channel has before that the
pulls in vain that its requests need to open.  Whoever has no handler is given one error (`Declines`).
The main result is that this is so for each registration in each offer (`responses_well_formed`).
-/

namespace ServiceMesh

variable {ε α β : Type}

/-! ## Forwarded streams -/

/-- A stream answers with what another one gives: after some turns in vain, and some marks, come the
turns of that stream, with every item passed on by a function, cut behind the first error. -/
structure Forwards (lead : List (Turn ε (Outcome β) Unit)) (marks : List ε)
    (given : Source ε (Outcome α)) (pass : Outcome α → Outcome β) (answers : Source ε (Outcome β)) :
    Prop where
  /-- The answers, pull by pull. -/
  turns : ∀ count, answers.pulled (lead.length + count) =
    lead ++ markFirst marks (Source.cut ((given.pulled count).map (Turn.mapItem pass)))
  /-- Whatever has been given is answered up to the first error. -/
  items : ∀ count, items (answers.signals (lead.length + count)) =
    Source.untilError ((items (given.signals count)).map pass)
  /-- Only the last answer can be an error. -/
  last : ∀ count, ∀ outcome ∈ (ServiceMesh.items (answers.signals (lead.length + count))).dropLast,
    ∃ value, outcome = .ok value
  /-- If the other stream ends, the answers end, behind the first error at the latest. -/
  yields : ∀ outcomes, given.Yields outcomes →
    answers.Yields (Source.untilError (outcomes.map pass))

theorem items_map_mapItem (rename : α → β) (turns : List (Turn ε α Unit)) :
    items ((turns.map (Turn.mapItem rename)).map Turn.signal) =
      (items (turns.map Turn.signal)).map rename := by
  induction turns with
  | nil => rfl
  | cons turn turns induction =>
      rcases turn with ⟨marks, signal, _⟩
      cases signal with
      | item value => exact congrArg (rename value :: ·) induction
      | _ => exact induction

theorem map_mapItem_id (turns : List (Turn ε α Unit)) : turns.map (Turn.mapItem id) = turns := by
  have same : (Turn.mapItem id : Turn ε α Unit → Turn ε α Unit) = id := by
    funext turn
    rw [Turn.mapItem, Source.signal_map_id]
    rfl
  rw [same, List.map_id]

theorem markFirst_nil (turns : List (Turn ε α Unit)) : markFirst [] turns = turns := by
  cases turns <;> rfl

theorem items_of_vain {turns : List (Turn ε α Unit)}
    (vain : ∀ turn ∈ turns, turn.signal = .pending) : items (turns.map Turn.signal) = [] := by
  rw [items, List.filterMap_eq_nil_iff]
  intro signal member
  rcases List.mem_map.mp member with ⟨turn, among, rfl⟩
  rw [vain turn among]
  rfl

section

variable {lead : List (Turn ε (Outcome β) Unit)} {marks : List ε} {given : Source ε (Outcome α)}
  {pass : Outcome α → Outcome β} {answers : Source ε (Outcome β)}

/-- The items follow from the turns. -/
theorem forwards_of_turns (vain : ∀ turn ∈ lead, turn.signal = .pending)
    (turns : ∀ count, answers.pulled (lead.length + count) =
      lead ++ markFirst marks (Source.cut ((given.pulled count).map (Turn.mapItem pass))))
    (yields : ∀ outcomes, given.Yields outcomes →
      answers.Yields (Source.untilError (outcomes.map pass))) :
    Forwards lead marks given pass answers := by
  have items : ∀ count, items (answers.signals (lead.length + count)) =
      Source.untilError ((items (given.signals count)).map pass) := by
    intro count
    rw [Source.signals, turns, List.map_append, items_append, items_of_vain vain, List.nil_append,
      signals_markFirst, Source.items_cut, items_map_mapItem]
    rfl
  refine ⟨turns, items, fun count outcome member => ?_, yields⟩
  rw [items] at member
  exact ok_of_mem_untilError member

/-- A guarded stream of rewritten items forwards. -/
theorem forwards_guarded (given : Source ε (Outcome α)) (pass : Outcome α → Outcome β) :
    Forwards [] [] given pass (given.map pass).guarded := by
  apply forwards_of_turns
  · intro turn member
    cases member
  · intro count
    rw [List.length_nil, Nat.zero_add, Source.pulled_guarded, Source.pulled_map, markFirst_nil,
      List.nil_append]
  · intro outcomes yields
    exact Source.gives_guarded ((Source.mimics_map given pass).gives yields)

/-- A guarded stream forwards all items as they are. -/
theorem forwards_guarded_id (given : Source ε (Outcome β)) :
    Forwards [] [] given id given.guarded := by
  apply forwards_of_turns
  · intro turn member
    cases member
  · intro count
    rw [List.length_nil, Nat.zero_add, Source.pulled_guarded, map_mapItem_id, markFirst_nil,
      List.nil_append]
  · intro outcomes yields
    rw [List.map_id]
    exact Source.gives_guarded yields

/-- An opening forwards what the selected source forwards, when its requests have opened. -/
theorem Forwards.opening {requests : Source ε (Outcome Message)} {waits : Nat}
    {first : Option (Outcome Message)} (opens : requests.Opens waits (.ofFirst first))
    {select : Option (Outcome Message) → Source ε (Outcome Message) → Source ε (Outcome β)}
    (forwards : Forwards [] [] given pass (select first (requests.since (waits + 1)))) :
    Forwards ((requests.pulled waits).map Turn.vain) (requests.since waits).next.1 given pass
      (requests.opening select) := by
  apply forwards_of_turns
  · intro turn member
    rcases List.mem_map.mp member with ⟨original, -, rfl⟩
    rfl
  · intro count
    have turns := forwards.turns count
    rw [List.length_nil, Nat.zero_add, markFirst_nil, List.nil_append] at turns
    rw [List.length_map, Source.length_pulled, Source.pulled_opening select opens, turns]
  · intro outcomes yields
    exact Source.yields_opening select opens (forwards.yields outcomes yields)

end

/-! ## Declined channels -/

/-- A channel gives one error and ends as soon as its requests have opened, and leaves no marks but
those of the requests. -/
structure Declines (requests : Source ε (Outcome Message)) (waits : Nat) (error : CallError)
    (answers : Source ε (Outcome Message)) : Prop where
  /-- The answers, pull by pull. -/
  turns : ∀ count, answers.pulled (waits + (count + 1)) =
    (requests.pulled waits).map Turn.vain ++
      ⟨(requests.since waits).next.1 ++ (requests.since (waits + 1)).farewell,
          .item (.error error), ()⟩ ::
        List.replicate count ⟨[], .ended, ()⟩
  /-- The answers in all. -/
  yields : answers.Yields [.error error]

theorem declines_opening {requests : Source ε (Outcome Message)} {waits : Nat}
    {first : Option (Outcome Message)} (opens : requests.Opens waits (.ofFirst first))
    {select : Option (Outcome Message) → Source ε (Outcome Message) → Source ε (Outcome Message)}
    {error : CallError}
    (fails : select first (requests.since (waits + 1)) =
      (requests.since (waits + 1)).instead (.failed error)) :
    Declines requests waits error (requests.opening select) := by
  constructor
  · intro count
    rw [Source.pulled_opening select opens, fails, Source.instead, Source.pulled_afterMarks,
      Source.pulled_failed]
    simp [markFirst, Turn.after]
  · apply Source.yields_opening select opens
    rw [fails]
    exact Source.yields_afterMarks _ (Source.yields_failed error)

/-! ## Responses of typed handlers -/

/-- A response of a typed handler is of its type and of the exchange of the request. -/
structure Labelled (β : Type) [Wire β] (qualifier : String) (streamId : Option String)
    (response : Message) : Prop where
  qualifier : response.qualifier = qualifier
  dataType : response.dataType = some (Wire.typeName β)
  streamId : response.streamId = streamId

/-- A stream answers with the values that another one gives, wrapped as responses. -/
structure Wraps [Wire β] (lead : List (Turn ε (Outcome Message) Unit)) (marks : List ε)
    (given : Source ε (Outcome β)) (qualifier : String) (streamId : Option String)
    (answers : Source ε (Outcome Message)) : Prop where
  /-- The values are passed on in messages, where that does not fail. -/
  forwards : Forwards lead marks given
    (fun outcome => outcome.bind (wrapResponse qualifier streamId)) answers
  /-- Each of these messages has its labels. -/
  labelled : ∀ count response, .ok response ∈ items (answers.signals (lead.length + count)) →
    Labelled β qualifier streamId response

theorem labelled_wrapResponse [Wire β] {qualifier : String} {streamId : Option String}
    {value : β} {response : Message}
    (wrapped : wrapResponse qualifier streamId value = .ok response) :
    Labelled β qualifier streamId response := by
  rw [wrapResponse] at wrapped
  split at wrapped
  · cases wrapped
  · rw [Except.ok.injEq] at wrapped
    subst wrapped
    cases streamId <;> exact ⟨rfl, rfl, rfl⟩

theorem Forwards.wraps [Wire β] {lead : List (Turn ε (Outcome Message) Unit)} {marks : List ε}
    {given : Source ε (Outcome β)} {qualifier : String} {streamId : Option String}
    {answers : Source ε (Outcome Message)}
    (forwards : Forwards lead marks given
      (fun outcome => outcome.bind (wrapResponse qualifier streamId)) answers) :
    Wraps lead marks given qualifier streamId answers := by
  refine ⟨forwards, fun count response member => ?_⟩
  rw [forwards.items] at member
  rcases List.mem_map.mp (mem_untilError member) with ⟨outcome, -, wrapped⟩
  cases outcome with
  | error error => cases wrapped
  | ok value => exact labelled_wrapResponse wrapped

/-! ## Main result -/

namespace Dispatcher

/-- The requests of a channel as its typed handler gets them: the first again in front, and all of
them decoded. -/
def decoded (α : Type) [Wire α] (codecs : CodecRegistry) (first : Message)
    (others : Source ε (Outcome Message)) : Source ε (Outcome α) :=
  (Source.cons (.ok first) others).mapOutcome fun message => message.decodeData α codecs

/-- The streams of responses that a dispatcher of an offer gives. -/
structure WellFormed (offer : Offer ε) (codecs : CodecRegistry) (dispatcher : Dispatcher ε) :
    Prop where
  /-- A request of a typed handler that can be decoded is answered by its stream. -/
  typedStream : ∀ part ∈ offer, ∀ (α β : Type) [Wire α] [Wire β] (action : String)
      (handle : α → Source ε (Outcome β)), .requestStream α β action handle ∈ part.2 →
    ∀ (message : Message) (request : α), message.qualifier = Qualifier.join part.1 action →
      message.decodeData α codecs = .ok request →
        Wraps [] [] (handle request) message.qualifier message.streamId
          (dispatcher.requestStream message)
  /-- A request of a typed handler that cannot be decoded is answered by the error. -/
  undecodable : ∀ part ∈ offer, ∀ (α β : Type) [Wire α] [Wire β] (action : String)
      (handle : α → Source ε (Outcome β)), .requestStream α β action handle ∈ part.2 →
    ∀ (message : Message) (error : CallError), message.qualifier = Qualifier.join part.1 action →
      message.decodeData α codecs = .error error →
        dispatcher.requestStream message = .failed error
  /-- A request of a raw handler is answered by its stream. -/
  rawStream : ∀ part ∈ offer, ∀ (action : String) (handle : Message → Source ε (Outcome Message)),
      .rawRequestStream action handle ∈ part.2 →
    ∀ message : Message, message.qualifier = Qualifier.join part.1 action →
      Forwards [] [] (handle message) id (dispatcher.requestStream message)
  /-- The requests of a typed handler are answered by its stream, once the first has come. -/
  typedChannel : ∀ part ∈ offer, ∀ (α β : Type) [Wire α] [Wire β] (action : String)
      (handle : Source ε (Outcome α) → Source ε (Outcome β)),
      .requestChannel α β action handle ∈ part.2 →
    ∀ (requests : Source ε (Outcome Message)) (waits : Nat) (first : Message),
      requests.Opens waits (.item (.ok first)) → first.qualifier = Qualifier.join part.1 action →
        Wraps ((requests.pulled waits).map Turn.vain) (requests.since waits).next.1
          (handle (decoded α codecs first (requests.since (waits + 1))))
          first.qualifier first.streamId (dispatcher.requestChannel requests)
  /-- The requests of a raw handler are answered by its stream, once the first has come. -/
  rawChannel : ∀ part ∈ offer, ∀ (action : String)
      (handle : Source ε (Outcome Message) → Source ε (Outcome Message)),
      .rawRequestChannel action handle ∈ part.2 →
    ∀ (requests : Source ε (Outcome Message)) (waits : Nat) (first : Message),
      requests.Opens waits (.item (.ok first)) → first.qualifier = Qualifier.join part.1 action →
        Forwards ((requests.pulled waits).map Turn.vain) (requests.since waits).next.1
          (handle (.cons (.ok first) (requests.since (waits + 1)))) id
          (dispatcher.requestChannel requests)
  /-- A request that no handler serves is answered by the error. -/
  refusedStream : ∀ (message : Message) (error : CallError),
    Refused offer .requestStream message error → dispatcher.requestStream message = .failed error
  /-- Requests that no handler serves are answered by the error, once the first has come. -/
  refusedChannel : ∀ (requests : Source ε (Outcome Message)) (waits : Nat) (first : Message)
      (error : CallError), requests.Opens waits (.item (.ok first)) →
    Refused offer .requestChannel first error →
      Declines requests waits error (dispatcher.requestChannel requests)
  /-- Requests that start with an error are answered by it. -/
  failedChannel : ∀ (requests : Source ε (Outcome Message)) (waits : Nat) (error : CallError),
    requests.Opens waits (.item (.error error)) →
      Declines requests waits error (dispatcher.requestChannel requests)
  /-- A stream without requests is answered by an error. -/
  emptyChannel : ∀ (requests : Source ε (Outcome Message)) (waits : Nat),
    requests.Opens waits .ended →
      Declines requests waits missingRequest (dispatcher.requestChannel requests)
  /-- As long as no request comes, there is no answer. -/
  waitingChannel : ∀ (requests : Source ε (Outcome Message)) (count : Nat),
    (∀ turn ∈ requests.pulled count, turn.signal = .pending) →
      (dispatcher.requestChannel requests).pulled count = (requests.pulled count).map Turn.vain

section

variable {dispatcher : Dispatcher ε} {message : Message}

theorem requestStream_of_handler {respond : CodecRegistry → Message → Source ε (Outcome Message)}
    (finds : dispatcher.handler message .requestStream = .ok (.requestStream respond)) :
    dispatcher.requestStream message = respond dispatcher.codecs message := by
  rw [requestStream, finds]

theorem openChannel_of_handler
    {respond : CodecRegistry → Message → Source ε (Outcome Message) → Source ε (Outcome Message)}
    (finds : dispatcher.handler message .requestChannel = .ok (.requestChannel respond))
    (others : Source ε (Outcome Message)) :
    dispatcher.openChannel (some (.ok message)) others =
      respond dispatcher.codecs message others := by
  rw [openChannel, finds]

end

/-- The requests of a raw channel go to its handler, the first again in front. -/
theorem forwards_rawChannel {offer : Offer ε} {codecs : CodecRegistry} {dispatcher : Dispatcher ε}
    (built : build codecs offer.services = .ok dispatcher) {part : String × List (Registration ε)}
    (member : part ∈ offer) {action : String}
    {handle : Source ε (Outcome Message) → Source ε (Outcome Message)}
    (listed : .rawRequestChannel action handle ∈ part.2) {requests : Source ε (Outcome Message)}
    {waits : Nat} {first : Message} (opens : requests.Opens waits (.item (.ok first)))
    (named : first.qualifier = Qualifier.join part.1 action) :
    Forwards ((requests.pulled waits).map Turn.vain) (requests.since waits).next.1
      (handle (.cons (.ok first) (requests.since (waits + 1)))) id
      (dispatcher.requestChannel requests) := by
  refine Forwards.opening opens.first ?_
  rw [openChannel_of_handler (handler_of_registration built member listed rfl named)]
  exact forwards_guarded_id _

/-- The responses of a dispatcher are those of its handlers, up to the first error. -/
theorem responses_well_formed {offer : Offer ε} {codecs : CodecRegistry} {dispatcher : Dispatcher ε}
    (built : build codecs offer.services = .ok dispatcher) :
    WellFormed offer codecs dispatcher := by
  cases codecs_of_build built
  constructor
  case typedStream =>
    intro part member α β _ _ action handle listed message request named decodes
    have answers := requestStream_of_handler (handler_of_registration built member listed rfl named)
    simp only [decodes] at answers
    apply Forwards.wraps
    rw [answers, named]
    exact forwards_guarded _ _
  case undecodable =>
    intro part member α β _ _ action handle listed message error named fails
    have answers := requestStream_of_handler (handler_of_registration built member listed rfl named)
    simp only [fails] at answers
    exact answers
  case rawStream =>
    intro part member action handle listed message named
    rw [requestStream_of_handler (handler_of_registration built member listed rfl named)]
    exact forwards_guarded_id _
  case typedChannel =>
    intro part member α β _ _ action handle listed requests waits first opens named
    apply Forwards.wraps
    refine Forwards.opening opens.first ?_
    rw [openChannel_of_handler (handler_of_registration built member listed rfl named), named]
    exact forwards_guarded _ _
  case rawChannel =>
    intro part member action handle listed requests waits first opens named
    exact forwards_rawChannel built member listed opens named
  case refusedStream =>
    intro message error refused
    rw [requestStream, (handler_eq_error_iff built).mpr refused]
  case refusedChannel =>
    intro requests waits first error opens refused
    refine declines_opening opens.first ?_
    rw [openChannel, (handler_eq_error_iff built).mpr refused]
  case failedChannel =>
    intro requests waits error opens
    exact declines_opening opens.first rfl
  case emptyChannel =>
    intro requests waits opens
    exact declines_opening opens.absent rfl
  case waitingChannel =>
    intro requests count vain
    exact (Source.pulls_opening_of_vain dispatcher.openChannel count vain).1

/-- A service with a typed stream that fails in between and a raw channel. -/
def talk : Offer Unit :=
  [("talk", [.tag "zone" "eu",
    .requestStream String String "echo" fun text =>
      .ofList [.ok text, .error (.internal "lost"), .ok text],
    .rawRequestChannel "relay" id, .methodTag "relay" "zone" "north"])]

/-- Nothing comes behind the error of the stream, and a channel starts once its first request is
there. -/
theorem talk_well_formed : ∃ dispatcher, build .withJson talk.services = .ok dispatcher ∧
    WellFormed talk .withJson dispatcher ∧
      (dispatcher.requestStream
          ((Message.carrying "talk/echo" (.value (.str "hi"))).withStreamId "7")).signals 4 =
        [.item (.ok (((Message.carrying "talk/echo" (.value (.str "hi"))).withDataType
            (Wire.typeName String)).withStreamId "7")),
          .item (.error (.internal "lost")), .ended, .ended] ∧
      (dispatcher.requestChannel (.ofSignals [.pending, .item (.ok (.carrying "talk/relay" .empty)),
          .item (.error (.internal "gone"))])).signals 4 =
        [.pending, .item (.ok (.carrying "talk/relay" .empty)), .item (.error (.internal "gone")),
          .ended] :=
  ⟨_, rfl, responses_well_formed rfl, by rfl, by rfl⟩

end Dispatcher

end ServiceMesh
