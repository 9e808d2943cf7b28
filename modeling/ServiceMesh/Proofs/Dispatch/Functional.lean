import ServiceMesh.Proofs.Codec.Envelope
import ServiceMesh.Proofs.Dispatch.Table
import ServiceMesh.Proofs.Flow.Signals

/-!
# Dispatchers of functions

A service is functional if its typed handlers answer by functions of the decoded request, or of the
list of decoded requests.  A dispatcher of such services answers every call in each of its modes, and
the answers depend on the requests up to the form of their payloads only, whether the requests of a
channel are all there from the start or arrive one after the other.
-/

namespace ServiceMesh

variable {ε : Type}

/-- A service that is built from typed handlers which are functions. -/
inductive Service.Functional : Service ε → Prop where
  | named (space : String) : Functional (.named space)
  | withTag {service : Service ε} (key value : String) (functional : Functional service) :
      Functional (service.withTag key value)
  | withMethodTag {service : Service ε} (action key value : String)
      (functional : Functional service) : Functional (service.withMethodTag action key value)
  /-- What such a handler does has no influence on what the caller learns. -/
  | fireAndForget (α : Type) [Wire α] {service : Service ε} (action : String)
      (handle : α → Reply ε (Outcome Unit)) (functional : Functional service) :
      Functional (service.fireAndForget α action handle)
  | requestResponse (α β : Type) [Wire α] [Wire β] {service : Service ε} (action : String)
      (answer : α → Outcome β) (functional : Functional service) :
      Functional (service.requestResponse α β action fun request => .of (answer request))
  | requestStream (α β : Type) [Wire α] [Wire β] {service : Service ε} (action : String)
      (answer : α → List (Outcome β)) (functional : Functional service) :
      Functional (service.requestStream α β action fun request => .ofList (answer request))
  | requestChannel (α β : Type) [Wire α] [Wire β] {service : Service ε} (action : String)
      (answer : List (Outcome α) → List (Outcome β)) (functional : Functional service) :
      Functional (service.requestChannel α β action (.gathering answer))

/-- A handler of a functional service. -/
inductive Handler.Functional : Handler ε → Prop where
  | fireAndForget (start : CodecRegistry → Message → Launch ε (Outcome Unit)) :
      Functional (.fireAndForget start)
  | requestResponse (α β : Type) [Wire α] [Wire β] (qualifier : String) (answer : α → Outcome β) :
      Functional (.requestResponse fun codecs message =>
        ((Reply.of (message.decodeData α codecs)).andThenOk fun request =>
          .of (answer request)).andThenOk fun response =>
            .of (wrapResponse qualifier message.streamId response))
  | requestStream (α β : Type) [Wire α] [Wire β] (qualifier : String)
      (answer : α → List (Outcome β)) :
      Functional (.requestStream fun codecs message =>
        match message.decodeData α codecs with
        | .error error => .failed error
        | .ok request =>
          ((Source.ofList (answer request)).mapOutcome
            (wrapResponse qualifier message.streamId)).guarded)
  | requestChannel (α β : Type) [Wire α] [Wire β] (qualifier : String)
      (answer : List (Outcome α) → List (Outcome β)) :
      Functional (.requestChannel fun codecs first others =>
        ((Source.gathering answer ((Source.cons (.ok first) others).mapOutcome fun message =>
          message.decodeData α codecs)).mapOutcome
            (wrapResponse qualifier first.streamId)).guarded)

theorem Service.Functional.handler {service : Service ε} (functional : service.Functional) :
    ∀ method ∈ service.methods, method.handler.Functional := by
  induction functional with
  | named space => simp [Service.named]
  | withTag key value _ induction => exact induction
  | withMethodTag action key value _ induction =>
      intro method member
      rcases exists_of_mem_tagFirst action key value member with ⟨untagged, among, -, same⟩
      exact same ▸ induction untagged among
  | fireAndForget α action handle _ induction =>
      intro method member
      rcases List.mem_append.mp member with earlier | added
      · exact induction method earlier
      · rw [List.mem_singleton.mp added]
        exact .fireAndForget _
  | requestResponse α β action answer _ induction =>
      intro method member
      rcases List.mem_append.mp member with earlier | added
      · exact induction method earlier
      · rw [List.mem_singleton.mp added]
        exact .requestResponse α β _ answer
  | requestStream α β action answer _ induction =>
      intro method member
      rcases List.mem_append.mp member with earlier | added
      · exact induction method earlier
      · rw [List.mem_singleton.mp added]
        exact .requestStream α β _ answer
  | requestChannel α β action answer _ induction =>
      intro method member
      rcases List.mem_append.mp member with earlier | added
      · exact induction method earlier
      · rw [List.mem_singleton.mp added]
        exact .requestChannel α β _ answer

namespace Dispatcher

/-- A dispatcher of functional handlers. -/
def Functional (dispatcher : Dispatcher ε) : Prop :=
  ∀ key method, dispatcher.methods.get? key = some method → method.handler.Functional

/-- What is built from functional services is functional. -/
theorem functional_of_build {codecs : CodecRegistry} {services : List (Service ε)}
    {dispatcher : Dispatcher ε} (functional : ∀ service ∈ services, service.Functional)
    (built : build codecs services = .ok dispatcher) : dispatcher.Functional := by
  intro key method found
  rcases List.mem_flatMap.mp ((get?_of_build built).mp found).1 with ⟨service, member, within⟩
  exact (functional service member).handler method within

end Dispatcher

/-! ## Answers -/

theorem Message.decodeData_of_alike {codecs : CodecRegistry} {first second : Message}
    (alike : first.Alike codecs second) (α : Type) [Wire α] :
    first.decodeData α codecs = second.decodeData α codecs := by
  rw [decodeData, decodeData, alike.value, alike.qualifier]

/-- A message without application headers and data format. -/
structure Message.Bare (message : Message) : Prop where
  headers : message.headers = Dict.empty
  format : message.dataFormat = none

theorem bare_wrapResponse {β : Type} [Wire β] {qualifier : String} {streamId : Option String}
    {value : β} {response : Message}
    (wrapped : wrapResponse qualifier streamId value = .ok response) : response.Bare := by
  rw [wrapResponse] at wrapped
  split at wrapped
  · cases wrapped
  · rw [Except.ok.injEq] at wrapped
    subst wrapped
    cases streamId <;> exact ⟨rfl, rfl⟩

/-- Answers as functions give them: an error can only come last, and responses are bare. -/
structure Regular (outcomes : List (Outcome Message)) : Prop where
  last : ∀ outcome ∈ outcomes.dropLast, ∃ response, outcome = .ok response
  bare : ∀ response, .ok response ∈ outcomes → response.Bare

theorem regular_error (error : CallError) : Regular [.error error] :=
  ⟨by simp, by simp⟩

theorem mem_untilError {α : Type} {outcomes : List (Outcome α)} {outcome : Outcome α}
    (member : outcome ∈ Source.untilError outcomes) : outcome ∈ outcomes := by
  fun_induction Source.untilError outcomes with
  | case1 => exact member
  | case2 value outcomes induction =>
      rcases List.mem_cons.mp member with rfl | later
      · exact List.mem_cons_self
      · exact List.mem_cons_of_mem _ (induction later)
  | case3 error outcomes =>
      rw [List.mem_singleton.mp member]
      exact List.mem_cons_self

theorem ok_of_mem_untilError {α : Type} {outcomes : List (Outcome α)} {outcome : Outcome α}
    (member : outcome ∈ (Source.untilError outcomes).dropLast) : ∃ value, outcome = .ok value := by
  fun_induction Source.untilError outcomes with
  | case1 => cases member
  | case2 value outcomes induction =>
      cases rest : Source.untilError outcomes with
      | nil =>
          rw [rest] at member
          cases member
      | cons next others =>
          rw [rest, List.dropLast_cons_cons] at member
          rcases List.mem_cons.mp member with rfl | later
          · exact ⟨value, rfl⟩
          · exact induction (rest ▸ later)
  | case3 error outcomes => cases member

theorem regular_response {β : Type} [Wire β] (qualifier : String) (streamId : Option String)
    (outcome : Outcome β) : Regular [outcome.bind (wrapResponse qualifier streamId)] := by
  refine ⟨by simp, fun response member => ?_⟩
  cases outcome with
  | error error => simp [Except.bind] at member
  | ok value => exact bare_wrapResponse (List.mem_singleton.mp member).symm

theorem regular_wrapped {β : Type} [Wire β] (qualifier : String) (streamId : Option String)
    (outcomes : List (Outcome β)) :
    Regular (Source.untilError (outcomes.map fun outcome =>
      outcome.bind (wrapResponse qualifier streamId))) := by
  refine ⟨fun outcome => ok_of_mem_untilError, fun response member => ?_⟩
  rcases List.mem_map.mp (mem_untilError member) with ⟨outcome, -, wrapped⟩
  cases outcome with
  | error error => cases wrapped
  | ok value => exact bare_wrapResponse wrapped

theorem Source.yields_mapOutcome {α β : Type} {source : Source ε (Outcome α)}
    {outcomes : List (Outcome α)} (yields : source.Yields outcomes)
    (rewriteItem : α → Outcome β) :
    (source.mapOutcome rewriteItem).Yields
      (outcomes.map fun outcome => outcome.bind rewriteItem) :=
  (mimics_map source fun outcome => outcome.bind rewriteItem).gives yields

namespace Dispatcher

variable {dispatcher : Dispatcher ε}

theorem handler_of_qualifier {first second : Message}
    (same : first.qualifier = second.qualifier) (mode : Mode) :
    dispatcher.handler first mode = dispatcher.handler second mode := by
  rw [handler, handler, same]

theorem Functional.handler (functional : dispatcher.Functional) {message : Message} {mode : Mode}
    {found : Handler ε} (finds : dispatcher.handler message mode = .ok found) :
    found.Functional := by
  rw [Dispatcher.handler] at finds
  split at finds
  · cases finds
  · split at finds
    · cases finds
    · rename_i method present
      split at finds
      · rw [Except.ok.injEq] at finds
        exact finds ▸ functional _ method present
      · cases finds

theorem conclusion_andThenOk {α β : Type} (outcome : Outcome α) (answer : α → Outcome β)
    (wrap : β → Outcome Message) :
    (((Reply.of outcome : Reply ε _).andThenOk fun request => .of (answer request)).andThenOk
      fun response => .of (wrap response)).conclusion = .done ((outcome.bind answer).bind wrap) := by
  cases outcome with
  | error error => rfl
  | ok request =>
      cases answered : answer request with
      | error error => simp [Reply.of, Reply.andThenOk, Reply.andThen, Except.bind, answered]
      | ok response => simp [Reply.of, Reply.andThenOk, Reply.andThen, Except.bind, answered]

/-- A request has one response, which does not depend on the form of the payload. -/
theorem requestResponse_answered (functional : dispatcher.Functional) (message : Message) :
    ∃ result, Regular [result] ∧ ∀ other : Message, other.Alike dispatcher.codecs message →
      (dispatcher.requestResponse other).conclusion = .done result := by
  cases finds : dispatcher.handler message .requestResponse with
  | error error =>
      refine ⟨.error error, regular_error error, fun other alike => ?_⟩
      rw [requestResponse, handler_of_qualifier alike.qualifier, finds]
      rfl
  | ok found =>
      cases functional.handler finds with
      | requestResponse α β qualifier answer =>
          refine ⟨_, regular_response qualifier message.streamId
            ((message.decodeData α dispatcher.codecs).bind answer), fun other alike => ?_⟩
          rw [requestResponse, handler_of_qualifier alike.qualifier, finds, ← alike.streamId,
            ← Message.decodeData_of_alike alike]
          exact conclusion_andThenOk _ _ _
      | _ =>
          refine ⟨.error wrongHandler, regular_error wrongHandler, fun other alike => ?_⟩
          rw [requestResponse, handler_of_qualifier alike.qualifier, finds]
          rfl

/-- A request has a stream of responses, which does not depend on the form of the payload. -/
theorem requestStream_answered (functional : dispatcher.Functional) (message : Message) :
    ∃ outcomes, Regular outcomes ∧ ∀ other : Message, other.Alike dispatcher.codecs message →
      (dispatcher.requestStream other).Yields outcomes := by
  cases finds : dispatcher.handler message .requestStream with
  | error error =>
      refine ⟨[.error error], regular_error error, fun other alike => ?_⟩
      rw [requestStream, handler_of_qualifier alike.qualifier, finds]
      exact Source.yields_failed error
  | ok found =>
      cases functional.handler finds with
      | requestStream α β qualifier answer =>
          cases decodes : message.decodeData α dispatcher.codecs with
          | error error =>
              refine ⟨[.error error], regular_error error, fun other alike => ?_⟩
              rw [requestStream, handler_of_qualifier alike.qualifier, finds]
              simp only [Message.decodeData_of_alike alike, decodes]
              exact Source.yields_failed error
          | ok request =>
              refine ⟨_, regular_wrapped qualifier message.streamId (answer request),
                fun other alike => ?_⟩
              rw [requestStream, handler_of_qualifier alike.qualifier, finds, ← alike.streamId]
              simp only [Message.decodeData_of_alike alike, decodes]
              exact Source.gives_guarded (Source.yields_mapOutcome (Source.yields_ofList _) _)
      | _ =>
          refine ⟨[.error wrongHandler], regular_error wrongHandler, fun other alike => ?_⟩
          rw [requestStream, handler_of_qualifier alike.qualifier, finds]
          exact Source.yields_failed wrongHandler

theorem decode_of_alike {codecs : CodecRegistry} {received requests : List Message}
    (alike : List.Forall₂ (Message.Alike codecs) received requests) (α : Type) [Wire α] :
    (received.map .ok).map (fun outcome : Outcome Message =>
        outcome.bind fun message => message.decodeData α codecs) =
      requests.map fun message => message.decodeData α codecs := by
  induction alike with
  | nil => rfl
  | cons same _ induction =>
      rw [List.map_cons, List.map_cons, induction, List.map_cons]
      exact congrArg (· :: _) (Message.decodeData_of_alike same α)

/-- What a channel does with its first request and a source of further ones: if these end, there are
certain answers, and as long as they do not, there are either the same answers or none. -/
structure Answered (dispatcher : Dispatcher ε) (first : Message) (others : List Message)
    (outcomes : List (Outcome Message)) (head : Message) (further : Source ε (Outcome Message)) :
    Prop where
  ended : ∀ rest, List.Forall₂ (Message.Alike dispatcher.codecs) (head :: rest) (first :: others) →
    further.Yields (rest.map .ok) →
      (dispatcher.openChannel (some (.ok head)) further).Yields outcomes
  endless : further.Endless further.state →
    (dispatcher.openChannel (some (.ok head)) further).Yields outcomes ∨
      (dispatcher.openChannel (some (.ok head)) further).Waits

theorem answered_of_error {first head : Message} {others : List Message} {error : CallError}
    {further : Source ε (Outcome Message)}
    (fails : dispatcher.openChannel (some (.ok head)) further =
      further.instead (.failed error)) :
    Answered dispatcher first others [.error error] head further := by
  have yields : (dispatcher.openChannel (some (.ok head)) further).Yields [.error error] := by
    rw [fails]
    exact Source.yields_afterMarks _ (Source.yields_failed error)
  exact ⟨fun _ _ _ => yields, fun _ => .inl yields⟩

/-- A channel has a stream of responses, which depends neither on the form of the payloads nor on
when the requests arrive. -/
theorem requestChannel_answered (functional : dispatcher.Functional) (first : Message)
    (others : List Message) :
    ∃ outcomes, Regular outcomes ∧
      ∀ (head : Message) (further : Source ε (Outcome Message)),
        head.Alike dispatcher.codecs first →
          Answered dispatcher first others outcomes head further := by
  cases finds : dispatcher.handler first .requestChannel with
  | error error =>
      refine ⟨[.error error], regular_error error, fun head further alike => ?_⟩
      refine answered_of_error ?_
      rw [openChannel, handler_of_qualifier alike.qualifier, finds]
  | ok found =>
      cases functional.handler finds with
      | requestChannel α β qualifier answer =>
          refine ⟨_, regular_wrapped qualifier first.streamId
            (answer ((first :: others).map fun message =>
              message.decodeData α dispatcher.codecs)), fun head further alike => ?_⟩
          constructor
          · intro rest same ends
            rw [openChannel, handler_of_qualifier alike.qualifier, finds, ← alike.streamId,
              ← decode_of_alike same α]
            exact Source.gives_guarded (Source.yields_mapOutcome (Source.yields_gathering answer
              (Source.yields_mapOutcome (Source.yields_cons _ ends) _)) _)
          · intro endless
            refine .inr ?_
            rw [openChannel, handler_of_qualifier alike.qualifier, finds]
            apply Source.waits_guarded
            apply (Source.mimics_map _ _).silent
            apply Source.waits_gathering
            apply (Source.mimics_map _ _).endless
            exact Source.endless_cons endless
      | _ =>
          refine ⟨[.error wrongHandler], regular_error wrongHandler, fun head further alike => ?_⟩
          refine answered_of_error ?_
          rw [openChannel, handler_of_qualifier alike.qualifier, finds]

end Dispatcher

end ServiceMesh
