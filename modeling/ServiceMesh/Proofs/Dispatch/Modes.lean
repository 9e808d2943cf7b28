import ServiceMesh.Proofs.Dispatch.Registrations
import ServiceMesh.Proofs.Flow.Pulls

/-!
# Handlers run in their own mode

A registration is for an action and a mode (`Registration.purpose?`), and it pairs a binding of
this mode with a handler of this mode (`Registration.methods_of_purpose`).  The table of a
dispatcher keeps such pairs together, so the handler that is found for a message in a mode serves
just this mode (`handler_eq_ok_iff`).

To see which handlers are invoked, each of them can be made to leave marks of its own
(`Dispatcher.noting`).  The main result is that an operation invokes the handler that is registered
under the qualifier of its message for its mode, once, and no other handler, and that it invokes
none if there is none, but gives the error that says why (`runs_in_own_mode`).
-/

namespace ServiceMesh

variable {ε : Type}

/-! ## What is registered for a mode -/

/-- The action and the mode that a registration is for.  Tags are for none. -/
def Registration.purpose? : Registration ε → Option (String × Mode)
  | .tag _ _ | .methodTag _ _ _ => none
  | @Registration.fireAndForget _ _ _ action _ => some (action, .fireAndForget)
  | @Registration.requestResponse _ _ _ _ _ action _ => some (action, .requestResponse)
  | @Registration.requestStream _ _ _ _ _ action _ => some (action, .requestStream)
  | @Registration.requestChannel _ _ _ _ _ action _ => some (action, .requestChannel)
  | .rawFireAndForget action _ => some (action, .fireAndForget)
  | .rawRequestResponse action _ => some (action, .requestResponse)
  | .rawRequestStream action _ => some (action, .requestStream)
  | .rawRequestChannel action _ => some (action, .requestChannel)

/-- A method is called by an action in a namespace, and both its binding and its handler are for a
mode. -/
structure Method.Suits (method : Method ε) (space action : String) (mode : Mode) : Prop where
  qualifier : method.binding.qualifier = Qualifier.join space action
  binding : method.binding.mode = mode
  handler : method.handler.mode = mode

/-- A registration for an action and a mode adds one method, which suits them. -/
theorem Registration.methods_of_purpose {registration : Registration ε} {action : String}
    {mode : Mode} (purpose : registration.purpose? = some (action, mode)) (space : String) :
    ∃ method, registration.methods space = [method] ∧ method.Suits space action mode := by
  cases registration <;> cases purpose <;> exact ⟨_, rfl, rfl, rfl, rfl⟩

/-- A registration for nothing adds nothing. -/
theorem Registration.methods_eq_nil {registration : Registration ε}
    (purpose : registration.purpose? = none) (space : String) :
    registration.methods space = [] := by
  cases registration <;> cases purpose <;> rfl

/-- An offer has a handler under a qualifier for a mode: one of its registrations is for this mode
and for an action that has this qualifier in the namespace of the service, and has added the
handler. -/
inductive Offer.Registers (offer : Offer ε) (qualifier : String) (mode : Mode)
    (handler : Handler ε) : Prop where
  | of {part : String × List (Registration ε)} {registration : Registration ε} {action : String}
      {method : Method ε} (member : part ∈ offer) (listed : registration ∈ part.2)
      (purpose : registration.purpose? = some (action, mode))
      (named : Qualifier.join part.1 action = qualifier)
      (adds : registration.methods part.1 = [method]) (serves : method.handler = handler) :
      Registers offer qualifier mode handler

section

variable {offer : Offer ε} {qualifier : String} {mode : Mode} {handler : Handler ε}

/-- Every method of an offer is registered, for the mode of its binding. -/
theorem Offer.registers_of_mem {method : Method ε} (among : method ∈ offer.methods) :
    offer.Registers method.binding.qualifier method.binding.mode method.handler := by
  rcases List.mem_flatMap.mp among with ⟨part, member, within⟩
  rcases List.mem_flatMap.mp within with ⟨registration, listed, added⟩
  cases purpose : registration.purpose? with
  | none =>
      rw [Registration.methods_eq_nil purpose] at added
      cases added
  | some target =>
      rcases Registration.methods_of_purpose purpose part.1 with ⟨same, adds, suits⟩
      rw [adds, List.mem_singleton] at added
      subst added
      exact .of member listed (suits.binding ▸ purpose) suits.qualifier.symm adds rfl

/-- What is registered for a mode is a method with this mode in its binding and in its handler. -/
theorem Offer.Registers.exists_method (registers : offer.Registers qualifier mode handler) :
    ∃ method ∈ offer.methods, method.binding.qualifier = qualifier ∧
      method.binding.mode = mode ∧ method.handler = handler ∧ handler.mode = mode := by
  rcases registers with ⟨member, listed, purpose, rfl, adds, rfl⟩
  rename_i part registration action method
  rcases Registration.methods_of_purpose purpose part.1 with ⟨same, also, suits⟩
  cases adds.symm.trans also
  exact ⟨method, mem_methods_of_registration member listed adds, suits.qualifier, suits.binding,
    rfl, suits.handler⟩

end

/-! ## Reactions -/

/-- What an operation of a dispatcher gives to the caller. -/
inductive Reaction (ε : Type) : Type 1 where
  /-- The acceptance of a call without response. -/
  | launch (outcome : Outcome (Launch ε (Outcome Unit)))
  /-- One response. -/
  | reply (reply : Reply ε (Outcome Message))
  /-- A stream of responses. -/
  | stream (responses : Source ε (Outcome Message))

/-- Marks before all that comes of a computation in the background. -/
def Launch.afterMarks {α : Type} (marks : List ε) : Launch ε α → Launch ε α
  | .crashed own cause => .crashed (marks ++ own) cause
  | .running task => .running ((Reply.noting marks ()).andThen fun _ => task)

/-- Marks before all that comes of a reaction.  Where nothing was started there are none. -/
def Reaction.afterMarks (marks : List ε) : Reaction ε → Reaction ε
  | .launch outcome => .launch (outcome.map (Launch.afterMarks marks))
  | .reply result => .reply ((Reply.noting marks ()).andThen fun _ => result)
  | .stream responses => .stream (responses.afterMarks marks)

/-- Nothing but one error, in the form that an operation in a mode gives it.  A channel gives up its
further requests. -/
def Reaction.declined (others : Source ε (Outcome Message)) (error : CallError) :
    Mode → Reaction ε
  | .fireAndForget => .launch (.error error)
  | .requestResponse => .reply (.of (.error error))
  | .requestStream => .stream (.failed error)
  | .requestChannel => .stream (others.instead (.failed error))

/-- The operation of a dispatcher in a mode on a message; only channels have further requests. -/
def Dispatcher.react (dispatcher : Dispatcher ε) (message : Message)
    (others : Source ε (Outcome Message)) : Mode → Reaction ε
  | .fireAndForget => .launch (dispatcher.fireAndForget message)
  | .requestResponse => .reply (dispatcher.requestResponse message)
  | .requestStream => .stream (dispatcher.requestStream message)
  | .requestChannel => .stream (dispatcher.openChannel (some (.ok message)) others)

/-- What comes of a handler that is invoked with a message. -/
def Handler.react (codecs : CodecRegistry) (message : Message)
    (others : Source ε (Outcome Message)) : Handler ε → Reaction ε
  | .fireAndForget start => .launch (.ok (start codecs message))
  | .requestResponse respond => .reply (respond codecs message)
  | .requestStream respond => .stream (respond codecs message)
  | .requestChannel respond => .stream (respond codecs message others)

/-- The handler that leaves marks each time it is invoked, before its own. -/
def Handler.noting (marks : List ε) : Handler ε → Handler ε
  | .fireAndForget start =>
    .fireAndForget fun codecs message => (start codecs message).afterMarks marks
  | .requestResponse respond =>
    .requestResponse fun codecs message =>
      (Reply.noting marks ()).andThen fun _ => respond codecs message
  | .requestStream respond =>
    .requestStream fun codecs message => (respond codecs message).afterMarks marks
  | .requestChannel respond =>
    .requestChannel fun codecs message others => (respond codecs message others).afterMarks marks

/-- The dispatcher whose handlers leave the marks of their qualifiers each time they are invoked. -/
def Dispatcher.noting (note : String → List ε) (dispatcher : Dispatcher ε) : Dispatcher ε :=
  { dispatcher with
    methods := dispatcher.methods.map fun method =>
      { method with handler := method.handler.noting (note method.binding.qualifier) } }

theorem Handler.mode_noting (marks : List ε) (handler : Handler ε) :
    (handler.noting marks).mode = handler.mode := by
  cases handler <;> rfl

theorem Handler.react_noting (marks : List ε) (handler : Handler ε) (codecs : CodecRegistry)
    (message : Message) (others : Source ε (Outcome Message)) :
    (handler.noting marks).react codecs message others =
      (handler.react codecs message others).afterMarks marks := by
  cases handler <;> rfl

namespace Dispatcher

variable {dispatcher : Dispatcher ε} {message : Message} {mode : Mode} {handler : Handler ε}

/-- An operation that finds a handler of its mode invokes it. -/
theorem react_of_handler (finds : dispatcher.handler message mode = .ok handler)
    (own : handler.mode = mode) (others : Source ε (Outcome Message)) :
    dispatcher.react message others mode = handler.react dispatcher.codecs message others := by
  cases mode <;> cases handler <;> cases own
  case fireAndForget => rw [react, fireAndForget, finds, Handler.react]
  case requestResponse => rw [react, requestResponse, finds, Handler.react]
  case requestStream => rw [react, requestStream, finds, Handler.react]
  case requestChannel => rw [react, openChannel, finds, Handler.react]

/-- An operation that finds no handler gives the error that says why. -/
theorem react_of_error {error : CallError} (fails : dispatcher.handler message mode = .error error)
    (others : Source ε (Outcome Message)) :
    dispatcher.react message others mode = .declined others error mode := by
  cases mode with
  | fireAndForget => rw [react, fireAndForget, fails, Reaction.declined]
  | requestResponse => rw [react, requestResponse, fails, Reaction.declined]
  | requestStream => rw [react, requestStream, fails, Reaction.declined]
  | requestChannel => rw [react, openChannel, fails, Reaction.declined]

/-! ## Main result -/

variable {offer : Offer ε} {codecs : CodecRegistry}

/-- A message whose qualifier is registered for another mode, or not at all, is refused. -/
theorem refused_of_mismatch {other : Mode}
    (registers : offer.Registers message.qualifier other handler) (apart : other ≠ mode) :
    Refused offer mode message (.badRequest
      s!"'{message.qualifier}' is a {other.title} method, called as {mode.title}") := by
  rcases registers.exists_method with ⟨method, member, named, rfl, -⟩
  rw [← named]
  exact .wrongMode member named apart

theorem refused_of_unknown (present : message.qualifier ≠ "")
    (absent : ∀ other handler, ¬ offer.Registers message.qualifier other handler) :
    Refused offer mode message
      (.unavailable s!"No service registered for '{message.qualifier}'") :=
  .unknown present fun _ member named => absent _ _ (named ▸ Offer.registers_of_mem member)

/-- A message is refused in a mode if nothing is registered under its qualifier for this mode. -/
theorem exists_refused (absent : ∀ handler, ¬ offer.Registers message.qualifier mode handler) :
    ∃ error, Refused offer mode message error := by
  by_cases missing : message.qualifier = ""
  · exact ⟨_, .unnamed missing⟩
  by_cases known : ∃ other handler, offer.Registers message.qualifier other handler
  · rcases known with ⟨other, handler, registers⟩
    have apart : other ≠ mode := by
      rintro rfl
      exact absent handler registers
    exact ⟨_, refused_of_mismatch registers apart⟩
  · exact ⟨_, refused_of_unknown missing fun other handler registers =>
      known ⟨other, handler, registers⟩⟩

/-- For a message in a mode that handler is found which is registered under its qualifier for it. -/
theorem handler_eq_ok_iff (built : build codecs offer.services = .ok dispatcher) :
    dispatcher.handler message mode = .ok handler ↔
      offer.Registers message.qualifier mode handler := by
  have found : ∀ {handler}, offer.Registers message.qualifier mode handler →
      dispatcher.handler message mode = .ok handler := by
    intro handler registers
    rcases registers.exists_method with ⟨method, member, named, rfl, rfl, -⟩
    rw [handler_of_registered built member named.symm, if_pos rfl]
  refine ⟨fun finds => ?_, found⟩
  by_cases known : ∃ other, offer.Registers message.qualifier mode other
  · rcases known with ⟨other, registers⟩
    cases finds.symm.trans (found registers)
    exact registers
  · rcases exists_refused fun other registers => known ⟨other, registers⟩ with ⟨error, refused⟩
    cases finds.symm.trans ((handler_eq_error_iff built).mpr refused)

/-- The handlers that leave marks are found like those that do not. -/
theorem handler_noting (built : build codecs offer.services = .ok dispatcher)
    (note : String → List ε) (message : Message) (mode : Mode) :
    (dispatcher.noting note).handler message mode =
      (dispatcher.handler message mode).map (Handler.noting (note message.qualifier)) := by
  rw [handler, handler, noting, Dict.get?_map]
  by_cases missing : message.qualifier = ""
  · rw [if_pos missing, if_pos missing]
    rfl
  rw [if_neg missing, if_neg missing]
  cases found : dispatcher.methods.get? message.qualifier with
  | none => rfl
  | some method =>
      have named := ((get?_of_build built).mp found).2
      simp only [Option.map_some]
      by_cases own : method.binding.mode = mode
      · rw [if_pos own, if_pos own, ← named]
        rfl
      · rw [if_neg own, if_neg own]
        rfl

/-- A channel waits for its first message, and then goes on with what comes of this message. -/
def ChannelsReact (dispatcher : Dispatcher ε) : Prop :=
  ∀ (requests : Source ε (Outcome Message)) (waits : Nat) (first : Message),
    requests.Opens waits (.item (.ok first)) →
      ∃ responses : Source ε (Outcome Message),
        dispatcher.react first (requests.since (waits + 1)) .requestChannel = .stream responses ∧
          ∀ count, (dispatcher.requestChannel requests).pulled (waits + count) =
            (requests.pulled waits).map Turn.vain ++
              markFirst (requests.since waits).next.1 (responses.pulled count)

theorem channelsReact (dispatcher : Dispatcher ε) : dispatcher.ChannelsReact :=
  fun _ _ _ opens => ⟨_, rfl, Source.pulled_opening dispatcher.openChannel opens.first⟩

/-- Each handler of a dispatcher is invoked by the operations of its own mode on messages with its
own qualifier, and by no others. -/
structure RunsInOwnMode (offer : Offer ε) (dispatcher : Dispatcher ε) : Prop where
  /-- What a handler gives is given to the caller, if it is registered under the qualifier of the
  message for the mode of the operation. -/
  answered : ∀ (message : Message) (others : Source ε (Outcome Message)) (mode : Mode)
      (handler : Handler ε), offer.Registers message.qualifier mode handler →
    dispatcher.react message others mode = handler.react dispatcher.codecs message others
  /-- This handler is invoked, once, and no other. -/
  invoked : ∀ (message : Message) (others : Source ε (Outcome Message)) (mode : Mode)
      (handler : Handler ε), offer.Registers message.qualifier mode handler →
    ∀ note : String → List ε, (dispatcher.noting note).react message others mode =
      (dispatcher.react message others mode).afterMarks (note message.qualifier)
  /-- Otherwise none is invoked. -/
  spared : ∀ (message : Message) (others : Source ε (Outcome Message)) (mode : Mode),
    (∀ handler, ¬ offer.Registers message.qualifier mode handler) →
      ∀ note : String → List ε, (dispatcher.noting note).react message others mode =
        dispatcher.react message others mode
  /-- A message without a qualifier is a bad request. -/
  unnamed : ∀ (message : Message) (others : Source ε (Outcome Message)) (mode : Mode),
    message.qualifier = "" →
      dispatcher.react message others mode =
        .declined others (.badRequest "Missing required header 'q'") mode
  /-- A qualifier under which nothing is registered is unavailable. -/
  unknown : ∀ (message : Message) (others : Source ε (Outcome Message)) (mode : Mode),
    message.qualifier ≠ "" →
      (∀ other handler, ¬ offer.Registers message.qualifier other handler) →
        dispatcher.react message others mode =
          .declined others
            (.unavailable s!"No service registered for '{message.qualifier}'") mode
  /-- A qualifier that is registered for another mode is a bad request. -/
  mismatched : ∀ (message : Message) (others : Source ε (Outcome Message)) (mode other : Mode)
      (handler : Handler ε), offer.Registers message.qualifier other handler → other ≠ mode →
    dispatcher.react message others mode =
      .declined others (.badRequest
        s!"'{message.qualifier}' is a {other.title} method, called as {mode.title}") mode
  /-- No operation ever finds a handler for another mode than its own. -/
  matching : ∀ (message : Message) (mode : Mode) (handler : Handler ε),
    dispatcher.handler message mode = .ok handler → handler.mode = mode
  /-- All this holds of the operation on the first message of a channel, once it has come. -/
  channel : dispatcher.ChannelsReact ∧ ∀ note, (dispatcher.noting note).ChannelsReact

/-- The handlers of registered services run in their own mode. -/
theorem runs_in_own_mode (built : build codecs offer.services = .ok dispatcher) :
    RunsInOwnMode offer dispatcher := by
  have found : ∀ {message mode handler}, offer.Registers message.qualifier mode handler →
      dispatcher.handler message mode = .ok handler ∧ handler.mode = mode := by
    intro message mode handler registers
    rcases registers.exists_method with ⟨-, -, -, -, -, own⟩
    exact ⟨(handler_eq_ok_iff built).mpr registers, own⟩
  have declined : ∀ {message mode error}, Refused offer mode message error → ∀ others,
      dispatcher.react message others mode = .declined others error mode :=
    fun refused => react_of_error ((handler_eq_error_iff built).mpr refused)
  constructor
  case answered =>
    intro message others mode handler registers
    exact react_of_handler (found registers).1 (found registers).2 others
  case invoked =>
    intro message others mode handler registers note
    rcases found registers with ⟨finds, own⟩
    have noted := handler_noting built note message mode
    rw [finds] at noted
    rw [react_of_handler noted ((Handler.mode_noting _ _).trans own),
      react_of_handler finds own, ← Handler.react_noting]
    rfl
  case spared =>
    intro message others mode absent note
    rcases exists_refused absent with ⟨error, refused⟩
    have noted := handler_noting built note message mode
    rw [(handler_eq_error_iff built).mpr refused] at noted
    rw [react_of_error noted, declined refused]
  case unnamed => exact fun message others mode missing => declined (.unnamed missing) others
  case unknown =>
    exact fun message others mode present absent =>
      declined (refused_of_unknown present absent) others
  case mismatched =>
    exact fun message others mode other handler registers apart =>
      declined (refused_of_mismatch registers apart) others
  case matching =>
    intro message mode handler finds
    exact (found ((handler_eq_ok_iff built).mp finds)).2
  case channel => exact ⟨channelsReact dispatcher, fun note => channelsReact _⟩

/-- A service with a handler of values for one mode and a handler of messages for another. -/
def counter : Offer String :=
  [("count", [.requestStream String String "up" fun text => .ofList [.ok text],
    .rawFireAndForget "reset" fun _ => .running (.noting ["reset"] (.ok ())), .tag "zone" "eu"])]

/-- A call in the mode of the method starts the handler, and a call in another mode does not. -/
theorem counter_runs_in_own_mode :
    ∃ dispatcher, build .withJson counter.services = .ok dispatcher ∧
      RunsInOwnMode counter dispatcher ∧
        dispatcher.fireAndForget (.carrying "count/reset" .empty) =
          .ok (.running (.noting ["reset"] (.ok ()))) ∧
        (dispatcher.noting fun qualifier => [qualifier]).fireAndForget
            (.carrying "count/reset" .empty) =
          .ok (.running (.noting ["count/reset", "reset"] (.ok ()))) ∧
        (dispatcher.noting fun qualifier => [qualifier]).requestResponse
            (.carrying "count/up" .empty) =
          .of (.error (.badRequest
            "'count/up' is a request-stream method, called as request-response")) :=
  ⟨_, rfl, runs_in_own_mode rfl, by rfl, by rfl, by rfl⟩

end Dispatcher

end ServiceMesh
