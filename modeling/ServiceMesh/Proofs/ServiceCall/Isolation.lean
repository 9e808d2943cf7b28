import ServiceMesh.Proofs.Dict
import ServiceMesh.Proofs.Flow.Likeness
import ServiceMesh.Proofs.ServiceCall.Traffic

/-!
# What is served and registered elsewhere

A call is dispatched and routed under the qualifier of its message.  `ServiceCall.only` keeps, of
all that a service call serves itself and of all instances that it knows, what belongs to one
qualifier.  A call under this qualifier takes the same way there (`route_only`), and nobody can tell
its answers from those of the full service call (`answer_only`).  The operations of a service call
are isolated in this sense (`Isolated`) from whatever belongs to other qualifiers.
-/

namespace ServiceMesh

universe u v

variable {ε χ ω : Type}

/-- The dispatcher with the method of one qualifier only. -/
def Dispatcher.only (dispatcher : Dispatcher ε) (qualifier : String) : Dispatcher ε :=
  { dispatcher with methods := dispatcher.methods.only qualifier }

/-- The registry with the references of one qualifier only. -/
def Registry.only (registry : Registry) (qualifier : String) : Registry :=
  { registry with index := registry.index.only qualifier }

/-! ## The dispatcher and the registry -/

theorem Dispatcher.get?_only (dispatcher : Dispatcher ε) (qualifier : String) :
    (dispatcher.only qualifier).methods.get? qualifier = dispatcher.methods.get? qualifier :=
  (Dict.get?_only _ _ _).trans (if_pos rfl)

theorem Dispatcher.contains_only (dispatcher : Dispatcher ε) (qualifier : String) :
    (dispatcher.only qualifier).contains qualifier = dispatcher.contains qualifier :=
  congrArg Option.isSome (dispatcher.get?_only qualifier)

theorem Registry.lookup_only (registry : Registry) (qualifier : String) :
    (registry.only qualifier).lookup qualifier = registry.lookup qualifier :=
  congrArg (Option.getD · []) ((Dict.get?_only _ _ _).trans (if_pos rfl))

section

variable (dispatcher : Dispatcher ε) (message : Message)

theorem Dispatcher.handler_only (mode : Mode) :
    (dispatcher.only message.qualifier).handler message mode = dispatcher.handler message mode := by
  rw [handler, handler, get?_only]

theorem Dispatcher.fireAndForget_only :
    (dispatcher.only message.qualifier).fireAndForget message =
      dispatcher.fireAndForget message := by
  rw [fireAndForget, fireAndForget, handler_only]
  rfl

theorem Dispatcher.requestResponse_only :
    (dispatcher.only message.qualifier).requestResponse message =
      dispatcher.requestResponse message := by
  rw [requestResponse, requestResponse, handler_only]
  rfl

theorem Dispatcher.requestStream_only :
    (dispatcher.only message.qualifier).requestStream message =
      dispatcher.requestStream message := by
  rw [requestStream, requestStream, handler_only]
  rfl

theorem Dispatcher.openChannel_only (others : Source ε (Outcome Message)) :
    (dispatcher.only message.qualifier).openChannel (some (.ok message)) others =
      dispatcher.openChannel (some (.ok message)) others := by
  simp only [openChannel, handler_only]
  rfl

end

/-- The first request of a channel selects its method, whatever the further ones are about. -/
theorem Dispatcher.requestChannel_only (dispatcher : Dispatcher ε) (first : Message)
    (others : Source ε (Outcome Message)) :
    (dispatcher.requestChannel (.cons (.ok first) others)).Alike
      ((dispatcher.only first.qualifier).requestChannel (.cons (.ok first) others)) := by
  -- The two openings differ on items that never come first, so they are alike but not equal.
  refine Source.Alike.opening_cons fun rest => ?_
  rw [openChannel_only]
  exact .refl _

/-! ## Service calls -/

namespace ServiceCall

/-- The service call that serves and knows nothing but what belongs to one qualifier. -/
def only (call : ServiceCall ε χ ω) (qualifier : String) : ServiceCall ε χ ω :=
  { call with
    dispatcher := call.dispatcher.map (·.only qualifier)
    registry := call.registry.only qualifier }

/-- The target with its dispatcher reduced to one qualifier. -/
def Target.only (qualifier : String) : Target ε χ ω → Target ε χ ω
  | .refused error => .refused error
  | .inProcess dispatcher => .inProcess (dispatcher.only qualifier)
  | .remote transport address => .remote transport address

/-- Answers that nobody can tell apart. -/
inductive Answers.Alike : Answers ε χ → Answers ε χ → Prop
  | acceptance (reply : Reply (CallMark ε χ) (Outcome Unit)) :
      Alike (.acceptance reply) (.acceptance reply)
  | response (reply : Reply (CallMark ε χ) (Outcome Message)) :
      Alike (.response reply) (.response reply)
  | responses {source other : Source (CallMark ε χ) (Outcome Message)}
      (alike : source.Alike other) : Alike (.responses source) (.responses other)

theorem Answers.Alike.refl (answers : Answers ε χ) : answers.Alike answers := by
  cases answers with
  | acceptance reply => exact .acceptance reply
  | response reply => exact .response reply
  | responses source => exact .responses (Source.Alike.refl source)

theorem localTarget_only (call : ServiceCall ε χ ω) (message : Message) :
    (call.only message.qualifier).localTarget message =
      (call.localTarget message).map (·.only message.qualifier) := by
  rw [localTarget, localTarget]
  show (call.dispatcher.map _).filter _ = _
  cases call.dispatcher with
  | none => rfl
  | some dispatcher =>
      rw [Option.map_some, Option.filter_some, Option.filter_some, Dispatcher.contains_only]
      split <;> rfl

theorem route_only (call : ServiceCall ε χ ω) (message : Message) :
    (call.only message.qualifier).route message =
      (call.route message).map (·.only message.qualifier) (Target.only message.qualifier) := by
  rw [route, route, localTarget_only]
  by_cases unnamed : message.qualifier = ""
  · rw [if_pos unnamed, if_pos unnamed]
    rfl
  · rw [if_neg unnamed, if_neg unnamed]
    cases call.localTarget message with
    | some dispatcher => rfl
    | none =>
        have same : (call.only message.qualifier).router.route
            (call.only message.qualifier).registry message =
              call.router.route call.registry message := by
          rw [Router.route, Router.route]
          exact congrArg (call.router.select message) (Registry.lookup_only _ _)
        simp only [Option.map_none, same]
        rcases call.router.route call.registry message with ⟨_ | reference, router⟩
        · rfl
        · have kept : (call.only message.qualifier).transport = call.transport := rfl
          rw [kept]
          cases call.transport <;> rfl

theorem reach_only (call : ServiceCall ε χ ω) (qualifier : String)
    (transport : Transport ε χ ω) (address : Address) :
    (call.only qualifier).reach transport address =
      { call.reach transport address with
        call := (call.reach transport address).call.only qualifier } := by
  rw [reach, reach]
  have same : (call.only qualifier).cache = call.cache := rfl
  simp only [same]
  split <;> rfl

theorem served_only (request : Request ε) (dispatcher : Dispatcher ε) :
    (request.served dispatcher : Answers ε χ).Alike
      (request.served (dispatcher.only request.message.qualifier)) := by
  cases request with
  | fireAndForget message =>
      simp only [Request.served, Request.message, Dispatcher.fireAndForget_only]
      exact .refl _
  | requestResponse message =>
      simp only [Request.served, Request.message, Dispatcher.requestResponse_only]
      exact .refl _
  | requestStream message =>
      simp only [Request.served, Request.message, Dispatcher.requestStream_only]
      exact .refl _
  | requestChannel freshId first others =>
      exact .responses ((dispatcher.requestChannel_only _ _).mapMarks _)

theorem answer_only (call : ServiceCall ε χ ω) (request : Request ε) :
    ((call.only request.message.qualifier).answer request).1 =
        (call.answer request).1.only request.message.qualifier ∧
      (call.answer request).2.Alike
        ((call.only request.message.qualifier).answer request).2 := by
  rw [answer_eq, answer_eq, route_only]
  rcases call.route request.message with ⟨after, error | dispatcher | ⟨transport, address⟩⟩
  · exact ⟨rfl, .refl _⟩
  · exact ⟨rfl, served_only request dispatcher⟩
  · have reached := reach_only after request.message.qualifier transport address
    simp only [Prod.map, Target.only, reached]
    exact ⟨trivial, .refl _⟩

/-! ## The operations -/

/-- A call comes to the same, in the full service call and in the one for one qualifier. -/
structure Isolated (qualifier : String) {ρ : Type u} (same : ρ → ρ → Prop)
    (full alone : ServiceCall ε χ ω × ρ) : Prop where
  after : alone.1 = full.1.only qualifier
  answers : same full.2 alone.2

/-- What is made of the answers is the same as well. -/
theorem Isolated.map {qualifier : String} {ρ : Type u} {τ : Type v} {same : ρ → ρ → Prop}
    {alike : τ → τ → Prop} {full alone : ServiceCall ε χ ω × ρ}
    (isolated : Isolated qualifier same full alone) {rewrite : ρ → τ}
    (keeps : ∀ answers others, same answers others → alike (rewrite answers) (rewrite others)) :
    Isolated qualifier alike (full.map id rewrite) (alone.map id rewrite) :=
  ⟨isolated.after, keeps _ _ isolated.answers⟩

theorem isolated_self (call : ServiceCall ε χ ω) (qualifier : String) {ρ : Type u}
    {same : ρ → ρ → Prop} {answers : ρ} (reflexive : same answers answers) :
    Isolated qualifier same (call, answers) (call.only qualifier, answers) :=
  ⟨rfl, reflexive⟩

theorem Answers.Alike.acceptance_eq {reply other : Reply (CallMark ε χ) (Outcome Unit)}
    (alike : Alike (.acceptance reply) (.acceptance other)) : reply = other := by
  cases alike
  rfl

theorem Answers.Alike.response_eq {reply other : Reply (CallMark ε χ) (Outcome Message)}
    (alike : Alike (.response reply) (.response other)) : reply = other := by
  cases alike
  rfl

theorem Answers.Alike.of_responses {source other : Source (CallMark ε χ) (Outcome Message)}
    (alike : Alike (.responses source) (.responses other)) : source.Alike other := by
  cases alike
  assumption

section

variable (call : ServiceCall ε χ ω) {qualifier : String} {message : Message}

theorem fireAndForget_isolated (named : message.qualifier = qualifier) :
    Isolated qualifier Eq (call.fireAndForget message)
      ((call.only qualifier).fireAndForget message) := by
  subst named
  have isolated := answer_only call (.fireAndForget message)
  exact ⟨isolated.1, isolated.2.acceptance_eq⟩

theorem requestResponse_isolated (named : message.qualifier = qualifier) :
    Isolated qualifier Eq (call.requestResponse message)
      ((call.only qualifier).requestResponse message) := by
  subst named
  have isolated := answer_only call (.requestResponse message)
  exact ⟨isolated.1, isolated.2.response_eq⟩

theorem requestStream_isolated (named : message.qualifier = qualifier) :
    Isolated qualifier Source.Alike (call.requestStream message)
      ((call.only qualifier).requestStream message) := by
  subst named
  have isolated := answer_only call (.requestStream message)
  exact ⟨isolated.1, isolated.2.of_responses⟩

theorem openChannel_isolated (freshId : String) {first : Option (Outcome Message)}
    (others : Source ε (Outcome Message))
    (named : ∀ message, first = some (.ok message) → message.qualifier = qualifier) :
    Isolated qualifier Source.Alike (call.openChannel freshId first others)
      ((call.only qualifier).openChannel freshId first others) := by
  rcases first with _ | error | message
  · exact call.isolated_self qualifier (.refl _)
  · exact call.isolated_self qualifier (.refl _)
  · obtain rfl := named message rfl
    have isolated := answer_only call (.requestChannel freshId message others)
    exact ⟨isolated.1, isolated.2.of_responses⟩

end

end ServiceCall

end ServiceMesh
