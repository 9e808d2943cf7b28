import Mathlib.Data.List.Forall2
import ServiceMesh.Connection.Serve
import ServiceMesh.Proofs.Dispatch.Functional

/-!
# Calls and their outcomes

A call brings one request, or the requests of a channel.  A dispatcher of functional handlers that is
asked directly has certain outcomes for it (`Dispatcher.Answers`), which are determined
(`Dispatcher.Answers.unique`).

A handler at the other end of a connection gets the requests in another form, and those of a channel
one after the other.  Whatever it shows, at whatever moment, is the beginning of the same outcomes
(`Dispatcher.answered`).
-/

namespace ServiceMesh

variable {ε : Type}

/-- A call with the requests that it brings. -/
inductive Call where
  /-- One request that gets one response. -/
  | response (request : Message)
  /-- One request that gets a stream of responses. -/
  | stream (request : Message)
  /-- A stream of requests that gets a stream of responses. -/
  | channel (first : Message) (others : List Message)

namespace Call

/-- The mode of a call. -/
def mode : Call → Mode
  | .response _ => .requestResponse
  | .stream _ => .requestStream
  | .channel _ _ => .requestChannel

/-- The request that opens a call. -/
def first : Call → Message
  | .response request | .stream request | .channel request _ => request

/-- The requests after the first one. -/
def others : Call → List Message
  | .response _ | .stream _ => []
  | .channel _ others => others

/-- All requests of a call. -/
def requests (call : Call) : List Message := call.first :: call.others

end Call

/-- What a source that gives these messages has to give. -/
def supply (messages : List Message) : List (Signal (Outcome Message)) :=
  messages.map (fun message => .item (.ok message)) ++ [.ended]

theorem Message.Alike.refl (codecs : CodecRegistry) (message : Message) :
    message.Alike codecs message :=
  ⟨rfl, rfl, rfl, rfl, rfl, rfl, rfl⟩

theorem forall₂_alike_refl (codecs : CodecRegistry) (messages : List Message) :
    List.Forall₂ (Message.Alike codecs) messages messages :=
  List.forall₂_same.mpr fun message _ => .refl codecs message

namespace Dispatcher

variable {dispatcher : Dispatcher ε}

/-- What comes of a call on a dispatcher that is asked directly. -/
inductive Answers (dispatcher : Dispatcher ε) : Call → List (Outcome Message) → Prop where
  /-- One request is done with one result. -/
  | response {request : Message} {result : Outcome Message}
      (concludes : (dispatcher.requestResponse request).conclusion = .done result) :
      Answers dispatcher (.response request) [result]
  /-- One request is answered by a stream. -/
  | stream {request : Message} {outcomes : List (Outcome Message)}
      (yields : (dispatcher.requestStream request).Yields outcomes) :
      Answers dispatcher (.stream request) outcomes
  /-- The requests, all there from the start, are answered by a stream. -/
  | channel {first : Message} {others : List Message} {outcomes : List (Outcome Message)}
      (yields : (dispatcher.requestChannel (.ofList ((first :: others).map .ok))).Yields outcomes) :
      Answers dispatcher (.channel first others) outcomes

theorem Answers.unique {call : Call} {first second : List (Outcome Message)}
    (answers : dispatcher.Answers call first) (also : dispatcher.Answers call second) :
    first = second := by
  cases answers with
  | response concludes =>
      cases also with
      | response again => rw [Conclusion.done.inj (concludes.symm.trans again)]
  | stream yields =>
      cases also with
      | stream again => exact yields.unique again
  | channel yields =>
      cases also with
      | channel again => exact yields.unique again

/-- What the handler of a call shows by some moment, when it has got a first message and some signals
of a stream of further ones. -/
inductive Shows (dispatcher : Dispatcher ε) (message : Message)
    (requests : List (Signal (Outcome Message))) :
    Mode → List (Signal (Outcome Message)) → Prop where
  /-- The result that is sent for the handler of one response. -/
  | response {result : Outcome Message}
      (results : Connection.resultOf (dispatcher.requestResponse message).conclusion = some result) :
      Shows dispatcher message requests .requestResponse [.item result]
  /-- What was pulled from a stream of responses. -/
  | stream {signals : List (Signal (Outcome Message))}
      (shown : (dispatcher.requestStream message).HasShown signals) :
      Shows dispatcher message requests .requestStream signals
  /-- What was pulled from the responses of a channel, while its requests arrived. -/
  | channel {arrivals signals : List (Signal (Outcome Message))}
      (arrived : arrivals.filter Signal.isGiven = requests)
      (shown : (dispatcher.requestChannel (.cons (.ok message) (.arriving arrivals))).HasShown
        signals) :
      Shows dispatcher message requests .requestChannel signals

/-- What a dispatcher has to say to a call, asked directly or by a peer. -/
structure Settles (dispatcher : Dispatcher ε) (call : Call) (outcomes : List (Outcome Message)) :
    Prop where
  regular : Regular outcomes
  answers : dispatcher.Answers call outcomes
  shows : ∀ (head : Message) (rest : List Message)
      (requests signals : List (Signal (Outcome Message))),
    head.Alike dispatcher.codecs call.first →
      List.Forall₂ (Message.Alike dispatcher.codecs) rest call.others →
        requests <+: supply rest → dispatcher.Shows head requests call.mode signals →
          .ended ∉ signals.dropLast → signals <+: outcomes.map .item ++ [.ended]

section

variable {first head : Message} {others : List Message} {outcomes : List (Outcome Message)}
  {requests : Source ε (Outcome Message)} {state : requests.State}

theorem yields_of_answered {rest : List Message}
    (answered : Answered dispatcher first others outcomes head
      (requests.inState (requests.pull state).next))
    (alike : List.Forall₂ (Message.Alike dispatcher.codecs) (head :: rest) (first :: others))
    (comes : (requests.pull state).signal = .item (.ok head))
    (gives : requests.Gives (requests.pull state).next (rest.map .ok)) :
    (requests.opening dispatcher.openChannel).Gives (.inl state) outcomes :=
  Source.gives_opening _ comes
    (answered.ended rest alike
      ((Source.mimics_inState requests (requests.pull state).next).gives_same gives))

theorem yields_or_waits_of_answered
    (answered : Answered dispatcher first others outcomes head
      (requests.inState (requests.pull state).next))
    (comes : (requests.pull state).signal = .item (.ok head))
    (endless : requests.Endless (requests.pull state).next) :
    (requests.opening dispatcher.openChannel).Gives (.inl state) outcomes ∨
      (requests.opening dispatcher.openChannel).Silent (.inl state) :=
  (answered.endless
      ((Source.mimics_inState requests (requests.pull state).next).endless endless)).imp
    (Source.gives_opening _ comes) (Source.waits_opening _ comes)

end

theorem settles_response (functional : dispatcher.Functional) (request : Message) :
    ∃ outcomes, dispatcher.Settles (.response request) outcomes := by
  rcases dispatcher.requestResponse_answered functional request with ⟨result, regular, concludes⟩
  refine ⟨[result], regular, .response (concludes request (.refl _ _)), ?_⟩
  intro head rest requests signals alike _ _ shows _
  cases shows with
  | response results =>
      rw [concludes head alike, Connection.resultOf, Option.some.injEq] at results
      rw [results]
      exact List.prefix_append _ _

theorem settles_stream (functional : dispatcher.Functional) (request : Message) :
    ∃ outcomes, dispatcher.Settles (.stream request) outcomes := by
  rcases dispatcher.requestStream_answered functional request with ⟨outcomes, regular, yields⟩
  refine ⟨outcomes, regular, .stream (yields request (.refl _ _)), ?_⟩
  intro head rest requests signals alike _ _ shows stops
  cases shows with
  | stream shown => exact (yields head alike).begins_of_shows shown stops

theorem settles_channel (functional : dispatcher.Functional) (first : Message)
    (others : List Message) :
    ∃ outcomes, dispatcher.Settles (.channel first others) outcomes := by
  rcases dispatcher.requestChannel_answered functional first others with
    ⟨outcomes, regular, answered⟩
  refine ⟨outcomes, regular, .channel ?_, ?_⟩
  · exact yields_of_answered (answered first _ (.refl _ _))
      (forall₂_alike_refl _ (first :: others)) rfl (Source.gives_ofSignals _ _)
  · intro head rest requests signals alike same early shows stops
    cases shows with
    | @channel arrivals _ arrived shown =>
        subst arrived
        -- The first pull gives the first request, and those after it ask for what arrives.
        let asked : Source ε (Outcome Message) := .cons (.ok head) (.arriving arrivals)
        have opens := answered head (asked.inState (asked.pull asked.state).next) alike
        have follows := Source.mimics_cons (.ok head)
          (.arriving arrivals : Source ε (Outcome Message))
        rcases Source.gives_or_endless_arriving arrivals early with gives | endless
        · exact (yields_of_answered opens (.cons alike same) rfl
            (follows.gives_same gives)).begins_of_shows shown stops
        · rcases yields_or_waits_of_answered opens rfl (follows.endless endless) with yields | waits
          · exact yields.begins_of_shows shown stops
          · rw [waits _ shown]
            exact List.nil_prefix

/-- Functional handlers settle every call. -/
theorem settles (functional : dispatcher.Functional) (call : Call) :
    ∃ outcomes, dispatcher.Settles call outcomes := by
  cases call with
  | response request => exact settles_response functional request
  | stream request => exact settles_stream functional request
  | channel first others => exact settles_channel functional first others

end Dispatcher

end ServiceMesh
