import ServiceMesh.Proofs.Connection.Finishing
import ServiceMesh.Proofs.Dispatch.Call

/-!
# Calls from their openings on

What the side that opens a call knows of it from then on: its request is sent under a new id, and
the one who opened it holds the receiver of the answers, together with the producer of the further
requests if it is a channel (`Call.Asked`).
-/

namespace ServiceMesh

open Connection (Step)

namespace Connection

section

variable {start : Connection} {actions : List Action} {number : Nat}

theorem dropReply_of_left (left : .left ∈ replyEvents number (start.history actions)) :
    Action.dropReply number ∈ actions := by
  rcases List.mem_filterMap.mp left with ⟨⟨before, action⟩, member, event⟩
  rcases exists_of_mem_history member with ⟨first, second, split, -⟩
  rw [replyEvent] at event
  split at event
  · cases event
  · cases action with
    | dropReply dropped =>
        simp only [Option.ite_none_right_eq_some] at event
        rw [split, ← event.1]
        exact List.mem_append_right _ List.mem_cons_self
    | _ => simp at event

theorem dropInbound_of_left (left : .left ∈ streamEvents number (start.history actions)) :
    Action.dropInbound number ∈ actions := by
  rcases List.mem_filterMap.mp left with ⟨⟨before, action⟩, member, event⟩
  rcases exists_of_mem_history member with ⟨first, second, split, -⟩
  rw [streamEvent] at event
  split at event
  · cases event
  · cases action with
    | dropInbound dropped =>
        simp only [Option.ite_none_right_eq_some] at event
        rw [split, ← event.1]
        exact List.mem_append_right _ List.mem_cons_self
    | _ => simp at event

end

end Connection

/-- A step opens a call, whose answers go to the receiver with a number. -/
inductive Call.Opens (step : Step) (consumer : Nat) : Call → Prop where
  /-- A message that gets one response. -/
  | response {request : Message} (action : step.action = .requestResponse request)
      (opens : step.observation = .opened (.ok consumer)) : Opens step consumer (.response request)
  /-- A message that gets a stream of responses. -/
  | stream {request : Message} (action : step.action = .requestStream request)
      (opens : step.observation = .opened (.ok consumer)) : Opens step consumer (.stream request)
  /-- A channel, whose further requests come from a producer of its own. -/
  | channel {first : Message} {others : List Message} {producer : Nat}
      (action : step.action = .requestChannel (some (.ok first)))
      (opens : step.observation = .channel (.ok ⟨consumer, producer⟩)) :
      Opens step consumer (.channel first others)

namespace Call

/-- What the one who opened a call has received. -/
def received (call : Call) (consumer : Nat) (history : List Step) : List (Outcome Message) :=
  match call with
  | .response _ => Connection.resolved consumer history
  | .stream _ | .channel _ _ => items (Connection.seen consumer history)

/-- What the one who opened a call does to give it up. -/
def leaving (call : Call) (consumer : Nat) : Connection.Action :=
  match call with
  | .response _ => .dropReply consumer
  | .stream _ | .channel _ _ => .dropInbound consumer

/-- Nothing is there for the one who opened a call. -/
def Idle (call : Call) (consumer : Nat) (connection : Connection) : Prop :=
  match call with
  | .response _ => (connection.pollReply consumer).1 = none
  | .stream _ | .channel _ _ => ∀ value, (connection.pullInbound consumer).1 ≠ .item value

section

variable {call : Call} (many : call.mode ≠ .requestResponse) (consumer : Nat)

include many

theorem received_stream (history : List Step) :
    call.received consumer history = items (Connection.seen consumer history) := by
  cases call with
  | response request => exact (many rfl).elim
  | stream request | channel first others => rfl

theorem leaving_stream : call.leaving consumer = .dropInbound consumer := by
  cases call with
  | response request => exact (many rfl).elim
  | stream request | channel first others => rfl

theorem idle_stream (connection : Connection) :
    call.Idle consumer connection ↔ ∀ value, (connection.pullInbound consumer).1 ≠ .item value := by
  cases call with
  | response request => exact (many rfl).elim
  | stream request | channel first others => exact .rfl

end

/-- The further requests of a channel are given in their order, and after them the end. -/
def Feeds (call : Call) (step : Step) (history : List Step) : Prop :=
  ∀ channel, step.observation = .channel (.ok channel) →
    Connection.given channel.requests history <+: supply call.others

/-- What is there on the side that has opened a call. -/
structure Asked (call : Call) (step : Step) (consumer : Nat) : Prop where
  requests : ∃ envelope, step.before.codec.encode call.first = .ok envelope ∧
    step.before.sends step.action = [.request call.mode step.before.nextStreamId envelope]
  claims : step.claimed = some step.before.nextStreamId
  reply : call.mode = .requestResponse → step.handsReply consumer = true ∧
    ∃ reply, step.after.replies[consumer]? = some reply ∧
      reply.streamId = step.before.nextStreamId
  stream : call.mode ≠ .requestResponse → step.hands consumer = true ∧
    ∃ inbound, step.after.inbound[consumer]? = some inbound ∧
      inbound.streamId = step.before.nextStreamId
  producer : ∀ channel, step.observation = .channel (.ok channel) →
    ∃ producer, step.after.producers[channel.requests]? = some producer ∧
      producer.streamId = step.before.nextStreamId

section

variable {connection : Connection} {consumer : Nat}

theorem asked_response (wired : Connection.Wired connection)
    (running : connection.isClosed = false) {request : Message}
    (opens : Step.observation ⟨connection, .requestResponse request⟩ = .opened (.ok consumer)) :
    (Call.response request).Asked ⟨connection, .requestResponse request⟩ consumer := by
  cases encodes : connection.codec.encode request with
  | error error =>
      simp [Step.observation, Connection.perform,
        Connection.requestResponse_of_encode_error encodes] at opens
  | ok envelope =>
      have equal := Connection.requestResponse_open encodes running (wired.writing running)
      simp only [Step.observation, Connection.perform, equal, Prod.map_fst,
        Connection.Observation.opened.injEq, Except.ok.injEq] at opens
      subst opens
      constructor
      · exact ⟨envelope, encodes, by
          simp [Connection.sends, running, Connection.openingFrames, encodes, mode]⟩
      · exact Connection.claimed_of_advances rfl (by simp [Connection.perform, equal])
      · intro _
        exact ⟨by simp [Step.handsReply, Step.observation, Connection.perform, equal],
          ⟨connection.nextStreamId, none, false⟩,
          by simp [Step.after, Connection.perform, equal], rfl⟩
      · intro other
        exact (other rfl).elim
      · intro channel shows
        simp [Step.observation, Connection.perform] at shows

theorem asked_stream (wired : Connection.Wired connection)
    (running : connection.isClosed = false) {request : Message}
    (opens : Step.observation ⟨connection, .requestStream request⟩ = .opened (.ok consumer)) :
    (Call.stream request).Asked ⟨connection, .requestStream request⟩ consumer := by
  cases encodes : connection.codec.encode request with
  | error error =>
      simp [Step.observation, Connection.perform, Connection.requestStream,
        Connection.openStream_of_encode_error encodes, Except.map] at opens
  | ok envelope =>
      have equal : connection.openStream .requestStream request = _ :=
        Connection.openStream_open encodes running (wired.writing running)
      simp only [Step.observation, Connection.perform, Connection.requestStream, equal,
        Except.map, Prod.map_fst, Connection.Observation.opened.injEq, Except.ok.injEq] at opens
      subst opens
      constructor
      · exact ⟨envelope, encodes, by
          simp [Connection.sends, running, Connection.openingFrames, encodes, mode]⟩
      · exact Connection.claimed_of_advances rfl
          (by simp [Connection.perform, Connection.requestStream, equal])
      · intro single
        cases single
      · intro _
        exact ⟨by simp [Step.hands, Step.observation, Connection.perform,
            Connection.requestStream, equal, Except.map],
          ⟨connection.nextStreamId, true, [], 0, false⟩,
          by simp [Step.after, Connection.perform, Connection.requestStream, equal], rfl⟩
      · intro channel shows
        simp [Step.observation, Connection.perform] at shows

theorem asked_channel (wired : Connection.Wired connection)
    (running : connection.isClosed = false) {first : Message} {others : List Message}
    {producer : Nat} (opens : Step.observation
      ⟨connection, .requestChannel (some (.ok first))⟩ = .channel (.ok ⟨consumer, producer⟩)) :
    (Call.channel first others).Asked
      ⟨connection, .requestChannel (some (.ok first))⟩ consumer := by
  cases encodes : connection.codec.encode first with
  | error error =>
      simp [Step.observation, Connection.perform, Connection.requestChannel,
        Connection.openStream_of_encode_error encodes] at opens
  | ok envelope =>
      have equal := Connection.requestChannel_of_ok
        (Connection.openStream_open encodes running (wired.writing running))
      simp only [Step.observation, Connection.perform, equal, Prod.map_fst,
        Connection.Observation.channel.injEq, Except.ok.injEq,
        Connection.OpenChannel.mk.injEq] at opens
      rcases opens with ⟨rfl, rfl⟩
      constructor
      · exact ⟨envelope, encodes, by
          simp [Connection.sends, running, Connection.openingFrames, encodes, mode]⟩
      · exact Connection.claimed_of_advances rfl
          (by simp [Connection.perform, equal, Connection.startPump, Connection.startProducer])
      · intro single
        cases single
      · intro _
        exact ⟨by simp [Step.hands, Step.observation, Connection.perform, equal],
          ⟨connection.nextStreamId, true, [], 0, false⟩,
          by simp [Step.after, Connection.perform, equal, Connection.startPump,
            Connection.startProducer], rfl⟩
      · intro channel shows
        simp only [Step.observation, Connection.perform, equal, Prod.map_fst,
          Connection.Observation.channel.injEq, Except.ok.injEq] at shows
        subst shows
        exact ⟨⟨connection.nextStreamId, connection.window, .waiting⟩,
          by simp [Step.after, Connection.perform, equal, Connection.startPump,
            Connection.startProducer], rfl⟩

/-- Whoever opens a call on an open connection has sent its request and holds what it takes to get
the answers. -/
theorem asked {call : Call} {step : Step} (opens : call.Opens step consumer)
    (wired : Connection.Wired step.before) (running : step.before.isClosed = false) :
    call.Asked step consumer := by
  rcases step with ⟨connection, action⟩
  cases opens with
  | response action opens =>
      subst action
      exact asked_response wired running opens
  | stream action opens =>
      subst action
      exact asked_stream wired running opens
  | channel action opens =>
      subst action
      exact asked_channel wired running opens

end

end Call

end ServiceMesh
