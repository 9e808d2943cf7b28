import ServiceMesh.Proofs.Link.Sides

/-!
# The calls of a link

Both sides of a link know a call under one stream id.  The client hands out each id once; the server
learns of an id by a request only; and before an id is claimed nothing is heard of it (`unheard`).
-/

namespace ServiceMesh.Link

/-- The frames that are under way to a side: those on the wire, and those that still wait to be
written. -/
def underway (link : Link) (side : Side) : List Frame :=
  link.wire side ++ (link.connection side.other).queue

variable (peer : Side → String) (codec : MessageCodec) (config : Side → Config)

theorem connection_spawn (side : Side) :
    (spawn peer codec config).connection side =
      Connection.spawn side.role (peer side) codec (config side) := by
  cases side <;> rfl

theorem history_spawn (side : Side) (actions : List Action) :
    (spawn peer codec config).history side actions =
      (Connection.spawn side.role (peer side) codec (config side)).history
        ((spawn peer codec config).sideActions side actions) := by
  rw [history, connection_spawn]

theorem after_spawn (side : Side) (actions : List Action) :
    ((spawn peer codec config).after actions).connection side =
      (Connection.spawn side.role (peer side) codec (config side)).after
        ((spawn peer codec config).sideActions side actions) := by
  rw [connection_after, connection_spawn]

/-- What one side has queued has arrived at the other side, or is under way. -/
theorem posted_eq_arrived_append_underway (side : Side) (actions : List Action) :
    Connection.posted ((spawn peer codec config).history side.other actions) =
      Connection.arrived ((spawn peer codec config).history side actions) ++
        ((spawn peer codec config).after actions).underway side := by
  have blank : (spawn peer codec config).wire side = [] := by cases side <;> rfl
  have queued := Connection.posted_eq_written_append_queue
    (Connection.wired_spawn side.other.role (peer side.other) codec (config side.other)) rfl
    ((spawn peer codec config).sideActions side.other actions)
  rw [← history_spawn, ← after_spawn, written_eq_arrived_append_wire blank,
    List.append_assoc] at queued
  exact queued

/-- What one side has taken is the first part of what the other one has sent. -/
theorem taken_prefix_sent (side : Side) (actions : List Action) :
    Connection.taken ((spawn peer codec config).history side actions) <+:
      Connection.sent ((spawn peer codec config).history side.other actions) := by
  have taken := (Connection.taken_prefix_arrived
    (Connection.wired_spawn side.role (peer side) codec (config side))
    ((spawn peer codec config).sideActions side actions)).1
  have posted := (Connection.posted_prefix_sent
    (Connection.wired_spawn side.other.role (peer side.other) codec (config side.other))
    ((spawn peer codec config).sideActions side.other actions)).1
  rw [← history_spawn] at taken posted
  rw [posted_eq_arrived_append_underway] at posted
  exact taken.trans ((List.prefix_append _ _).trans posted)

/-- While one side writes and the other one reads, nothing gets lost. -/
theorem sent_eq_taken_append_underway {side : Side} {actions : List Action}
    (reads : (((spawn peer codec config).after actions).connection side).reads = true)
    (writes :
      (((spawn peer codec config).after actions).connection side.other).writes = true) :
    Connection.sent ((spawn peer codec config).history side.other actions) =
      Connection.taken ((spawn peer codec config).history side actions) ++
        ((spawn peer codec config).after actions).underway side := by
  rw [after_spawn] at reads writes
  have taken := (Connection.taken_prefix_arrived
    (Connection.wired_spawn side.role (peer side) codec (config side))
    ((spawn peer codec config).sideActions side actions)).2 reads
  have posted := (Connection.posted_prefix_sent
    (Connection.wired_spawn side.other.role (peer side.other) codec (config side.other))
    ((spawn peer codec config).sideActions side.other actions)).2 writes
  rw [← history_spawn] at taken posted
  rw [← posted, posted_eq_arrived_append_underway, taken]

/-! ## The ids of calls -/

theorem opensCall_of_server (link : Link) (actions : List Action) :
    ∀ action ∈ link.sideActions .server actions, action.opensCall = false := by
  induction actions generalizing link with
  | nil => simp [sideActions]
  | cons first actions induction =>
      intro action member
      rw [sideActions, List.mem_append] at member
      rcases member with now | later
      · rw [Option.mem_toList] at now
        cases first with
        | act acting own =>
            simp only [sideAction, Option.ite_none_right_eq_some, Option.some.injEq] at now
            rcases now with ⟨⟨_, allowed⟩, rfl⟩
            cases own <;> simp_all [permits, Connection.Action.opensCall]
        | transmit writing =>
            simp only [sideAction, Option.ite_none_right_eq_some, Option.some.injEq] at now
            rw [← now.2]
            rfl
        | deliver taking =>
            simp only [sideAction, Option.ite_none_right_eq_some, Option.map_eq_some_iff] at now
            rcases now with ⟨_, frame, _, rfl⟩
            rfl
      · exact induction _ action later

theorem request_notMem_sent (actions : List Action) (mode : Mode) (streamId : UInt64)
    (envelope : Envelope) :
    .request mode streamId envelope ∉
      Connection.sent ((spawn peer codec config).history .server actions) := by
  rw [history_spawn]
  exact Connection.request_notMem_sent _ _ _ _
    (opensCall_of_server (spawn peer codec config) actions) mode streamId envelope

/-- The ids that the server has claimed are ids of the client, each at most once. -/
theorem claimed_server_sublist (actions : List Action) :
    (Connection.claimed ((spawn peer codec config).history .server actions)).Sublist
      (Connection.claimed ((spawn peer codec config).history .client actions)) := by
  have serves := opensCall_of_server (spawn peer codec config) actions
  have heard := taken_prefix_sent peer codec config .server actions
  have requests := Connection.requests_sublist_claimed .client (peer .client) codec
    (config .client) ((spawn peer codec config).sideActions .client actions)
  have learned := Connection.claimed_server (peer .server) codec (config .server) serves
  have client := history_spawn peer codec config .client actions
  have server := history_spawn peer codec config .server actions
  simp only [Side.role] at client server
  rw [← client] at requests
  rw [← server] at learned
  rw [learned]
  exact (heard.sublist.filterMap _).trans requests

/-- With fewer than 2^63 calls no id is claimed twice. -/
theorem nodup_claimed (side : Side) {actions : List Action}
    (few : Connection.calls ((spawn peer codec config).sideActions .client actions) < 2 ^ 63) :
    (Connection.claimed ((spawn peer codec config).history side actions)).Nodup := by
  have once := Connection.nodup_claimed_of_calls (peer .client) codec (config .client) few
  have client := history_spawn peer codec config .client actions
  simp only [Side.role] at client
  rw [← client] at once
  cases side with
  | client => exact once
  | server => exact (claimed_server_sublist peer codec config actions).nodup once

/-- What the server has claimed, the client has asked for. -/
theorem exists_request {streamId : UInt64} {actions : List Action}
    (claims : streamId ∈
      Connection.claimed ((spawn peer codec config).history .server actions)) :
    ∃ mode envelope, .request mode streamId envelope ∈
      Connection.taken ((spawn peer codec config).history .server actions) := by
  have serves := opensCall_of_server (spawn peer codec config) actions
  have learned := Connection.claimed_server (peer .server) codec (config .server) serves
  have server := history_spawn peer codec config .server actions
  simp only [Side.role] at server
  rw [← server] at learned
  rw [learned, List.mem_filterMap] at claims
  rcases claims with ⟨frame, member, carries⟩
  cases frame with
  | request mode id envelope =>
      cases carries
      exact ⟨mode, envelope, member⟩
  | _ => cases carries

theorem claimed_of_request {mode : Mode} {streamId : UInt64} {envelope : Envelope}
    {actions : List Action}
    (takes : .request mode streamId envelope ∈
      Connection.taken ((spawn peer codec config).history .server actions)) :
    streamId ∈ Connection.claimed ((spawn peer codec config).history .server actions) := by
  have serves := opensCall_of_server (spawn peer codec config) actions
  have learned := Connection.claimed_server (peer .server) codec (config .server) serves
  have server := history_spawn peer codec config .server actions
  simp only [Side.role] at server
  rw [← server] at learned
  rw [learned, List.mem_filterMap]
  exact ⟨_, takes, rfl⟩

/-! ## Nothing is heard before a call -/

/-- The client hears of no id that it has not claimed. -/
theorem unheard_client (actions : List Action) (streamId : UInt64) :
    Connection.Unheard (.spawn .client (peer .client) codec (config .client))
      ((spawn peer codec config).sideActions .client actions) streamId := by
  intro earlier early unclaimed frame member carries
  rcases exists_of_prefix _ .client actions early with ⟨before, -, rfl⟩
  have client := history_spawn peer codec config .client before
  have server := history_spawn peer codec config .server before
  simp only [Side.role] at client server
  rw [← client] at unclaimed member
  have sent := (taken_prefix_sent peer codec config .client before).mem member
  have claims := Connection.sent_claimed .server (peer .server) codec (config .server)
    ((spawn peer codec config).sideActions .server before) frame
  rw [← server] at claims
  refine unclaimed ?_
  rw [← carries]
  exact (claimed_server_sublist peer codec config before).mem (claims sent)

/-- The server hears of an id first by the request. -/
theorem unheard_server {actions : List Action} {streamId : UInt64}
    (few : Connection.calls ((spawn peer codec config).sideActions .client actions) < 2 ^ 63)
    (claims : streamId ∈
      Connection.claimed ((spawn peer codec config).history .server actions)) :
    Connection.Unheard (.spawn .server (peer .server) codec (config .server))
      ((spawn peer codec config).sideActions .server actions) streamId := by
  rcases exists_request peer codec config claims with ⟨mode, envelope, takes⟩
  have once := nodup_claimed peer codec config .client few
  have heard := taken_prefix_sent peer codec config .server actions
  have client := history_spawn peer codec config .client actions
  have server := history_spawn peer codec config .server actions
  simp only [Side.role] at client server
  intro earlier early unclaimed frame member carries
  have within : Connection.taken
      ((Connection.spawn .server (peer .server) codec (config .server)).history earlier) <+:
      Connection.sent ((spawn peer codec config).history .client actions) := by
    refine List.IsPrefix.trans ?_ heard
    rcases early with ⟨rest, whole⟩
    rw [server, ← whole, Connection.history_append, Connection.taken, Connection.taken,
      List.filterMap_append]
    exact List.prefix_append _ _
  have sent := heard.mem takes
  rw [show Side.server.other = Side.client from rfl, client] at sent
  rw [client] at within once
  have requested := Connection.request_mem_of_prefix .client (peer .client) codec
    (config .client) _ once sent within member carries
  rcases exists_of_prefix _ .server actions early with ⟨before, -, rfl⟩
  have serverBefore := history_spawn peer codec config .server before
  simp only [Side.role] at serverBefore
  rw [← serverBefore] at requested unclaimed
  exact unclaimed (claimed_of_request peer codec config requested)

theorem unheard {side : Side} {actions : List Action} {streamId : UInt64}
    (few : Connection.calls ((spawn peer codec config).sideActions .client actions) < 2 ^ 63)
    (claims : streamId ∈
      Connection.claimed ((spawn peer codec config).history side actions)) :
    Connection.Unheard (.spawn side.role (peer side) codec (config side))
      ((spawn peer codec config).sideActions side actions) streamId := by
  cases side with
  | client => exact unheard_client peer codec config actions streamId
  | server => exact unheard_server peer codec config few claims

/-! ## The laws of one side -/

theorem claims_after (side : Side) (actions : List Action) :
    Connection.Claims ((spawn peer codec config).history side actions)
      (((spawn peer codec config).after actions).connection side) := by
  rw [history_spawn, after_spawn]
  exact Connection.claims_after side.role (peer side) codec (config side) _

section

variable {side : Side} {actions : List Action} {number : Nat}

theorem soleStream
    (few : Connection.calls ((spawn peer codec config).sideActions .client actions) < 2 ^ 63)
    {stream : InboundStream}
    (present : (((spawn peer codec config).after actions).connection side).inbound[number]? =
      some stream) :
    Connection.SoleStream (((spawn peer codec config).after actions).connection side) number
      stream.streamId :=
  (claims_after peer codec config side actions).soleStream
    (nodup_claimed peer codec config side few) present

theorem soleProducer
    (few : Connection.calls ((spawn peer codec config).sideActions .client actions) < 2 ^ 63)
    {producer : Producer}
    (present : (((spawn peer codec config).after actions).connection side).producers[number]? =
      some producer) :
    Connection.SoleProducer (((spawn peer codec config).after actions).connection side) number
      producer.streamId :=
  (claims_after peer codec config side actions).soleProducer
    (nodup_claimed peer codec config side few) present

theorem streamLaw
    (few : Connection.calls ((spawn peer codec config).sideActions .client actions) < 2 ^ 63)
    {part : StreamPart}
    (present : (((spawn peer codec config).after actions).connection side).streamPart number =
      some part) :
    Connection.StreamLaw (.spawn side.role (peer side) codec (config side)) number
      ((spawn peer codec config).history side actions) part := by
  have sole := soleStream peer codec config few (Connection.streamPart_eq_some.mp present).1
  rw [after_spawn] at present sole
  rw [history_spawn]
  exact (Connection.streamLaw_after (Connection.wired_spawn _ _ _ _) rfl _ number).2 part
    present sole

theorem producerLaw
    (few : Connection.calls ((spawn peer codec config).sideActions .client actions) < 2 ^ 63)
    {part : ProducerPart}
    (present :
      (((spawn peer codec config).after actions).connection side).producerPart number =
        some part) :
    ∃ opening, Connection.ProducerLaw (.spawn side.role (peer side) codec (config side)) number
      ((spawn peer codec config).history side actions) part opening := by
  have once := nodup_claimed peer codec config side few
  rw [after_spawn] at present
  rw [history_spawn] at once ⊢
  exact Connection.producerLaw_after _ _ _ _ _ once number present

theorem heard_eq_taken
    (few : Connection.calls ((spawn peer codec config).sideActions .client actions) < 2 ^ 63)
    {stream : InboundStream}
    (present : (((spawn peer codec config).after actions).connection side).inbound[number]? =
      some stream) :
    (arrivals (Connection.streamEvents number
        ((spawn peer codec config).history side actions))).filter Arrival.isHeard =
      (Connection.taken ((spawn peer codec config).history side actions)).filterMap
        (Frame.arrival? side.role stream.streamId) := by
  have once := nodup_claimed peer codec config side few
  have claims := (claims_after peer codec config side actions).receivers stream.streamId
    (Connection.mem_receiverIds_of_stream present)
  have quiet := unheard peer codec config few claims
  rw [after_spawn] at present
  rw [history_spawn] at once ⊢
  exact Connection.heard_eq_taken _ _ _ _ once present quiet

theorem reply_heard_eq_taken
    (few : Connection.calls ((spawn peer codec config).sideActions .client actions) < 2 ^ 63)
    {reply : PendingReply}
    (present : (((spawn peer codec config).after actions).connection side).replies[number]? =
      some reply) :
    (arrivals (Connection.replyEvents number
        ((spawn peer codec config).history side actions))).filter Arrival.isHeard =
      (Connection.taken ((spawn peer codec config).history side actions)).filterMap
        (Frame.arrival? side.role reply.streamId) := by
  have once := nodup_claimed peer codec config side few
  have claims := (claims_after peer codec config side actions).receivers reply.streamId
    (Connection.mem_receiverIds_of_reply present)
  have quiet := unheard peer codec config few claims
  rw [after_spawn] at present
  rw [history_spawn] at once ⊢
  exact Connection.reply_heard_eq_taken _ _ _ _ once present quiet

theorem credited_eq_granted
    (few : Connection.calls ((spawn peer codec config).sideActions .client actions) < 2 ^ 63)
    {producer : Producer}
    (present : (((spawn peer codec config).after actions).connection side).producers[number]? =
      some producer) :
    credited (Connection.producerEvents number
        ((spawn peer codec config).history side actions)) =
      granted producer.streamId
        (Connection.taken ((spawn peer codec config).history side actions)) := by
  have once := nodup_claimed peer codec config side few
  have claims := (claims_after peer codec config side actions).producers producer.streamId
    (Connection.mem_producerIds present)
  have quiet := unheard peer codec config few claims
  rw [after_spawn] at present
  rw [history_spawn] at once ⊢
  exact Connection.credited_eq_granted _ _ _ _ once present quiet

end

end ServiceMesh.Link
