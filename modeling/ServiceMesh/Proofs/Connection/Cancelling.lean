import ServiceMesh.Proofs.Connection.Hearing
import ServiceMesh.Proofs.Connection.Trace

/-!
# What a cancellation stops

A producer ends at the latest when its peer has cancelled the call (`ended_of_cancelled`).

A client that cancels a call stops to send its requests, too, when it is the consumer who gives up.
When the client cancels because it cannot read a message, the requests go on: a producer that still
runs in a cancelled call belongs to a call with an unreadable message (`unreadable_of_cancel`).  No
message of a peer with the same codec is unreadable if the codec reads what it has written, for every
message that was sent was encoded (`encoded_of_next`).
-/

namespace ServiceMesh

namespace ProducerPart

variable {codec : MessageCodec}

theorem Sound.isListed_of_running {part : ProducerPart} (sound : part.Sound)
    (running : part.producer.phase ≠ .ended) :
    part.isListed = true := by
  rw [sound]
  exact decide_eq_true running

theorem running_step {part : ProducerPart} (sound : part.Sound) {event : ProducerEvent}
    (running : (part.step codec event).producer.phase ≠ .ended) :
    part.producer.phase ≠ .ended ∧ event ≠ .stopped := by
  have before : part.producer.phase ≠ .ended := by
    intro ended
    rw [(step_of_ended codec sound ended event).1] at running
    exact running ended
  refine ⟨before, ?_⟩
  rintro rfl
  rw [step, if_pos (sound.isListed_of_running before)] at running
  exact running rfl

theorem running_advance {part : ProducerPart} (sound : part.Sound)
    {event : Option ProducerEvent}
    (running : (part.advance codec event).producer.phase ≠ .ended) :
    part.producer.phase ≠ .ended ∧ event ≠ some .stopped := by
  cases event with
  | none => exact ⟨running, by simp⟩
  | some event => exact (running_step sound running).imp_right (by simp)

/-- A producer that still runs was not stopped. -/
theorem running_run {part : ProducerPart} (sound : part.Sound) {events : List ProducerEvent}
    (running : (part.run codec events).producer.phase ≠ .ended) :
    part.producer.phase ≠ .ended ∧ .stopped ∉ events := by
  induction events generalizing part with
  | nil => exact ⟨running, List.not_mem_nil⟩
  | cons event events induction =>
      rw [run_cons] at running
      rcases induction (sound.step codec event) running with ⟨later, others⟩
      rcases running_step sound later with ⟨before, first⟩
      exact ⟨before, List.not_mem_cons_of_ne_of_not_mem first.symm others⟩

end ProducerPart

/-- What a client opens takes responses. -/
theorem Outline.requesters_step {codec : MessageCodec} {outline : Outline}
    (before : ∀ entry ∈ outline.streams, entry.2 = true) (action : Connection.Action) :
    ∀ entry ∈ (outline.step codec action).streams, entry.2 = true := by
  have opened (replies : List UInt64) (streamId : UInt64) :
      ∀ entry ∈ (outline.opened replies [(streamId, true)]).streams, entry.2 = true := by
    intro entry member
    rcases List.mem_append.mp member with earlier | new
    · exact before entry earlier
    · rw [List.mem_singleton.mp new]
  have unchanged (replies : List UInt64) :
      ∀ entry ∈ (outline.opened replies []).streams, entry.2 = true := by
    intro entry member
    exact before entry (by simpa [Outline.opened] using member)
  simp only [Outline.step]
  repeat' split
  all_goals first
    | exact before
    | exact opened _ _
    | exact unchanged _

namespace Connection

/-- A message of a call was taken and could not be read. -/
def Unreadable (codec : MessageCodec) (history : List Step) (streamId : UInt64) : Prop :=
  ∃ envelope error, .next streamId envelope ∈ taken history ∧ codec.decode envelope = .error error

theorem Unreadable.later {codec : MessageCodec} {history : List Step} {streamId : UInt64}
    (unreadable : Unreadable codec history streamId) (step : Step) :
    Unreadable codec (history ++ [step]) streamId := by
  rcases unreadable with ⟨envelope, error, takes, fails⟩
  refine ⟨envelope, error, ?_, fails⟩
  rw [taken_concat]
  exact List.mem_append_left _ takes

section

variable {connection : Connection}

/-- A call is cancelled by whoever waits for its answers, or because of a message that cannot be
read. -/
inductive Cancels (connection : Connection) (streamId : UInt64) : Action → Prop where
  /-- The caller of its reply gives up. -/
  | reply {number : Nat} {reply : PendingReply}
      (present : connection.replies[number]? = some reply) (carries : reply.streamId = streamId) :
      Cancels connection streamId (.dropReply number)
  /-- The consumer of its stream gives up. -/
  | stream {number : Nat} {stream : InboundStream}
      (present : connection.inbound[number]? = some stream) (carries : stream.streamId = streamId)
      (waits : stream.isDone = false) :
      Cancels connection streamId (.dropInbound number)
  /-- A message cannot be read. -/
  | message {envelope : Envelope} {error : CallError} (reading : connection.reads = true)
      (fails : connection.codec.decode envelope = .error error) :
      Cancels connection streamId (.receive (.next streamId envelope))

theorem Origin.opensCall_of_client {action : Action} {streamId : UInt64}
    (origin : Origin connection action streamId) (calls : connection.role = .client) :
    action.opensCall = true := by
  cases origin with
  | called opens advances => exact opens
  | accepted serves reading request accepts => simp [calls] at serves

theorem Origin.taken_ne_cancel {action : Action} {streamId other : UInt64}
    (origin : Origin connection action streamId) :
    Step.taken ⟨connection, action⟩ ≠ some (.cancel other) := by
  intro takes
  cases origin with
  | called opens advances =>
      cases action with
      | receive frame => simp [Action.opensCall] at opens
      | _ => cases takes
  | accepted serves reading request accepts =>
      subst request
      simp [Step.taken, reading] at takes

theorem encoded_of_mem_sends {action : Action} {streamId : UInt64} {envelope : Envelope}
    (member : .next streamId envelope ∈ connection.sends action) :
    ∃ message, connection.codec.encode message = .ok envelope := by
  cases reason_of_mem member with
  | signal _ framed | response _ framed =>
      cases framed with
      | message encodes => exact ⟨_, encodes⟩

theorem cancels_of_mem_sends {action : Action} {streamId : UInt64}
    (member : .cancel streamId ∈ connection.sends action) :
    Cancels connection streamId action := by
  cases reason_of_mem member with
  | reply present => exact .reply present rfl
  | stream present waits => exact .stream present rfl waits
  | unreadable reading fails _ => exact .message reading fails
  | signal _ framed | response _ framed => cases framed

end

/-! ## Who hears a cancellation -/

section

variable (role : Role) (peer : String) (codec : MessageCodec) (config : Config)

/-- Every message that was sent was encoded. -/
theorem encoded_of_next (actions : List Action) {streamId : UInt64} {envelope : Envelope}
    (member : .next streamId envelope ∈
      sent ((spawn role peer codec config).history actions)) :
    ∃ message, codec.encode message = .ok envelope := by
  rcases List.mem_flatMap.mp member with ⟨step, among, sends⟩
  rcases wired_of_mem_history (wired_spawn role peer codec config) among with ⟨-, grown, -⟩
  rcases encoded_of_mem_sends sends with ⟨message, encodes⟩
  rw [grown.codec] at encodes
  exact ⟨message, encodes⟩

/-- A producer whose call the peer has cancelled was stopped. -/
theorem stopped_of_cancelled {actions : List Action}
    (once : (claimed ((spawn role peer codec config).history actions)).Nodup)
    {number : Nat} {producer : Producer}
    (present : ((spawn role peer codec config).after actions).producers[number]? =
      some producer)
    (unheard : Unheard (spawn role peer codec config) actions producer.streamId)
    (takes : .cancel producer.streamId ∈
      taken ((spawn role peer codec config).history actions)) :
    .stopped ∈ producerEvents number ((spawn role peer codec config).history actions) := by
  induction actions using List.reverseRecOn generalizing producer with
  | nil => simp [spawn] at present
  | append_singleton actions action induction =>
      have wired := wired_after (wired_spawn role peer codec config) actions
      rw [after_concat] at present
      rw [history_concat] at once takes ⊢
      rcases nodup_claimed_concat.mp once with ⟨onceBefore, fresh⟩
      rw [taken_concat, List.mem_append, Option.mem_toList] at takes
      rw [producerEvents_concat, List.mem_append, Option.mem_toList]
      cases before : ((spawn role peer codec config).after actions).producers[number]? with
      | some earlier =>
          have same := (extends_perform wired action).1.producerId before present
          rw [same] at unheard takes
          rcases takes with then_ | now
          · exact .inl (induction onceBefore before unheard.earlier then_)
          · refine .inr ?_
            cases action with
            | receive frame =>
                simp only [Step.taken, Option.ite_none_right_eq_some, Option.some.injEq] at now
                rcases now with ⟨reading, rfl⟩
                simp [producerEvent, before, reading, Frame.streamId]
            | _ => cases now
      | none =>
          have opens := origin_of_new_producer wired before present
          have quiet := unheard actions (List.prefix_append _ _) (fresh _ opens.claimed)
          rcases takes with then_ | now
          · exact (quiet _ then_ rfl).elim
          · exact (opens.taken_ne_cancel now).elim

/-- A producer whose call the peer has cancelled has ended. -/
theorem ended_of_cancelled {actions : List Action}
    (once : (claimed ((spawn role peer codec config).history actions)).Nodup)
    {number : Nat} {producer : Producer}
    (present : ((spawn role peer codec config).after actions).producers[number]? =
      some producer)
    (unheard : Unheard (spawn role peer codec config) actions producer.streamId)
    (takes : .cancel producer.streamId ∈
      taken ((spawn role peer codec config).history actions)) :
    producer.phase = .ended := by
  rcases producerLaw_after role peer codec config actions once number
    (producerPart_of_present present) with ⟨opening, law⟩
  by_contra running
  have state := congrArg (fun part => part.producer.phase) law.state
  refine (ProducerPart.running_run law.starts.sound (state ▸ running)).2 ?_
  exact stopped_of_cancelled role peer codec config once present unheard takes

end

/-! ## What a client cancels -/

section

variable (peer : String) (codec : MessageCodec) (config : Config)

/-- The streams of a client take responses. -/
theorem isRequester_of_client (actions : List Action) :
    ∀ stream ∈ ((spawn .client peer codec config).after actions).inbound,
      stream.isRequester = true := by
  induction actions using List.reverseRecOn with
  | nil => simp [spawn]
  | append_singleton actions action induction =>
      have wired := wired_after (wired_spawn .client peer codec config) actions
      have calls := (extends_after (wired_spawn .client peer codec config) actions).role
      rw [after_concat]
      have outlined := congrArg Outline.streams (outline_perform wired calls action)
      have before : ∀ entry ∈ ((spawn .client peer codec config).after actions).outline.streams,
          entry.2 = true := by
        intro entry member
        rcases List.mem_map.mp member with ⟨stream, among, rfl⟩
        exact induction stream among
      intro stream among
      have member : (stream.streamId, stream.isRequester) ∈ (((spawn .client peer codec
          config).after actions).perform action).2.outline.streams :=
        List.mem_map_of_mem among
      rw [outlined] at member
      exact Outline.requesters_step before action _ member

/-- Whoever sends requests on a client has the stream of the responses. -/
theorem stream_of_client_producer (actions : List Action) {producer : Producer}
    (member : producer ∈ ((spawn .client peer codec config).after actions).producers) :
    ∃ stream ∈ ((spawn .client peer codec config).after actions).inbound,
      stream.streamId = producer.streamId := by
  induction actions using List.reverseRecOn generalizing producer with
  | nil => simp [spawn] at member
  | append_singleton actions action induction =>
      have wired := wired_after (wired_spawn .client peer codec config) actions
      have calls := (extends_after (wired_spawn .client peer codec config) actions).role
      have grown := (extends_perform wired action).1
      rw [after_concat] at member ⊢
      have kept {earlier : Producer}
          (before : earlier ∈ ((spawn .client peer codec config).after actions).producers) :
          ∃ stream ∈ (((spawn .client peer codec config).after actions).perform action).2.inbound,
            stream.streamId = earlier.streamId :=
        grown.exists_inbound (induction before)
      rcases producers_perform wired action with same | ⟨streamId, new, opened⟩
      · have ids := map_eq_of_extends Producer.streamId grown.producers same
        have among := List.mem_map_of_mem (f := Producer.streamId) member
        rw [ids] at among
        rcases List.mem_map.mp among with ⟨earlier, before, carries⟩
        exact carries ▸ kept before
      · rw [opened.producers, List.mem_append, List.mem_singleton] at member
        rcases member with before | rfl
        · exact kept before
        · have opens := opened.origin.opensCall_of_client calls
          rw [opened.carries]
          cases opened.starts with
          | calling sends =>
              rcases sends_of_opensCall wired opens with nothing | ⟨_, _, requests, _, called⟩
              · simp [nothing] at sends
              · rw [requests, List.mem_singleton, Frame.request.injEq] at sends
                rcases sends with ⟨rfl, rfl, -⟩
                exact called.stream (.inr rfl)
          | streaming _ takes | answering takes =>
              cases action with
              | receive frame => simp [Action.opensCall] at opens
              | _ => cases takes

/-- A client that cancels a call and does not stop its requests takes a message that it cannot
read. -/
theorem unread_of_cancels {actions : List Action}
    (once : (claimed ((spawn .client peer codec config).history actions)).Nodup)
    {number : Nat} {producer : Producer}
    (present : ((spawn .client peer codec config).after actions).producers[number]? =
      some producer) {action : Action}
    (unstopped : ((spawn .client peer codec config).after actions).producerEvent number action ≠
      some .stopped)
    (cancels : Cancels ((spawn .client peer codec config).after actions) producer.streamId action) :
    ∃ envelope error,
      Step.taken ⟨(spawn .client peer codec config).after actions, action⟩ =
        some (.next producer.streamId envelope) ∧ codec.decode envelope = .error error := by
  cases cancels with
  | reply atReply carries =>
      -- the call has a stream, so it has no reply
      rcases stream_of_client_producer peer codec config actions
        (List.mem_of_getElem? present) with ⟨stream, among, same⟩
      rcases List.getElem?_of_mem among with ⟨place, atStream⟩
      have sole := (claims_after .client peer codec config actions).soleStream once atStream
      exact (sole.replies _ _ atReply (carries.trans same.symm)).elim
  | stream atStream carries waits =>
      -- whoever gives up the responses stops the requests
      have requester := isRequester_of_client peer codec config actions _
        (List.mem_of_getElem? atStream)
      refine (unstopped ?_).elim
      simp [producerEvent, present, abandons, atStream, carries, requester, waits]
  | message reading fails =>
      rw [(extends_after (wired_spawn .client peer codec config) actions).codec] at fails
      exact ⟨_, _, by simp [Step.taken, reading], fails⟩

/-- If requests go on in a call that the client has cancelled, a message of the call was
unreadable. -/
theorem unreadable_of_cancel {actions : List Action}
    (once : (claimed ((spawn .client peer codec config).history actions)).Nodup)
    {number : Nat} {producer : Producer}
    (present : ((spawn .client peer codec config).after actions).producers[number]? =
      some producer)
    (running : producer.phase ≠ .ended)
    (cancels : .cancel producer.streamId ∈
      sent ((spawn .client peer codec config).history actions)) :
    Unreadable codec ((spawn .client peer codec config).history actions) producer.streamId := by
  induction actions using List.reverseRecOn generalizing producer with
  | nil => simp [spawn] at present
  | append_singleton actions action induction =>
      have wired := wired_after (wired_spawn .client peer codec config) actions
      have grown := extends_after (wired_spawn .client peer codec config) actions
      have claimsNow := claims_after .client peer codec config (actions ++ [action])
      rw [after_concat] at present claimsNow
      rw [history_concat] at once cancels claimsNow ⊢
      rcases nodup_claimed_concat.mp once with ⟨onceBefore, fresh⟩
      rw [sent_concat, List.mem_append] at cancels
      cases before : ((spawn .client peer codec config).after actions).producers[number]? with
      | none =>
          -- nothing of a call is sent before it is opened, and no cancellation opens one
          have origin := origin_of_new_producer wired before present
          rcases cancels with earlier | now
          · exact (fresh _ origin.claimed (sent_claimed .client peer codec config actions _ earlier)).elim
          · have opens := origin.opensCall_of_client grown.role
            cases cancels_of_mem_sends now <;> simp [Action.opensCall] at opens
      | some earlier =>
          have same := (extends_perform wired action).1.producerId before present
          have sole := claimsNow.soleProducer once present
          rw [same] at sole cancels ⊢
          have advanced := producerPart_perform wired (producerPart_of_present before) action sole
          rcases producerLaw_after .client peer codec config actions onceBefore number
            (producerPart_of_present before) with ⟨opening, law⟩
          rw [producerPart_of_present present, Option.some.injEq] at advanced
          have phase := congrArg (fun part => part.producer.phase) advanced
          dsimp only at phase
          rw [phase] at running
          rcases ProducerPart.running_advance law.sound running with ⟨ranBefore, unstopped⟩
          rcases cancels with then_ | now
          · exact (induction onceBefore before ranBefore then_).later _
          · rcases unread_of_cancels peer codec config onceBefore before unstopped
              (cancels_of_mem_sends now) with ⟨envelope, error, takes, fails⟩
            exact ⟨envelope, error, by simp [taken_concat, takes], fails⟩

end

end Connection

end ServiceMesh
