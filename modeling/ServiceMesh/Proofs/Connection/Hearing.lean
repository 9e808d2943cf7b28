import ServiceMesh.Proofs.Connection.Status
import ServiceMesh.Proofs.Connection.Supply

/-!
# What a call hears from the peer

What happens to a call is read off the frames that the reader takes.  If nothing was heard of a
stream id before it was claimed, then all its frames have come to the stream and to the producer of
the call: `heard_eq_taken` for the arrivals of a stream, `credited_eq_granted` for the credits of a
producer.
-/

namespace ServiceMesh

/-- What a frame brings to a call of the given role. -/
def Frame.arrival? (role : Role) (streamId : UInt64) (frame : Frame) : Option Arrival :=
  if frame.streamId = streamId then
    match frame with
    | .next _ envelope => some (.message envelope)
    | .complete _ => some .completed
    | .error _ code text => some (.failed code text)
    | .cancel _ => if role = .server then some .cancelled else none
    | _ => none
  else none

/-- A call is cancelled at the server only. -/
theorem cancel_of_arrival {role : Role} {streamId : UInt64} {frame : Frame}
    (brings : frame.arrival? role streamId = some .cancelled) :
    role = .server ∧ frame = .cancel streamId := by
  have about : frame.streamId = streamId := by
    by_contra other
    simp [Frame.arrival?, other] at brings
  cases frame with
  | cancel id =>
      cases role with
      | client => simp [Frame.arrival?] at brings
      | server => exact ⟨rfl, congrArg Frame.cancel about⟩
  | _ => simp [Frame.arrival?] at brings

/-- The credits that a frame grants to a call. -/
def Frame.grant (streamId : UInt64) : Frame → Nat
  | .requestN id count => if id = streamId then count.toNat else 0
  | _ => 0

/-- The credits that some frames grant to a call. -/
def granted (streamId : UInt64) (frames : List Frame) : Nat :=
  (frames.map (Frame.grant streamId)).sum

theorem granted_append (streamId : UInt64) (first second : List Frame) :
    granted streamId (first ++ second) = granted streamId first + granted streamId second := by
  rw [granted, granted, granted, List.map_append, List.sum_append]

theorem granted_of_apart {streamId : UInt64} {frames : List Frame}
    (apart : ∀ frame ∈ frames, frame.streamId ≠ streamId) :
    granted streamId frames = 0 := by
  rw [granted, List.sum_eq_zero_iff_forall_eq_nat]
  intro count member
  rcases List.mem_map.mp member with ⟨frame, among, rfl⟩
  cases frame with
  | requestN id _ => exact if_neg (apart _ among)
  | _ => rfl

/-- Whether an arrival comes from the peer. -/
def Arrival.isHeard (arrival : Arrival) : Bool := arrival ≠ .closed

namespace Connection

/-- Nothing was heard of a stream id before it was claimed. -/
def Unheard (start : Connection) (actions : List Action) (streamId : UInt64) : Prop :=
  ∀ earlier, earlier <+: actions → streamId ∉ claimed (start.history earlier) →
    ∀ frame ∈ taken (start.history earlier), frame.streamId ≠ streamId

theorem Unheard.earlier {start : Connection} {actions : List Action} {action : Action}
    {streamId : UInt64} (unheard : Unheard start (actions ++ [action]) streamId) :
    Unheard start actions streamId :=
  fun _ early => unheard _ (early.trans (List.prefix_append _ _))

section

variable {connection : Connection} {number : Nat} {streamId : UInt64}

theorem arrival_eq (action : Action) :
    (connection.arrival streamId action).filter Arrival.isHeard =
      (Step.taken ⟨connection, action⟩).bind (Frame.arrival? connection.role streamId) := by
  cases action with
  | receive frame =>
      cases reading : connection.reads with
      | false => simp [arrival, Step.taken, reading]
      | true =>
          by_cases about : frame.streamId = streamId
          · cases frame with
            | cancel id =>
                cases side : connection.role <;>
                  simp [arrival, Step.taken, reading, about, Frame.arrival?, Arrival.isHeard, side]
            | _ =>
                simp [arrival, Step.taken, reading, about, Frame.arrival?, Arrival.isHeard]
          · simp [arrival, Step.taken, reading, about, Frame.arrival?]
  | close | endReader | endWriter =>
      simp only [arrival, Step.taken]
      split <;> rfl
  | _ => rfl

/-- What is new under a stream id does not come with a frame that the call would hear. -/
theorem Origin.silent {action : Action} (origin : Origin connection action streamId)
    {frame : Frame} (takes : Step.taken ⟨connection, action⟩ = some frame) :
    frame.arrival? connection.role streamId = none ∧ frame.grant streamId = 0 := by
  cases origin with
  | called opens advances =>
      cases action with
      | receive received => simp [Action.opensCall] at opens
      | _ => simp [Step.taken] at takes
  | accepted serves reading request accepts =>
      subst request
      simp only [Step.taken, reading, if_true, Option.some.injEq] at takes
      subst takes
      simp [Frame.arrival?, Frame.grant]

theorem producerEvent_credit {producer : Producer}
    (present : connection.producers[number]? = some producer) (action : Action) :
    (connection.producerEvent number action).elim 0 ProducerEvent.credit =
      (Step.taken ⟨connection, action⟩).elim 0 (Frame.grant producer.streamId) := by
  cases action with
  | receive frame =>
      cases reading : connection.reads with
      | false => simp [producerEvent, present, Step.taken, reading]
      | true =>
          by_cases about : frame.streamId = producer.streamId
          · cases frame <;>
              simp_all [producerEvent, Step.taken, Frame.grant, ProducerEvent.credit,
                Frame.streamId]
          · cases frame <;>
              simp_all [producerEvent, Step.taken, Frame.grant, Frame.streamId]
  | takeCredit _ | produce _ _ | respond _ _ | dropInbound _ | close | endReader | endWriter =>
      simp only [producerEvent, present, Step.taken]
      split <;> rfl
  | _ => simp [producerEvent, present, Step.taken]

theorem credited_concat (history : List Step) (step : Step) :
    credited (producerEvents number (history ++ [step])) =
      credited (producerEvents number history) +
        (step.before.producerEvent number step.action).elim 0 ProducerEvent.credit := by
  rw [producerEvents_concat, credited_append]
  cases step.before.producerEvent number step.action <;> rfl

theorem filter_toList {α : Type} (keeps : α → Bool) (item : Option α) :
    item.toList.filter keeps = (item.filter keeps).toList := by
  cases item with
  | none => rfl
  | some value => cases kept : keeps value <;> simp [Option.filter, kept]

end

/-! ## What receives -/

/-- What an action tells a receiver, which has a stream id from the moment on at which it comes to be,
are the arrivals of its call. -/
structure Receives (named : Connection → Option UInt64)
    (tells : Connection → Action → Option CallEvent) : Prop where
  absent : ∀ connection action, named connection = none → tells connection action = none
  arrives : ∀ connection action streamId, named connection = some streamId →
    (tells connection action).bind CallEvent.arrival? = connection.arrival streamId action
  keeps : ∀ connection action streamId, Wired connection → named connection = some streamId →
    named (connection.perform action).2 = some streamId
  origin : ∀ connection action streamId, Wired connection → named connection = none →
    named (connection.perform action).2 = some streamId → Origin connection action streamId

/-- The stream id of an inbound stream. -/
def streamName (number : Nat) (connection : Connection) : Option UInt64 :=
  (connection.inbound[number]?).map InboundStream.streamId

/-- The stream id of a reply. -/
def replyName (number : Nat) (connection : Connection) : Option UInt64 :=
  (connection.replies[number]?).map PendingReply.streamId

theorem receives_stream (number : Nat) :
    Receives (streamName number) fun connection action => connection.streamEvent number action where
  absent connection action missing := by
    simp [streamEvent, Option.map_eq_none_iff.mp missing]
  arrives connection action streamId isNamed := by
    rcases Option.map_eq_some_iff.mp isNamed with ⟨stream, present, rfl⟩
    cases action with
    | pullInbound other | dropInbound other =>
        by_cases same : other = number <;>
          simp [streamEvent, present, same, arrival, CallEvent.arrival?]
    | _ =>
        simp only [streamEvent, present]
        cases arrival connection stream.streamId _ <;> rfl
  keeps connection action streamId wired isNamed := by
    rcases Option.map_eq_some_iff.mp isNamed with ⟨stream, present, rfl⟩
    rcases (extends_perform wired action).1.inbound number stream present with
      ⟨later, atLater, same, -⟩
    rw [streamName, atLater, Option.map_some, same]
  origin connection action streamId wired missing isNamed := by
    rcases Option.map_eq_some_iff.mp isNamed with ⟨stream, present, rfl⟩
    exact origin_of_new_stream wired (Option.map_eq_none_iff.mp missing) present

theorem receives_reply (number : Nat) :
    Receives (replyName number) fun connection action => connection.replyEvent number action where
  absent connection action missing := by
    simp [replyEvent, Option.map_eq_none_iff.mp missing]
  arrives connection action streamId isNamed := by
    rcases Option.map_eq_some_iff.mp isNamed with ⟨reply, present, rfl⟩
    cases action with
    | pollReply other | dropReply other =>
        by_cases same : other = number <;>
          simp [replyEvent, present, same, arrival, CallEvent.arrival?]
    | _ =>
        simp only [replyEvent, present]
        cases arrival connection reply.streamId _ <;> rfl
  keeps connection action streamId wired isNamed := by
    rcases Option.map_eq_some_iff.mp isNamed with ⟨reply, present, rfl⟩
    rcases (extends_perform wired action).1.replies number reply present with
      ⟨later, atLater, same⟩
    rw [replyName, atLater, Option.map_some, same]
  origin connection action streamId wired missing isNamed := by
    rcases Option.map_eq_some_iff.mp isNamed with ⟨reply, present, rfl⟩
    have beyond := List.getElem?_eq_none_iff.mp (Option.map_eq_none_iff.mp missing)
    have within := (List.getElem?_eq_some_iff.mp present).1
    rcases replies_perform wired action with ⟨same, _⟩ | ⟨_, _, opened⟩
    · omega
    · have length := congrArg List.length opened.replies
      rw [List.length_append, List.length_singleton] at length
      have last : number = connection.replies.length := by omega
      rw [opened.replies, last, List.getElem?_concat_length, Option.some.injEq] at present
      rw [← present]
      exact opened.origin

/-- What has arrived at a receiver during a run. -/
def arrivedAt (tells : Connection → Action → Option CallEvent) (history : List Step) :
    List Arrival :=
  arrivals (history.filterMap fun step => tells step.before step.action)

theorem arrivedAt_concat (tells : Connection → Action → Option CallEvent) (history : List Step)
    (step : Step) :
    arrivedAt tells (history ++ [step]) =
      arrivedAt tells history ++
        ((tells step.before step.action).bind CallEvent.arrival?).toList := by
  rw [arrivedAt, filterMap_concat, arrivals, List.filterMap_append]
  cases tells step.before step.action with
  | none => rfl
  | some event => cases event <;> rfl

section

variable {named : Connection → Option UInt64} {tells : Connection → Action → Option CallEvent}
  {start : Connection} {actions : List Action}

theorem Receives.arrivedAt_of_absent (receives : Receives named tells) (wired : Wired start)
    (missing : named (start.after actions) = none) :
    arrivedAt tells (start.history actions) = [] := by
  induction actions using List.reverseRecOn with
  | nil => rfl
  | append_singleton actions action induction =>
      have wiredNow := wired_after wired actions
      rw [after_concat] at missing
      have before : named (start.after actions) = none := by
        by_contra present
        rcases Option.ne_none_iff_exists'.mp present with ⟨streamId, isNamed⟩
        rw [receives.keeps _ action _ wiredNow isNamed] at missing
        cases missing
      rw [history_concat, arrivedAt_concat, induction before,
        receives.absent _ action before]
      rfl

/-- A receiver hears of a close only on a closed connection. -/
theorem Receives.isClosed_of_heard (receives : Receives named tells) (wired : Wired start)
    (closing : .closed ∈ arrivedAt tells (start.history actions)) :
    (start.after actions).isClosed = true := by
  induction actions using List.reverseRecOn with
  | nil => cases closing
  | append_singleton actions action induction =>
      have grown := (extends_perform (wired_after wired actions) action).1
      rw [history_concat, arrivedAt_concat, List.mem_append] at closing
      rw [after_concat]
      rcases closing with before | now
      · have closed := induction before
        by_contra running
        rw [Bool.not_eq_true] at running
        rw [(grown.running running).1] at closed
        cases closed
      · cases isNamed : named (start.after actions) with
        | none =>
            rw [receives.absent _ action isNamed] at now
            cases now
        | some streamId =>
            rw [receives.arrives _ action _ isNamed, Option.mem_toList] at now
            have closes : action.closes = true := by
              cases action with
              | close | endReader | endWriter => rfl
              | receive frame =>
                  simp only [arrival] at now
                  split at now
                  · cases frame with
                    | cancel _ => cases side : (start.after actions).role <;> simp [side] at now
                    | _ => simp at now
                  · simp at now
              | _ => simp [arrival] at now
            exact isClosed_of_closes closes

/-- All that was taken of a call has come to what receives it. -/
theorem Receives.heard_eq_taken (receives : Receives named tells) (wired : Wired start)
    (once : (claimed (start.history actions)).Nodup) (blank : named start = none)
    {streamId : UInt64} (isNamed : named (start.after actions) = some streamId)
    (unheard : Unheard start actions streamId) :
    (arrivedAt tells (start.history actions)).filter Arrival.isHeard =
      (taken (start.history actions)).filterMap (Frame.arrival? start.role streamId) := by
  induction actions using List.reverseRecOn with
  | nil => simp [blank] at isNamed
  | append_singleton actions action induction =>
      have wiredNow := wired_after wired actions
      have side := (extends_after wired actions).role
      rw [after_concat] at isNamed
      rw [history_concat] at once ⊢
      rcases nodup_claimed_concat.mp once with ⟨onceBefore, fresh⟩
      rw [arrivedAt_concat, taken_concat, List.filter_append, List.filterMap_append]
      cases before : named (start.after actions) with
      | some earlier =>
          rw [receives.keeps _ action _ wiredNow before, Option.some.injEq] at isNamed
          subst isNamed
          rw [induction onceBefore before unheard.earlier]
          congr 1
          rw [receives.arrives _ action _ before, filter_toList, arrival_eq, side]
          cases Step.taken _ with
          | none => rfl
          | some frame => cases found : frame.arrival? start.role earlier <;> simp [found]
      | none =>
          -- The call begins here, and nothing was heard of its id before.
          have opens := receives.origin _ action _ wiredNow before isNamed
          have quiet := unheard actions (List.prefix_append _ _) (fresh _ opens.claimed)
          have silent : (taken (start.history actions)).filterMap
              (Frame.arrival? start.role streamId) = [] := by
            rw [List.filterMap_eq_nil_iff]
            intro frame member
            exact if_neg (quiet frame member)
          rw [receives.arrivedAt_of_absent wired before, silent, receives.absent _ action before]
          cases takes : Step.taken ⟨start.after actions, action⟩ with
          | none => rfl
          | some frame =>
              have nothing := (opens.silent takes).1
              rw [side] at nothing
              simp [nothing]

end

section

variable (role : Role) (peer : String) (codec : MessageCodec) (config : Config)

/-- All that was taken of a call has come to its stream. -/
theorem heard_eq_taken {actions : List Action}
    (once : (claimed ((spawn role peer codec config).history actions)).Nodup)
    {number : Nat} {stream : InboundStream}
    (present : ((spawn role peer codec config).after actions).inbound[number]? = some stream)
    (unheard : Unheard (spawn role peer codec config) actions stream.streamId) :
    (arrivals (streamEvents number ((spawn role peer codec config).history actions))).filter
        Arrival.isHeard =
      (taken ((spawn role peer codec config).history actions)).filterMap
        (Frame.arrival? role stream.streamId) :=
  (receives_stream number).heard_eq_taken (wired_spawn role peer codec config) once rfl
    (by rw [streamName, present, Option.map_some]) unheard

/-- All that was taken of a call has come to its reply. -/
theorem reply_heard_eq_taken {actions : List Action}
    (once : (claimed ((spawn role peer codec config).history actions)).Nodup)
    {number : Nat} {reply : PendingReply}
    (present : ((spawn role peer codec config).after actions).replies[number]? = some reply)
    (unheard : Unheard (spawn role peer codec config) actions reply.streamId) :
    (arrivals (replyEvents number ((spawn role peer codec config).history actions))).filter
        Arrival.isHeard =
      (taken ((spawn role peer codec config).history actions)).filterMap
        (Frame.arrival? role reply.streamId) :=
  (receives_reply number).heard_eq_taken (wired_spawn role peer codec config) once rfl
    (by rw [replyName, present, Option.map_some]) unheard

/-- A producer has been granted all credits that were taken for its call. -/
theorem credited_eq_granted {actions : List Action}
    (once : (claimed ((spawn role peer codec config).history actions)).Nodup)
    {number : Nat} {producer : Producer}
    (present : ((spawn role peer codec config).after actions).producers[number]? =
      some producer)
    (unheard : Unheard (spawn role peer codec config) actions producer.streamId) :
    credited (producerEvents number ((spawn role peer codec config).history actions)) =
      granted producer.streamId (taken ((spawn role peer codec config).history actions)) := by
  induction actions using List.reverseRecOn generalizing producer with
  | nil => simp [spawn] at present
  | append_singleton actions action induction =>
      have wired := wired_after (wired_spawn role peer codec config) actions
      rw [after_concat] at present
      rw [history_concat] at once ⊢
      rcases nodup_claimed_concat.mp once with ⟨onceBefore, fresh⟩
      rw [credited_concat, taken_concat, granted_append]
      cases before : ((spawn role peer codec config).after actions).producers[number]? with
      | some earlier =>
          have same := (extends_perform wired action).1.producerId before present
          rw [same] at unheard ⊢
          rw [induction onceBefore before unheard.earlier]
          congr 1
          rw [producerEvent_credit before]
          cases Step.taken _ <;> simp [granted]
      | none =>
          have absent : ((spawn role peer codec config).after actions).producerPart number =
              none := by
            rw [producerPart, before, Option.map_none]
          have opens := origin_of_new_producer wired before present
          have quiet := unheard actions (List.prefix_append _ _) (fresh _ opens.claimed)
          rw [(absent_after (wired_spawn role peer codec config) actions absent).1,
            granted_of_apart quiet, producerEvent_of_absent absent]
          cases takes : Step.taken ⟨(spawn role peer codec config).after actions, action⟩ with
          | none => rfl
          | some frame => simp [granted, credited, (opens.silent takes).2]

/-- A stream hears of a close only on a closed connection. -/
theorem isClosed_of_heard {actions : List Action} {number : Nat}
    (closing : .closed ∈
      arrivals (streamEvents number ((spawn role peer codec config).history actions))) :
    ((spawn role peer codec config).after actions).isClosed = true :=
  (receives_stream number).isClosed_of_heard (wired_spawn role peer codec config) closing

/-- A reply hears of a close only on a closed connection. -/
theorem isClosed_of_reply_heard {actions : List Action} {number : Nat}
    (closing : .closed ∈
      arrivals (replyEvents number ((spawn role peer codec config).history actions))) :
    ((spawn role peer codec config).after actions).isClosed = true :=
  (receives_reply number).isClosed_of_heard (wired_spawn role peer codec config) closing

end

end Connection

end ServiceMesh
