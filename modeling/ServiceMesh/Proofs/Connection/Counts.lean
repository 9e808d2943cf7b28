import Mathlib.Algebra.BigOperators.Group.List.Basic
import ServiceMesh.Proofs.Connection.Hearing

/-!
# Messages and grants

Messages and grants are counted by the call that they are for.  Only an inbound stream grants
(`stream_of_grant`), always as many credits at once (`granted_of_equal`), and its consumer pulls no
more messages than have arrived (`pulled_script_le`).

As long as a call goes on, its messages were pulled or wait to be pulled, but for those that a server
passes over because they come after a cancellation (`StreamPart.run_messages`,
`takeWhile_add_passedOver`).
-/

namespace ServiceMesh

/-! ## Counting frames -/

/-- Whether an arrival is a message. -/
def Arrival.isMessage : Arrival → Bool
  | .message _ => true
  | _ => false

/-- Whether a frame carries a message of a call. -/
def Frame.isNextOf (streamId : UInt64) : Frame → Bool
  | .next id _ => id = streamId
  | _ => false

/-- The messages of a call among some frames. -/
def nexts (streamId : UInt64) (frames : List Frame) : Nat :=
  frames.countP (Frame.isNextOf streamId)

theorem nexts_append (streamId : UInt64) (first second : List Frame) :
    nexts streamId (first ++ second) = nexts streamId first + nexts streamId second :=
  List.countP_append

theorem nexts_eq_content (streamId : UInt64) (frames : List Frame) :
    nexts streamId frames =
      (frames.filter (Frame.isContent streamId)).countP Frame.isNext := by
  rw [List.countP_filter, nexts]
  congr 1
  funext frame
  cases frame <;> simp [Frame.isNextOf, Frame.isContent, Frame.isNext]

/-- Messages are what arrives as messages. -/
theorem isNextOf_eq (role : Role) (streamId : UInt64) (frame : Frame) :
    frame.isNextOf streamId = (frame.arrival? role streamId).any Arrival.isMessage := by
  by_cases about : frame.streamId = streamId
  · cases frame with
    | cancel id => cases role <;> simp_all [Frame.arrival?, Frame.isNextOf, Arrival.isMessage]
    | _ => simp_all [Frame.arrival?, Frame.isNextOf, Frame.streamId, Arrival.isMessage]
  · cases frame <;> simp_all [Frame.arrival?, Frame.isNextOf, Frame.streamId]

theorem nexts_cons (role : Role) (streamId : UInt64) (frame : Frame) (frames : List Frame) :
    nexts streamId (frame :: frames) =
      nexts streamId frames +
        if (frame.arrival? role streamId).any Arrival.isMessage then 1 else 0 := by
  rw [nexts, List.countP_cons, isNextOf_eq role]
  rfl

theorem nexts_eq_messages (role : Role) (streamId : UInt64) (frames : List Frame) :
    nexts streamId frames =
      (frames.filterMap (Frame.arrival? role streamId)).countP Arrival.isMessage := by
  induction frames with
  | nil => rfl
  | cons frame frames induction =>
      rw [nexts_cons role, induction]
      cases brings : frame.arrival? role streamId with
      | none => simp [brings]
      | some arrival => simp [brings, List.countP_cons]

theorem nexts_of_apart {streamId : UInt64} {frames : List Frame}
    (apart : ∀ frame ∈ frames, frame.streamId ≠ streamId) :
    nexts streamId frames = 0 := by
  rw [nexts, List.countP_eq_zero]
  intro frame member
  cases frame with
  | next id _ => simpa [Frame.isNextOf, Frame.streamId] using apart _ member
  | _ => simp [Frame.isNextOf]

/-- The messages of a call that come after its cancellation, which only a server heeds. -/
def passedOver (role : Role) (streamId : UInt64) (frames : List Frame) : Nat :=
  nexts streamId (frames.dropWhile fun frame => frame.arrival? role streamId ≠ some .cancelled)

theorem passedOver_cons (role : Role) (streamId : UInt64) (frame : Frame) (frames : List Frame) :
    passedOver role streamId (frame :: frames) =
      if frame.arrival? role streamId = some .cancelled then nexts streamId frames
      else passedOver role streamId frames := by
  by_cases cancels : frame.arrival? role streamId = some .cancelled
  · have first : (frame :: frames).dropWhile
        (fun frame => frame.arrival? role streamId ≠ some .cancelled) = frame :: frames :=
      List.dropWhile_cons_of_neg (by simp [cancels])
    rw [passedOver, first, nexts_cons role, cancels, if_pos rfl]
    rfl
  · rw [passedOver, List.dropWhile_cons_of_pos (by simpa using cancels), if_neg cancels, passedOver]

theorem passedOver_le_nexts (role : Role) (streamId : UInt64) (frames : List Frame) :
    passedOver role streamId frames ≤ nexts streamId frames :=
  (List.dropWhile_sublist _).countP_le

/-- Nothing is passed over unless a server has taken a cancellation. -/
theorem cancel_mem_of_passedOver {role : Role} {streamId : UInt64} {frames : List Frame}
    (passes : passedOver role streamId frames ≠ 0) :
    role = .server ∧ .cancel streamId ∈ frames := by
  induction frames with
  | nil => exact (passes rfl).elim
  | cons frame frames induction =>
      rw [passedOver_cons] at passes
      split at passes
      · rename_i brings
        rcases cancel_of_arrival brings with ⟨serves, rfl⟩
        exact ⟨serves, List.mem_cons_self⟩
      · exact (induction passes).imp_right (List.mem_cons_of_mem _)

/-- Of a call that only sends messages and may be cancelled, the messages are those that come first
and those that are passed over. -/
theorem takeWhile_add_passedOver {role : Role} {streamId : UInt64} {frames : List Frame}
    (plain : ∀ arrival ∈ frames.filterMap (Frame.arrival? role streamId),
      arrival = .cancelled ∨ ∃ envelope, arrival = .message envelope) :
    ((frames.filterMap (Frame.arrival? role streamId)).takeWhile Arrival.isMessage).length +
        passedOver role streamId frames =
      nexts streamId frames := by
  induction frames with
  | nil => rfl
  | cons frame frames induction =>
      rw [passedOver_cons, nexts_cons role]
      cases brings : frame.arrival? role streamId with
      | none =>
          rw [List.filterMap_cons_none brings] at plain ⊢
          simpa using induction plain
      | some arrival =>
          rw [List.filterMap_cons_some brings] at plain ⊢
          rcases plain arrival List.mem_cons_self with rfl | ⟨envelope, rfl⟩
          · simp [Arrival.isMessage]
          · have rest := induction fun other member => plain other (List.mem_cons_of_mem _ member)
            simp only [List.takeWhile_cons, Arrival.isMessage, if_true, List.length_cons,
              Option.any_some, Option.some.injEq, reduceCtorEq, if_false]
            omega

theorem granted_le_of_prefix (streamId : UInt64) {first second : List Frame}
    (early : first <+: second) :
    granted streamId first ≤ granted streamId second := by
  rcases early with ⟨rest, rfl⟩
  rw [granted_append]
  exact Nat.le_add_right _ _

theorem nexts_le_of_prefix (streamId : UInt64) {first second : List Frame}
    (early : first <+: second) :
    nexts streamId first ≤ nexts streamId second :=
  early.sublist.countP_le

/-- Grants are part of the feedback of a stream. -/
theorem granted_feedback (streamId : UInt64) (frames : List Frame) :
    granted streamId (frames.filter (Frame.isFeedback streamId)) =
      granted streamId frames := by
  induction frames with
  | nil => rfl
  | cons frame frames induction =>
      have whole : granted streamId (frame :: frames) =
          frame.grant streamId + granted streamId frames := rfl
      cases about : frame.isFeedback streamId with
      | true =>
          rw [List.filter_cons_of_pos about, whole, ← induction]
          rfl
      | false =>
          rw [List.filter_cons_of_neg (by rw [about]; decide), whole, induction]
          cases frame <;> simp_all [Frame.isFeedback, Frame.grant]

/-- Equal grants add up to a multiple. -/
theorem granted_of_equal {streamId : UInt64} {count : Nat} (small : count < 2 ^ 32)
    {frames : List Frame}
    (equal : ∀ frame ∈ frames, frame.isGrant = true →
      frame = .requestN streamId (UInt32.ofNat count)) :
    granted streamId frames = count * frames.countP Frame.isGrant := by
  induction frames with
  | nil => rfl
  | cons frame frames induction =>
      have rest := induction fun frame member => equal frame (List.mem_cons_of_mem _ member)
      have whole : granted streamId (frame :: frames) =
          frame.grant streamId + granted streamId frames := rfl
      rw [whole, rest, List.countP_cons]
      cases grants : frame.isGrant with
      | true =>
          rw [equal frame List.mem_cons_self grants, if_pos rfl, Nat.mul_add, Nat.mul_one,
            Nat.add_comm]
          simp only [Frame.grant, if_true, UInt32.toNat_ofNat']
          omega
      | false =>
          cases frame <;> simp_all [Frame.isGrant, Frame.grant]

theorem granted_of_absent {streamId : UInt64} {frames : List Frame}
    (absent : ∀ count, .requestN streamId count ∉ frames) :
    granted streamId frames = 0 := by
  apply List.sum_eq_zero
  intro credits member
  rcases List.mem_map.mp member with ⟨frame, among, rfl⟩
  cases frame with
  | requestN id count =>
      refine if_neg fun same => absent count ?_
      exact same ▸ among
  | _ => rfl

/-- No more messages are pulled than have arrived. -/
theorem pulled_script_le (connection : Connection) (arrivals : List Arrival) :
    (pulled (connection.script arrivals)).length ≤
      arrivals.countP Arrival.isMessage := by
  induction arrivals with
  | nil => simp [Connection.script, pulled]
  | cons arrival arrivals induction =>
      cases arrival with
      | message envelope =>
          rw [List.countP_cons_of_pos (by rfl), Connection.script]
          cases connection.codec.decode envelope with
          | ok message => simpa [pulled] using induction
          | error error => simp [pulled]
      | _ => simp [Connection.script, pulled]

/-- Of arrivals that are messages or cancellations, those without a cancellation are messages. -/
theorem messages_of_uncancelled {events : List CallEvent}
    (uncancelled : .arrived .cancelled ∉ events)
    (plain : ∀ arrival ∈ arrivals events,
      arrival = .cancelled ∨ ∃ envelope, arrival = .message envelope) :
    ∀ arrival ∈ arrivals events, ∃ envelope, arrival = .message envelope := by
  intro arrival member
  refine (plain arrival member).resolve_left ?_
  rintro rfl
  rcases List.mem_filterMap.mp member with ⟨event, among, brings⟩
  cases event with
  | arrived arrival =>
      cases brings
      exact uncancelled among
  | _ => cases brings

theorem takeWhile_isMessage_append {first : List Arrival}
    (messages : ∀ arrival ∈ first, ∃ envelope, arrival = .message envelope)
    (second : List Arrival) :
    (first ++ second).takeWhile Arrival.isMessage =
      first ++ second.takeWhile Arrival.isMessage := by
  apply List.takeWhile_append_of_pos
  intro arrival member
  rcases messages arrival member with ⟨envelope, rfl⟩
  rfl

namespace StreamPart

variable (connection : Connection)

/-- A stream that nothing reaches any more shows what is there, and nothing else. -/
theorem step_unfed {part : StreamPart} (unfed : part.isFed = false)
    (clean : ∀ item ∈ part.stream.buffer, ∃ message, item = .ok message) (event : CallEvent) :
    (part.step connection event).isFed = false ∧
      (∀ item ∈ (part.step connection event).stream.buffer, ∃ message, item = .ok message) ∧
      (pulled (part.shows event).toList).length +
          (part.step connection event).stream.buffer.length =
        part.stream.buffer.length := by
  rcases part with ⟨⟨streamId, isRequester, buffer, consumed, isDone⟩, isFed⟩
  simp only at unfed clean
  subst unfed
  cases event with
  | arrived arrival => simpa [step, shows, pulled] using clean
  | asked =>
      cases isDone with
      | true => simpa [step, shows, pulled] using clean
      | false =>
          rcases buffer with _ | ⟨_ | message, rest⟩
          · simp [step, shows, pulled, finish]
          · rcases clean _ List.mem_cons_self with ⟨message, impossible⟩
            cases impossible
          · refine ⟨rfl, fun item member => clean item (List.mem_cons_of_mem _ member), ?_⟩
            simp [step, shows, pulled, pull, Nat.add_comm]
  | left => cases isDone <;> simpa [step, shows, pulled, finish, cut] using clean

theorem run_unfed {part : StreamPart} (unfed : part.isFed = false)
    (clean : ∀ item ∈ part.stream.buffer, ∃ message, item = .ok message)
    (events : List CallEvent) :
    (pulled (part.shown connection events)).length +
        (part.run connection events).stream.buffer.length =
      part.stream.buffer.length := by
  induction events generalizing part with
  | nil => simp [run, shown, pulled]
  | cons event events induction =>
      rcases step_unfed connection unfed clean event with ⟨later, still, now⟩
      have rest := induction later still
      rw [run_cons, shown_cons, pulled_append, List.length_append]
      omega

/-- As long as a stream has sent no cancellation, and nothing has ended the call but a cancellation of
the peer, the messages that came before the cancellation were pulled or are there to be pulled. -/
theorem run_messages {part : StreamPart} (fed : part.isFed = true) (sound : part.Sound)
    {events : List CallEvent}
    (keeps : ∀ frame ∈ part.fedBack connection events, frame.isGrant = true)
    (plain : ∀ arrival ∈ arrivals events,
      arrival = .cancelled ∨ ∃ envelope, arrival = .message envelope) :
    (pulled (part.shown connection events)).length +
        (part.run connection events).stream.buffer.length =
      part.stream.buffer.length + ((arrivals events).takeWhile Arrival.isMessage).length := by
  by_cases cancels : .arrived .cancelled ∈ events
  · rcases List.eq_append_cons_of_mem cancels with ⟨early, late, rfl, uncancelled⟩
    rw [arrivals_append] at plain ⊢
    rw [fedBack_append] at keeps
    have messages := messages_of_uncancelled uncancelled
      (fun arrival member => plain arrival (List.mem_append_left _ member))
    rcases run_fed connection part fed sound
      (fun frame member => keeps frame (List.mem_append_left _ member)) messages with ⟨stays, before⟩
    have cuts : (part.run connection early).step connection (.arrived .cancelled) =
        (part.run connection early).cut := by
      simp [step, take, stays]
    have nothing : (pulled
        ((part.run connection early).shows (.arrived .cancelled)).toList).length = 0 := rfl
    have after : (pulled ((part.run connection early).cut.shown connection late)).length +
          ((part.run connection early).cut.run connection late).stream.buffer.length =
        (part.run connection early).stream.buffer.length :=
      run_unfed connection (show (part.run connection early).cut.isFed = false from rfl)
        (sound.run early stays).2 late
    have first : (arrivals early ++ arrivals (.arrived .cancelled :: late)).takeWhile
        Arrival.isMessage = arrivals early :=
      (takeWhile_isMessage_append messages _).trans (List.append_nil _)
    rw [run_append, shown_append, run_cons, shown_cons, cuts, pulled_append, pulled_append,
      List.length_append, List.length_append, nothing, first]
    omega
  · have messages := messages_of_uncancelled cancels plain
    have all := takeWhile_isMessage_append messages []
    rw [List.append_nil, List.takeWhile_nil, List.append_nil] at all
    rw [all]
    exact (run_fed connection part fed sound keeps messages).2

end StreamPart

namespace Connection

/-- Only an inbound stream grants credits, when it is pulled. -/
theorem stream_of_grant_sends {connection : Connection} {action : Action}
    {streamId : UInt64} {count : UInt32}
    (member : .requestN streamId count ∈ connection.sends action) :
    ∃ stream ∈ connection.inbound, stream.streamId = streamId := by
  cases reason_of_mem member with
  | grant _ present => exact ⟨_, List.mem_of_getElem? present, rfl⟩
  | signal _ framed | response _ framed => cases framed

/-- Who has granted credits for a call has its inbound stream. -/
theorem stream_of_grant (role : Role) (peer : String) (codec : MessageCodec)
    (config : Config) (actions : List Action) {streamId : UInt64} {count : UInt32}
    (member : .requestN streamId count ∈
      sent ((spawn role peer codec config).history actions)) :
    ∃ stream ∈ ((spawn role peer codec config).after actions).inbound,
      stream.streamId = streamId := by
  induction actions using List.reverseRecOn with
  | nil => simp [sent, history] at member
  | append_singleton actions action induction =>
      have wired := wired_after (wired_spawn role peer codec config) actions
      have grown := (extends_perform wired action).1
      rw [history_concat, sent_concat, List.mem_append] at member
      rw [after_concat]
      rcases member with before | now
      · exact grown.exists_inbound (induction before)
      · exact grown.exists_inbound (stream_of_grant_sends now)

/-- On an open connection every inbound stream was handed to its consumer. -/
theorem handed_of_open (role : Role) (peer : String) (codec : MessageCodec)
    (config : Config) (actions : List Action)
    (running : ((spawn role peer codec config).after actions).isClosed = false)
    {number : Nat}
    (present : number < ((spawn role peer codec config).after actions).inbound.length) :
    handed number ((spawn role peer codec config).history actions) = true := by
  induction actions using List.reverseRecOn with
  | nil => simp [spawn] at present
  | append_singleton actions action induction =>
      have wired := wired_after (wired_spawn role peer codec config) actions
      have grown := (extends_perform wired action).1
      rw [after_concat] at running present
      have before := (grown.running running).1
      rw [history_concat, handed_concat]
      rcases inbound_perform wired action with
        ⟨same, -⟩ | ⟨streamId, isRequester, isHanded, opened⟩
      · rw [induction before (same ▸ present)]
        rfl
      · rw [opened.inbound, List.length_append, List.length_singleton] at present
        have hands : isHanded = true := by
          by_contra unhanded
          rw [opened.closed (Bool.eq_false_iff.mpr unhanded)] at before
          cases before
        rcases Nat.lt_succ_iff_lt_or_eq.mp present with earlier | rfl
        · rw [induction before earlier]
          rfl
        · rw [opened.hands, hands]
          simp

end Connection

end ServiceMesh
