import Mathlib.Data.List.Nodup
import ServiceMesh.Proofs.Connection.Posting
import ServiceMesh.Proofs.Connection.Replies

/-!
# Stream ids tell calls apart

A stream id is claimed when a caller opens a call and when a request is taken.  What belongs to calls
carries claimed ids only, and as long as no id is claimed twice, nothing shares its id with anything
else of its kind (`claims_after`).

A client claims the odd numbers in their order, so that none comes back in fewer than 2^63 calls
(`nodup_claimed_of_calls`).
-/

namespace ServiceMesh.Connection

/-- The stream ids of the replies and of the inbound streams. -/
def receiverIds (connection : Connection) : List UInt64 :=
  connection.replies.map PendingReply.streamId ++ connection.inbound.map InboundStream.streamId

/-- The stream ids of the producers. -/
def producerIds (connection : Connection) : List UInt64 :=
  connection.producers.map Producer.streamId

theorem mem_receiverIds_of_reply {connection : Connection} {number : Nat} {reply : PendingReply}
    (present : connection.replies[number]? = some reply) :
    reply.streamId ∈ connection.receiverIds :=
  List.mem_append_left _ (List.mem_map_of_mem (List.mem_of_getElem? present))

theorem mem_receiverIds_of_stream {connection : Connection} {number : Nat}
    {stream : InboundStream} (present : connection.inbound[number]? = some stream) :
    stream.streamId ∈ connection.receiverIds :=
  List.mem_append_right _ (List.mem_map_of_mem (List.mem_of_getElem? present))

theorem mem_producerIds {connection : Connection} {number : Nat} {producer : Producer}
    (present : connection.producers[number]? = some producer) :
    producer.streamId ∈ connection.producerIds :=
  List.mem_map_of_mem (List.mem_of_getElem? present)

/-- The stream id that a step claims. -/
def Step.claimed (step : Step) : Option UInt64 :=
  match step.action with
  | .receive (.request _ streamId _) =>
    if step.before.reads ∧ step.before.role = .server then some streamId else none
  | _ => step.issued

/-- The stream ids that were claimed. -/
def claimed (history : List Step) : List UInt64 := history.filterMap Step.claimed

theorem claimed_concat (history : List Step) (step : Step) :
    claimed (history ++ [step]) = claimed history ++ step.claimed.toList :=
  filterMap_concat _ _ _

/-- No id is claimed twice just if each step claims an id that was not claimed before it. -/
theorem nodup_claimed_concat {history : List Step} {step : Step} :
    (claimed (history ++ [step])).Nodup ↔
      (claimed history).Nodup ∧
        ∀ streamId, step.claimed = some streamId → streamId ∉ claimed history := by
  rw [claimed_concat]
  cases step.claimed with
  | none => simp
  | some streamId => simp [List.nodup_append_comm, and_comm]

section

variable {connection : Connection}

theorem add_two_ne (streamId : UInt64) : streamId + 2 ≠ streamId := by
  intro same
  have numbers := congrArg UInt64.toNat same
  rw [UInt64.toNat_add] at numbers
  have below := streamId.toNat_lt
  have two : (2 : UInt64).toNat = 2 := rfl
  omega

theorem Origin.claimed {action : Action} {streamId : UInt64}
    (origin : Origin connection action streamId) :
    Step.claimed ⟨connection, action⟩ = some streamId := by
  cases origin with
  | called opens advances =>
      have issues : Step.issued ⟨connection, action⟩ = some connection.nextStreamId := by
        rw [Step.issued, Step.after, advances, if_neg (add_two_ne _)]
      cases action with
      | receive frame => simp [Action.opensCall] at opens
      | _ => exact issues
  | accepted serves reading request accepts =>
      subst request
      exact if_pos ⟨reading, serves⟩

theorem map_eq_of_extends {α β : Type} {first second : List α} (name : α → β)
    (extends_ : ∀ (number : Nat) item, first[number]? = some item →
      ∃ later, second[number]? = some later ∧ name later = name item)
    (same : second.length = first.length) :
    second.map name = first.map name := by
  apply List.ext_getElem?
  intro number
  rw [List.getElem?_map, List.getElem?_map]
  cases present : first[number]? with
  | none =>
      rw [List.getElem?_eq_none_iff] at present
      rw [List.getElem?_eq_none_iff.mpr (by omega)]
  | some item =>
      rcases extends_ number item present with ⟨later, atNumber, named⟩
      rw [atNumber, Option.map_some, Option.map_some, named]

/-- A step adds no receiver, or one that carries the claimed id. -/
theorem receiverIds_perform (wired : Wired connection) (action : Action) :
    (connection.perform action).2.receiverIds = connection.receiverIds ∨
      ∃ streamId, Step.claimed ⟨connection, action⟩ = some streamId ∧
        (connection.perform action).2.receiverIds.Perm (streamId :: connection.receiverIds) := by
  have grown := (extends_perform wired action).1
  rcases inbox_perform wired action with
    nothing | ⟨streamId, _, opened⟩ | ⟨streamId, _, _, opened⟩
  · have replies := map_eq_of_extends PendingReply.streamId grown.replies nothing.lengths.1
    have streams := map_eq_of_extends InboundStream.streamId
      (fun number stream present =>
        (grown.inbound number stream present).imp fun _ found => ⟨found.1, found.2.1⟩)
      nothing.lengths.2
    exact .inl (by rw [receiverIds, replies, streams, receiverIds])
  · refine .inr ⟨streamId, opened.origin.claimed, ?_⟩
    simp only [receiverIds, opened.replies, opened.inbound, List.map_append, List.map_cons,
      List.map_nil, List.append_assoc, List.singleton_append]
    exact List.perm_middle
  · refine .inr ⟨streamId, opened.origin.claimed, ?_⟩
    simp only [receiverIds, opened.replies, opened.inbound, List.map_append, List.map_cons,
      List.map_nil, ← List.append_assoc]
    exact List.perm_append_singleton _ _

/-- A step adds no producer, or one that carries the claimed id. -/
theorem producerIds_perform (wired : Wired connection) (action : Action) :
    (connection.perform action).2.producerIds = connection.producerIds ∨
      ∃ streamId, Step.claimed ⟨connection, action⟩ = some streamId ∧
        (connection.perform action).2.producerIds = connection.producerIds ++ [streamId] := by
  have grown := (extends_perform wired action).1
  rcases producers_perform wired action with same | ⟨streamId, producer, opened⟩
  · exact .inl (map_eq_of_extends Producer.streamId grown.producers same)
  · refine .inr ⟨streamId, opened.origin.claimed, ?_⟩
    simp [producerIds, opened.producers, opened.carries]

end

/-- What belongs to calls carries claimed ids, and each id once if none was claimed twice. -/
structure Claims (history : List Step) (connection : Connection) : Prop where
  receivers : ∀ streamId ∈ connection.receiverIds, streamId ∈ claimed history
  producers : ∀ streamId ∈ connection.producerIds, streamId ∈ claimed history
  apart : (claimed history).Nodup →
    connection.receiverIds.Nodup ∧ connection.producerIds.Nodup

theorem claims_concat {connection : Connection} {history : List Step}
    (wired : Wired connection) (before : Claims history connection) (action : Action) :
    Claims (history ++ [⟨connection, action⟩]) (connection.perform action).2 := by
  have kept {streamId : UInt64} (member : streamId ∈ claimed history) :
      streamId ∈ claimed (history ++ [⟨connection, action⟩]) := by
    rw [claimed_concat]
    exact List.mem_append_left _ member
  have fresh {streamId : UInt64}
      (claims : Step.claimed ⟨connection, action⟩ = some streamId) :
      streamId ∈ claimed (history ++ [⟨connection, action⟩]) := by
    rw [claimed_concat, claims]
    simp
  constructor
  · intro streamId member
    rcases receiverIds_perform wired action with same | ⟨added, claims, grown⟩
    · exact kept (before.receivers streamId (same ▸ member))
    · rcases List.mem_cons.mp (grown.mem_iff.mp member) with new | old
      · exact new ▸ fresh claims
      · exact kept (before.receivers streamId old)
  · intro streamId member
    rcases producerIds_perform wired action with same | ⟨added, claims, grown⟩
    · exact kept (before.producers streamId (same ▸ member))
    · rw [grown] at member
      rcases List.mem_append.mp member with old | new
      · exact kept (before.producers streamId old)
      · exact List.mem_singleton.mp new ▸ fresh claims
  · intro once
    rcases nodup_claimed_concat.mp once with ⟨onceBefore, unused⟩
    have apart := before.apart onceBefore
    constructor
    · rcases receiverIds_perform wired action with same | ⟨added, claims, grown⟩
      · exact same ▸ apart.1
      · refine grown.nodup_iff.mpr (List.nodup_cons.mpr ⟨?_, apart.1⟩)
        exact fun member => unused added claims (before.receivers added member)
    · rcases producerIds_perform wired action with same | ⟨added, claims, grown⟩
      · exact same ▸ apart.2
      · rw [grown]
        refine (List.perm_append_singleton _ _).nodup_iff.mpr
          (List.nodup_cons.mpr ⟨?_, apart.2⟩)
        exact fun member => unused added claims (before.producers added member)

/-- In every run what belongs to calls carries claimed ids. -/
theorem claims_after (role : Role) (peer : String) (codec : MessageCodec)
    (config : Config) (actions : List Action) :
    Claims ((spawn role peer codec config).history actions)
      ((spawn role peer codec config).after actions) := by
  induction actions using List.reverseRecOn with
  | nil =>
      exact ⟨by simp [receiverIds, spawn], by simp [producerIds, spawn],
        by simp [receiverIds, producerIds, spawn]⟩
  | append_singleton actions action induction =>
      rw [after_concat, history_concat]
      exact claims_concat (wired_after (wired_spawn role peer codec config) actions)
        induction action

/-! ## Nothing else has the id -/

/-- No other producer has the stream id of a producer. -/
def SoleProducer (connection : Connection) (number : Nat) (streamId : UInt64) : Prop :=
  ∀ (other : Nat) producer, connection.producers[other]? = some producer →
    producer.streamId = streamId → other = number

theorem SoleProducer.earlier {first second : Connection} {number : Nat}
    {streamId : UInt64} (sole : SoleProducer second number streamId)
    (grown : Extends first second) :
    SoleProducer first number streamId := by
  intro other producer present carries
  rcases grown.producers other producer present with ⟨later, atLater, same⟩
  exact sole other later atLater (same.trans carries)

theorem eq_of_nodup_map {α : Type} {items : List α} {name : α → UInt64}
    (once : (items.map name).Nodup) {first second : Nat} {item other : α}
    (atFirst : items[first]? = some item) (atSecond : items[second]? = some other)
    (same : name item = name other) :
    first = second := by
  have within := (List.getElem?_eq_some_iff.mp atFirst).1
  have inMap : first < (items.map name).length := by simpa using within
  refine (List.getElem?_inj inMap once).mp ?_
  rw [List.getElem?_map, List.getElem?_map, atFirst, atSecond, Option.map_some,
    Option.map_some, same]

section

variable {connection : Connection} {history : List Step}

theorem Claims.soleStream (claims : Claims history connection)
    (once : (claimed history).Nodup) {number : Nat} {stream : InboundStream}
    (present : connection.inbound[number]? = some stream) :
    SoleStream connection number stream.streamId := by
  rcases List.nodup_append.mp (claims.apart once).1 with ⟨_, streams, across⟩
  constructor
  · intro other item atOther same
    exact eq_of_nodup_map streams atOther present same
  · intro other reply atOther same
    exact across _ (List.mem_map_of_mem (List.mem_of_getElem? atOther)) _
      (List.mem_map_of_mem (List.mem_of_getElem? present)) same

theorem Claims.soleReply (claims : Claims history connection)
    (once : (claimed history).Nodup) {number : Nat} {reply : PendingReply}
    (present : connection.replies[number]? = some reply) :
    SoleReply connection number reply.streamId := by
  rcases List.nodup_append.mp (claims.apart once).1 with ⟨replies, _, across⟩
  constructor
  · intro other item atOther same
    exact eq_of_nodup_map replies atOther present same
  · intro other stream atOther same
    exact across _ (List.mem_map_of_mem (List.mem_of_getElem? present)) _
      (List.mem_map_of_mem (List.mem_of_getElem? atOther)) same.symm

theorem Claims.soleProducer (claims : Claims history connection)
    (once : (claimed history).Nodup) {number : Nat} {producer : Producer}
    (present : connection.producers[number]? = some producer) :
    SoleProducer connection number producer.streamId := by
  intro other item atOther same
  exact eq_of_nodup_map (claims.apart once).2 atOther present same

end

/-! ## The ids of a client -/

theorem calls_concat (actions : List Action) (action : Action) :
    calls (actions ++ [action]) = calls actions + if action.opensCall then 1 else 0 := by
  simp [calls, List.countP_append, List.countP_cons]

/-- The numbers that are handed out as stream ids, in their order. -/
def oddIds (count : Nat) : List UInt64 :=
  (List.range count).map (fun index => UInt64.ofNat (1 + 2 * index))

theorem oddIds_succ (count : Nat) :
    oddIds (count + 1) = oddIds count ++ [UInt64.ofNat (1 + 2 * count)] := by
  rw [oddIds, List.range_succ, List.map_append]
  rfl

theorem oddId_add_two (count : Nat) :
    UInt64.ofNat (1 + 2 * count) + 2 = UInt64.ofNat (1 + 2 * (count + 1)) := by
  have split : 1 + 2 * (count + 1) = 1 + 2 * count + 2 := by omega
  exact (split ▸ UInt64.ofNat_add (1 + 2 * count) 2).symm

theorem toNat_oddId {index : Nat} (within : index < 2 ^ 63) :
    (UInt64.ofNat (1 + 2 * index)).toNat = 1 + 2 * index := by
  rw [UInt64.toNat_ofNat']
  omega

theorem nodup_oddIds {count : Nat} (within : count ≤ 2 ^ 63) : (oddIds count).Nodup := by
  refine List.Nodup.map_on ?_ List.nodup_range
  intro first atFirst second atSecond same
  rw [List.mem_range] at atFirst atSecond
  have numbers := congrArg UInt64.toNat same
  rw [toNat_oddId (by omega), toNat_oddId (by omega)] at numbers
  omega

/-- Stream ids are handed out one after the other, at most one for each call. -/
theorem issued_after (role : Role) (peer : String) (codec : MessageCodec)
    (config : Config) (actions : List Action) :
    ∃ count ≤ calls actions,
      issued ((spawn role peer codec config).history actions) = oddIds count ∧
        ((spawn role peer codec config).after actions).nextStreamId =
          UInt64.ofNat (1 + 2 * count) := by
  induction actions using List.reverseRecOn with
  | nil => exact ⟨0, Nat.zero_le _, rfl, rfl⟩
  | append_singleton actions action induction =>
      rcases induction with ⟨count, within, ids, next⟩
      have wired := wired_after (wired_spawn role peer codec config) actions
      rw [history_concat, after_concat, issued_concat, calls_concat]
      rcases nextStreamId_perform wired action with same | ⟨opens, advances⟩
      · refine ⟨count, by omega, ?_, same.trans next⟩
        rw [Step.issued, Step.after, if_pos same, ids]
        simp
      · refine ⟨count + 1, by simp [opens, within], ?_, ?_⟩
        · rw [Step.issued, Step.after, advances, if_neg (add_two_ne _), ids, next, oddIds_succ]
          rfl
        · rw [advances, next, oddId_add_two]

theorem claimed_of_client {connection : Connection} (calls : connection.role = .client)
    (action : Action) :
    Step.claimed ⟨connection, action⟩ = Step.issued ⟨connection, action⟩ := by
  cases action with
  | receive frame =>
      cases frame with
      | request mode streamId envelope =>
          have idle : connection.receive (.request mode streamId envelope) =
              (none, connection) := by
            cases reading : connection.reads with
            | false => exact receive_stopped reading _
            | true => exact receive_request_client reading calls _ _ _
          simp [Step.claimed, Step.issued, Step.after, perform, idle, calls]
      | _ => rfl
  | _ => rfl

theorem claimed_client (peer : String) (codec : MessageCodec) (config : Config)
    (actions : List Action) :
    claimed ((spawn .client peer codec config).history actions) =
      issued ((spawn .client peer codec config).history actions) := by
  induction actions using List.reverseRecOn with
  | nil => rfl
  | append_singleton actions action induction =>
      have role := (extends_after (wired_spawn .client peer codec config) actions).role
      rw [history_concat, claimed_concat, issued_concat, induction, claimed_of_client role]

/-- A client with fewer than 2^63 calls claims no id twice. -/
theorem nodup_claimed_of_calls (peer : String) (codec : MessageCodec) (config : Config)
    {actions : List Action} (few : calls actions < 2 ^ 63) :
    (claimed ((spawn .client peer codec config).history actions)).Nodup := by
  rcases issued_after .client peer codec config actions with ⟨count, within, ids, _⟩
  rw [claimed_client, ids]
  exact nodup_oddIds (by omega)

end ServiceMesh.Connection
