import ServiceMesh.Proofs.Codec.Envelope

/-!
# Envelopes restore messages

A header map has no order of its own, so its entries may be written to a message in any order.  The
order leaves no trace (`decodeIn_eq_decode`), because writes under different keys may be exchanged.
With a faithful header codec, whatever message has been encoded comes out of its envelope again but
for the form of its payload, and a message that came out of an envelope comes out of the envelope in
which it is passed on (`envelopes_restore_messages`).
-/

namespace ServiceMesh

/-! ## Messages that can be built -/

/-- The messages that can be built: the blank one, and what a write makes of a built one. -/
inductive Message.Built : Message → Prop where
  | blank : Built .blank
  | withQualifier {message : Message} (qualifier : String) (built : Built message) :
      Built (message.withQualifier qualifier)
  | withStreamId {message : Message} (streamId : String) (built : Built message) :
      Built (message.withStreamId streamId)
  | withDataType {message : Message} (dataType : String) (built : Built message) :
      Built (message.withDataType dataType)
  | withDataFormat {message : Message} (dataFormat : String) (built : Built message) :
      Built (message.withDataFormat dataFormat)
  | withInactivity {message : Message} (inactivity : String) (built : Built message) :
      Built (message.withInactivity inactivity)
  | withInactivityMillis {message : Message} (millis : Nat) (built : Built message) :
      Built (message.withInactivityMillis millis)
  | withHeader {message : Message} (key value : String) (built : Built message) :
      Built (message.withHeader key value)
  | withHeaders {message : Message} (headers : List (String × String)) (built : Built message) :
      Built (message.withHeaders headers)
  | withPayload {message : Message} (payload : Payload) (built : Built message) :
      Built (message.withPayload payload)

namespace Message

/-- No way to build a message leaves a reserved key among its application headers. -/
theorem Built.unreserved {message : Message} (built : message.Built) : message.Unreserved := by
  induction built with
  | blank => exact unreserved_blank
  | withQualifier _ _ induction => exact induction
  | withStreamId _ _ induction => exact induction
  | withDataType _ _ induction => exact induction
  | withDataFormat _ _ induction => exact induction
  | withInactivity _ _ induction => exact induction
  | withInactivityMillis _ _ induction => exact induction
  | withHeader key value _ induction => exact induction.withHeader key value
  | withHeaders headers _ induction => exact induction.withHeaders headers
  | withPayload _ _ induction => exact induction

/-! ## The order of headers -/

theorem withHeader_comm (message : Message) {key other : String} (apart : key ≠ other)
    (value later : String) :
    (message.withHeader key value).withHeader other later =
      (message.withHeader other later).withHeader key value := by
  simp only [withHeader]
  cases first : Reserved.ofKey? key with
  | none =>
      cases Reserved.ofKey? other with
      | none => simp only [Dict.insert_comm _ apart]
      | some field => cases field <;> rfl
  | some field =>
      cases second : Reserved.ofKey? other with
      | none => cases field <;> rfl
      | some asked =>
          have different : field ≠ asked := by
            rintro rfl
            exact apart ((Reserved.key_of_ofKey? first).symm.trans (Reserved.key_of_ofKey? second))
          cases field <;> cases asked <;> first | exact absurd rfl different | rfl

/-- The entries of a map may be written in any order. -/
theorem withHeaders_of_perm (message : Message) {headers : Dict String}
    {order : List (String × String)} (perm : order.Perm headers.entries) :
    message.withHeaders order = message.withHeaders headers.entries := by
  rw [withHeaders, withHeaders]
  apply perm.foldl_eq'
  intro first member second also written
  by_cases same : first.1 = second.1
  · have value := Dict.get?_of_mem (perm.mem_iff.mp member)
    rw [same, Dict.get?_of_mem (perm.mem_iff.mp also), Option.some.injEq] at value
    rw [same, value]
  · exact withHeader_comm written same first.2 second.2

end Message

/-! ## Decoding in any order -/

/-- The payload of a data buffer. -/
def Payload.ofData (data : Bytes) : Payload := if data.isEmpty then .empty else .bytes data

namespace MessageCodec

/-- A way to put headers in an order. -/
def Arranges (arrange : List (String × String) → List (String × String)) : Prop :=
  ∀ headers, (arrange headers).Perm headers

/-- The message of an envelope whose headers are written in a given order. -/
def decodeIn (codec : MessageCodec) (arrange : List (String × String) → List (String × String))
    (envelope : Envelope) : Outcome Message := do
  let headers ← codec.decodeHeaders envelope.headers
  let message := Message.blank.withHeaders (arrange headers.entries)
  return if envelope.data.isEmpty then message else message.withPayload (.bytes envelope.data)

/-- The message of a header map and a data buffer. -/
def assemble (headers : Dict String) (data : Bytes) : Message :=
  (Message.blank.withHeaders headers.entries).withPayload (.ofData data)

theorem built_assemble (headers : Dict String) (data : Bytes) : (assemble headers data).Built :=
  (Message.Built.blank.withHeaders headers.entries).withPayload _

section

variable {codec : MessageCodec} {arrange : List (String × String) → List (String × String)}
  {envelope : Envelope} {message : Message}

theorem arranges_id : Arranges id := fun headers => .refl headers

theorem decodeIn_of_decodeHeaders (arranges : Arranges arrange) {headers : Dict String}
    (read : codec.decodeHeaders envelope.headers = .ok headers) :
    codec.decodeIn arrange envelope = .ok (assemble headers envelope.data) := by
  have payload : (Message.blank.withHeaders headers.entries).payload = .empty :=
    Message.payload_withHeaders _ _
  simp only [decodeIn, read, bind, Except.bind, pure, Except.pure, assemble, Payload.ofData,
    Message.withHeaders_of_perm _ (arranges headers.entries)]
  split
  · rw [← payload]
    rfl
  · rfl

theorem decodeHeaders_of_decodeIn (decoded : codec.decodeIn arrange envelope = .ok message) :
    ∃ headers, codec.decodeHeaders envelope.headers = .ok headers := by
  rw [decodeIn] at decoded
  cases read : codec.decodeHeaders envelope.headers with
  | ok headers => exact ⟨headers, rfl⟩
  | error error =>
      rw [read] at decoded
      cases decoded

/-- The order in which headers are written leaves no trace. -/
theorem decodeIn_eq_decode (arranges : Arranges arrange) :
    codec.decodeIn arrange envelope = codec.decode envelope := by
  have plain : codec.decode envelope = codec.decodeIn id envelope := rfl
  rw [plain]
  cases read : codec.decodeHeaders envelope.headers with
  | ok headers =>
      rw [decodeIn_of_decodeHeaders arranges read,
        decodeIn_of_decodeHeaders arranges_id read]
  | error error =>
      rw [decodeIn, decodeIn, read]
      rfl

/-- What has been encoded is decoded but for the form of the payload. -/
theorem decodeIn_of_encode (faithful : codec.Faithful) (built : message.Built)
    (encoded : codec.encode message = .ok envelope) (arranges : Arranges arrange) :
    codec.decodeIn arrange envelope = .ok (message.withPayload (.ofData envelope.data)) := by
  have read := decodeHeaders_of_encodeHeaders faithful (encode_eq_ok_iff.mp encoded).2
  rw [decodeIn_of_decodeHeaders arranges read, assemble, withHeaders_mergedHeaders built.unreserved]
  rfl

/-- No header travels just if the message has none and none of its fields is present. -/
theorem mergedHeaders_eq_empty_iff (free : message.Unreserved) :
    mergedHeaders message = Dict.empty ↔
      message.qualifier = "" ∧ message.streamId = none ∧ message.dataType = none ∧
        message.dataFormat = none ∧ message.inactivity = none ∧ message.headers = Dict.empty := by
  have carried (key : String) : (mergedHeaders message).get? key = message.carried? key :=
    get?_mergedHeaders free key
  constructor
  · intro none_
    have absent (key : String) : message.carried? key = none := by
      rw [← carried, none_, Dict.get?_empty]
    have field (field : Reserved) : message.reserved? field = none := by
      rw [← Message.carried?_key, absent]
    have qualifier : message.qualifier = "" := by
      by_contra some_
      have present := field .qualifier
      rw [Message.reserved?, if_neg some_] at present
      cases present
    refine ⟨qualifier, field .streamId, field .dataType, field .dataFormat, field .inactivity,
      Dict.ext_get? fun key => ?_⟩
    cases known : Reserved.ofKey? key with
    | none => rw [← Message.carried?_of_unreserved known, absent, Dict.get?_empty]
    | some field => rw [← Reserved.key_of_ofKey? known, free field, Dict.get?_empty]
  · rintro ⟨qualifier, streamId, dataType, dataFormat, inactivity, headers⟩
    apply Dict.ext_get?
    intro key
    rw [carried, Message.carried?, Dict.get?_empty, headers]
    cases Reserved.ofKey? key with
    | none => rfl
    | some field => cases field <;> simp [Message.reserved?, *]

/-! ## Passing on what has been decoded -/

theorem decodeIn_cases (arranges : Arranges arrange)
    (decoded : codec.decodeIn arrange envelope = .ok message) :
    ∃ headers, codec.decodeHeaders envelope.headers = .ok headers ∧
      message = assemble headers envelope.data := by
  rcases decodeHeaders_of_decodeIn decoded with ⟨headers, read⟩
  rw [decodeIn_of_decodeHeaders arranges read] at decoded
  exact ⟨headers, read, (Except.ok.inj decoded).symm⟩

theorem encodeData_assemble (headers : Dict String) (data : Bytes) :
    codec.encodeData (assemble headers data) = .ok data := by
  have payload : (assemble headers data).payload = .ofData data := rfl
  rw [encodeData, payload, Payload.ofData]
  cases data <;> rfl

/-- Headers that have been read can be written, as long as the codec writes all it is given. -/
theorem encodeHeaders_assemble (writes : codec.WritesHeaders) {bytes : Bytes}
    {headers : Dict String} (read : codec.decodeHeaders bytes = .ok headers) (data : Bytes) :
    ∃ written, codec.encodeHeaders (assemble headers data) = .ok written := by
  cases known : codec.registry.headerCodec (some codec.headerFormat) with
  | ok header => exact exists_encodeHeaders known (writes header known) _
  | error error =>
      -- Without a header codec nothing but an empty buffer has been read.
      rw [decodeHeaders, known] at read
      split at read
      · obtain rfl : Dict.empty = headers := Except.ok.inj read
        have none_ : mergedHeaders (assemble Dict.empty data) = Dict.empty :=
          (mergedHeaders_eq_empty_iff (built_assemble Dict.empty data).unreserved).mpr
            ⟨rfl, rfl, rfl, rfl, rfl, rfl⟩
        exact ⟨[], by rw [encodeHeaders, if_pos (Dict.isEmpty_iff.mpr none_)]⟩
      · cases read

/-- A decoded message can be encoded, and comes out of the new envelope unchanged. -/
theorem relay_of_decodeIn (faithful : codec.Faithful) (writes : codec.WritesHeaders)
    (arranges : Arranges arrange) (decoded : codec.decodeIn arrange envelope = .ok message) :
    ∃ relayed, codec.encode message = .ok relayed ∧
      ∀ again, Arranges again → codec.decodeIn again relayed = .ok message := by
  rcases decodeIn_cases arranges decoded with ⟨headers, read, rfl⟩
  rcases encodeHeaders_assemble writes read envelope.data with ⟨written, encoded⟩
  have relayed : codec.encode (assemble headers envelope.data) = .ok ⟨envelope.data, written⟩ :=
    encode_eq_ok_iff.mpr ⟨encodeData_assemble headers envelope.data, encoded⟩
  refine ⟨_, relayed, fun again also => ?_⟩
  have restored : codec.decodeIn again ⟨envelope.data, written⟩ =
      .ok ((assemble headers envelope.data).withPayload (.ofData envelope.data)) :=
    decodeIn_of_encode faithful (built_assemble headers envelope.data) relayed also
  exact restored

end

/-! ## Main result -/

/-- What comes out of an envelope in which a message was put: the same but for the payload. -/
structure Restores (codec : MessageCodec) (envelope : Envelope) (message restored : Message) :
    Prop where
  decoded : codec.decode envelope = .ok restored
  /-- The order in which the headers are written does not count. -/
  reordered : ∀ arrange, Arranges arrange → codec.decodeIn arrange envelope = .ok restored
  qualifier : restored.qualifier = message.qualifier
  streamId : restored.streamId = message.streamId
  dataType : restored.dataType = message.dataType
  dataFormat : restored.dataFormat = message.dataFormat
  inactivity : restored.inactivity = message.inactivity
  headers : restored.headers = message.headers
  /-- No application header has a reserved key. -/
  unreserved : ∀ field : Reserved, restored.headers.get? field.key = none

/-- With a faithful header codec, as the JSON codec is one in whatever order it writes the members,
every message that is encoded is restored, and its header buffer is empty just if there is nothing to
write.  If the codec writes all headers, then every message that was decoded can be passed on
unchanged. -/
theorem envelopes_restore_messages :
    (∀ arrangement, (Codec.jsonHeaders arrangement).Faithful) ∧
      ∀ codec : MessageCodec, codec.Faithful →
        (∀ message envelope, message.Built → codec.encode message = .ok envelope →
          (∃ restored, codec.Restores envelope message restored) ∧
            (envelope.headers = [] ↔
              message.qualifier = "" ∧ message.streamId = none ∧ message.dataType = none ∧
                message.dataFormat = none ∧ message.inactivity = none ∧
                  message.headers = Dict.empty)) ∧
          (codec.WritesHeaders → ∀ arrange envelope message, Arranges arrange →
            codec.decodeIn arrange envelope = .ok message →
              ∃ relayed, codec.encode message = .ok relayed ∧
                ∀ again, Arranges again → codec.decodeIn again relayed = .ok message) := by
  refine ⟨Codec.faithful_jsonHeaders, fun codec faithful => ⟨?_, ?_⟩⟩
  · intro message envelope built encoded
    have free := built.unreserved
    constructor
    · have reordered (arrange) (arranges : Arranges arrange) :=
        decodeIn_of_encode faithful built encoded arranges
      have decoded := decodeIn_eq_decode arranges_id ▸ reordered id arranges_id
      exact ⟨message.withPayload (.ofData envelope.data), decoded, reordered,
        rfl, rfl, rfl, rfl, rfl, rfl, free⟩
    · rw [headers_eq_nil_iff faithful (encode_eq_ok_iff.mp encoded).2]
      exact mergedHeaders_eq_empty_iff free
  · intro writes arrange envelope message arranges decoded
    exact relay_of_decodeIn faithful writes arranges decoded

/-- A message with each of its fields, two application headers and raw data. -/
def fullMessage : Message :=
  ((((((Message.blank.withQualifier "Greeting/hello").withStreamId "12").withDataType
    "greeting.Hello").withDataFormat "application/json").withInactivity "250").withHeaders
      [("tenant", "acme"), ("trace", "t-1")]).withPayload (.bytes [34, 106, 111, 101, 34])

theorem fullMessage_restored :
    (ofRegistry .withJson).Faithful ∧ (ofRegistry .withJson).WritesHeaders ∧ fullMessage.Built ∧
      ∃ envelope restored relayed, (ofRegistry .withJson).encode fullMessage = .ok envelope ∧
        envelope.headers ≠ [] ∧ (ofRegistry .withJson).Restores envelope fullMessage restored ∧
          (ofRegistry .withJson).encode restored = .ok relayed ∧
            (ofRegistry .withJson).decodeIn List.reverse relayed = .ok restored := by
  have faithful : (ofRegistry .withJson).Faithful := faithful_withJson rfl
  have writes : (ofRegistry .withJson).WritesHeaders := writesHeaders_withJson rfl
  have built : fullMessage.Built :=
    ((((((Message.Built.blank.withQualifier _).withStreamId _).withDataType _).withDataFormat
      _).withInactivity _).withHeaders _).withPayload _
  have backwards : Arranges List.reverse := fun headers => headers.reverse_perm
  rcases decodeHeaders_encodeHeaders fullMessage with ⟨headers, written, -⟩
  have encoded : (ofRegistry .withJson).encode fullMessage = .ok ⟨[34, 106, 111, 101, 34], headers⟩ :=
    encode_eq_ok_iff.mpr ⟨rfl, written⟩
  rcases envelopes_restore_messages.2 (ofRegistry .withJson) faithful with ⟨restores, relays⟩
  rcases restores fullMessage _ built encoded with ⟨⟨restored, back⟩, none_⟩
  rcases relays writes id _ restored arranges_id (back.reordered id arranges_id) with
    ⟨relayed, again, unchanged⟩
  refine ⟨faithful, writes, built, _, restored, relayed, encoded, ?_, back, again,
    unchanged List.reverse backwards⟩
  rw [ne_eq, none_]
  rintro ⟨qualifier, -⟩
  exact absurd qualifier (by decide)

end MessageCodec

end ServiceMesh
