import ServiceMesh.Codec.Envelope
import ServiceMesh.Proofs.Json.Reading
import ServiceMesh.Proofs.Message.Headers

/-!
# Messages survive their envelopes

Reserved fields and application headers travel in one map.  `Message.carried?` is the message seen as
that map, which determines it up to its payload (`Message.eq_of_carried`).  Writing the map of a
message over the blank one restores the message, and a header codec that can be relied on gives the
map back (`decodeHeaders_of_encodeHeaders`).  So with the JSON codecs nothing changes on the way but
the form of the payload (`decode_encode`), and a portable payload keeps its value.
-/

namespace ServiceMesh

namespace MessageCodec

/-! ## The map that travels -/

/-- The fields of a message that are present, as headers. -/
def presentHeaders (message : Message) (fields : List Reserved) : List (String × String) :=
  fields.filterMap fun field => (message.reserved? field).map fun value => (field.key, value)

theorem lookup_presentHeaders (message : Message) (fields : List Reserved) (key : String) :
    (presentHeaders message fields).lookup key =
      (fields.find? fun field => field.key = key).bind message.reserved? := by
  induction fields with
  | nil => rfl
  | cons field fields induction =>
      cases present : message.reserved? field with
      | some value =>
          rw [presentHeaders, List.filterMap_cons_some (by rw [present]; rfl)]
          by_cases same : field.key = key
          · subst same
            simp [present]
          · rw [List.lookup_cons, beq_false_of_ne (Ne.symm same),
              List.find?_cons_of_neg (by simpa using same)]
            exact induction
      | none =>
          rw [presentHeaders, List.filterMap_cons_none (by rw [present]; rfl), ← presentHeaders,
            induction]
          by_cases same : field.key = key
          · -- The field may occur again, and is absent there, too.
            subst same
            rw [List.find?_cons_of_pos (by simp), Option.bind_some, present]
            cases again : fields.find? fun other => other.key = field.key with
            | none => rfl
            | some other =>
                have equal : other.key = field.key := by simpa using List.find?_some again
                rw [Option.bind_some, Reserved.key_injective equal, present]
          · rw [List.find?_cons_of_neg (by simpa using same)]

/-- The map that travels holds each header of the message under its key. -/
theorem get?_mergedHeaders {message : Message} (free : message.Unreserved) (key : String) :
    (mergedHeaders message).get? key = message.carried? key := by
  have reversed : (presentHeaders message Reserved.all).reverse =
      presentHeaders message Reserved.all.reverse := List.filterMap_reverse.symm
  rw [mergedHeaders, Dict.get?_insertMany, ← presentHeaders, reversed, lookup_presentHeaders,
    Reserved.find?_key (by intro field; cases field <;> decide), Message.carried?]
  cases known : Reserved.ofKey? key with
  | none => rfl
  | some field =>
      rw [Option.bind_some, ← Reserved.key_of_ofKey? known, free field, Option.or_none]

theorem counts_mergedHeaders {message : Message} (free : message.Unreserved) :
    ∀ header ∈ (mergedHeaders message).entries,
      header.1 = Reserved.qualifier.key → header.2 ≠ "" := by
  intro header member named empty
  have found := Dict.get?_of_mem member
  rw [get?_mergedHeaders free, named, Message.carried?_key, Message.reserved?] at found
  split at found
  · cases found
  · rename_i some_
    exact some_ (by simpa [empty] using found)

/-- The map that travels restores the message but for its payload. -/
theorem withHeaders_mergedHeaders {message : Message} (free : message.Unreserved) :
    Message.blank.withHeaders (mergedHeaders message).entries = message.withPayload .empty := by
  apply Message.eq_of_carried
  · exact Message.unreserved_blank.withHeaders _
  · exact free
  · intro key
    rw [Message.carried?_withHeaders _ (counts_mergedHeaders free),
      Dict.lookup_reverse (mergedHeaders message).ordered, Message.carried?_blank, Option.or_none]
    exact get?_mergedHeaders free key
  · rw [Message.payload_withHeaders]
    rfl

end MessageCodec

/-! ## Payloads -/

namespace Payload

/-- The payload as it arrives: not decoded yet. -/
def raw : Payload → Payload
  | .empty => .empty
  | .bytes content => if content.isEmpty then .empty else .bytes content
  | .value content => .bytes content.toBytes

/-- A payload that keeps its value on the way: no data, some bytes, or a plain value that is not
nested too deep. -/
def Portable : Payload → Prop
  | .empty => True
  | .bytes content => content ≠ []
  | .value content => content.Plain ∧ content.depth ≤ Json.depthLimit

end Payload

theorem Json.toBytes_ne_nil {value : Json} (plain : value.Plain) : value.toBytes ≠ [] := by
  intro empty
  have text : Utf8.decode? [] = some value.render := by
    rw [← empty]
    exact Utf8.decode?_encode _
  rw [show ([] : Bytes) = Utf8.encode "" from rfl, Utf8.decode?_encode, Option.some.injEq] at text
  rcases Json.begins_write plain with ⟨character, rest, written, -⟩
  rw [Json.render, written] at text
  simp at text

theorem CodecRegistry.dataCodec_withJson :
    CodecRegistry.withJson.dataCodec none = .ok Codec.jsonData := by
  simp [CodecRegistry.withJson, CodecRegistry.registerData, CodecRegistry.registerHeaders,
    CodecRegistry.dataCodec, Codec.defaultType, Codec.jsonData, Codec.jsonHeaders, Codec.textData,
    Codec.jsonType, Codec.textType]

theorem CodecRegistry.headerCodec_withJson :
    CodecRegistry.withJson.headerCodec (some Codec.jsonType) = .ok (Codec.jsonHeaders .byKey) := by
  simp [CodecRegistry.withJson, CodecRegistry.registerData, CodecRegistry.registerHeaders,
    CodecRegistry.headerCodec, Codec.jsonData, Codec.jsonHeaders]

namespace Message

/-- A message that keeps its meaning on the way with the JSON codecs. -/
structure Portable (message : Message) : Prop where
  unreserved : message.Unreserved
  format : message.dataFormat = none
  payload : message.payload.Portable

/-- Messages that differ in the form of their payloads only. -/
structure Alike (codecs : CodecRegistry) (first second : Message) : Prop where
  qualifier : first.qualifier = second.qualifier
  streamId : first.streamId = second.streamId
  dataType : first.dataType = second.dataType
  dataFormat : first.dataFormat = second.dataFormat
  inactivity : first.inactivity = second.inactivity
  headers : first.headers = second.headers
  value : first.dataValue codecs = second.dataValue codecs

theorem dataValue_raw {message : Message} (portable : message.Portable) :
    (message.withPayload message.payload.raw).dataValue .withJson =
      message.dataValue .withJson := by
  have data := portable.payload
  rw [dataValue, dataValue]
  cases carried : message.payload with
  | empty => rfl
  | bytes content =>
      rw [carried] at data
      have some_ : content.isEmpty = false := List.isEmpty_eq_false_iff.mpr data
      simp [Message.withPayload, Payload.raw, some_]
  | value content =>
      rw [carried] at data
      have format : (message.withPayload (.bytes content.toBytes)).dataFormat = none :=
        portable.format
      simp only [Message.withPayload, Payload.raw] at format ⊢
      rw [format, CodecRegistry.dataCodec_withJson]
      have read := Json.ofBytes?_toBytes data.1 data.2
      simp [Codec.jsonData, bind, Except.bind, read]

end Message

/-! ## Header codecs that can be relied on -/

/-- A header codec that reads what it has written, and that leaves a trace of every header. -/
structure HeaderCodec.Faithful (codec : HeaderCodec) : Prop where
  decodes : ∀ headers bytes, codec.encode headers = .ok bytes → codec.decode bytes = .ok headers
  shows : ∀ headers bytes, headers ≠ Dict.empty → codec.encode headers = .ok bytes → bytes ≠ []

/-- The JSON codec is faithful, in whatever order it writes the members. -/
theorem Codec.faithful_jsonHeaders (arrangement : Dict.Arrangement String) :
    (Codec.jsonHeaders arrangement).Faithful where
  decodes headers bytes written := by
    obtain rfl : (Json.ofEntries (arrangement.list headers)).toBytes = bytes :=
      Except.ok.inj written
    simp only [jsonHeaders, Json.textsOfBytes?_of_perm (arrangement.perm headers)]
  shows headers bytes _ written := by
    obtain rfl : (Json.ofEntries (arrangement.list headers)).toBytes = bytes :=
      Except.ok.inj written
    intro none_
    have read := Json.textsOfBytes?_of_perm (arrangement.perm headers)
    rw [none_] at read
    cases read

namespace MessageCodec

variable {codec : MessageCodec} {message : Message} {envelope : Envelope}

/-- The header codec is faithful, if there is one. -/
def Faithful (codec : MessageCodec) : Prop :=
  ∀ header, codec.registry.headerCodec (some codec.headerFormat) = .ok header → header.Faithful

/-- The header codec writes every header map, if there is one. -/
def WritesHeaders (codec : MessageCodec) : Prop :=
  ∀ header, codec.registry.headerCodec (some codec.headerFormat) = .ok header →
    ∀ headers, ∃ bytes, header.encode headers = .ok bytes

theorem headerCodec_of_withJson {codec : MessageCodec} (json : codec.registry = .withJson)
    {header : HeaderCodec}
    (known : codec.registry.headerCodec (some codec.headerFormat) = .ok header) :
    header = Codec.jsonHeaders .byKey := by
  rw [json, CodecRegistry.headerCodec, Option.getD_some] at known
  simp only [CodecRegistry.withJson, CodecRegistry.registerData, CodecRegistry.registerHeaders,
    CodecRegistry.empty, Dict.get?_insert, Dict.get?_empty] at known
  split_ifs at known
  exact (Except.ok.inj known).symm

theorem faithful_withJson {codec : MessageCodec} (json : codec.registry = .withJson) :
    codec.Faithful := by
  intro header known
  rw [headerCodec_of_withJson json known]
  exact Codec.faithful_jsonHeaders .byKey

theorem writesHeaders_withJson {codec : MessageCodec} (json : codec.registry = .withJson) :
    codec.WritesHeaders := by
  intro header known headers
  rw [headerCodec_of_withJson json known]
  exact ⟨_, rfl⟩

theorem encode_eq_ok_iff :
    codec.encode message = .ok envelope ↔
      codec.encodeData message = .ok envelope.data ∧
        codec.encodeHeaders message = .ok envelope.headers := by
  rcases envelope with ⟨data, headers⟩
  simp only [encode, bind, Except.bind, pure, Except.pure]
  cases codec.encodeData message with
  | error error => simp
  | ok written => cases codec.encodeHeaders message <;> simp

/-- What becomes of the headers of a message. -/
theorem encodeHeaders_cases {bytes : Bytes} (written : codec.encodeHeaders message = .ok bytes) :
    (mergedHeaders message = Dict.empty ∧ bytes = []) ∨
      (mergedHeaders message ≠ Dict.empty ∧
        ∃ header, codec.registry.headerCodec (some codec.headerFormat) = .ok header ∧
          header.encode (mergedHeaders message) = .ok bytes) := by
  simp only [encodeHeaders] at written
  split at written
  · rename_i none_
    exact .inl ⟨Dict.isEmpty_iff.mp none_, (Except.ok.inj written).symm⟩
  · rename_i some_
    cases known : codec.registry.headerCodec (some codec.headerFormat) with
    | error error =>
        rw [known] at written
        cases written
    | ok header =>
        rw [known] at written
        exact .inr ⟨fun none_ => some_ (Dict.isEmpty_iff.mpr none_), header, rfl, written⟩

/-- The header buffer is empty just if no header travels. -/
theorem headers_eq_nil_iff (faithful : codec.Faithful) {bytes : Bytes}
    (written : codec.encodeHeaders message = .ok bytes) :
    bytes = [] ↔ mergedHeaders message = Dict.empty := by
  rcases encodeHeaders_cases written with ⟨none_, rfl⟩ | ⟨some_, header, known, encoded⟩
  · simp [none_]
  · exact iff_of_false ((faithful header known).shows _ _ some_ encoded) some_

theorem decodeHeaders_of_encodeHeaders (faithful : codec.Faithful) {bytes : Bytes}
    (written : codec.encodeHeaders message = .ok bytes) :
    codec.decodeHeaders bytes = .ok (mergedHeaders message) := by
  have shown := headers_eq_nil_iff faithful written
  rcases encodeHeaders_cases written with ⟨none_, rfl⟩ | ⟨some_, header, known, encoded⟩
  · rw [none_]
    rfl
  · have bytes_some : bytes.isEmpty = false :=
      List.isEmpty_eq_false_iff.mpr fun none_ => some_ (shown.mp none_)
    rw [decodeHeaders, bytes_some, if_neg Bool.false_ne_true, known]
    exact (faithful header known).decodes _ _ encoded

/-- What has been encoded can be decoded. -/
theorem exists_decode (faithful : codec.Faithful) (encoded : codec.encode message = .ok envelope) :
    ∃ restored, codec.decode envelope = .ok restored := by
  have read := decodeHeaders_of_encodeHeaders faithful (encode_eq_ok_iff.mp encoded).2
  rw [decode, read]
  exact ⟨_, rfl⟩

theorem exists_encodeHeaders {header : HeaderCodec}
    (known : codec.registry.headerCodec (some codec.headerFormat) = .ok header)
    (writes : ∀ headers, ∃ bytes, header.encode headers = .ok bytes) (message : Message) :
    ∃ bytes, codec.encodeHeaders message = .ok bytes := by
  simp only [encodeHeaders]
  split
  · exact ⟨[], rfl⟩
  · rw [known]
    exact writes _

/-! ## The JSON codecs -/

theorem decodeHeaders_encodeHeaders (message : Message) :
    ∃ headers, (ofRegistry .withJson).encodeHeaders message = .ok headers ∧
      (ofRegistry .withJson).decodeHeaders headers = .ok (mergedHeaders message) := by
  have known : (ofRegistry .withJson).registry.headerCodec
      (some (ofRegistry .withJson).headerFormat) = .ok (Codec.jsonHeaders .byKey) :=
    CodecRegistry.headerCodec_withJson
  rcases exists_encodeHeaders known (writesHeaders_withJson rfl _ known) message with
    ⟨headers, written⟩
  exact ⟨headers, written, decodeHeaders_of_encodeHeaders (faithful_withJson rfl) written⟩

theorem encodeData_json {message : Message} (portable : message.Portable) :
    ∃ data, (ofRegistry .withJson).encodeData message = .ok data ∧
      (if data.isEmpty then .empty else .bytes data) = message.payload.raw := by
  have data := portable.payload
  cases carried : message.payload with
  | empty => exact ⟨[], by rw [encodeData, carried], rfl⟩
  | bytes content => exact ⟨content, by rw [encodeData, carried], rfl⟩
  | value content =>
      rw [carried] at data
      refine ⟨content.toBytes, ?_, ?_⟩
      · have codec : (ofRegistry .withJson).registry.dataCodec none = .ok Codec.jsonData :=
          CodecRegistry.dataCodec_withJson
        rw [encodeData, carried, portable.format]
        simp only [codec]
        rfl
      · rw [if_neg (by simpa using Json.toBytes_ne_nil data.1)]
        rfl

/-- With the JSON codecs a message arrives as it was sent, its payload not decoded yet. -/
theorem decode_encode {message : Message} (portable : message.Portable) :
    ∃ envelope, (ofRegistry .withJson).encode message = .ok envelope ∧
      (ofRegistry .withJson).decode envelope =
        .ok (message.withPayload message.payload.raw) := by
  rcases encodeData_json portable with ⟨data, written, raw⟩
  rcases decodeHeaders_encodeHeaders message with ⟨headers, sent, read⟩
  refine ⟨⟨data, headers⟩, encode_eq_ok_iff.mpr ⟨written, sent⟩, ?_⟩
  have restored := withHeaders_mergedHeaders portable.unreserved
  rw [← raw]
  simp only [decode, read, bind, Except.bind, pure, Except.pure, restored]
  split <;> rfl

/-- What a portable message becomes on its way is alike. -/
theorem alike_raw {message : Message} (portable : message.Portable) :
    (message.withPayload message.payload.raw).Alike .withJson message :=
  ⟨rfl, rfl, rfl, rfl, rfl, rfl, Message.dataValue_raw portable⟩

end MessageCodec

end ServiceMesh
