import ServiceMesh.Proofs.Codec.RoundTrip

/-!
# Which data keeps its meaning

On its way a message has no data just if its data buffer has no byte.  With the JSON codecs data keeps
its value, and its value as every type, unless there is data that is written without any byte: raw data
of length zero, or the empty text as plain text.  Such data arrives as no data
(`data_survives_iff`).
-/

namespace ServiceMesh

/-- A payload that the JSON codecs can restore: a decoded value is plain and not nested too deep. -/
def Payload.Writable : Payload → Prop
  | .value content => content.Plain ∧ content.depth ≤ Json.depthLimit
  | _ => True

namespace Message

/-- Data that is written without any byte. -/
def Hollow (message : Message) : Prop :=
  message.payload = .bytes [] ∨
    (message.payload = .value (.str "") ∧ message.dataFormat = some Codec.textType)

/-- Messages whose data means the same. -/
structure SameData (codecs : CodecRegistry) (first second : Message) : Prop where
  hasData : first.hasData = second.hasData
  value : first.dataValue codecs = second.dataValue codecs
  /-- It can be read as the same types, and gives the same value or the same error. -/
  decoded : ∀ (α : Type) [Wire α], first.decodeData α codecs = second.decodeData α codecs

theorem SameData.refl (codecs : CodecRegistry) (message : Message) :
    message.SameData codecs message :=
  ⟨rfl, rfl, fun _ _ => rfl⟩

theorem hasData_eq_false_iff {message : Message} :
    message.hasData = false ↔ message.payload = .empty := by
  rw [hasData]
  cases message.payload <;> simp [Payload.isEmpty]

/-- Another payload of the same presence and value means the same. -/
theorem sameData_withPayload {codecs : CodecRegistry} {message : Message} {payload : Payload}
    (hasData : (message.withPayload payload).hasData = message.hasData)
    (value : (message.withPayload payload).dataValue codecs = message.dataValue codecs) :
    (message.withPayload payload).SameData codecs message := by
  refine ⟨hasData, value, fun α _ => ?_⟩
  rw [decodeData, decodeData, value]
  rfl

end Message

/-! ## The codecs for values -/

namespace CodecRegistry

theorem dataCodec_text : withJson.dataCodec (some Codec.textType) = .ok Codec.textData := by
  simp [withJson, registerData, dataCodec, Codec.textData]

theorem dataCodec_cases {format : Option String} {codec : DataCodec}
    (known : withJson.dataCodec format = .ok codec) :
    codec = Codec.jsonData ∧ format ≠ some Codec.textType ∨
      codec = Codec.textData ∧ format = some Codec.textType := by
  by_cases text : format = some Codec.textType
  · rw [text, dataCodec_text, Except.ok.injEq] at known
    exact .inr ⟨known.symm, text⟩
  · have other : format.getD Codec.defaultType ≠ Codec.textType := by
      cases format with
      | none => decide
      | some name => simpa using text
    simp only [withJson, registerData, registerHeaders, dataCodec, empty, Dict.get?_insert,
      Dict.get?_empty, Codec.textData, if_neg other] at known
    split_ifs at known
    exact .inl ⟨(Except.ok.inj known).symm, text⟩

/-- A value that was written is read again, and only the empty text is written without any byte. -/
theorem decode_of_encode {format : Option String} {codec : DataCodec} {content : Json}
    {bytes : Bytes} (known : withJson.dataCodec format = .ok codec) (plain : content.Plain)
    (shallow : content.depth ≤ Json.depthLimit) (written : codec.encode content = .ok bytes) :
    codec.decode bytes = .ok content ∧
      (bytes = [] ↔ content = .str "" ∧ format = some Codec.textType) := by
  rcases dataCodec_cases known with ⟨rfl, other⟩ | ⟨rfl, text⟩
  · obtain rfl : content.toBytes = bytes := Except.ok.inj written
    refine ⟨?_, iff_of_false (Json.toBytes_ne_nil plain) fun both => other both.2⟩
    simp only [Codec.jsonData, Json.ofBytes?_toBytes plain shallow]
  · cases content with
    | str words =>
        obtain rfl : Utf8.encode words = bytes := Except.ok.inj written
        refine ⟨?_, ?_⟩
        · simp only [Codec.textData, Utf8.decode_eq_ok_iff.mpr rfl]
        · rw [← List.length_eq_zero_iff, Utf8.length_encode, String.utf8ByteSize_eq_zero_iff]
          simp [text]
    | _ => cases written

end CodecRegistry

/-! ## Data on its way -/

namespace MessageCodec

variable {codec : MessageCodec} {message : Message} {data : Bytes}

/-- A value is written by the codec of its format. -/
theorem exists_of_encodeData {content : Json} (carried : message.payload = .value content)
    (written : codec.encodeData message = .ok data) :
    ∃ chosen, codec.registry.dataCodec message.dataFormat = .ok chosen ∧
      chosen.encode content = .ok data := by
  rw [encodeData, carried] at written
  cases known : codec.registry.dataCodec message.dataFormat with
  | error error =>
      rw [known] at written
      cases written
  | ok chosen =>
      rw [known] at written
      exact ⟨chosen, rfl, written⟩

/-- Data is hollow just if it is written without any byte. -/
theorem hollow_iff (json : codec.registry = .withJson) (writable : message.payload.Writable)
    (written : codec.encodeData message = .ok data) :
    message.Hollow ↔ message.hasData = true ∧ data = [] := by
  rw [Message.Hollow, Message.hasData]
  cases carried : message.payload with
  | empty => simp [Payload.isEmpty]
  | bytes content =>
      rw [encodeData, carried, Except.ok.injEq] at written
      simp [Payload.isEmpty, written]
  | value content =>
      rw [carried] at writable
      rcases exists_of_encodeData carried written with ⟨chosen, known, encoded⟩
      rw [json] at known
      have same := CodecRegistry.decode_of_encode known writable.1 writable.2 encoded
      simp [Payload.isEmpty, same.2]

/-- Data that is written with some byte keeps its value. -/
theorem dataValue_ofData (json : codec.registry = .withJson) (writable : message.payload.Writable)
    (written : codec.encodeData message = .ok data) (some_ : data ≠ []) :
    (message.withPayload (.ofData data)).dataValue .withJson = message.dataValue .withJson := by
  have raw : Payload.ofData data = .bytes data := if_neg (by simpa using some_)
  rw [raw, Message.dataValue, Message.dataValue]
  cases carried : message.payload with
  | empty =>
      rw [encodeData, carried, Except.ok.injEq] at written
      exact absurd written.symm some_
  | bytes content =>
      rw [encodeData, carried, Except.ok.injEq] at written
      rw [written]
      rfl
  | value content =>
      rw [carried] at writable
      rcases exists_of_encodeData carried written with ⟨chosen, known, encoded⟩
      rw [json] at known
      have same := CodecRegistry.decode_of_encode known writable.1 writable.2 encoded
      simp only [Message.withPayload, known]
      exact same.1

theorem sameData_iff (json : codec.registry = .withJson) (writable : message.payload.Writable)
    (written : codec.encodeData message = .ok data) :
    (message.withPayload (.ofData data)).SameData .withJson message ↔ ¬ message.Hollow := by
  rw [hollow_iff json writable written]
  constructor
  · rintro same ⟨present, rfl⟩
    have absent := same.hasData
    rw [present] at absent
    cases absent
  · intro solid
    cases present : message.hasData with
    | false =>
        have absent := Message.hasData_eq_false_iff.mp present
        rw [encodeData, absent, Except.ok.injEq] at written
        have unchanged : message.withPayload (.ofData data) = message := by
          rw [← written, show Payload.ofData [] = message.payload from absent.symm]
          rfl
        rw [unchanged]
        exact .refl _ _
    | true =>
        have some_ : data ≠ [] := fun none_ => solid ⟨present, none_⟩
        refine Message.sameData_withPayload ?_ (dataValue_ofData json writable written some_)
        rw [present, Payload.ofData, if_neg (by simpa using some_)]
        rfl

end MessageCodec

/-! ## Main result -/

namespace MessageCodec

/-- Every message that is encoded comes out of its envelope again, and its data means the same just if
it was not written without any byte. -/
theorem data_survives_iff {codec : MessageCodec} (json : codec.registry = .withJson)
    {message : Message} (built : message.Built) (writable : message.payload.Writable)
    {envelope : Envelope} (encoded : codec.encode message = .ok envelope) :
    ∃ restored, codec.decode envelope = .ok restored ∧
      (restored.SameData .withJson message ↔ ¬ message.Hollow) := by
  have decoded := decodeIn_of_encode (faithful_withJson json) built encoded arranges_id
  have written := (encode_eq_ok_iff.mp encoded).1
  exact ⟨message.withPayload (.ofData envelope.data), decoded, sameData_iff json writable written⟩

/-- A text that is sent as plain text. -/
def saying (words : String) : Message :=
  (Message.carrying "Text/say" (.value (.str words))).withDataFormat Codec.textType

theorem built_saying (words : String) : (saying words).Built :=
  ((Message.Built.blank.withQualifier _).withPayload _).withDataFormat _

/-- The envelope of a text that is sent as plain text. -/
theorem encode_saying (words : String) :
    ∃ headers, (ofRegistry .withJson).encode (saying words) = .ok ⟨Utf8.encode words, headers⟩ := by
  rcases decodeHeaders_encodeHeaders (saying words) with ⟨headers, written, -⟩
  refine ⟨headers, encode_eq_ok_iff.mpr ⟨?_, written⟩⟩
  have format : (saying words).dataFormat = some Codec.textType := rfl
  have payload : (saying words).payload = .value (.str words) := rfl
  simp only [encodeData, payload, format, ofRegistry, CodecRegistry.dataCodec_text]
  rfl

theorem plainWords_survive :
    (saying "plain words").Built ∧ (saying "plain words").payload.Writable ∧
      ∃ envelope restored, (ofRegistry .withJson).encode (saying "plain words") = .ok envelope ∧
        (ofRegistry .withJson).decode envelope = .ok restored ∧
          restored.SameData .withJson (saying "plain words") := by
  have writable : (saying "plain words").payload.Writable := ⟨trivial, Nat.zero_le _⟩
  have solid : ¬ (saying "plain words").Hollow := by
    rintro (raw | ⟨text, -⟩)
    · cases raw
    · exact absurd (Json.str.inj (Payload.value.inj text)) (by decide)
  rcases encode_saying "plain words" with ⟨headers, encoded⟩
  rcases data_survives_iff rfl (built_saying "plain words") writable encoded with
    ⟨restored, decoded, same⟩
  exact ⟨built_saying _, writable, _, restored, encoded, decoded, same.mpr solid⟩

/-- Not all data keeps its meaning: the empty text, sent as plain text, arrives as no data, and is read
as null. -/
theorem emptyText_lost :
    ∃ envelope restored, (ofRegistry .withJson).encode (saying "") = .ok envelope ∧
      (ofRegistry .withJson).decode envelope = .ok restored ∧
        (saying "").hasData = true ∧ restored.hasData = false ∧
          (saying "").dataValue .withJson = .ok (.str "") ∧
            restored.dataValue .withJson = .ok .null := by
  rcases encode_saying "" with ⟨headers, encoded⟩
  have faithful : (ofRegistry .withJson).Faithful := faithful_withJson rfl
  exact ⟨_, _, encoded, decodeIn_of_encode faithful (built_saying "") encoded arranges_id, rfl, rfl,
    rfl, rfl⟩

end MessageCodec

end ServiceMesh
