import ServiceMesh.Proofs.Message.Headers

/-!
# The last write counts

Messages are made from the blank one by writing to it, to copies of it, to copies of these, and so
on.  A setter and a copying function of one field write alike, and both write what a header with the
reserved key of the field writes (`Write.apply_eq`).  So a message has under each key what was
written last under this key on the way to it (`textAt_made`), and what is not written stays, in the
copy as well as in the original (`leaves_apply`).  The main statement is `last_writes_count`.
-/

namespace ServiceMesh

namespace Message

/-- One use of a setter of the builder or of a copying function. -/
inductive Write where
  /-- A builder is filled with a message, or a message is taken out of it. -/
  | copy
  | qualifier (value : String)
  | streamId (value : String)
  | dataType (value : String)
  | dataFormat (value : String)
  | inactivity (value : String)
  | inactivityMillis (millis : Nat)
  | header (key value : String)
  | headers (pairs : List (String × String))
  | payload (content : Payload)

namespace Write

/-- The message that a write makes of another. -/
def apply (message : Message) : Write → Message
  | .copy => message
  | .qualifier value => message.withQualifier value
  | .streamId value => message.withStreamId value
  | .dataType value => message.withDataType value
  | .dataFormat value => message.withDataFormat value
  | .inactivity value => message.withInactivity value
  | .inactivityMillis millis => message.withInactivityMillis millis
  | .header key value => message.withHeader key value
  | .headers pairs => message.withHeaders pairs
  | .payload content => message.withPayload content

/-- The texts that are written, each with its key; those of fields have reserved keys. -/
def texts : Write → List (String × String)
  | .copy | .payload _ => []
  | .qualifier value => [(Reserved.qualifier.key, value)]
  | .streamId value => [(Reserved.streamId.key, value)]
  | .dataType value => [(Reserved.dataType.key, value)]
  | .dataFormat value => [(Reserved.dataFormat.key, value)]
  | .inactivity value => [(Reserved.inactivity.key, value)]
  | .inactivityMillis millis => [(Reserved.inactivity.key, toString millis)]
  | .header key value => [(key, value)]
  | .headers pairs => pairs

/-- The payload that is written, if one is. -/
def payload? : Write → Option Payload
  | .payload content => some content
  | _ => none

end Write

/-- The text that was written last under a key. -/
def lastText (writes : List Write) (key : String) : Option String :=
  (writes.flatMap Write.texts).reverse.lookup key

/-- The payload that was written last; there is none at first. -/
def lastPayload (writes : List Write) : Payload :=
  (writes.filterMap Write.payload?).getLast?.getD .empty

/-- A message under construction. -/
structure Draft where
  message : Message
  /-- What was written on the way from the blank message, first to last. -/
  writes : List Write

/-- The draft that one write more makes. -/
def Draft.after (draft : Draft) (write : Write) : Draft :=
  ⟨write.apply draft.message, draft.writes ++ [write]⟩

/-- Adds what a write makes of one of the drafts, which is told by its number. -/
def extend (drafts : List Draft) (step : Nat × Write) : List Draft :=
  match drafts[step.1]? with
  | some draft => drafts ++ [draft.after step.2]
  | none => drafts

/-- All drafts that come of some steps, from the blank message on. -/
def drafted (steps : List (Nat × Write)) : List Draft :=
  steps.foldl extend [⟨.blank, []⟩]

/-- A message has what was written last and nothing else. -/
structure Holds (message : Message) (writes : List Write) : Prop where
  unreserved : message.Unreserved
  qualifier : message.qualifier = (lastText writes Reserved.qualifier.key).getD ""
  streamId : message.streamId = lastText writes Reserved.streamId.key
  dataType : message.dataType = lastText writes Reserved.dataType.key
  dataFormat : message.dataFormat = lastText writes Reserved.dataFormat.key
  inactivity : message.inactivity = lastText writes Reserved.inactivity.key
  header : ∀ key, Reserved.ofKey? key = none →
    message.headers.get? key = lastText writes key
  payload : message.payload = lastPayload writes

/-- A message is as it was before a write, but for what the write writes. -/
structure Leaves (write : Write) (before after : Message) : Prop where
  field : ∀ field : Reserved, field.key ∉ write.texts.map Prod.fst →
    after.stored? field = before.stored? field
  header : ∀ key, key ∉ write.texts.map Prod.fst →
    after.headers.get? key = before.headers.get? key
  reservedHeader : ∀ field : Reserved,
    after.headers.get? field.key = before.headers.get? field.key
  payload : write.payload? = none → after.payload = before.payload

/-! ## One write -/

/-- A setter writes what a header with the reserved key of its field writes. -/
theorem withReserved_eq (message : Message) (field : Reserved) (value : String) :
    message.withReserved field value =
      (message.withHeaders [(field.key, value)]).withPayload message.payload := by
  have same : message.withHeaders [(field.key, value)] = message.withReserved field value := by
    change message.withHeader field.key value = _
    rw [withHeader, Reserved.ofKey?_key]
  rw [same]
  cases field <;> rfl

/-- Every write is one of headers and perhaps of a payload. -/
theorem Write.apply_eq (write : Write) (message : Message) :
    write.apply message =
      (message.withHeaders write.texts).withPayload (write.payload?.getD message.payload) := by
  cases write with
  | copy => rfl
  | qualifier value => exact withReserved_eq message .qualifier value
  | streamId value => exact withReserved_eq message .streamId value
  | dataType value => exact withReserved_eq message .dataType value
  | dataFormat value => exact withReserved_eq message .dataFormat value
  | inactivity value => exact withReserved_eq message .inactivity value
  | inactivityMillis millis => exact withReserved_eq message .inactivity (toString millis)
  | header key value => exact congrArg (withPayload _ ·) (payload_withHeader message key value)
  | headers pairs => exact congrArg (withPayload _ ·) (payload_withHeaders message pairs)
  | payload content => rfl

section

variable (write : Write) (message : Message)

theorem textAt_apply (key : String) :
    (write.apply message).textAt key =
      (write.texts.reverse.lookup key).or (message.textAt key) := by
  rw [Write.apply_eq]
  exact textAt_withHeaders message write.texts key

theorem reservedHeader_apply (field : Reserved) :
    (write.apply message).headers.get? field.key = message.headers.get? field.key := by
  rw [Write.apply_eq]
  exact reservedHeader_withHeaders message write.texts field

theorem payload_apply :
    (write.apply message).payload = write.payload?.getD message.payload := by
  rw [Write.apply_eq]
  rfl

theorem textAt_apply_of_not_mem {key : String} (apart : key ∉ write.texts.map Prod.fst) :
    (write.apply message).textAt key = message.textAt key := by
  have absent : write.texts.reverse.lookup key = none := by
    rw [List.lookup_eq_none_iff]
    intro pair member
    have other : key ≠ pair.1 := by
      rintro rfl
      exact apart (List.mem_map_of_mem (List.mem_reverse.mp member))
    simpa using other
  rw [textAt_apply, absent, Option.none_or]

theorem leaves_apply : Leaves write message (write.apply message) where
  field field apart := by
    rw [← textAt_key, textAt_apply_of_not_mem write message apart, textAt_key]
  header key apart := by
    cases known : Reserved.ofKey? key with
    | none =>
        rw [← textAt_of_unreserved known, textAt_apply_of_not_mem write message apart,
          textAt_of_unreserved known]
    | some field =>
        rw [← Reserved.key_of_ofKey? known]
        exact reservedHeader_apply write message field
  reservedHeader := reservedHeader_apply write message
  payload none_ := by rw [payload_apply, none_, Option.getD_none]

end

/-! ## Writes in a row -/

/-- What some writes make of the blank message. -/
def made (writes : List Write) : Message :=
  writes.foldl Write.apply .blank

section

variable (writes : List Write) (write : Write)

theorem made_concat : made (writes ++ [write]) = write.apply (made writes) := by
  rw [made, List.foldl_append]
  rfl

theorem lastText_concat (key : String) :
    lastText (writes ++ [write]) key =
      (write.texts.reverse.lookup key).or (lastText writes key) := by
  rw [lastText, List.flatMap_append, List.reverse_append, List.lookup_append]
  simp [lastText]

theorem lastPayload_concat :
    lastPayload (writes ++ [write]) = write.payload?.getD (lastPayload writes) := by
  rw [lastPayload, List.filterMap_append, List.getLast?_append]
  cases present : write.payload? with
  | none => simp [present, lastPayload]
  | some content => simp [present]

theorem textAt_made (key : String) :
    (made writes).textAt key = (lastText writes key).or (blank.textAt key) := by
  induction writes using List.reverseRecOn with
  | nil => rfl
  | append_singleton writes write induction =>
      rw [made_concat, textAt_apply, lastText_concat, induction, Option.or_assoc]

theorem payload_made : (made writes).payload = lastPayload writes := by
  induction writes using List.reverseRecOn with
  | nil => rfl
  | append_singleton writes write induction =>
      rw [made_concat, payload_apply, lastPayload_concat, induction]

theorem unreserved_made : (made writes).Unreserved := by
  induction writes using List.reverseRecOn with
  | nil => exact unreserved_blank
  | append_singleton writes write induction =>
      intro field
      rw [made_concat, reservedHeader_apply]
      exact induction field

theorem stored?_made (field : Reserved) :
    (made writes).stored? field = (lastText writes field.key).or (blank.stored? field) := by
  rw [← textAt_key, textAt_made, textAt_key]

theorem holds_made : Holds (made writes) writes where
  unreserved := unreserved_made writes
  qualifier := by
    have stored := stored?_made writes .qualifier
    cases last : lastText writes Reserved.qualifier.key with
    | none =>
        rw [last] at stored
        exact Option.some.inj stored
    | some value =>
        rw [last] at stored
        exact Option.some.inj stored
  streamId := (stored?_made writes .streamId).trans (Option.or_none ..)
  dataType := (stored?_made writes .dataType).trans (Option.or_none ..)
  dataFormat := (stored?_made writes .dataFormat).trans (Option.or_none ..)
  inactivity := (stored?_made writes .inactivity).trans (Option.or_none ..)
  header key free := by
    rw [← textAt_of_unreserved free, textAt_made, textAt_of_unreserved free]
    exact Option.or_none ..
  payload := payload_made writes

end

/-! ## Drafts and their copies -/

theorem drafted_concat (steps : List (Nat × Write)) (step : Nat × Write) :
    drafted (steps ++ [step]) = extend (drafted steps) step := by
  rw [drafted, List.foldl_append]
  rfl

/-- A draft is what its writes make of the blank message. -/
theorem message_of_drafted {steps : List (Nat × Write)} {draft : Draft}
    (member : draft ∈ drafted steps) : draft.message = made draft.writes := by
  induction steps using List.reverseRecOn generalizing draft with
  | nil =>
      obtain rfl := List.mem_singleton.mp member
      rfl
  | append_singleton steps step induction =>
      rw [drafted_concat, extend] at member
      cases chosen : (drafted steps)[step.1]? with
      | none =>
          rw [chosen] at member
          exact induction member
      | some original =>
          rw [chosen] at member
          rcases List.mem_append.mp member with before | added
          · exact induction before
          · obtain rfl := List.mem_singleton.mp added
            rw [Draft.after, made_concat, ← induction (List.mem_of_getElem? chosen)]

/--
Each draft has what was written last on the way to it, with no reserved key among its application
headers.  A write adds one draft, in which nothing but what it writes is other than in the original,
and all drafts that were there stay.
-/
theorem last_writes_count (steps : List (Nat × Write)) :
    (∀ draft ∈ drafted steps, Holds draft.message draft.writes) ∧
      ∀ (number : Nat) (write : Write) (draft : Draft), (drafted steps)[number]? = some draft →
        drafted (steps ++ [(number, write)]) = drafted steps ++ [draft.after write] ∧
          Leaves write draft.message (draft.after write).message := by
  constructor
  · intro draft member
    rw [message_of_drafted member]
    exact holds_made draft.writes
  · intro number write draft chosen
    constructor
    · rw [drafted_concat, extend, chosen]
    · exact leaves_apply write draft.message

/-- A message gets its qualifier as a header, and a copy of it gets another one by a setter. -/
def requalified : List (Nat × Write) :=
  [(0, .header "q" "A/b"), (1, .qualifier "A/c")]

/-- The original goes on with its own qualifier. -/
theorem requalified_original_kept : ∃ draft, (drafted requalified)[1]? = some draft ∧
    draft.message.qualifier = "A/b" ∧
    drafted (requalified ++ [(1, .streamId "7")]) =
      drafted requalified ++ [draft.after (.streamId "7")] ∧
    Leaves (.streamId "7") draft.message (draft.after (.streamId "7")).message := by
  have counts := last_writes_count requalified
  refine ⟨_, rfl, ?_, counts.2 1 (.streamId "7") _ rfl⟩
  have holds := counts.1 _ (List.mem_of_getElem? (show (drafted requalified)[1]? = some _ from rfl))
  exact holds.qualifier

end Message

end ServiceMesh
