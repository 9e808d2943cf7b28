import ServiceMesh.Message
import ServiceMesh.Proofs.Dict

/-!
# Fields and headers under one map of keys

A message is seen as a map from header keys: reserved keys stand for its fields, the others for its
application headers (`Message.textAt`).  Writing a header changes this map under the key of the
header and nowhere else (`textAt_withHeader`), and of several headers under one key the last one
counts (`textAt_withHeaders`).  What travels is this map but for an empty qualifier
(`carried?_eq`), and it determines the message up to its payload (`eq_of_carried`).
-/

namespace ServiceMesh

theorem Reserved.key_of_ofKey? {key : String} {field : Reserved}
    (found : Reserved.ofKey? key = some field) : field.key = key := by
  simpa using List.find?_some found

theorem Reserved.key_injective {first second : Reserved} (same : first.key = second.key) :
    first = second := by
  have found := Reserved.ofKey?_key first
  rw [same, Reserved.ofKey?_key, Option.some.injEq] at found
  exact found.symm

/-- Among all fields, in whatever order, the one of a key is found. -/
theorem Reserved.find?_key {fields : List Reserved} (all : ∀ field, field ∈ fields)
    (key : String) : fields.find? (fun field => field.key = key) = Reserved.ofKey? key := by
  cases known : Reserved.ofKey? key with
  | none =>
      rw [Reserved.ofKey?, List.find?_eq_none] at known
      rw [List.find?_eq_none]
      intro field _
      exact known field (by cases field <;> decide)
  | some field =>
      have named := Reserved.key_of_ofKey? known
      cases found : fields.find? (fun field => field.key = key) with
      | none =>
          rw [List.find?_eq_none] at found
          simpa [named] using found field (all field)
      | some other =>
          have same : other.key = key := by simpa using List.find?_some found
          rw [Reserved.key_injective (same.trans named.symm)]

namespace Message

/-- What travels under a header key. -/
def carried? (message : Message) (key : String) : Option String :=
  match Reserved.ofKey? key with
  | some field => message.reserved? field
  | none => message.headers.get? key

/-- The text of a reserved field; the qualifier always has one. -/
def stored? (message : Message) : Reserved → Option String
  | .qualifier => some message.qualifier
  | .streamId => message.streamId
  | .dataType => message.dataType
  | .dataFormat => message.dataFormat
  | .inactivity => message.inactivity

/-- What stands under a key: the text of a field, or an application header. -/
def textAt (message : Message) (key : String) : Option String :=
  match Reserved.ofKey? key with
  | some field => message.stored? field
  | none => message.headers.get? key

/-- Whether a text under a key is sent: all but an empty qualifier are. -/
def travelsAs (key text : String) : Bool :=
  ¬ (key = Reserved.qualifier.key ∧ text = "")

/-- No application header has a reserved key. -/
def Unreserved (message : Message) : Prop :=
  ∀ field : Reserved, message.headers.get? field.key = none

@[simp]
theorem carried?_key (message : Message) (field : Reserved) :
    message.carried? field.key = message.reserved? field := by
  rw [carried?, Reserved.ofKey?_key]

theorem carried?_of_unreserved {message : Message} {key : String}
    (free : Reserved.ofKey? key = none) : message.carried? key = message.headers.get? key := by
  rw [carried?, free]

theorem textAt_key (message : Message) (field : Reserved) :
    message.textAt field.key = message.stored? field := by
  rw [textAt, Reserved.ofKey?_key]

theorem textAt_of_unreserved {message : Message} {key : String}
    (free : Reserved.ofKey? key = none) : message.textAt key = message.headers.get? key := by
  rw [textAt, free]

@[simp]
theorem carried?_blank (key : String) : blank.carried? key = none := by
  rw [carried?]
  cases Reserved.ofKey? key with
  | none => rfl
  | some field => cases field <;> rfl

theorem filter_travelsAs {key : String} (other : key ≠ Reserved.qualifier.key)
    (text? : Option String) : text?.filter (travelsAs key) = text? := by
  cases text? with
  | none => rfl
  | some text =>
      apply Option.filter_some_pos
      rw [travelsAs, decide_eq_true_iff]
      exact fun empty => other empty.1

theorem carried?_eq (message : Message) (key : String) :
    message.carried? key = (message.textAt key).filter (travelsAs key) := by
  rw [carried?, textAt]
  cases known : Reserved.ofKey? key with
  | none =>
      refine (filter_travelsAs ?_ _).symm
      rintro rfl
      cases known
  | some field =>
      obtain rfl := Reserved.key_of_ofKey? known
      cases field with
      | qualifier => simp [reserved?, stored?, travelsAs, Option.filter_some]
      | streamId => exact (filter_travelsAs (by decide) _).symm
      | dataType => exact (filter_travelsAs (by decide) _).symm
      | dataFormat => exact (filter_travelsAs (by decide) _).symm
      | inactivity => exact (filter_travelsAs (by decide) _).symm

theorem unreserved_blank : blank.Unreserved := fun _ => rfl

/-- A message is determined by what travels in its headers and by its payload. -/
theorem eq_of_carried {first second : Message} (free : first.Unreserved)
    (also : second.Unreserved) (alike : ∀ key, first.carried? key = second.carried? key)
    (data : first.payload = second.payload) : first = second := by
  have fields (field : Reserved) : first.reserved? field = second.reserved? field := by
    rw [← carried?_key, ← carried?_key, alike]
  have qualifier : first.qualifier = second.qualifier := by
    have same := fields .qualifier
    simp only [reserved?] at same
    split at same <;> split at same <;> simp_all
  have headers : first.headers = second.headers := by
    apply Dict.ext_get?
    intro key
    cases known : Reserved.ofKey? key with
    | none => rw [← carried?_of_unreserved known, ← carried?_of_unreserved known, alike]
    | some field => rw [← Reserved.key_of_ofKey? known, free, also]
  rcases first with ⟨_, streamId, dataType, dataFormat, inactivity, _, _⟩
  rcases second with ⟨_, _, _, _, _, _, _⟩
  obtain rfl : streamId = _ := fields .streamId
  obtain rfl : dataType = _ := fields .dataType
  obtain rfl : dataFormat = _ := fields .dataFormat
  obtain rfl : inactivity = _ := fields .inactivity
  dsimp only at qualifier headers data
  rw [qualifier, headers, data]

/-! ## Writing headers -/

theorem stored?_withReserved (message : Message) (field other : Reserved) (value : String) :
    (message.withReserved field value).stored? other =
      if other = field then some value else message.stored? other := by
  cases field <;> cases other <;> rfl

theorem headers_withReserved (message : Message) (field : Reserved) (value : String) :
    (message.withReserved field value).headers = message.headers := by
  cases field <;> rfl

theorem payload_withHeader (message : Message) (key value : String) :
    (message.withHeader key value).payload = message.payload := by
  rw [withHeader]
  cases Reserved.ofKey? key with
  | none => rfl
  | some field => cases field <;> rfl

/-- Nothing is written among the application headers under a reserved key. -/
theorem reservedHeader_withHeader (message : Message) (key value : String) (field : Reserved) :
    (message.withHeader key value).headers.get? field.key = message.headers.get? field.key := by
  rw [withHeader]
  cases known : Reserved.ofKey? key with
  | some other => exact congrArg (Dict.get? · field.key) (headers_withReserved _ _ _)
  | none =>
      have apart : field.key ≠ key := by
        rintro rfl
        rw [Reserved.ofKey?_key] at known
        cases known
      exact (Dict.get?_insert _ _ _ _).trans (if_neg apart)

theorem Unreserved.withHeader {message : Message} (free : message.Unreserved)
    (key value : String) : (message.withHeader key value).Unreserved :=
  fun field => (reservedHeader_withHeader message key value field).trans (free field)

/-- A header is written under its key and nowhere else, whether the key is reserved or not. -/
theorem textAt_withHeader (message : Message) (key other value : String) :
    (message.withHeader key value).textAt other =
      if other = key then some value else message.textAt other := by
  by_cases same : other = key
  · subst same
    rw [if_pos rfl, textAt, withHeader]
    cases Reserved.ofKey? other with
    | none => exact (Dict.get?_insert _ _ _ _).trans (if_pos rfl)
    | some field => exact (stored?_withReserved _ _ _ _).trans (if_pos rfl)
  · rw [if_neg same, textAt, textAt, withHeader]
    cases known : Reserved.ofKey? key with
    | none =>
        cases Reserved.ofKey? other with
        | none => exact (Dict.get?_insert _ _ _ _).trans (if_neg same)
        | some asked => cases asked <;> rfl
    | some field =>
        cases about : Reserved.ofKey? other with
        | none => exact congrArg (Dict.get? · other) (headers_withReserved _ _ _)
        | some asked =>
            have apart : asked ≠ field := by
              rintro rfl
              exact same ((Reserved.key_of_ofKey? about).symm.trans (Reserved.key_of_ofKey? known))
            exact (stored?_withReserved _ _ _ _).trans (if_neg apart)

theorem withHeaders_concat (message : Message) (headers : List (String × String))
    (header : String × String) :
    message.withHeaders (headers ++ [header]) =
      (message.withHeaders headers).withHeader header.1 header.2 := by
  rw [withHeaders, List.foldl_append]
  rfl

theorem payload_withHeaders (message : Message) (headers : List (String × String)) :
    (message.withHeaders headers).payload = message.payload := by
  induction headers using List.reverseRecOn with
  | nil => rfl
  | append_singleton headers header induction =>
      rw [withHeaders_concat, payload_withHeader, induction]

theorem reservedHeader_withHeaders (message : Message) (headers : List (String × String))
    (field : Reserved) :
    (message.withHeaders headers).headers.get? field.key = message.headers.get? field.key := by
  induction headers using List.reverseRecOn with
  | nil => rfl
  | append_singleton headers header induction =>
      rw [withHeaders_concat, reservedHeader_withHeader, induction]

theorem Unreserved.withHeaders {message : Message} (free : message.Unreserved)
    (headers : List (String × String)) : (message.withHeaders headers).Unreserved :=
  fun field => (reservedHeader_withHeaders message headers field).trans (free field)

/-- Of several headers under one key the last one counts. -/
theorem textAt_withHeaders (message : Message) (headers : List (String × String)) (key : String) :
    (message.withHeaders headers).textAt key =
      (headers.reverse.lookup key).or (message.textAt key) := by
  induction headers using List.reverseRecOn with
  | nil => rfl
  | append_singleton headers header induction =>
      rcases header with ⟨head, value⟩
      rw [withHeaders_concat, textAt_withHeader, induction, List.reverse_concat, List.lookup_cons]
      by_cases same : key = head
      · simp [same]
      · rw [if_neg same, beq_false_of_ne same]

/-- Headers travel as they are written; an empty qualifier would count as absent. -/
theorem carried?_withHeaders (message : Message) {headers : List (String × String)}
    (counts : ∀ header ∈ headers, header.1 = Reserved.qualifier.key → header.2 ≠ "")
    (key : String) :
    (message.withHeaders headers).carried? key =
      (headers.reverse.lookup key).or (message.carried? key) := by
  rw [carried?_eq, carried?_eq, textAt_withHeaders]
  cases found : headers.reverse.lookup key with
  | none => rfl
  | some text =>
      have member : (key, text) ∈ headers := by
        rcases List.lookup_eq_some_iff.mp found with ⟨later, earlier, parts, -⟩
        rw [← List.mem_reverse, parts]
        exact List.mem_append_right _ List.mem_cons_self
      have travels : travelsAs key text = true := by
        rw [travelsAs, decide_eq_true_iff]
        rintro ⟨named, empty⟩
        exact counts _ member named empty
      rw [Option.some_or, Option.some_or, Option.filter_some_pos travels]

end Message

end ServiceMesh
