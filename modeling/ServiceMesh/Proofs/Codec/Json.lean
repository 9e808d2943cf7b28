import ServiceMesh.Codec
import ServiceMesh.Proofs.Json.Reading

/-!
# The JSON codecs restore what they write

A reader `Refuses` a text if it reads nothing off the front of an input that begins with the text.
A container that holds a refused text is refused as well (`readContainer_of_breaks`), and with it
the text of every plain value that is nested too deep.  So the data codec restores just the values
that are not (`ofBytes?_toBytes_iff`).

Whatever their depth, two plain values never have the same text, because there is a depth at which
both are read (`toBytes_injective`).  Two header maps never have the same text either, in whatever
orders their members are written (`eq_of_toBytes_ofEntries`).  `Codec.json_restores` puts this together
for both codecs.
-/

namespace ServiceMesh

namespace Json

/-! ## Values nested too deep -/

/-- A reader refuses a text. -/
def Refuses {α : Type} (read : List Char → Option (α × List Char)) (text : List Char) : Prop :=
  ∀ rest, Stops rest → read (text ++ rest) = none

/-- A reader takes texts in a row until it refuses one. -/
inductive Breaks {α : Type} (read : List Char → Option (α × List Char)) :
    List (List Char) → Prop where
  | now {text : List Char} {texts : List (List Char)} (refuses : Refuses read text) :
      Breaks read (text :: texts)
  | later {text : List Char} {result : α} {texts : List (List Char)}
      (takes : Takes read text result) (breaks : Breaks read texts) : Breaks read (text :: texts)

section

variable {α : Type} {read : List Char → Option (α × List Char)} {closing : Char}
  {texts : List (List Char)}

theorem Breaks.ne_nil (breaks : Breaks read texts) : texts ≠ [] := by
  cases breaks <;> exact List.cons_ne_nil _ _

/-- A text in a row is followed by a comma or by the end of the row. -/
theorem joined_cons (closes : closing = ']' ∨ closing = '\x7d') (text : List Char)
    (texts : List (List Char)) (rest : List Char) :
    ∃ after, Stops after ∧ joined closing (text :: texts) ++ rest = text ++ after := by
  cases texts with
  | nil => exact ⟨closing :: rest, stops_cons _ (.inr closes), by simp [joined]⟩
  | cons next texts =>
      exact ⟨',' :: (joined closing (next :: texts) ++ rest), stops_cons _ (.inl rfl), by simp⟩

theorem readElements_of_breaks (closes : closing = ']' ∨ closing = '\x7d')
    (breaks : Breaks read texts) (turns rest : List Char) :
    readElements read closing turns (joined closing texts ++ rest) = none := by
  induction breaks generalizing turns with
  | now refuses =>
      rename_i text texts
      cases turns with
      | nil => rfl
      | cons turn turns =>
          rcases joined_cons closes text texts rest with ⟨after, stops, whole⟩
          rw [whole, readElements, refuses after stops]
          rfl
  | later takes breaks induction =>
      rename_i text result texts
      cases turns with
      | nil => rfl
      | cons turn turns =>
          cases texts with
          | nil => exact (breaks.ne_nil rfl).elim
          | cons next texts =>
              have taken := takes (',' :: (joined closing (next :: texts) ++ rest))
                (stops_cons _ (.inl rfl))
              have light : isBlank ',' = false := by decide
              simp only [joined_cons_cons, List.append_assoc, List.cons_append, readElements, taken,
                induction turns, Option.bind_eq_bind, Option.bind_some, Option.bind_none,
                skipBlank_cons _ light, if_pos]

theorem readContainer_of_breaks (closes : closing = ']' ∨ closing = '\x7d')
    (breaks : Breaks read texts) (begins : ∀ text ∈ texts, Begins text) (rest : List Char) :
    readContainer read closing (joined closing texts ++ rest) = none := by
  rcases begins_joined closing begins breaks.ne_nil with
    ⟨character, more, whole, dark, bracket, brace⟩
  have open_ : character ≠ closing := by
    rcases closes with rfl | rfl
    · exact bracket
    · exact brace
  have refused := readElements_of_breaks closes breaks (joined closing texts ++ rest) rest
  rw [whole, List.cons_append] at refused ⊢
  simp only [readContainer, skipBlank_cons _ dark, if_neg open_, refused]

theorem refuses_member {text : List Char} (key : String) (refuses : Refuses read text) :
    Refuses (readMember read) (writeMember key text) := by
  intro rest stops
  have name := readText_writeText key (':' :: (text ++ rest))
  have light : isBlank ':' = false := by decide
  simp only [writeMember, List.append_assoc, List.cons_append, readMember, name,
    Option.bind_eq_bind, Option.bind_some, Option.bind_none, skipBlank_cons _ light,
    refuses rest stops]

theorem refuses_array {depth : Nat} (breaks : Breaks (readValue depth) texts)
    (begins : ∀ text ∈ texts, Begins text) :
    Refuses (readValue (depth + 1)) ('[' :: joined ']' texts) := by
  intro rest _
  have refused := readContainer_of_breaks (.inl rfl) breaks begins rest
  rw [List.cons_append, readValue, skipBlank_cons _ (by decide)]
  simp only [refused, Option.map_none]

theorem refuses_object {depth : Nat} (breaks : Breaks (readMember (readValue depth)) texts)
    (begins : ∀ text ∈ texts, Begins text) :
    Refuses (readValue (depth + 1)) ('\x7b' :: joined '\x7d' texts) := by
  intro rest _
  have refused := readContainer_of_breaks (.inr rfl) breaks begins rest
  rw [List.cons_append, readValue, skipBlank_cons _ (by decide)]
  simp only [refused, Option.map_none]

end

/-- No container is read where none may be open. -/
theorem refuses_opening {opening : Char} (opens : opening = '[' ∨ opening = '\x7b')
    (text : List Char) : Refuses (readValue 0) (opening :: text) := by
  intro rest _
  rcases opens with rfl | rfl
  · rw [List.cons_append, readValue, skipBlank_cons _ (by decide)]
    rfl
  · rw [List.cons_append, readValue, skipBlank_cons _ (by decide)]
    rfl

mutual

theorem refuses_write {value : Json} {depth : Nat} (plain : value.Plain)
    (deep : depth < value.depth) : Refuses (readValue depth) value.write := by
  cases value with
  | arr items =>
      rw [write, writeItems_eq]
      cases depth with
      | zero => exact refuses_opening (.inl rfl) _
      | succ depth =>
          exact refuses_array (breaks_items plain (Nat.lt_of_succ_lt_succ deep))
            (begins_items plain)
  | obj members =>
      rw [write, writeMembers_eq]
      cases depth with
      | zero => exact refuses_opening (.inr rfl) _
      | succ depth =>
          exact refuses_object (breaks_members plain.2 (Nat.lt_of_succ_lt_succ deep))
            (begins_members members)
  | _ => exact (Nat.not_lt_zero _ deep).elim

theorem breaks_items {items : List Json} {depth : Nat} (plain : PlainItems items)
    (deep : depth < depthItems items) : Breaks (readValue depth) (items.map write) := by
  cases items with
  | nil => exact (Nat.not_lt_zero _ deep).elim
  | cons item items =>
      rcases Nat.lt_or_ge depth item.depth with here | shallow
      · exact .now (refuses_write plain.1 here)
      · have later : depth < depthItems items := by
          rw [depthItems] at deep
          omega
        exact .later (takes_write plain.1 shallow) (breaks_items plain.2 later)

theorem breaks_members {members : List (String × Json)} {depth : Nat}
    (plain : PlainMembers members) (deep : depth < depthMembers members) :
    Breaks (readMember (readValue depth))
      (members.map fun member => writeMember member.1 member.2.write) := by
  cases members with
  | nil => exact (Nat.not_lt_zero _ deep).elim
  | cons member members =>
      rcases member with ⟨key, value⟩
      rcases Nat.lt_or_ge depth value.depth with here | shallow
      · exact .now (refuses_member key (refuses_write plain.1 here))
      · have later : depth < depthMembers members := by
          rw [depthMembers] at deep
          omega
        exact .later (takes_member key (takes_write plain.1 shallow))
          (breaks_members plain.2 later)

end

theorem parseWithin?_write {value : Json} {depth : Nat} (plain : value.Plain)
    (shallow : value.depth ≤ depth) : parseWithin? depth value.write = some value :=
  complete_of_takes (takes_write plain shallow)

theorem parseWithin?_write_of_deep {value : Json} {depth : Nat} (plain : value.Plain)
    (deep : depth < value.depth) : parseWithin? depth value.write = none := by
  have refused := refuses_write plain deep [] stops_nil
  rw [List.append_nil] at refused
  rw [parseWithin?, refused]
  rfl

/-- The text of a plain value denotes it just if the value is not nested too deep. -/
theorem ofBytes?_toBytes_iff {value : Json} (plain : value.Plain) :
    ofBytes? value.toBytes = some value ↔ value.depth ≤ depthLimit := by
  refine ⟨fun read => ?_, ofBytes?_toBytes plain⟩
  by_contra deep
  have refused := parseWithin?_write_of_deep plain (Nat.not_le.mp deep)
  simp only [ofBytes?, toBytes, Utf8.decode?_encode, render, parse?, String.toList_ofList, refused,
    Option.bind_eq_bind, Option.bind_some] at read
  cases read

/-! ## One value for one text -/

/-- Plain values with the same bytes are the same, however deep they are nested. -/
theorem toBytes_injective {first second : Json} (plain : first.Plain) (other : second.Plain)
    (same : first.toBytes = second.toBytes) : first = second := by
  have text : first.write = second.write := by
    have decoded := congrArg Utf8.decode? same
    rw [toBytes, toBytes, Utf8.decode?_encode, Utf8.decode?_encode, Option.some.injEq] at decoded
    simpa [render] using congrArg String.toList decoded
  have read := parseWithin?_write plain (Nat.le_max_left first.depth second.depth)
  rw [text, parseWithin?_write other (Nat.le_max_right first.depth second.depth)] at read
  exact (Option.some.inj read).symm

/-- Maps of texts of which some orders have the same bytes are the same. -/
theorem eq_of_toBytes_ofEntries {first second : Dict String}
    {entries others : List (String × String)} (perm : entries.Perm first.entries)
    (also : others.Perm second.entries)
    (same : (ofEntries entries).toBytes = (ofEntries others).toBytes) : first = second := by
  have read := textsOfBytes?_of_perm perm
  rw [same, textsOfBytes?_of_perm also] at read
  exact (Option.some.inj read).symm

end Json

/-! ## Main result -/

/-- The data codec writes every plain value, restores it from its bytes just if it is not nested too
deep, and writes no other plain value alike.  The header codec writes every header map, in whatever
order of its members; from all these texts it restores the map, and in no order does it write another
map alike. -/
theorem Codec.json_restores :
    (∀ value : Json, value.Plain → ∃ bytes, jsonData.encode value = .ok bytes ∧
        (jsonData.decode bytes = .ok value ↔ value.depth ≤ Json.depthLimit) ∧
        ∀ other : Json, other.Plain → jsonData.encode other = .ok bytes → other = value) ∧
      ∀ (arrangement : Dict.Arrangement String) headers,
        ∃ bytes, (jsonHeaders arrangement).encode headers = .ok bytes ∧
          ∀ again : Dict.Arrangement String, (jsonHeaders again).decode bytes = .ok headers ∧
            ∀ other, (jsonHeaders again).encode other = .ok bytes → other = headers := by
  constructor
  · intro value plain
    refine ⟨value.toBytes, rfl, ?_, fun other also same => ?_⟩
    · rw [← Json.ofBytes?_toBytes_iff plain]
      simp only [jsonData]
      cases Json.ofBytes? value.toBytes with
      | none => simp
      | some read => simp
    · exact Json.toBytes_injective also plain (Except.ok.inj same)
  · intro arrangement headers
    refine ⟨_, rfl, fun again => ⟨?_, fun other same => ?_⟩⟩
    · simp only [jsonHeaders, Json.textsOfBytes?_of_perm (arrangement.perm headers)]
    · exact Json.eq_of_toBytes_ofEntries (again.perm other) (arrangement.perm headers)
        (Except.ok.inj same)

/-- Two orders of the members of a map have different texts. -/
example :
    (Codec.jsonHeaders .byKey).encode (.ofList [("q", "A/x"), ("sid", "1")]) ≠
      (Codec.jsonHeaders ⟨fun dict => dict.entries.reverse,
        fun dict => dict.entries.reverse_perm⟩).encode (.ofList [("q", "A/x"), ("sid", "1")]) := by
  decide

/-- An object with an empty key, the widest integers, quotes, a backslash, control characters and a
character of four bytes. -/
def Json.awkward : Json :=
  .obj [("", .arr [.int ⟨-0x8000000000000000, by decide, by decide⟩, .obj []]),
    ("\"\\", .str "\x07😀\n"),
    ("z", .int ⟨0xFFFFFFFFFFFFFFFF, by decide, by decide⟩)]

theorem Json.plain_awkward : Json.awkward.Plain := by
  have keys : Dict.Ordered
      [("", Json.arr [.int ⟨-0x8000000000000000, by decide, by decide⟩, .obj []]),
        ("\"\\", .str "\x07😀\n"),
        ("z", .int ⟨0xFFFFFFFFFFFFFFFF, by decide, by decide⟩)] := by
    unfold Dict.Ordered
    decide
  exact ⟨keys, ⟨trivial, ⟨.nil, trivial⟩, trivial⟩, trivial, trivial, trivial⟩

theorem Codec.awkward_restored :
    Json.awkward.Plain ∧ ∃ bytes, jsonData.encode Json.awkward = .ok bytes ∧
      jsonData.decode bytes = .ok Json.awkward := by
  rcases Codec.json_restores.1 Json.awkward Json.plain_awkward with ⟨bytes, written, restored, -⟩
  exact ⟨Json.plain_awkward, bytes, written, restored.mpr (by decide)⟩

end ServiceMesh
