import Mathlib.Data.List.TakeDrop
import ServiceMesh.Json.Parser
import ServiceMesh.Json.Printer
import ServiceMesh.Proofs.Dict

/-!
# Reading takes back what printing wrote

A reader `Takes` a text if it reads the text off the front of any input whose rest does not go on
it.  Only numbers can be gone on at all, by a digit, a point or an exponent, and what follows a value
inside a container never does that (`Stops`).  The texts of strings, of integers and of containers
are taken by their readers, and with them the text of every plain value that is not nested too deep
(`ofBytes?_toBytes`).
-/

namespace ServiceMesh.Json

/-- A rest that goes on no number. -/
def Stops (rest : List Char) : Prop :=
  ∀ character ∈ rest.head?,
    character.isDigit = false ∧ character ≠ '.' ∧ character ≠ 'e' ∧ character ≠ 'E'

/-- A reader takes a text off the input. -/
def Takes {α : Type} (read : List Char → Option (α × List Char)) (text : List Char)
    (result : α) : Prop :=
  ∀ rest, Stops rest → read (text ++ rest) = some (result, rest)

/-- A text that begins with neither a blank nor the end of a container. -/
def Begins (text : List Char) : Prop :=
  ∃ character rest, text = character :: rest ∧ isBlank character = false ∧
    character ≠ ']' ∧ character ≠ '\x7d'

@[simp]
theorem stops_nil : Stops [] := by simp [Stops]

theorem stops_cons {character : Char} (rest : List Char)
    (mark : character = ',' ∨ character = ']' ∨ character = '\x7d') :
    Stops (character :: rest) := by
  intro first found
  rw [List.head?_cons, Option.mem_some] at found
  subst found
  rcases mark with rfl | rfl | rfl <;> decide

@[simp]
theorem skipBlank_cons {character : Char} (rest : List Char)
    (dark : isBlank character = false) : skipBlank (character :: rest) = character :: rest := by
  simp [skipBlank, dark]

/-! ## Strings -/

theorem hexValue?_hexDigit {digit : Nat} (small : digit < 16) :
    hexValue? (hexDigit digit) = some digit := by
  have all : ∀ digit : Fin 16, hexValue? (hexDigit digit) = some digit.val := by decide
  exact all ⟨digit, small⟩

theorem readUnit_hexDigits {number : Nat} (small : number < 0x20) (rest : List Char) :
    readUnit ('0' :: '0' :: hexDigit (number / 16) :: hexDigit (number % 16) :: rest) =
      some (number, rest) := by
  have zero : hexValue? '0' = some 0 := by decide
  have value : ((0 * 16 + 0) * 16 + number / 16) * 16 + number % 16 = number := by omega
  simp only [readUnit, zero, hexValue?_hexDigit (show number / 16 < 16 by omega),
    hexValue?_hexDigit (show number % 16 < 16 by omega), Option.bind_eq_bind, Option.bind_some,
    value]

theorem readEscapedUnit_hexDigits {number : Nat} (small : number < 0x20) (rest : List Char) :
    readEscapedUnit ('0' :: '0' :: hexDigit (number / 16) :: hexDigit (number % 16) :: rest) =
      some (Char.ofNat number, rest) := by
  rw [readEscapedUnit, readUnit_hexDigits small]
  have low : ¬ 0xD800 ≤ number := by omega
  have other : ¬ 0xDC00 ≤ number := by omega
  simp [low, other]

/-- A character stands for itself, or an escape stands for it. -/
theorem escapeChar_cases (character : Char) :
    (escapeChar character = [character] ∧ character ≠ '"' ∧ character ≠ '\\' ∧
      0x20 ≤ character.toNat) ∨
    ∃ code, escapeChar character = '\\' :: code ∧
      ∀ rest, readEscape (code ++ rest) = some (character, rest) := by
  have named {number : Nat} (same : character.toNat = number) : Char.ofNat number = character := by
    rw [← same, Char.ofNat_toNat]
  by_cases quote : character = '"'
  · subst quote
    exact .inr ⟨['"'], rfl, fun _ => rfl⟩
  by_cases backslash : character = '\\'
  · subst backslash
    exact .inr ⟨['\\'], rfl, fun _ => rfl⟩
  by_cases backspace : character.toNat = 0x08
  · refine .inr ⟨['b'], by simp [escapeChar, quote, backslash, backspace], fun rest => ?_⟩
    rw [← named backspace]
    rfl
  by_cases formFeed : character.toNat = 0x0C
  · refine .inr ⟨['f'], by simp [escapeChar, quote, backslash, formFeed], fun rest => ?_⟩
    rw [← named formFeed]
    rfl
  by_cases newline : character = '\n'
  · subst newline
    exact .inr ⟨['n'], rfl, fun _ => rfl⟩
  by_cases carriageReturn : character = '\r'
  · subst carriageReturn
    exact .inr ⟨['r'], rfl, fun _ => rfl⟩
  by_cases tab : character = '\t'
  · subst tab
    exact .inr ⟨['t'], rfl, fun _ => rfl⟩
  by_cases control : character.toNat < 0x20
  · refine .inr ⟨'u' :: '0' :: '0' :: hexDigit (character.toNat / 16) ::
      [hexDigit (character.toNat % 16)], ?_, fun rest => ?_⟩
    · simp [escapeChar, quote, backslash, backspace, formFeed, newline, carriageReturn, tab,
        control]
    · have read := readEscapedUnit_hexDigits control rest
      rw [Char.ofNat_toNat] at read
      exact read
  · refine .inl ⟨?_, quote, backslash, Nat.le_of_not_lt control⟩
    simp [escapeChar, quote, backslash, backspace, formFeed, newline, carriageReturn, tab,
      control]

theorem readChars_escaped (characters rest : List Char) {turns : List Char}
    (enough : characters.length < turns.length) :
    readChars turns (characters.flatMap escapeChar ++ '"' :: rest) = some (characters, rest) := by
  induction characters generalizing turns with
  | nil =>
      cases turns with
      | nil => cases enough
      | cons turn turns => simp [readChars]
  | cons character characters induction =>
      cases turns with
      | nil => cases enough
      | cons turn turns =>
          have others := @induction turns (by simpa using enough)
          rw [List.flatMap_cons, List.append_assoc]
          rcases escapeChar_cases character with
            ⟨itself, quote, backslash, shown⟩ | ⟨code, escape, reads⟩
          · rw [itself, List.singleton_append, readChars, if_neg quote, if_neg backslash,
              if_neg (Nat.not_lt.mpr shown), others]
            rfl
          · rw [escape, List.cons_append, readChars, if_neg (by decide), if_pos rfl, reads]
            simp only [Option.bind_eq_bind, Option.bind_some, others]

theorem length_le_escaped (characters : List Char) :
    characters.length ≤ (characters.flatMap escapeChar).length := by
  induction characters with
  | nil => exact Nat.zero_le _
  | cons character characters induction =>
      have some_ : 1 ≤ (escapeChar character).length := by
        rcases escapeChar_cases character with ⟨itself, -⟩ | ⟨code, escape, -⟩
        · simp [itself]
        · simp [escape]
      rw [List.flatMap_cons, List.length_append, List.length_cons]
      omega

theorem readText_writeText (text : String) (rest : List Char) :
    readText (writeText text ++ rest) = some (text, rest) := by
  have enough : text.toList.length <
      (text.toList.flatMap escapeChar ++ '"' :: rest).length := by
    have short := length_le_escaped text.toList
    rw [List.length_append, List.length_cons]
    omega
  have read := readChars_escaped text.toList rest enough
  rw [readText, writeText, List.append_assoc, List.cons_append, skipBlank_cons _ (by decide)]
  simp only [List.cons_append, List.nil_append, read, Option.bind_eq_bind, Option.bind_some,
    String.ofList_toList]

/-! ## Integers -/

theorem natOfDigits_toDigits (number : Nat) :
    Decimal.natOfDigits (Nat.toDigits 10 number) = number := by
  have value : Nat.ofDigitChars 10 (Nat.toDigits 10 number) 0 = number :=
    Nat.ofDigitChars_ten_toDigits
  rw [Nat.ofDigitChars_eq_foldl] at value
  rw [Decimal.natOfDigits_eq_foldl]
  simpa only [Nat.mul_comm, Decimal.digitValue] using value

theorem isDigit_of_mem (number : Nat) :
    ∀ digit ∈ Nat.toDigits 10 number, digit.isDigit = true :=
  fun _ member => Nat.isDigit_of_mem_toDigits (by decide) (by decide) member

theorem span_digits {digits rest : List Char} (all : ∀ digit ∈ digits, digit.isDigit = true)
    (stops : Stops rest) : spanDigits (digits ++ rest) = (digits, rest) := by
  have ends : rest.takeWhile Char.isDigit = [] ∧ rest.dropWhile Char.isDigit = rest := by
    cases rest with
    | nil => exact ⟨rfl, rfl⟩
    | cons character rest => simp [(stops character rfl).1]
  rw [spanDigits, List.span_eq_takeWhile_dropWhile, List.takeWhile_append_of_pos all,
    List.dropWhile_append_of_pos all, ends.1, ends.2, List.append_nil]

/-- Only zero is written with a zero in front. -/
theorem toDigits_of_zero {number : Nat} {rest : List Char}
    (zero : Nat.toDigits 10 number = '0' :: rest) : number = 0 ∧ rest = [] := by
  induction number using Nat.strongRecOn generalizing rest with
  | ind number induction =>
      rcases Nat.lt_or_ge number 10 with small | large
      · rw [Nat.toDigits_of_lt_base small, List.cons.injEq, Nat.digitChar_eq_zero] at zero
        exact ⟨zero.1, zero.2.symm⟩
      · rw [Nat.toDigits_of_base_le (by decide) large] at zero
        cases front : Nat.toDigits 10 (number / 10) with
        | nil => exact (Nat.toDigits_ne_nil front).elim
        | cons digit digits =>
            rw [front, List.cons_append, List.cons.injEq] at zero
            rw [zero.1] at front
            have none_ := (induction (number / 10) (by omega) front).1
            omega

/-- Numbers of one digit or more are read as they are written. -/
theorem readWhole_toDigits (number : Nat) {rest : List Char} (stops : Stops rest) :
    readWhole (Nat.toDigits 10 number ++ rest) = some (Nat.toDigits 10 number, rest) := by
  have span := span_digits (isDigit_of_mem number) stops
  cases written : Nat.toDigits 10 number with
  | nil => exact (Nat.toDigits_ne_nil written).elim
  | cons digit digits =>
      rw [written] at span
      by_cases zero : digit = '0'
      · subst zero
        rw [(toDigits_of_zero written).2]
        rfl
      · rw [List.cons_append] at span ⊢
        rw [readWhole, span]
        intro rest same
        exact zero (List.cons.inj same).1

theorem readFraction_of_stops {rest : List Char} (stops : Stops rest) :
    readFraction rest = some (none, rest) := by
  rw [readFraction]
  rintro digits rfl
  exact (stops '.' rfl).2.1 rfl

theorem readExponent_of_stops {rest : List Char} (stops : Stops rest) :
    readExponent rest = some (none, rest) := by
  cases rest with
  | nil => rfl
  | cons character rest =>
      have plain := stops character rfl
      simp [readExponent, plain.2.2.1, plain.2.2.2]

theorem ofInt?_val (number : WideInt) : WideInt.ofInt? number.val = some number := by
  rw [WideInt.ofInt?, dif_pos ⟨number.least, number.greatest⟩]

theorem number?_toDigits {negative : Bool} {magnitude : Nat} {number : WideInt}
    (value : (if negative then -(magnitude : Int) else magnitude) = number.val)
    (nonzero : negative = true → magnitude ≠ 0) :
    number? negative (Nat.toDigits 10 magnitude) none none = some (.int number) := by
  have some_ : (negative && decide (magnitude = 0)) = false := by
    cases negative with
    | false => rfl
    | true => simpa using nonzero rfl
  simp only [number?, natOfDigits_toDigits, some_, value, ofInt?_val]
  rfl

theorem readMagnitude_toDigits {negative : Bool} {magnitude : Nat} {number : WideInt}
    (value : (if negative then -(magnitude : Int) else magnitude) = number.val)
    (nonzero : negative = true → magnitude ≠ 0) :
    Takes (readMagnitude negative) (Nat.toDigits 10 magnitude) (.int number) := by
  intro rest stops
  simp only [readMagnitude, readWhole_toDigits magnitude stops, readFraction_of_stops stops,
    readExponent_of_stops stops, number?_toDigits value nonzero, Option.bind_eq_bind,
    Option.bind_some]

theorem digit_of_toDigits (number : Nat) :
    ∃ digit digits, Nat.toDigits 10 number = digit :: digits ∧ digit.isDigit = true := by
  cases written : Nat.toDigits 10 number with
  | nil => exact (Nat.toDigits_ne_nil written).elim
  | cons digit digits =>
      refine ⟨digit, digits, rfl, isDigit_of_mem number digit ?_⟩
      rw [written]
      exact List.mem_cons_self

theorem readNumber_writeInt (number : WideInt) :
    Takes readNumber (writeInt number.val) (.int number) := by
  intro rest stops
  rcases Int.lt_or_le number.val 0 with negative | positive
  · rw [writeInt, if_pos negative, List.cons_append, readNumber]
    refine readMagnitude_toDigits ?_ ?_ rest stops
    · rw [if_pos rfl]
      omega
    · intro _
      omega
  · have read : readMagnitude false (Nat.toDigits 10 number.val.natAbs ++ rest) =
        some (.int number, rest) := by
      refine readMagnitude_toDigits ?_ ?_ rest stops
      · rw [if_neg (by decide)]
        omega
      · simp
    rcases digit_of_toDigits number.val.natAbs with ⟨digit, digits, written, isDigit⟩
    rw [written, List.cons_append] at read
    rw [writeInt, if_neg (Int.not_lt.mpr positive), written, List.cons_append, readNumber]
    · exact read
    · rintro more ⟨rfl, -⟩
      cases isDigit

/-- An integer begins with its sign or with a digit. -/
theorem head_writeInt (number : Int) :
    ∃ character rest, writeInt number = character :: rest ∧
      (character = '-' ∨ character.isDigit = true) := by
  rw [writeInt]
  split
  · exact ⟨'-', _, rfl, .inl rfl⟩
  · rcases digit_of_toDigits number.natAbs with ⟨digit, digits, written, isDigit⟩
    exact ⟨digit, digits, written, .inr isDigit⟩

theorem not_blank_of_number {character : Char}
    (first : character = '-' ∨ character.isDigit = true) : isBlank character = false := by
  rcases first with rfl | isDigit
  · rfl
  · by_contra blank
    simp only [isBlank, Bool.not_eq_false, Bool.or_eq_true, decide_eq_true_eq] at blank
    rcases blank with ((rfl | rfl) | rfl) | rfl <;> cases isDigit

/-! ## Containers -/

/-- Texts in a row, separated by commas and closed. -/
def joined (closing : Char) : List (List Char) → List Char
  | [] => [closing]
  | [text] => text ++ [closing]
  | text :: texts => text ++ ',' :: joined closing texts

@[simp]
theorem joined_cons_cons (closing : Char) (text next : List Char) (texts : List (List Char)) :
    joined closing (text :: next :: texts) = text ++ ',' :: joined closing (next :: texts) := rfl

theorem length_le_joined (closing : Char) (texts : List (List Char)) :
    texts.length ≤ (joined closing texts).length := by
  fun_induction joined closing texts with
  | case1 => simp
  | case2 text => simp
  | case3 text texts _ induction =>
      rw [List.length_append, List.length_cons, List.length_cons]
      omega

section

variable {α : Type} {readElement : List Char → Option (α × List Char)} {closing : Char}
  {texts : List (List Char)} {results : List α}

theorem readElements_joined (closes : closing = ']' ∨ closing = '\x7d')
    (each : List.Forall₂ (Takes readElement) texts results) (some_ : texts ≠ [])
    (turns : List Char) (enough : texts.length ≤ turns.length) (rest : List Char) :
    readElements readElement closing turns (joined closing texts ++ rest) =
      some (results, rest) := by
  have dark : isBlank closing = false := by
    rcases closes with rfl | rfl <;> decide
  have apart : closing ≠ ',' := by
    rcases closes with rfl | rfl <;> decide
  induction each generalizing turns with
  | nil => exact (some_ rfl).elim
  | @cons text result texts results takes others induction =>
      cases turns with
      | nil => cases enough
      | cons turn turns =>
          cases texts with
          | nil =>
              cases others
              have read := takes (closing :: rest) (stops_cons _ (.inr closes))
              simp only [joined, List.append_assoc, List.singleton_append, readElements, read,
                Option.bind_eq_bind, Option.bind_some, skipBlank_cons _ dark, if_neg apart,
                if_pos]
          | cons next texts =>
              have read := takes (',' :: (joined closing (next :: texts) ++ rest))
                (stops_cons _ (.inl rfl))
              have more := induction (List.cons_ne_nil _ _) turns (Nat.le_of_succ_le_succ enough)
              have light : isBlank ',' = false := by decide
              simp only [joined_cons_cons, List.append_assoc, List.cons_append, readElements, read,
                more, Option.bind_eq_bind, Option.bind_some, skipBlank_cons _ light, if_pos]

theorem begins_joined (closing : Char) (begins : ∀ text ∈ texts, Begins text)
    (some_ : texts ≠ []) : Begins (joined closing texts) := by
  cases texts with
  | nil => exact (some_ rfl).elim
  | cons text texts =>
      rcases begins text List.mem_cons_self with ⟨character, more, rfl, plain⟩
      cases texts with
      | nil => exact ⟨character, _, rfl, plain⟩
      | cons next texts => exact ⟨character, _, rfl, plain⟩

theorem readContainer_joined (closes : closing = ']' ∨ closing = '\x7d')
    (each : List.Forall₂ (Takes readElement) texts results)
    (begins : ∀ text ∈ texts, Begins text) (rest : List Char) :
    readContainer readElement closing (joined closing texts ++ rest) = some (results, rest) := by
  by_cases some_ : texts = []
  · subst some_
    cases each
    have dark : isBlank closing = false := by
      rcases closes with rfl | rfl <;> decide
    simp [joined, readContainer, dark]
  · have short := length_le_joined closing texts
    rcases begins_joined closing begins some_ with
      ⟨character, more, whole, dark, bracket, brace⟩
    have open_ : character ≠ closing := by
      rcases closes with rfl | rfl
      · exact bracket
      · exact brace
    have read := readElements_joined closes each some_ (joined closing texts ++ rest)
      (by rw [List.length_append]; omega) rest
    rw [whole, List.cons_append] at read ⊢
    simp only [readContainer, skipBlank_cons _ dark, if_neg open_, read]

end

/-! ## Values -/

/-- The text of a member of an object. -/
def writeMember (key : String) (text : List Char) : List Char := writeText key ++ ':' :: text

theorem writeItems_eq (items : List Json) : writeItems items = joined ']' (items.map write) := by
  induction items with
  | nil => rfl
  | cons item items induction =>
      cases items with
      | nil => rfl
      | cons next items =>
          rw [writeItems, induction]
          · rfl
          · simp

theorem writeMembers_eq (members : List (String × Json)) :
    writeMembers members =
      joined '\x7d' (members.map fun member => writeMember member.1 member.2.write) := by
  induction members with
  | nil => rfl
  | cons member members induction =>
      cases members with
      | nil => simp [writeMembers, joined, writeMember]
      | cons next members =>
          rw [writeMembers, induction]
          · simp [writeMember]
          · simp

mutual

/-- A value without doubles, whose objects have their members in order. -/
def Plain : Json → Prop
  | .float _ => False
  | .arr items => PlainItems items
  | .obj members => Dict.Ordered members ∧ PlainMembers members
  | _ => True

/-- Items that are plain. -/
def PlainItems : List Json → Prop
  | [] => True
  | item :: items => Plain item ∧ PlainItems items

/-- Members whose values are plain. -/
def PlainMembers : List (String × Json) → Prop
  | [] => True
  | (_, value) :: members => Plain value ∧ PlainMembers members

end

theorem begins_writeText (text : String) (rest : List Char) : Begins (writeText text ++ rest) :=
  ⟨'"', _, rfl, by decide, by decide, by decide⟩

theorem begins_write {value : Json} (plain : value.Plain) : Begins value.write := by
  cases value with
  | null => exact ⟨'n', _, rfl, by decide, by decide, by decide⟩
  | bool flag =>
      cases flag with
      | true => exact ⟨'t', _, rfl, by decide, by decide, by decide⟩
      | false => exact ⟨'f', _, rfl, by decide, by decide, by decide⟩
  | int number =>
      rcases head_writeInt number.val with ⟨character, rest, written, first⟩
      refine ⟨character, rest, written, not_blank_of_number first, ?_, ?_⟩
      · rintro rfl
        simp at first
      · rintro rfl
        simp at first
  | float number => exact plain.elim
  | str text =>
      have begins := begins_writeText text []
      rw [List.append_nil] at begins
      exact begins
  | arr items => exact ⟨'[', _, rfl, by decide, by decide, by decide⟩
  | obj members => exact ⟨'\x7b', _, rfl, by decide, by decide, by decide⟩

theorem takes_member {α : Type} {readValue : List Char → Option (α × List Char)}
    {text : List Char} {result : α} (key : String) (takes : Takes readValue text result) :
    Takes (readMember readValue) (writeMember key text) (key, result) := by
  intro rest stops
  have read := readText_writeText key (':' :: (text ++ rest))
  have light : isBlank ':' = false := by decide
  simp only [writeMember, List.append_assoc, List.cons_append, readMember, read,
    Option.bind_eq_bind, Option.bind_some, skipBlank_cons _ light, takes rest stops]

/-- What begins like a number is read as a number. -/
theorem readValue_number {character : Char} (first : character = '-' ∨ character.isDigit = true)
    (depth : Nat) (rest : List Char) :
    readValue depth (character :: rest) = readNumber (character :: rest) := by
  have unlike {other : Char} (named : other ≠ '-') (text : other.isDigit = false) :
      character ≠ other := by
    rintro rfl
    rcases first with rfl | isDigit
    · exact named rfl
    · rw [text] at isDigit
      cases isDigit
  rw [readValue, skipBlank_cons _ (not_blank_of_number first)]
  split
  · rename_i same
    cases same
  iterate 6
    · rename_i same
      exact (unlike (by decide) (by decide) (List.cons.inj same).1).elim
  · rename_i same
    rw [same]

theorem takes_int (number : WideInt) (depth : Nat) :
    Takes (readValue depth) (writeInt number.val) (.int number) := by
  intro rest stops
  have read := readNumber_writeInt number rest stops
  rcases head_writeInt number.val with ⟨character, more, written, first⟩
  rw [written, List.cons_append] at read ⊢
  rw [readValue_number first, read]

theorem takes_text (text : String) (depth : Nat) :
    Takes (readValue depth) (writeText text) (.str text) := by
  intro rest stops
  have read := readText_writeText text rest
  rw [writeText, List.cons_append, List.cons_append] at read ⊢
  rw [readValue, skipBlank_cons _ (by decide)]
  simp only [read, Option.map_some]

theorem takes_array {texts : List (List Char)} {items : List Json} {depth : Nat}
    (each : List.Forall₂ (Takes (readValue depth)) texts items)
    (begins : ∀ text ∈ texts, Begins text) :
    Takes (readValue (depth + 1)) ('[' :: joined ']' texts) (.arr items) := by
  intro rest stops
  have read := readContainer_joined (.inl rfl) each begins rest
  rw [List.cons_append, readValue, skipBlank_cons _ (by decide)]
  simp only [read, Option.map_some]

theorem takes_object {texts : List (List Char)} {members : List (String × Json)} {depth : Nat}
    (each : List.Forall₂ (Takes (readMember (readValue depth))) texts members)
    (begins : ∀ text ∈ texts, Begins text) (sorted : Dict.Ordered members) :
    Takes (readValue (depth + 1)) ('\x7b' :: joined '\x7d' texts) (.obj members) := by
  intro rest stops
  have read := readContainer_joined (.inr rfl) each begins rest
  rw [List.cons_append, readValue, skipBlank_cons _ (by decide)]
  simp only [read, Option.map_some, object, Dict.entries_ofList sorted]

theorem begins_items {items : List Json} (plain : PlainItems items) :
    ∀ text ∈ items.map write, Begins text := by
  induction items with
  | nil => simp
  | cons item items induction =>
      rw [List.map_cons, List.forall_mem_cons]
      exact ⟨begins_write plain.1, induction plain.2⟩

theorem begins_members (members : List (String × Json)) :
    ∀ text ∈ members.map (fun member => writeMember member.1 member.2.write), Begins text := by
  intro text member
  rcases List.mem_map.mp member with ⟨found, -, rfl⟩
  exact begins_writeText found.1 _

mutual

theorem takes_write {value : Json} {depth : Nat} (plain : value.Plain)
    (shallow : value.depth ≤ depth) : Takes (readValue depth) value.write value := by
  cases value with
  | null =>
      intro rest stops
      simp [readValue, write, skipBlank, isBlank, readWord]
  | bool flag =>
      intro rest stops
      cases flag <;> simp [readValue, write, skipBlank, isBlank, readWord]
  | int number => exact takes_int number depth
  | float number => exact plain.elim
  | str text => exact takes_text text depth
  | arr items =>
      cases depth with
      | zero => cases shallow
      | succ depth =>
          rw [write, writeItems_eq]
          exact takes_array (takes_items plain (Nat.le_of_succ_le_succ shallow))
            (begins_items plain)
  | obj members =>
      cases depth with
      | zero => cases shallow
      | succ depth =>
          rw [write, writeMembers_eq]
          exact takes_object (takes_members plain.2 (Nat.le_of_succ_le_succ shallow))
            (begins_members members) plain.1

theorem takes_items {items : List Json} {depth : Nat} (plain : PlainItems items)
    (shallow : depthItems items ≤ depth) :
    List.Forall₂ (Takes (readValue depth)) (items.map write) items := by
  cases items with
  | nil => exact .nil
  | cons item items =>
      rw [depthItems, Nat.max_le] at shallow
      exact .cons (takes_write plain.1 shallow.1) (takes_items plain.2 shallow.2)

theorem takes_members {members : List (String × Json)} {depth : Nat}
    (plain : PlainMembers members) (shallow : depthMembers members ≤ depth) :
    List.Forall₂ (Takes (readMember (readValue depth)))
      (members.map fun member => writeMember member.1 member.2.write) members := by
  cases members with
  | nil => exact .nil
  | cons member members =>
      rcases member with ⟨key, value⟩
      rw [depthMembers, Nat.max_le] at shallow
      exact .cons (takes_member key (takes_write plain.1 shallow.1))
        (takes_members plain.2 shallow.2)

end

/-! ## Whole texts -/

theorem complete_of_takes {α : Type} {read : List Char → Option (α × List Char)}
    {text : List Char} {result : α} (takes : Takes read text result) :
    complete (read text) = some result := by
  have all := takes [] stops_nil
  rw [List.append_nil] at all
  rw [all]
  rfl

/-- The text of a plain value that is not nested too deep denotes the value. -/
theorem ofBytes?_toBytes {value : Json} (plain : value.Plain)
    (shallow : value.depth ≤ depthLimit) : ofBytes? value.toBytes = some value := by
  have read := complete_of_takes (takes_write plain shallow)
  simp only [ofBytes?, toBytes, Utf8.decode?_encode, render, parse?, parseWithin?,
    String.toList_ofList, read, Option.bind_eq_bind, Option.bind_some]

theorem takes_texts (entries : List (String × String)) :
    List.Forall₂ (Takes (readMember readText))
      (entries.map fun entry => writeMember entry.1 (writeText entry.2)) entries := by
  induction entries with
  | nil => exact .nil
  | cons entry entries induction =>
      exact .cons (takes_member entry.1 fun rest _ => readText_writeText entry.2 rest) induction

/-- The text of an object of strings denotes the map of its members. -/
theorem textsOfBytes?_toBytes (entries : List (String × String)) :
    textsOfBytes? (ofEntries entries).toBytes = some (Dict.ofList entries) := by
  have begins : ∀ text ∈ entries.map fun entry =>
      writeMember entry.1 (writeText entry.2), Begins text := by
    intro text member
    rcases List.mem_map.mp member with ⟨entry, -, rfl⟩
    exact begins_writeText entry.1 _
  have read := readContainer_joined (.inr rfl) (takes_texts entries) begins []
  rw [List.append_nil] at read
  have written : (ofEntries entries).write = '\x7b' :: joined '\x7d' (entries.map fun entry =>
      writeMember entry.1 (writeText entry.2)) := by
    rw [ofEntries, write, writeMembers_eq, List.map_map]
    rfl
  have light : isBlank '\x7b' = false := by decide
  simp only [textsOfBytes?, toBytes, Utf8.decode?_encode, render, String.toList_ofList, written,
    parseTexts?, skipBlank_cons _ light, read, complete, Option.bind_eq_bind, Option.bind_some]
  rfl

/-- The text of a map of texts denotes the map, whatever the order of the members. -/
theorem textsOfBytes?_of_perm {texts : Dict String} {entries : List (String × String)}
    (perm : entries.Perm texts.entries) :
    textsOfBytes? (ofEntries entries).toBytes = some texts := by
  rw [textsOfBytes?_toBytes, Dict.ofList_of_perm perm]

end ServiceMesh.Json
