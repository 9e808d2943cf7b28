import Mathlib.Data.List.DropRight
import ServiceMesh.Address

/-!
# Addresses in text

A host has a name in text if something is left of it without the brackets around it, and nothing has
to be taken off (`Address.Nameable`).  The text of an address is read as the same port and the host
without its brackets, whether or not it stands in brackets for a colon of its own
(`Address.parse_render`).  So just the addresses of nameable hosts are restored by their texts, and
what was read from any text has such a host (`Address.texts_restore_addresses`).
-/

namespace ServiceMesh

/-! ## Ports -/

namespace Text

/-- The value read so far together with further digits. -/
def digitsFrom (value : Nat) (digits : List Char) : Nat :=
  digits.foldl (fun number digit => 10 * number + Decimal.digitValue digit) value

theorem le_digitsFrom (value : Nat) (digits : List Char) : value ≤ digitsFrom value digits := by
  induction digits generalizing value with
  | nil => exact Nat.le_refl _
  | cons digit digits induction =>
      have further := induction (10 * value + Decimal.digitValue digit)
      rw [digitsFrom, List.foldl_cons, ← digitsFrom]
      omega

/-- Digits are read if what they write is within the limit. -/
theorem readDigits_of_le {limit value : Nat} {digits : List Char}
    (all : ∀ digit ∈ digits, digit.isDigit = true) (within : digitsFrom value digits ≤ limit) :
    readDigits limit value digits = .ok (digitsFrom value digits) := by
  induction digits generalizing value with
  | nil => rfl
  | cons digit digits induction =>
      rw [List.forall_mem_cons] at all
      rw [digitsFrom, List.foldl_cons, ← digitsFrom] at within ⊢
      have soFar := (le_digitsFrom _ digits).trans within
      rw [readDigits, if_pos all.1]
      simp only [if_neg (Nat.not_lt.mpr soFar), induction all.2 within]

theorem digitsFrom_toDigits (number : Nat) : digitsFrom 0 (Nat.toDigits 10 number) = number := by
  have value : Nat.ofDigitChars 10 (Nat.toDigits 10 number) 0 = number :=
    Nat.ofDigitChars_ten_toDigits
  rwa [Nat.ofDigitChars_eq_foldl] at value

/-- A number within the limit is read from its digits. -/
theorem readUnsigned_toDigits {limit number : Nat} (within : number ≤ limit) :
    readUnsigned limit (String.ofList (Nat.toDigits 10 number)) = .ok number := by
  have all : ∀ digit ∈ Nat.toDigits 10 number, digit.isDigit = true :=
    fun _ member => Nat.isDigit_of_mem_toDigits (by decide) (by decide) member
  have read : readDigits limit 0 (Nat.toDigits 10 number) = .ok number := by
    have value := digitsFrom_toDigits number
    have taken := readDigits_of_le all (value.symm ▸ within)
    rwa [value] at taken
  cases written : Nat.toDigits 10 number with
  | nil => exact (Nat.toDigits_ne_nil written).elim
  | cons digit digits =>
      rw [written] at all read
      have unsigned : digit ≠ '+' := by
        rintro rfl
        exact absurd (all '+' List.mem_cons_self) (by decide)
      rw [readUnsigned, String.toList_ofList]
      split
      · contradiction
      · rename_i same
        exact (unsigned (List.cons.inj same).1).elim
      · rename_i same
        exact (unsigned (List.cons.inj same).1).elim
      · exact read

end Text

namespace Address

/-! ## Hosts -/

/-- The brackets around a host are those in front and those at the end. -/
theorem stripBrackets_eq (host : List Char) :
    stripBrackets host = (host.dropWhile (· = '[')).rdropWhile (· = ']') := rfl

/-- Another pair of brackets around a host is stripped as well. -/
theorem stripBrackets_bracketed (host : List Char) :
    stripBrackets ('[' :: (host ++ [']'])) = stripBrackets host := by
  have front : ('[' :: (host ++ [']'])).dropWhile (· = '[') =
      host.dropWhile (· = '[') ++ [']'] := by
    rw [List.dropWhile_cons_of_pos (by decide), List.dropWhile_append]
    split
    · rename_i none_
      rw [List.isEmpty_iff.mp none_]
      rfl
    · rfl
  rw [stripBrackets_eq, front, List.rdropWhile_concat_pos _ _ _ (by decide), stripBrackets_eq]

/-- A host without a bracket in front or at the end. -/
def Bare (host : List Char) : Prop := host.head? ≠ some '[' ∧ host.getLast? ≠ some ']'

/-- What is left of a host has no bracket around it. -/
theorem bare_stripBrackets (host : List Char) : Bare (stripBrackets host) := by
  rw [stripBrackets_eq]
  constructor
  · intro first
    have front := List.rdropWhile_prefix (· = ']') (host.dropWhile (· = '['))
    have dropped := List.head?_dropWhile_not (· = '[') host
    rcases front with ⟨closing, whole⟩
    rw [← whole, List.head?_append, first] at dropped
    simp at dropped
  · intro last
    have some_ : (host.dropWhile (· = '[')).rdropWhile (· = ']') ≠ [] := by
      rintro none_
      simp [none_] at last
    rw [List.getLast?_eq_some_getLast some_, Option.some.injEq] at last
    exact List.rdropWhile_last_not (· = ']') _ some_ (by rw [last]; rfl)

/-- Nothing is stripped just if there is no bracket around the host. -/
theorem stripBrackets_eq_self_iff {host : List Char} :
    stripBrackets host = host ↔ Bare host := by
  constructor
  · intro same
    rw [← same]
    exact bare_stripBrackets host
  · rintro ⟨first, last⟩
    have front : host.dropWhile (· = '[') = host := by
      cases host with
      | nil => rfl
      | cons character rest =>
          exact List.dropWhile_cons_of_neg (by simpa using first)
    rw [stripBrackets_eq, front, List.rdropWhile_eq_self_iff]
    intro some_ closing
    rw [decide_eq_true_eq] at closing
    exact last (by rw [List.getLast?_eq_some_getLast some_, closing])

/-! ## Texts -/

/-- A host that text can name. -/
def Nameable (host : String) : Prop := host ≠ "" ∧ Bare host.toList

/-- A host as it stands in text. -/
def shownHost (host : List Char) : List Char :=
  if ':' ∈ host then '[' :: (host ++ [']']) else host

theorem stripBrackets_shownHost (host : List Char) :
    stripBrackets (shownHost host) = stripBrackets host := by
  rw [shownHost]
  split
  · exact stripBrackets_bracketed host
  · rfl

theorem toList_render (address : Address) :
    address.render.toList =
      shownHost address.host.toList ++ ':' :: Nat.toDigits 10 address.port.toNat := by
  rw [render, shownHost]
  by_cases colon : ':' ∈ address.host.toList
  · rw [if_pos (List.contains_iff_mem.mpr colon), if_pos colon]
    change ("[" ++ address.host ++ "]:" ++ toString address.port.toNat).toList = _
    simp
  · rw [if_neg (by simpa using colon), if_neg colon]
    change (address.host ++ ":" ++ toString address.port.toNat).toList = _
    simp

/-- The text of an address is split before its port. -/
theorem splitLast?_render (address : Address) :
    Text.splitLast? ':' address.render.toList =
      some (shownHost address.host.toList, Nat.toDigits 10 address.port.toNat) := by
  rw [Text.splitLast?_eq_some_iff]
  refine ⟨toList_render address, fun colon => ?_⟩
  exact absurd (Nat.isDigit_of_mem_toDigits (by decide) (by decide) colon) (by decide)

/-- The text of an address is read as its port and its host without the brackets around it. -/
theorem parse_render (address : Address) :
    parse address.render =
      if stripBrackets address.host.toList = [] then
        .error (.badRequest s!"Invalid address '{address.render}': missing host")
      else .ok ⟨String.ofList (stripBrackets address.host.toList), address.port⟩ := by
  have small : address.port.toNat ≤ 0xFFFF := Nat.le_of_lt_succ address.port.toNat_lt
  simp only [parse, splitLast?_render, Text.readUnsigned_toDigits small, stripBrackets_shownHost,
    UInt16.ofNat_toNat, List.isEmpty_iff]

/-- The text of an address restores it just if text can name the host. -/
theorem parse_render_iff {address : Address} :
    parse address.render = .ok address ↔ Nameable address.host := by
  rcases address with ⟨host, port⟩
  rw [parse_render, Nameable, ← stripBrackets_eq_self_iff, ne_eq, ← String.toList_eq_nil_iff]
  dsimp only
  constructor
  · intro restored
    split at restored
    · cases restored
    · rename_i some_
      simp only [Except.ok.injEq, mk.injEq, and_true] at restored
      have same : stripBrackets host.toList = host.toList := by
        simpa using congrArg String.toList restored
      exact ⟨same ▸ some_, same⟩
  · rintro ⟨some_, same⟩
    rw [same, if_neg some_, String.ofList_toList]

/-- What was read from a text has a host that text can name. -/
theorem nameable_of_parse {text : String} {address : Address} (read : parse text = .ok address) :
    Nameable address.host := by
  simp only [parse] at read
  split at read
  · cases read
  · split at read
    · cases read
    · split at read
      · cases read
      · rename_i before _ _ _ _ _ some_
        rw [← Except.ok.inj read, Nameable, String.toList_ofList, ne_eq,
          ← String.toList_eq_nil_iff, String.toList_ofList, ← List.isEmpty_iff]
        exact ⟨some_, bare_stripBrackets before⟩

/-! ## Main result -/

/-- The text of an address restores it just if the host is not empty, does not start with an opening
bracket and does not end with a closing one; such a host is shown in brackets just if it has a
colon.  What was read from any text is restored by its own text. -/
theorem texts_restore_addresses (address : Address) (text : String) :
    (parse address.render = .ok address ↔
        address.host ≠ "" ∧ address.host.toList.head? ≠ some '[' ∧
          address.host.toList.getLast? ≠ some ']') ∧
      address.render.toList =
        (if ':' ∈ address.host.toList then '[' :: (address.host.toList ++ [']'])
          else address.host.toList) ++ ':' :: Nat.toDigits 10 address.port.toNat ∧
      ∀ found, parse text = .ok found → parse found.render = .ok found :=
  ⟨parse_render_iff, toList_render address,
    fun _ read => parse_render_iff.mpr (nameable_of_parse read)⟩

theorem bracketed_restored :
    parse "[[fe80::1]]:+080" = .ok ⟨"fe80::1", 80⟩ ∧
      parse (Address.mk "fe80::1" 80).render = .ok ⟨"fe80::1", 80⟩ := by
  have read : parse "[[fe80::1]]:+080" = .ok ⟨"fe80::1", 80⟩ := by decide +kernel
  exact ⟨read, (texts_restore_addresses default "[[fe80::1]]:+080").2.2 _ read⟩

/-- A bracket inside a host stays where it is, and one at its end is lost. -/
example : parse (Address.mk "a]b" 1).render = .ok ⟨"a]b", 1⟩ ∧
    parse (Address.mk "ab]" 1).render = .ok ⟨"ab", 1⟩ := by decide +kernel

end Address

end ServiceMesh
