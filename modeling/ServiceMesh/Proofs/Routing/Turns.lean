import Mathlib.Data.Int.CardIntervalMod
import ServiceMesh.Proofs.Dict
import ServiceMesh.Routing

/-!
# Taking turns

A round-robin router counts the choices that it makes for each qualifier, and its choices for one
qualifier go around the candidates: the counter of the qualifier says how far (`choicesOf_choices`).
Choices for other qualifiers, and those without a candidate, leave this counter as it is.  So a
stretch of choices for one qualifier from the same candidates takes places that follow each other
(`places`), and each place has its share of them, wherever the stretch starts (`evenly_places`).
-/

namespace ServiceMesh.Router

/-! ## Places in turn -/

/-- The places of some turns, counted from a first one, around a number of candidates. -/
def places (size first count : Nat) : List Nat :=
  (List.range count).map fun turn => (first + turn) % size

/-- Of a number of candidates each has its share of some places, and none has to wait for more than
as many turns as there are candidates. -/
structure Evenly (size : Nat) (places : List Nat) : Prop where
  /-- Each place is taken as often as the others, or once more. -/
  share : ∀ place < size, places.count place = places.length / size ∨
    places.count place = (places.length + size - 1) / size
  /-- Among as many consecutive places as there are candidates is each. -/
  recurs : ∀ place < size, ∀ start, start + size ≤ places.length →
    place ∈ (places.drop start).take size

section

variable {size first count : Nat}

@[simp]
theorem length_places : (places size first count).length = count := by
  simp [places]

/-- A stretch of places in turn is places in turn. -/
theorem take_drop_places {start length : Nat} (within : start + length ≤ count) :
    ((places size first count).drop start).take length = places size (first + start) length := by
  apply List.ext_getElem
  · simp
    omega
  · intro index _ _
    simp [places, Nat.add_assoc]

/-- The turns that fall on a place are those that are as far from the first one as the place is. -/
theorem mod_eq_iff_modEq {place turn : Nat} (below : place < size) :
    (first + turn) % size = place ↔ turn ≡ place + (size - first % size) [MOD size] := by
  have least : first % size < size := Nat.mod_lt _ (Nat.zero_lt_of_lt below)
  have back : place + (size - first % size) + first ≡ place [MOD size] :=
    calc place + (size - first % size) + first
        ≡ place + (size - first % size) + first % size [MOD size] :=
          (Nat.mod_modEq first size).symm.add_left _
      _ = place + size := by omega
      _ ≡ place [MOD size] := Nat.add_mod_right place size
  have same : (first + turn) % size = place ↔ turn + first ≡ place [MOD size] := by
    rw [Nat.ModEq, Nat.mod_eq_of_lt below, Nat.add_comm]
  rw [same]
  exact ⟨fun meets => (meets.trans back.symm).add_right_cancel' first,
    fun meets => (meets.add_right first).trans back⟩

theorem count_places {place : Nat} (below : place < size) :
    (places size first count).count place =
      count / size + if (place + (size - first % size)) % size < count % size then 1 else 0 := by
  rw [places, List.count, List.countP_map]
  rw [← Nat.count_modEq_card _ (Nat.zero_lt_of_lt below), Nat.count]
  refine List.countP_congr fun turn _ => ?_
  simp [mod_eq_iff_modEq below]

theorem ceil_div_of_mod_pos (below : 0 < size) (rest : 0 < count % size) :
    (count + size - 1) / size = count / size + 1 := by
  have parts := Nat.div_add_mod' count size
  have less := Nat.mod_lt count below
  apply Nat.div_eq_of_lt_le
  · rw [Nat.add_mul]
    omega
  · rw [Nat.add_mul, Nat.add_mul]
    omega

/-- Places in turn are shared evenly, wherever they start. -/
theorem evenly_places (size first count : Nat) : Evenly size (places size first count) := by
  constructor
  · intro place below
    rw [count_places below, length_places]
    split
    · next less =>
        have rest : 0 < count % size := Nat.zero_lt_of_lt less
        exact .inr (ceil_div_of_mod_pos (Nat.zero_lt_of_lt below) rest).symm
    · exact .inl rfl
  · intro place below start within
    rw [length_places] at within
    rw [take_drop_places within, ← List.count_pos_iff, count_places below,
      Nat.div_self (Nat.zero_lt_of_lt below)]
    exact Nat.lt_add_right _ Nat.one_pos

end

/-! ## Choices -/

/-- A message for which one of some candidates is to be chosen. -/
structure Query where
  /-- The message. -/
  message : Message
  /-- The candidates at this time. -/
  candidates : List Reference

/-- The choices that a router makes one after the other. -/
def choices (router : Router) : List Query → List (Option Reference)
  | [] => []
  | query :: queries =>
    let (choice, later) := router.select query.message query.candidates
    choice :: later.choices queries

/-- A query is one for a qualifier and has candidates. -/
def Query.about (qualifier : String) (query : Query) : Bool :=
  query.message.qualifier = qualifier && !query.candidates.isEmpty

/-- The choices that were made for a qualifier where there were candidates. -/
def choicesOf (qualifier : String) (queries : List Query) (choices : List (Option Reference)) :
    List (Option Reference) :=
  ((queries.zip choices).filter fun entry => entry.1.about qualifier).map Prod.snd

/-- Each query about a qualifier with its number among these, from a number on, chooses the
candidate at this number, counted around its candidates. -/
def inTurn (qualifier : String) (first : Nat) (queries : List Query) : List (Option Reference) :=
  ((queries.filter (Query.about qualifier)).zipIdx first).map fun entry =>
    entry.1.candidates[entry.2 % entry.1.candidates.length]?

variable {counters : Dict UInt64} {query : Query} {qualifier : String}

theorem select_of_empty (empty : query.candidates = []) :
    (roundRobin counters).select query.message query.candidates =
      (none, roundRobin counters) := by
  rw [select, selectBy, takeTurn, empty]
  rfl

theorem select_of_candidates (filled : query.candidates ≠ []) :
    (roundRobin counters).select query.message query.candidates =
      (query.candidates[(count counters query.message.qualifier).toNat %
          query.candidates.length]?,
        roundRobin (counters.insert query.message.qualifier
          (count counters query.message.qualifier + 1))) := by
  rw [select, selectBy, takeTurn, if_neg (by simpa using filled)]

theorem count_insert (qualifier other : String) (value : UInt64) :
    count (counters.insert qualifier value) other =
      if other = qualifier then value else count counters other := by
  rw [count, count, Dict.get?_insert]
  split <;> rfl

/-- A choice takes the candidate where the counter of the qualifier stands, counted around the
candidates, and moves this counter by one if there is a candidate. -/
theorem exists_select_roundRobin (counters : Dict UInt64) (query : Query) :
    ∃ after : Dict UInt64,
      (roundRobin counters).select query.message query.candidates =
        (query.candidates[(count counters query.message.qualifier).toNat %
          query.candidates.length]?, roundRobin after) ∧
        ∀ qualifier, (count after qualifier).toNat =
          ((count counters qualifier).toNat + if query.about qualifier then 1 else 0) % 2 ^ 64 := by
  have kept : ∀ word : UInt64, word.toNat = (word.toNat + 0) % 2 ^ 64 := fun word =>
    (Nat.mod_eq_of_lt word.toNat_lt).symm
  by_cases empty : query.candidates = []
  · refine ⟨counters, ?_, fun qualifier => ?_⟩
    · rw [select_of_empty empty, empty, List.getElem?_nil]
    · have other : query.about qualifier = false := by simp [Query.about, empty]
      rw [other]
      exact kept _
  · refine ⟨_, select_of_candidates empty, fun qualifier => ?_⟩
    rw [count_insert]
    by_cases own : qualifier = query.message.qualifier
    · have about : query.about qualifier = true := by simp [Query.about, empty, own]
      rw [if_pos own, about, if_pos rfl, own, UInt64.toNat_add, UInt64.toNat_one]
    · have other : query.about qualifier = false := by simp [Query.about, Ne.symm own]
      rw [if_neg own, other]
      exact kept _

section

variable {queries : List Query} {choice : Option Reference} {choices : List (Option Reference)}
  {first : Nat}

theorem choicesOf_cons (query : Query) :
    choicesOf qualifier (query :: queries) (choice :: choices) =
      if query.about qualifier then choice :: choicesOf qualifier queries choices
      else choicesOf qualifier queries choices := by
  rw [choicesOf, List.zip_cons_cons, List.filter_cons]
  split <;> rfl

theorem inTurn_cons (query : Query) :
    inTurn qualifier first (query :: queries) =
      if query.about qualifier then
        query.candidates[first % query.candidates.length]? ::
          inTurn qualifier (first + 1) queries
      else inTurn qualifier first queries := by
  rw [inTurn, List.filter_cons]
  split <;> rfl

end

theorem choices_cons (router : Router) (query : Query) (queries : List Query) :
    router.choices (query :: queries) =
      (router.select query.message query.candidates).1 ::
        (router.select query.message query.candidates).2.choices queries :=
  rfl

/-- The choices for a qualifier go around the candidates from where the counter of this qualifier
stands, as long as the counter does not come round. -/
theorem choicesOf_choices {queries : List Query}
    (small : (count counters qualifier).toNat + queries.length < 2 ^ 64) :
    choicesOf qualifier queries ((roundRobin counters).choices queries) =
      inTurn qualifier (count counters qualifier).toNat queries := by
  induction queries generalizing counters with
  | nil => rfl
  | cons query queries induction =>
      rw [List.length_cons] at small
      rw [choices_cons, choicesOf_cons, inTurn_cons]
      by_cases empty : query.candidates = []
      · have other : query.about qualifier = false := by simp [Query.about, empty]
        rw [select_of_empty empty, other]
        exact induction (by omega)
      rw [select_of_candidates empty]
      by_cases own : query.message.qualifier = qualifier
      · have about : query.about qualifier = true := by simp [Query.about, empty, own]
        -- The counter goes up by one, and does not come round.
        have next : (count (counters.insert qualifier (count counters qualifier + 1))
            qualifier).toNat = (count counters qualifier).toNat + 1 := by
          rw [count_insert, if_pos rfl, UInt64.toNat_add, UInt64.toNat_one]
          exact Nat.mod_eq_of_lt (by omega)
        rw [about, if_pos rfl, if_pos rfl, own]
        rw [induction (by omega), next]
      · have other : query.about qualifier = false := by simp [Query.about, own]
        have kept : count (counters.insert query.message.qualifier
            (count counters query.message.qualifier + 1)) qualifier = count counters qualifier := by
          rw [count_insert, if_neg (Ne.symm own)]
        rw [other, ← kept]
        exact induction (by rw [kept]; omega)

/-! ## Main result -/

/-- The choices of a router go around the candidates of each qualifier. -/
structure TakesTurns (queries : List Query) (choices : List (Option Reference)) : Prop where
  /-- Every query has its choice. -/
  answered : choices.length = queries.length
  /-- Without candidates nothing is chosen. -/
  declined : ∀ (place : Nat) (query : Query), queries[place]? = some query → query.candidates = [] →
    choices[place]? = some none
  /-- Where there are candidates one of them is chosen. -/
  chosen : ∀ (place : Nat) (query : Query), queries[place]? = some query → query.candidates ≠ [] →
    ∃ reference ∈ query.candidates, choices[place]? = some (some reference)
  /-- For each qualifier the choices take the candidates in turn, whatever else was asked. -/
  turns : ∀ qualifier, choicesOf qualifier queries choices = inTurn qualifier 0 queries
  /-- Consecutive choices for a qualifier from the same candidates take places that follow each
  other, each its share of them. -/
  shares : ∀ (qualifier : String) (candidates : List Reference) (first count : Nat),
    first + count ≤ (queries.filter (Query.about qualifier)).length →
      (∀ query ∈ ((queries.filter (Query.about qualifier)).drop first).take count,
        query.candidates = candidates) →
      ((choicesOf qualifier queries choices).drop first).take count =
          (places candidates.length first count).map (candidates[·]?) ∧
        Evenly candidates.length (places candidates.length first count)

theorem length_choices (router : Router) (queries : List Query) :
    (router.choices queries).length = queries.length := by
  induction queries generalizing router with
  | nil => rfl
  | cons query queries induction => exact congrArg (· + 1) (induction _)

/-- Whatever the counters are, a choice is one of the candidates if there are any. -/
theorem getElem?_choices {queries : List Query} {place : Nat} {query : Query}
    (placed : queries[place]? = some query) (counters : Dict UInt64) :
    ∃ earlier : Dict UInt64, ((roundRobin counters).choices queries)[place]? =
      some ((roundRobin earlier).select query.message query.candidates).1 := by
  induction queries generalizing place counters with
  | nil => cases placed
  | cons first queries induction =>
      rw [choices_cons]
      cases place with
      | zero =>
          cases placed
          exact ⟨counters, rfl⟩
      | succ place => exact induction placed _

theorem length_inTurn (qualifier : String) (first : Nat) (queries : List Query) :
    (inTurn qualifier first queries).length =
      (queries.filter (Query.about qualifier)).length := by
  rw [inTurn, List.length_map, List.length_zipIdx]

/-- A stretch of choices from the same candidates. -/
theorem take_drop_inTurn {queries : List Query} {qualifier : String}
    {candidates : List Reference} {first count : Nat}
    (within : first + count ≤ (queries.filter (Query.about qualifier)).length)
    (same : ∀ query ∈ ((queries.filter (Query.about qualifier)).drop first).take count,
      query.candidates = candidates) :
    ((inTurn qualifier 0 queries).drop first).take count =
      (places candidates.length first count).map (candidates[·]?) := by
  apply List.ext_getElem
  · rw [List.length_take, List.length_drop, length_inTurn, List.length_map, length_places]
    omega
  · intro turn _ listed
    have below : turn < count := by simpa using listed
    have placed : first + turn < (queries.filter (Query.about qualifier)).length := by omega
    have candidates_eq : (queries.filter (Query.about qualifier))[first + turn].candidates =
        candidates :=
      same _ (List.mem_take_iff_getElem.mpr ⟨turn, by simp; omega, by simp⟩)
    simp [inTurn, places, candidates_eq]

/-- A fresh round-robin router takes turns, as long as its counters do not come round. -/
theorem standard_takes_turns {queries : List Query} (few : queries.length < 2 ^ 64) :
    TakesTurns queries (standard.choices queries) := by
  have turns : ∀ qualifier, choicesOf qualifier queries (standard.choices queries) =
      inTurn qualifier 0 queries := by
    intro qualifier
    have small : (count Dict.empty qualifier).toNat + queries.length < 2 ^ 64 := by
      simpa [count] using few
    exact choicesOf_choices small
  constructor
  case answered => exact length_choices _ _
  case declined =>
    intro place query placed empty
    rcases getElem?_choices placed Dict.empty with ⟨counters, chosen⟩
    rw [standard, chosen, select_of_empty empty]
  case chosen =>
    intro place query placed filled
    rcases getElem?_choices placed Dict.empty with ⟨counters, chosen⟩
    rw [standard, chosen, select_of_candidates filled]
    have below := Nat.mod_lt (count counters query.message.qualifier).toNat
      (List.length_pos_iff.mpr filled)
    exact ⟨_, List.getElem_mem below, congrArg some (List.getElem?_eq_getElem below)⟩
  case turns => exact turns
  case shares =>
    intro qualifier candidates first count within same
    rw [turns]
    exact ⟨take_drop_inTurn within same, evenly_places _ _ _⟩

/-- Queries about two qualifiers, one of them without candidates, and one with fewer than before. -/
def changingQueries : List Query :=
  let member (id : String) : Reference :=
    ⟨id, ⟨"127.0.0.1", 4801⟩, "shop", "find", .requestResponse, Dict.empty⟩
  let query (qualifier : String) (ids : List String) : Query :=
    ⟨.carrying qualifier .empty, ids.map member⟩
  [query "shop/find" ["a", "b", "c"], query "shop/list" ["a", "b"], query "shop/find" [],
    query "shop/find" ["a", "b", "c"], query "shop/find" ["a", "b"], query "shop/find" ["a", "b"]]

/-- Neither the other qualifier nor the missing candidates move the turn. -/
theorem changingQueries_take_turns :
    changingQueries.length < 2 ^ 64 ∧
      TakesTurns changingQueries (standard.choices changingQueries) ∧
      (standard.choices changingQueries).map (Option.map Reference.endpointId) =
        [some "a", some "a", none, some "b", some "a", some "b"] :=
  ⟨by decide, standard_takes_turns (by decide), by rfl⟩

end ServiceMesh.Router
