import ServiceMesh.Proofs.Routing.Tags

/-!
# Turns of tagged requests

Requests for one qualifier that require the same tags are of one kind, and all of them choose from the
same candidates.  A router by tags around a fresh round-robin router counts the requests for a
qualifier that find a candidate, of whatever kinds they are (`getElem?_routed`).  So the kinds of a
qualifier take their turns from one counter: as many requests of a kind as it has candidates choose
each of them just if their numbers are different modulo that many (`kinds_share_turns`), which requests
of other kinds in between may prevent (`alternatingKinds_unbalanced`).
-/

namespace ServiceMesh.Router

/-- What requests choose from: those for one qualifier that require the same tags. -/
structure Kind where
  /-- The qualifier. -/
  qualifier : String
  /-- The required tags. -/
  required : Dict String
  deriving DecidableEq

/-- The kind of a request to a router with some tags. -/
def kindOf (tags : Dict String) (message : Message) : Kind :=
  ⟨message.qualifier, requiredTags tags message⟩

/-- The references that requests of a kind choose from. -/
def Kind.candidates (registry : Registry) (kind : Kind) : List Reference :=
  (registry.lookup kind.qualifier).filter (hasTags kind.required)

/-- The choices of a router for requests that come one after the other. -/
def routed (router : Router) (registry : Registry) : List Message → List (Option Reference)
  | [] => []
  | message :: messages =>
    let (choice, later) := router.route registry message
    choice :: later.routed registry messages

section

variable (tags : Dict String) (registry : Registry)

/-- A request is one for a qualifier and finds a candidate. -/
def served (qualifier : String) (message : Message) : Bool :=
  message.qualifier = qualifier && !((kindOf tags message).candidates registry).isEmpty

/-- The number of a request: how many earlier ones for its qualifier found a candidate. -/
def number (messages : List Message) (qualifier : String) (place : Nat) : Nat :=
  messages.countPBefore (served tags registry qualifier) place

/-- The turn of a request among some candidates.  The counter is a word of 64 bits. -/
def turn (messages : List Message) (kind : Kind) (place : Nat) : Nat :=
  number tags registry messages kind.qualifier place % 2 ^ 64 %
    (kind.candidates registry).length

/-- The places of the requests of a kind. -/
def placesOf (messages : List Message) (kind : Kind) : List Nat :=
  messages.findIdxs fun message => kindOf tags message = kind

end

/-- Requests at some places choose each of some candidates once. -/
def EachOnce (choices : List (Option Reference)) (requests : List Nat)
    (candidates : List Reference) : Prop :=
  (requests.map fun place => choices[place]?.join).Perm (candidates.map some)

instance (choices : List (Option Reference)) (requests : List Nat) (candidates : List Reference) :
    Decidable (EachOnce choices requests candidates) :=
  inferInstanceAs (Decidable (List.Perm _ _))

/-- As many consecutive requests of a kind as it has candidates choose each of them once, whatever
other requests come in between. -/
def Balanced (tags : Dict String) (registry : Registry) (messages : List Message)
    (choices : List (Option Reference)) : Prop :=
  ∀ (kind : Kind) (start : Nat), kind.candidates registry ≠ [] →
    start + (kind.candidates registry).length ≤ (placesOf tags messages kind).length →
      EachOnce choices
        (((placesOf tags messages kind).drop start).take (kind.candidates registry).length)
        (kind.candidates registry)

/-! ## The number of a request -/

variable {tags : Dict String} {registry : Registry} {messages : List Message}
  {counters : Dict UInt64} {message : Message}

theorem length_routed (router : Router) (registry : Registry) (messages : List Message) :
    (router.routed registry messages).length = messages.length := by
  induction messages generalizing router with
  | nil => rfl
  | cons message messages induction => exact congrArg (· + 1) (induction _)

/-- A request moves the counter of its qualifier by one if it finds a candidate, and no other. -/
theorem exists_route_tagged (tags : Dict String) (counters : Dict UInt64) (registry : Registry)
    (message : Message) :
    ∃ after : Dict UInt64,
      (tagged tags (roundRobin counters)).route registry message =
        (((kindOf tags message).candidates registry)[(count counters message.qualifier).toNat %
            ((kindOf tags message).candidates registry).length]?,
          tagged tags (roundRobin after)) ∧
        ∀ qualifier, (count after qualifier).toNat =
          ((count counters qualifier).toNat +
            if served tags registry qualifier message then 1 else 0) % 2 ^ 64 := by
  rcases exists_select_roundRobin counters
      ⟨message, (kindOf tags message).candidates registry⟩ with ⟨after, chosen, counted⟩
  refine ⟨after, ?_, counted⟩
  exact congrArg (fun step => (step.1, tagged tags step.2)) chosen

/-- A request chooses by its number, counted on from where the counter of its qualifier stands. -/
theorem getElem?_routed {place : Nat} (placed : messages[place]? = some message) :
    ((tagged tags (roundRobin counters)).routed registry messages)[place]? =
      some ((kindOf tags message).candidates registry)[((count counters message.qualifier).toNat +
          number tags registry messages message.qualifier place) % 2 ^ 64 %
            ((kindOf tags message).candidates registry).length]? := by
  induction messages generalizing counters place with
  | nil => cases placed
  | cons first messages induction =>
      rcases exists_route_tagged tags counters registry first with ⟨after, step, counted⟩
      rw [routed, step]
      cases place with
      | zero =>
          cases placed
          rw [List.getElem?_cons_zero, number, List.countPBefore_zero, Nat.add_zero,
            Nat.mod_eq_of_lt (UInt64.toNat_lt _)]
      | succ place =>
          have shifted : number tags registry (first :: messages) message.qualifier (place + 1) =
              (if served tags registry message.qualifier first then 1 else 0) +
                number tags registry messages message.qualifier place := by
            rw [number, number, List.countPBefore_cons_succ]
            split <;> omega
          rw [List.getElem?_cons_succ, induction placed, counted, shifted, Nat.mod_add_mod,
            Nat.add_assoc]

/-! ## Turns of one kind -/

variable {kind : Kind} {requests : List Nat}

theorem range_map_getElem? {α : Type} (things : List α) :
    (List.range things.length).map (things[·]?) = things.map some := by
  apply List.ext_getElem
  · simp
  · intro place _ _
    simp

/-- As many places as there are, each below that number, are all of them just if no two are the
same. -/
theorem perm_range_iff {turns : List Nat} (below : ∀ turn ∈ turns, turn < turns.length) :
    turns.Perm (List.range turns.length) ↔ turns.Nodup := by
  constructor
  · intro all
    exact all.nodup_iff.mpr List.nodup_range
  · intro apart
    have among : turns ⊆ List.range turns.length := fun turn member =>
      List.mem_range.mpr (below turn member)
    exact (apart.subperm among).perm_of_length_le (by simp)

/-- Requests of a kind choose the candidates at their turns. -/
theorem map_routed
    (ofKind : ∀ place ∈ requests, ∃ message, messages[place]? = some message ∧
      kindOf tags message = kind) :
    (requests.map fun place => ((tagged tags standard).routed registry messages)[place]?.join) =
      (requests.map (turn tags registry messages kind)).map ((kind.candidates registry)[·]?) := by
  rw [List.map_map]
  refine List.map_congr_left fun place member => ?_
  rcases ofKind place member with ⟨message, placed, rfl⟩
  have fresh : (count Dict.empty message.qualifier).toNat = 0 := rfl
  rw [standard, getElem?_routed placed, fresh, Nat.zero_add]
  rfl

theorem turn_lt (filled : kind.candidates registry ≠ []) (place : Nat) :
    turn tags registry messages kind place < (kind.candidates registry).length :=
  Nat.mod_lt _ (List.length_pos_iff.mpr filled)

/-- Requests at different turns, as many as there are candidates, choose each of them once. -/
theorem eachOnce_of_nodup
    (ofKind : ∀ place ∈ requests, ∃ message, messages[place]? = some message ∧
      kindOf tags message = kind)
    (enough : requests.length = (kind.candidates registry).length)
    (apart : (requests.map (turn tags registry messages kind)).Nodup) :
    EachOnce ((tagged tags standard).routed registry messages) requests
      (kind.candidates registry) := by
  rw [EachOnce, map_routed ofKind, ← range_map_getElem?, ← enough]
  rw [← List.length_map (turn tags registry messages kind)]
  refine List.Perm.map _ ((perm_range_iff ?_).mpr apart)
  rw [List.length_map, enough]
  intro taken listed
  rcases List.mem_map.mp listed with ⟨request, member, rfl⟩
  exact turn_lt (List.ne_nil_of_length_pos (enough ▸ List.length_pos_of_mem member)) request

theorem nodup_of_eachOnce
    (ofKind : ∀ place ∈ requests, ∃ message, messages[place]? = some message ∧
      kindOf tags message = kind)
    (different : (kind.candidates registry).Nodup)
    (once : EachOnce ((tagged tags standard).routed registry messages) requests
      (kind.candidates registry)) :
    (requests.map (turn tags registry messages kind)).Nodup := by
  rw [EachOnce, map_routed ofKind] at once
  have chosen := once.nodup_iff.mpr (different.map (Option.some_injective _))
  exact chosen.of_map _

/-- The request that is found at a place among those for a qualifier that find a candidate has this
place as its number. -/
theorem number_findIdxs {qualifier : String} {index : Nat}
    (within : index < (messages.findIdxs (served tags registry qualifier)).length) :
    number tags registry messages qualifier
      (messages.findIdxs (served tags registry qualifier))[index] = index := by
  rw [number, List.getElem_findIdxs_eq_findIdxNth]
  exact List.countPBefore_findIdxNth_of_lt_countP (by rwa [List.length_findIdxs] at within)

theorem nodup_places (size first : Nat) : (places size first size).Nodup := by
  refine List.nodup_range.map_on fun one below other also same => ?_
  have meets : one ≡ other [MOD size] := Nat.ModEq.add_left_cancel' first same
  exact meets.eq_of_lt_of_lt (List.mem_range.mp below) (List.mem_range.mp also)

/-- Requests that follow each other among those for a qualifier that find a candidate are at turns that
follow each other. -/
theorem map_turn_window {start : Nat}
    (enough : (((messages.findIdxs (served tags registry kind.qualifier)).drop start).take
      (kind.candidates registry).length).length = (kind.candidates registry).length)
    (small : start + (kind.candidates registry).length ≤ 2 ^ 64) :
    (((messages.findIdxs (served tags registry kind.qualifier)).drop start).take
        (kind.candidates registry).length).map (turn tags registry messages kind) =
      places (kind.candidates registry).length start (kind.candidates registry).length := by
  apply List.ext_getElem
  · rw [List.length_map, enough, length_places]
  · intro index _ listed
    have below : index < (kind.candidates registry).length := by simpa using listed
    have within : start + index <
        (messages.findIdxs (served tags registry kind.qualifier)).length := by
      rw [List.length_take, List.length_drop] at enough
      omega
    have whole : (start + index) % 2 ^ 64 = start + index := Nat.mod_eq_of_lt (by omega)
    rw [List.getElem_map, List.getElem_take, List.getElem_drop, turn, number_findIdxs within, whole]
    simp [places]

/-! ## Main result -/

/-- The kinds of a qualifier take their turns from one counter. -/
structure ShareTurns (tags : Dict String) (registry : Registry) (messages : List Message)
    (choices : List (Option Reference)) : Prop where
  /-- Every request has its choice. -/
  answered : choices.length = messages.length
  /-- A request chooses the candidate of its kind at its turn; without candidates it chooses none and
  has no number of its own. -/
  chosen : ∀ (place : Nat) (message : Message), messages[place]? = some message →
    choices[place]? = some (((kindOf tags message).candidates registry)[
      turn tags registry messages (kindOf tags message) place]?)
  /-- As many requests of a kind as it has candidates choose each of them once if they are at different
  turns, and otherwise not, where the candidates are different. -/
  once_of_apart : ∀ (kind : Kind) (requests : List Nat),
    (∀ place ∈ requests, ∃ message, messages[place]? = some message ∧
      kindOf tags message = kind) →
    requests.length = (kind.candidates registry).length →
      ((requests.map (turn tags registry messages kind)).Nodup →
        EachOnce choices requests (kind.candidates registry)) ∧
      ((kind.candidates registry).Nodup →
        EachOnce choices requests (kind.candidates registry) →
          (requests.map (turn tags registry messages kind)).Nodup)
  /-- So do as many consecutive ones of the requests for a qualifier that find a candidate, if they are
  of one kind. -/
  undisturbed : ∀ (kind : Kind) (start : Nat),
    let window := ((messages.findIdxs (served tags registry kind.qualifier)).drop start).take
      (kind.candidates registry).length
    window.length = (kind.candidates registry).length →
    (∀ place ∈ window, ∃ message, messages[place]? = some message ∧
      kindOf tags message = kind) →
    start + (kind.candidates registry).length ≤ 2 ^ 64 →
      EachOnce choices window (kind.candidates registry)

/-- Around a fresh round-robin router the kinds of each qualifier share its turns. -/
theorem kinds_share_turns (tags : Dict String) (registry : Registry) (messages : List Message) :
    ShareTurns tags registry messages ((tagged tags standard).routed registry messages) := by
  constructor
  case answered => exact length_routed _ _ _
  case chosen =>
    intro place message placed
    have fresh : (count Dict.empty message.qualifier).toNat = 0 := rfl
    rw [standard, getElem?_routed placed, fresh, Nat.zero_add]
    rfl
  case once_of_apart =>
    intro kind requests ofKind enough
    exact ⟨eachOnce_of_nodup ofKind enough, nodup_of_eachOnce ofKind⟩
  case undisturbed =>
    intro kind start window enough ofKind small
    refine eachOnce_of_nodup ofKind enough ?_
    rw [map_turn_window enough small]
    exact nodup_places _ _

/-- An endpoint in a region that serves one method. -/
def greeterIn (region id : String) : Endpoint :=
  (Endpoint.of id ⟨"127.0.0.1", 4801⟩).withTag "region" region |>.withServices
    [(ServiceInfo.of "Greeting").withMethod (.of "hello" .requestResponse)]

/-- Two endpoints in one region, and one in another. -/
def regions : Registry :=
  .ofEndpoints [greeterIn "eu" "eu-a", greeterIn "eu" "eu-b", greeterIn "us" "us-a"]

/-- A request for the method in a region. -/
def helloIn (region : String) : Message :=
  (Message.carrying "Greeting/hello" .empty).withHeader "tag.region" region

/-- Requests for the two regions that take turns with each other leave an endpoint out. -/
theorem alternatingKinds_unbalanced :
    ¬ Balanced Dict.empty regions [helloIn "eu", helloIn "us", helloIn "eu", helloIn "us"]
      ((tagged Dict.empty standard).routed regions
        [helloIn "eu", helloIn "us", helloIn "eu", helloIn "us"]) := by
  intro balanced
  have window := balanced (kindOf Dict.empty (helloIn "eu")) 0 (by decide) (by decide)
  exact absurd window (by decide)

end ServiceMesh.Router
