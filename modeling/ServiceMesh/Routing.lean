import ServiceMesh.Message
import ServiceMesh.Random.Generator
import ServiceMesh.Registry
import ServiceMesh.Routing.Weight
/-!
# Routing

A router chooses which of the references of a message's qualifier serves the message.  It may keep
state of its own between choices, a counter for each qualifier or a generator, and it never changes
the registry.  A router by tags keeps the candidates that match and leaves the choice among them to
another router.
-/

namespace ServiceMesh

universe u

/-- How candidates are weighed, and how a point from zero up to below a positive limit is drawn. -/
structure Weighing (κ : Type u) where
  /-- The weight of a candidate. -/
  weigh : Reference → κ
  /-- The point that a generator draws below a limit. -/
  draw : Random.Generator → κ → κ × Random.Generator

/-- Weights and points are doubles. -/
def Weighing.double : Weighing Float := ⟨Weight.ofReference, Random.Generator.below⟩

/-- A strategy of choice together with its state. -/
inductive Router where
  /-- Takes the candidates in turn; counts the choices made for each qualifier. -/
  | roundRobin (counters : Dict UInt64)
  /-- Takes any candidate, each as likely as another. -/
  | random (generator : Random.Generator)
  /-- Takes any candidate, each as likely as its weight says. -/
  | weighted (generator : Random.Generator)
  /-- Keeps the candidates that have the required tags, and asks another router. -/
  | tagged (tags : Dict String) (inner : Router)
  deriving Inhabited

namespace Router

variable {κ : Type u} [OfNat κ 0] [LT κ] [DecidableLT κ] [Add κ] [Sub κ] [Div κ]

/-- The router that a call uses if none is given. -/
def standard : Router := .roundRobin Dict.empty

/-- Headers whose keys begin like this require a tag for one call. -/
def tagHeaderStart : List Char := ['t', 'a', 'g', '.']

/-- The tag key that a header key names. -/
def tagOfHeader? (key : String) : Option String :=
  if tagHeaderStart.isPrefixOf key.toList then
    some (String.ofList (key.toList.drop tagHeaderStart.length))
  else none

/-- The tags that a router and a message require; the message overrides the router. -/
def requiredTags (tags : Dict String) (message : Message) : Dict String :=
  tags.insertMany (message.headers.entries.filterMap (fun header =>
    (tagOfHeader? header.1).map (fun key => (key, header.2))))

/-- Whether a reference has all required tags. -/
def hasTags (required : Dict String) (reference : Reference) : Bool :=
  required.entries.all (fun tag => reference.tag? tag.1 = some tag.2)

/-- The candidates that have all required tags. -/
def matching (tags : Dict String) (message : Message) (candidates : List Reference) :
    List Reference :=
  candidates.filter (hasTags (requiredTags tags message))

/-- How many choices were made for a qualifier, as a word. -/
def count (counters : Dict UInt64) (qualifier : String) : UInt64 :=
  (counters.get? qualifier).getD 0

/-- Takes the candidates in turn.  Without a candidate nothing is counted. -/
def takeTurn (counters : Dict UInt64) (qualifier : String) (candidates : List Reference) :
    Option Reference × Dict UInt64 :=
  if candidates.isEmpty then (none, counters)
  else
    let made := count counters qualifier
    (candidates[made.toNat % candidates.length]?, counters.insert qualifier (made + 1))

/-- Takes a candidate at random.  Without a candidate nothing is drawn. -/
def takeAny (generator : Random.Generator) (candidates : List Reference) :
    Option Reference × Random.Generator :=
  if candidates.isEmpty then (none, generator)
  else
    let (word, generator) := generator.next
    (candidates[word.toNat % candidates.length]?, generator)

/-- Takes a candidate by weight.  Where no weight is positive nothing is chosen or drawn. -/
def takeWeighted (weighing : Weighing κ) (generator : Random.Generator)
    (candidates : List Reference) : Option Reference × Random.Generator :=
  let weights := candidates.map weighing.weigh
  if 0 < Weight.greatest weights then
    let parts := Weight.scaled weights
    let (point, generator) := weighing.draw generator (Weight.total parts)
    (Weight.choose point (candidates.zip parts), generator)
  else (none, generator)

/-- Chooses one of the candidates, with some numbers for the weights. -/
def selectBy (weighing : Weighing κ) :
    Router → Message → List Reference → Option Reference × Router
  | .roundRobin counters, message, candidates =>
    let (choice, counters) := takeTurn counters message.qualifier candidates
    (choice, .roundRobin counters)
  | .random generator, _, candidates =>
    let (choice, generator) := takeAny generator candidates
    (choice, .random generator)
  | .weighted generator, _, candidates =>
    let (choice, generator) := takeWeighted weighing generator candidates
    (choice, .weighted generator)
  | .tagged tags inner, message, candidates =>
    let (choice, inner) := inner.selectBy weighing message (matching tags message candidates)
    (choice, .tagged tags inner)

/-- Chooses one of the candidates. -/
def select (router : Router) (message : Message) (candidates : List Reference) :
    Option Reference × Router :=
  router.selectBy .double message candidates

/-- Chooses one of the references that the registry has for the message's qualifier. -/
def route (router : Router) (registry : Registry) (message : Message) :
    Option Reference × Router :=
  router.select message (registry.lookup message.qualifier)

/-- The instances that are acceptable for a message. -/
def routes (router : Router) (registry : Registry) (message : Message) : List Reference :=
  let candidates := registry.lookup message.qualifier
  match router with
  | .tagged tags _ => matching tags message candidates
  | _ => candidates

end Router

end ServiceMesh
