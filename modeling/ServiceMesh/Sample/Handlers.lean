import ServiceMesh.Sample.Value
import ServiceMesh.Service

/-!
# Sample handlers

A catalogue of handlers for trying out services: plain functions, streams, handlers that fail or
crash, and handlers that show in a journal what becomes of them.  Their marks are the lines of the
journal.
-/

namespace ServiceMesh.Sample

/-- The lines that handlers write. -/
abbrev Line := String

/-- A service whose handlers write lines. -/
abbrev Host := Service Line

section Requests

/-- Ends with a value. -/
def answer {α : Type} (value : α) : Reply Line (Outcome α) := .of (.ok value)

/-- Gives a number back, or crashes if it is positive. -/
def crashIfPositive (cause : UInt32 → Option String) (number : UInt32) :
    Reply Line (Outcome UInt32) :=
  if 0 < number then .crashing [] (cause number) else answer number

/-- Greets a person. -/
def greet (person : Person) : Greeting :=
  let text := match person.age with
    | some age => s!"{person.name} is {age.toNat}"
    | none => person.name
  ⟨text, UInt64.ofNat (Utf8.encode text).length⟩

/-- The sum of all values, reduced to the width of a word. -/
def sum (numbers : Dict Int64) : Int64 :=
  numbers.entries.foldl (fun total entry => total + entry.2) 0

/-- Waits forever and tells when it begins and when it is given up. -/
def waitForever (name : String) : Reply Line (Outcome Unit) :=
  ⟨[s!"start {name}"], .silent [s!"drop {name}"]⟩

/-- A copy of a message that carries its own qualifier in a header, and whether it had data. -/
def stamp (message : Message) : Message :=
  (message.withHeader "stamped" message.qualifier).withPayload
    (.value (.obj [("had", .bool message.hasData)]))

/-- A copy of a message whose payload does not suit its format. -/
def misformat (message : Message) : Message :=
  (message.withDataFormat Codec.textType).withPayload (.value (.ofNat 1))

end Requests

section Streams

/-- The numbers below a bound. -/
def countTo (bound : UInt32) : Source Line (Outcome UInt32) :=
  .unfold (0 : UInt32) (fun number =>
    if number < bound then ⟨[], .item (.ok number), number + 1⟩ else ⟨[], .ended, number⟩)

/-- The numbers below a bound; making the number two crashes. -/
def countToCrash (bound : UInt32) : Source Line (Outcome UInt32) :=
  .unfold (0 : UInt32) (fun number =>
    if number < bound then
      if number = 2 then ⟨[], .crashed (some "exploded at item 2"), number⟩
      else ⟨[], .item (.ok number), number + 1⟩
    else ⟨[], .ended, number⟩)

/-- An error given as a code and a text. -/
def readError (value : Json) : Option CallError :=
  match value with
  | .arr [code, .str text] =>
    match Wire.read code with
    | .ok code => some (.ofCode code text)
    | .error _ => none
  | _ => none

/-- One step of a script: an error under `err`, or else the value under `ok`. -/
def scriptItem (step : Json) : Outcome Anything :=
  match (step.member? "err").bind readError with
  | some error => .error error
  | none => .ok ⟨(step.member? "ok").getD .null⟩

/-- Numbers without end; tells of each, and when it is given up. -/
def ticks (name : String) : Source Line (Outcome UInt64) :=
  (Source.unfold (0 : UInt64) (fun number =>
    ⟨[s!"tick {number.toNat}"], .item (.ok number), number + 1⟩)).onAbandon [s!"drop {name}"]

/-- Three copies of a message with numbered stream ids. -/
def thrice (message : Message) : Source Line (Outcome Message) :=
  let streamId := message.streamId.getD "none"
  .ofList ((List.range 3).map (fun number => .ok (message.withStreamId s!"{streamId}#{number}")))

/-- A message, an error, and the message again. -/
def flaky (message : Message) : Source Line (Outcome Message) :=
  .ofList [.ok message, .error (.unavailable "gone"), .ok message]

/-- A message, a copy in a format that nobody knows, and the message again. -/
def misformatted (message : Message) : Source Line (Outcome Message) :=
  .ofList
    [.ok message,
      .ok ((message.withDataFormat "application/x-none").withPayload (.value (.arr []))),
      .ok message]

end Streams

section Channels

/-- The sums of the numbers so far; errors pass. -/
def runningTotal (numbers : Source Line (Outcome Int64)) : Source Line (Outcome Int64) :=
  numbers.mapAccum (0 : Int64) (fun total item =>
    match item with
    | .ok number => (total + number, .ok (total + number))
    | .error error => (total, .error error))

/-- Three numbers, without a look at the requests, which are kept until the responses are given
up. -/
def ignoreRequests (requests : Source Line (Outcome Anything)) : Source Line (Outcome UInt32) where
  State := UInt32
  state := 0
  pull number :=
    if number < 3 then ⟨[], .item (.ok number), number + 1⟩ else ⟨[], .ended, number⟩
  abandoned _ := requests.farewell

/-- Reads all requests and then tells how many were no errors and how many there were. -/
def countRequests (requests : Source Line (Outcome Anything)) : Source Line (Outcome Json) :=
  (requests.fold (0, 0) (fun (counts : Nat × Nat) item =>
    match item with
    | .ok _ => (counts.1 + 1, counts.2 + 1)
    | .error _ => (counts.1, counts.2 + 1))).map
    (fun counts => .ok (.arr [.ofNat counts.1, .ofNat counts.2]))

/-- Each number as a text, and each error as a text too. -/
def tolerate (item : Outcome UInt32) : Outcome String :=
  match item with
  | .ok number => .ok (toString number.toNat)
  | .error error => .ok s!"{error.kind.name}: {Codec.withoutDetail error.message}"

/-- The numbers as they are; making the number thirteen crashes. -/
def crashOnThirteen (numbers : Source Line (Outcome UInt32)) : Source Line (Outcome UInt32) where
  State := numbers.State
  state := numbers.state
  pull state :=
    let turn := numbers.pull state
    match turn.signal with
    | .item (.ok number) =>
      if number = 13 then ⟨turn.marks, .crashed (some "unlucky"), turn.next⟩ else turn
    | _ => turn
  abandoned := numbers.abandoned

/-- The requests as they are, then an error, and then a message. -/
def relayAndStop (requests : Source Line (Outcome Message)) : Source Line (Outcome Message) :=
  requests.append (.ofList [.error (.unauthorized "stop"), .ok Message.blank])

end Channels

/-- Registers the handler of a name under an action. -/
abbrev Registration := Host → (action : String) → Host

/-- The handlers of single requests. -/
def requestHandlers [Scope] : List (String × Registration) :=
  [("greet", fun host action => host.requestResponse String String action
      (fun name => answer s!"Hello, {name}")),
    ("double", fun host action => host.requestResponse UInt32 UInt64 action
      (fun number => answer (2 * number.toUInt64))),
    ("person", fun host action => host.requestResponse Person Greeting action
      (fun person => answer (greet person))),
    ("reverse", fun host action => host.requestResponse (List Int64) (List Int64) action
      (fun numbers => answer numbers.reverse)),
    ("sum", fun host action => host.requestResponse (Dict Int64) Int64 action
      (fun numbers => answer (sum numbers))),
    ("maybe", fun host action => host.requestResponse (Option String) (Option UInt32) action
      (fun text => answer (text.map (fun text => UInt32.ofNat text.length)))),
    ("unit", fun host action => host.requestResponse Unit Unit action answer),
    ("not", fun host action => host.requestResponse Bool Bool action (fun flag => answer !flag)),
    ("half", fun host action => host.requestResponse Float Float action
      (fun number => answer (number / 2.0))),
    ("nan", fun host action => host.requestResponse Unit Float action
      (fun _ => answer (0.0 / 0.0))),
    ("any", fun host action => host.requestResponse Anything Anything action answer),
    ("fail", fun host action => host.requestResponse (UInt16 × String) Unit action
      (fun error => .of (.error (.ofCode error.1 error.2)))),
    ("boom", fun host action => host.requestResponse UInt32 UInt32 action
      (crashIfPositive (fun number => some s!"exploded on {number.toNat}"))),
    ("boom_static", fun host action => host.requestResponse UInt32 UInt32 action
      (crashIfPositive (fun _ => some "static text"))),
    ("boom_odd", fun host action => host.requestResponse UInt32 UInt32 action
      (crashIfPositive (fun _ => none))),
    ("hang", fun host action => host.requestResponse String Unit action waitForever),
    ("raw_echo", fun host action => host.rawRequestResponse action answer),
    ("raw_stamp", fun host action => host.rawRequestResponse action
      (fun message => answer (stamp message))),
    ("raw_bad_format", fun host action => host.rawRequestResponse action
      (fun message => answer (misformat message)))]

/-- The handlers of requests without response. -/
def noticeHandlers : List (String × Registration) :=
  [("log", fun host action => host.fireAndForget String action
      (fun text => .noting [s!"log {text}"] (.ok ()))),
    ("reject", fun host action => host.fireAndForget String action
      (fun text => .noting [s!"reject {text}"] (.error (.unauthorized text)))),
    ("log_boom", fun host action => host.fireAndForget String action
      (fun text => .crashing [s!"boom {text}"] none)),
    ("raw_log", fun host action => host.rawFireAndForget action
      (fun message => .running (.noting [s!"raw {message.describe}"] (.ok ())))),
    ("raw_log_boom", fun host action => host.rawFireAndForget action
      (fun message => .crashed [s!"raw boom {message.describe}"] none))]

/-- The handlers that answer a request with a stream. -/
def streamHandlers [Scope] : List (String × Registration) :=
  [("count", fun host action => host.requestStream UInt32 UInt32 action countTo),
    ("script", fun host action => host.requestStream (List Json) Anything action
      (fun steps => .ofList (steps.map scriptItem))),
    ("chars", fun host action => host.requestStream String String action
      (fun text => .ofList (text.toList.map (fun character => .ok (String.ofList [character]))))),
    ("ticks", fun host action => host.requestStream String UInt64 action ticks),
    ("items_boom", fun host action => host.requestStream UInt32 UInt32 action countToCrash),
    ("eager_boom", fun host action => host.requestStream UInt32 UInt32 action
      (fun number =>
        if 0 < number then .crashing (some s!"no stream for {number.toNat}") else .ofList [])),
    ("raw_thrice", fun host action => host.rawRequestStream action thrice),
    ("raw_flaky", fun host action => host.rawRequestStream action flaky),
    ("raw_bad_stream", fun host action => host.rawRequestStream action misformatted)]

/-- The handlers that answer a stream with a stream. -/
def channelHandlers [Scope] : List (String × Registration) :=
  [("echo", fun host action => host.requestChannel Anything Anything action id),
    ("shout", fun host action => host.requestChannel String String action
      (Source.mapOutcome (fun text => .ok text.toUpper))),
    ("total", fun host action => host.requestChannel Int64 Int64 action runningTotal),
    ("first", fun host action => host.requestChannel Anything Anything action (Source.take 1)),
    ("ignore", fun host action => host.requestChannel Anything UInt32 action ignoreRequests),
    ("drain", fun host action => host.requestChannel Anything Json action countRequests),
    ("lenient", fun host action => host.requestChannel UInt32 String action
      (Source.map tolerate)),
    ("channel_boom", fun host action => host.requestChannel UInt32 UInt32 action
      crashOnThirteen),
    ("raw_relay", fun host action => host.rawRequestChannel action id),
    ("raw_relay_stop", fun host action => host.rawRequestChannel action relayAndStop),
    ("eager_channel_boom", fun host action => host.rawRequestChannel action
      (fun requests => requests.instead (.crashing (some "no channel"))))]

/-- The whole catalogue. -/
def handlers [Scope] : List (String × Registration) :=
  requestHandlers ++ noticeHandlers ++ streamHandlers ++ channelHandlers

/-- Registers the handler of a name under an action; an unknown name changes nothing. -/
def register [Scope] (host : Host) (action handler : String) : Host :=
  match handlers.lookup handler with
  | some registration => registration host action
  | none => host

end ServiceMesh.Sample
