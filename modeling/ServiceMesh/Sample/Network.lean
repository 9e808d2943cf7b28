import ServiceMesh.Sample.Handlers
import ServiceMesh.Transport

/-!
# A network in memory

A transport for trying out calls.  For each address it has a plan: how the attempts to connect turn
out one after the other, and how the peer behaves.  Connecting and every use of a channel write a
line.
-/

namespace ServiceMesh.Sample

/-- How a peer answers. -/
inductive Behaviour where
  /-- Messages come back with the address of the peer as their data. -/
  | echo
  /-- Messages come back as they are, apart from streams. -/
  | mirror
  /-- Every call fails. -/
  | fault (error : CallError)
  deriving DecidableEq, Repr

/-- What an address holds in store. -/
structure Plan where
  /-- How the attempts to connect turn out: the error of each, if there is one.  The last repeats;
  without any, all succeed. -/
  attempts : List (Option CallError)
  /-- How the peer behaves towards connections made from now on. -/
  behaviour : Behaviour
  deriving DecidableEq, Repr

/-- The plan of an address that nothing is known of. -/
def Plan.standard : Plan := ⟨[], .echo⟩

/-- A connection to a peer. -/
structure Channel where
  /-- The number of the connection. -/
  id : Nat
  /-- The address of the peer. -/
  address : Address
  /-- How the peer behaves. -/
  behaviour : Behaviour
  deriving DecidableEq, Repr

/-- The state of the network. -/
structure Network where
  /-- The plans by address. -/
  plans : Dict Plan
  /-- The number of attempts to connect to each address. -/
  attempted : Dict Nat
  /-- The connections made, in order. -/
  channels : List Channel
  /-- The numbers of the connections that have closed. -/
  closed : List Nat

namespace Network

/-- The network with some plans and without connections. -/
def planned (plans : Dict Plan) : Network := ⟨plans, Dict.empty, [], []⟩

/-- The plan of an address. -/
def plan (network : Network) (address : Address) : Plan :=
  (network.plans.get? address.render).getD .standard

/-- The line that an attempt to connect writes. -/
def connectLine (address : Address) : Line := s!"connect {address.render}"

/-- The error of the attempt with a number, if there is one. -/
def attemptError (attempts : List (Option CallError)) (number : Nat) : Option CallError :=
  ((attempts[number]?).getD (attempts.getLast?.getD none))

/-- Takes the next turn of an address. -/
def attempt (network : Network) (address : Address) : Option CallError × Network :=
  let number := (network.attempted.get? address.render).getD 0
  (attemptError (network.plan address).attempts number,
    { network with attempted := network.attempted.insert address.render (number + 1) })

/-- Makes a connection. -/
def establish (network : Network) (address : Address) : Channel × Network :=
  let channel : Channel := ⟨network.channels.length, address, (network.plan address).behaviour⟩
  (channel, { network with channels := network.channels ++ [channel] })

/-- Whether a connection has closed. -/
def isClosed (network : Network) (channel : Channel) : Bool := network.closed.contains channel.id

/-- Closes a connection. -/
def close (network : Network) (channel : Channel) : Network :=
  { network with closed := channel.id :: network.closed }

/-- Closes all connections to an address. -/
def closeAll (network : Network) (address : Address) : Network :=
  { network with
    closed := (network.channels.filter (·.address = address)).map Channel.id ++ network.closed }

/-- Changes how the peer at an address behaves towards later connections. -/
def behave (network : Network) (address : Address) (behaviour : Behaviour) : Network :=
  { network with
    plans := network.plans.insert address.render { network.plan address with behaviour } }

end Network

/-- A copy of a message with a text as its data. -/
def signed (message : Message) (signature : String) : Message :=
  message.withPayload (.value (.str signature))

namespace Channel

/-- The line that a use of the channel writes. -/
def line (channel : Channel) (use : String) : Line := s!"{channel.address.render} {use}"

/-- Takes a message that gets no response. -/
def fireAndForget (channel : Channel) (message : Message) : Reply Line (Outcome Unit) :=
  .noting [channel.line s!"fnf {message.describe}"]
    (match channel.behaviour with
      | .fault error => .error error
      | _ => .ok ())

/-- Answers a message. -/
def requestResponse (channel : Channel) (message : Message) : Reply Line (Outcome Message) :=
  .noting [channel.line s!"rr {message.describe}"]
    (match channel.behaviour with
      | .fault error => .error error
      | .mirror => .ok message
      | .echo => .ok (signed message channel.address.render))

/-- Answers a message with three, or with one and an error. -/
def requestStream (channel : Channel) (message : Message) : Source Line (Outcome Message) :=
  let response (number : Nat) : Outcome Message :=
    .ok (signed message s!"{channel.address.render}#{number}")
  let responses := match channel.behaviour with
    | .fault error => [response 0, .error error]
    | _ => (List.range 3).map response
  (Source.ofList responses).afterMarks [channel.line s!"stream {message.describe}"]

/-- The line for a message that passes through a channel. -/
def itemLine (channel : Channel) : Outcome Message → List Line
  | .ok message => [channel.line s!"item {message.headers.size}"]
  | .error _ => []

/-- Answers every item of a stream with itself, or the stream with an error. -/
def requestChannel (channel : Channel) (requests : Source Line (Outcome Message)) :
    Source Line (Outcome Message) :=
  let responses := match channel.behaviour with
    | .fault error => requests.instead (.failed error)
    | _ => requests.inspect channel.itemLine
  responses.afterMarks [channel.line "channel"]

end Channel

/-- The transport over the network. -/
def transport : Transport Line Channel Network where
  connect network address :=
    let line := Network.connectLine address
    match network.attempt address with
    | (some error, network) => ⟨[line], .error error, network⟩
    | (none, network) =>
      let (channel, network) := network.establish address
      ⟨[line], .ok channel, network⟩
  fireAndForget := Channel.fireAndForget
  requestResponse := Channel.requestResponse
  requestStream := Channel.requestStream
  requestChannel := Channel.requestChannel

end ServiceMesh.Sample
