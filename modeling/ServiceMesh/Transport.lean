import ServiceMesh.Address
import ServiceMesh.Flow.Reply
import ServiceMesh.Flow.Source
import ServiceMesh.Message

/-!
# Client transports

A transport opens connections, and a connection gives a channel on which calls of all four modes
can be made.  What connecting does to the world outside is a change of a state of type `ω`, which
the transport owns.
-/

namespace ServiceMesh

/-- What came of connecting. -/
structure Connected (ε χ ω : Type) where
  /-- The marks left. -/
  marks : List ε
  /-- The channel, or why there is none. -/
  outcome : Outcome χ
  /-- The state of the transport afterwards. -/
  network : ω

/-- A way to reach other processes. -/
structure Transport (ε χ ω : Type) : Type 1 where
  /-- Opens a connection. -/
  connect : ω → Address → Connected ε χ ω
  /-- Sends a message that gets no response. -/
  fireAndForget : χ → Message → Reply ε (Outcome Unit)
  /-- Sends a message that gets one response. -/
  requestResponse : χ → Message → Reply ε (Outcome Message)
  /-- Sends a message that gets a stream of responses. -/
  requestStream : χ → Message → Source ε (Outcome Message)
  /-- Sends a stream of messages that gets a stream of responses. -/
  requestChannel : χ → Source ε (Outcome Message) → Source ε (Outcome Message)

end ServiceMesh
