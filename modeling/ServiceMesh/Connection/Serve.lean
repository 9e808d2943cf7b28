import ServiceMesh.Connection.Stream
import ServiceMesh.Flow.Reply

/-!
# What handlers come to

A crash of a handler never reaches the connection that serves the call.  It becomes the error of the
call, whether the handler was at its one response, had yet to make a stream of responses, or was at
an item of it.
-/

namespace ServiceMesh.Connection

variable {ε : Type}

/-- The result that is sent for a handler of one response.  One that never ends sends nothing. -/
def resultOf : Conclusion ε (Outcome Message) → Option (Outcome Message)
  | .done result => some result
  | .crashed cause => some (.error (crashError cause))
  | .silent _ => none

/-- The stream that is sent for a handler of a stream, which may crash before there is one. -/
def responsesOf :
    Except (Option String) (Source ε (Outcome Message)) → Source ε (Outcome Message)
  | .ok responses => responses
  | .error cause => .failed (crashError cause)

end ServiceMesh.Connection
