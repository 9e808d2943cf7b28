/-!
# Call errors

Every failure of a call has a kind, a text, and the side it comes from.  The kind and the text
travel on the wire, the kind as a numeric code; what comes back from there is a remote error, so
that a failure a peer reports is never taken for one that arose here.
-/

namespace ServiceMesh

/-- What went wrong, coarsely. -/
inductive ErrorKind where
  /-- A malformed message, a missing header, or a payload that cannot be read or written. -/
  | badRequest
  /-- The application refuses the caller. -/
  | unauthorized
  /-- No instance is reachable, or no connection could be established. -/
  | serviceUnavailable
  /-- Any other failure. -/
  | internalService
  /-- The connection went away during the call. -/
  | connection
  deriving DecidableEq, Repr, Inhabited

namespace ErrorKind

/-- The code of a kind on the wire. -/
def code : ErrorKind → UInt16
  | .badRequest => 400
  | .unauthorized => 401
  | .internalService => 500
  | .connection => 502
  | .serviceUnavailable => 503

/-- The kind of a code; a code that no kind has stands for an internal failure. -/
def ofCode (code : UInt16) : ErrorKind :=
  if code = 400 then .badRequest
  else if code = 401 then .unauthorized
  else if code = 502 then .connection
  else if code = 503 then .serviceUnavailable
  else .internalService

@[simp]
theorem ofCode_code (kind : ErrorKind) : ofCode kind.code = kind := by
  cases kind <;> rfl

/-- The kind in words. -/
def title : ErrorKind → String
  | .badRequest => "bad request"
  | .unauthorized => "unauthorized"
  | .serviceUnavailable => "service unavailable"
  | .internalService => "internal service error"
  | .connection => "connection error"

/-- The kind in one word. -/
def name : ErrorKind → String
  | .badRequest => "bad_request"
  | .unauthorized => "unauthorized"
  | .serviceUnavailable => "service_unavailable"
  | .internalService => "internal_service"
  | .connection => "connection"

/-- The kind at the beginning of a sentence. -/
def heading : ErrorKind → String
  | .badRequest => "Bad request"
  | .unauthorized => "Unauthorized"
  | .serviceUnavailable => "Service unavailable"
  | .internalService => "Internal service error"
  | .connection => "Connection error"

end ErrorKind

/-- A failed call. -/
structure CallError where
  /-- What went wrong. -/
  kind : ErrorKind
  /-- Whether a peer reported it. -/
  isRemote : Bool
  /-- The text, without the kind. -/
  message : String
  deriving DecidableEq, Repr, Inhabited

/-- The outcome of an operation that a call error may end. -/
abbrev Outcome (α : Type) := Except CallError α

namespace CallError

/-- A bad request found here. -/
def badRequest (message : String) : CallError := ⟨.badRequest, false, message⟩

/-- A refusal raised here. -/
def unauthorized (message : String) : CallError := ⟨.unauthorized, false, message⟩

/-- An unreachable service, noticed here. -/
def unavailable (message : String) : CallError := ⟨.serviceUnavailable, false, message⟩

/-- A failure inside this process. -/
def internal (message : String) : CallError := ⟨.internalService, false, message⟩

/-- A connection lost under a call of this process. -/
def connection (message : String) : CallError := ⟨.connection, false, message⟩

/-- An error that a peer reported by code and text. -/
def remote (code : UInt16) (message : String) : CallError := ⟨.ofCode code, true, message⟩

/-- The error with a code: one of this process if a kind has the code, and otherwise one that a peer
reports. -/
def ofCode (code : UInt16) (message : String) : CallError :=
  if (ErrorKind.ofCode code).code = code then ⟨.ofCode code, false, message⟩
  else remote code message

/-- The code of the error's kind. -/
def code (error : CallError) : UInt16 := error.kind.code

/-- The error in a sentence. -/
def describe (error : CallError) : String :=
  if error.isRemote then s!"Remote {error.kind.title}: {error.message}"
  else s!"{error.kind.heading}: {error.message}"

/-- A value that no JSON text can represent, and why. -/
def unserializable (reason : String) : CallError :=
  badRequest s!"JSON serialization error: {reason}"

/-- A failed system operation. -/
def system (reason : String) : CallError := connection reason

/-- Whether the error says that the connection it was observed on is of no further use. -/
def breaksConnection (error : CallError) : Bool := error.kind = .connection && !error.isRemote

end CallError

end ServiceMesh
