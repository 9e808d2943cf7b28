/-!
# Communication modes

A method exchanges messages in one of four ways, and a call names the way it expects.
-/

namespace ServiceMesh

/-- One of the four ways in which a method exchanges messages. -/
inductive Mode where
  /-- One request and no response. -/
  | fireAndForget
  /-- One request and exactly one response. -/
  | requestResponse
  /-- One request and a stream of responses. -/
  | requestStream
  /-- A stream of requests and a stream of responses. -/
  | requestChannel
  deriving DecidableEq, Repr, Inhabited

namespace Mode

/-- All modes, in their order of declaration. -/
def all : List Mode := [.fireAndForget, .requestResponse, .requestStream, .requestChannel]

/-- The mode as reports spell it. -/
def title : Mode → String
  | .fireAndForget => "fire-and-forget"
  | .requestResponse => "request-response"
  | .requestStream => "request-stream"
  | .requestChannel => "request-channel"

/-- The mode as announcements spell it. -/
def name : Mode → String
  | .fireAndForget => "fire_and_forget"
  | .requestResponse => "request_response"
  | .requestStream => "request_stream"
  | .requestChannel => "request_channel"

/-- The mode that an announcement spells. -/
def ofName? (name : String) : Option Mode := all.find? (fun mode => mode.name = name)

@[simp]
theorem ofName?_name (mode : Mode) : ofName? mode.name = some mode := by
  cases mode <;> decide

end Mode

end ServiceMesh
