import ServiceMesh.Error

/-!
# Replies

A computation that gives one result leaves marks in a log while it runs, and then is done, crashes,
or falls silent: it never ends, and leaves further marks when whoever waits for it gives up.
-/

namespace ServiceMesh

/-- How a computation ends. -/
inductive Conclusion (ε α : Type) where
  /-- It gives a result. -/
  | done (result : α)
  /-- It crashes, with a text that says why, if there is one. -/
  | crashed (cause : Option String)
  /-- It never ends; the marks are left when nobody waits any longer. -/
  | silent (abandoned : List ε)
  deriving DecidableEq, Repr

/-- A computation that gives one result. -/
structure Reply (ε α : Type) where
  /-- The marks left on the way. -/
  marks : List ε
  /-- How the computation ends. -/
  conclusion : Conclusion ε α
  deriving DecidableEq, Repr

namespace Reply

variable {ε δ α β : Type}

/-- The computation that gives its result at once. -/
def of (result : α) : Reply ε α := ⟨[], .done result⟩

/-- Leaves marks and then gives a result. -/
def noting (marks : List ε) (result : α) : Reply ε α := ⟨marks, .done result⟩

/-- Leaves marks and then crashes. -/
def crashing (marks : List ε) (cause : Option String) : Reply ε α := ⟨marks, .crashed cause⟩

/-- Goes on with the result. -/
def andThen (reply : Reply ε α) (goOn : α → Reply ε β) : Reply ε β :=
  match reply.conclusion with
  | .done result =>
    let rest := goOn result
    ⟨reply.marks ++ rest.marks, rest.conclusion⟩
  | .crashed cause => ⟨reply.marks, .crashed cause⟩
  | .silent abandoned => ⟨reply.marks, .silent abandoned⟩

/-- Rewrites the result. -/
def map (rewriteResult : α → β) (reply : Reply ε α) : Reply ε β :=
  reply.andThen (fun result => of (rewriteResult result))

/-- Rewrites every mark. -/
def mapMarks (rewriteMark : ε → δ) (reply : Reply ε α) : Reply δ α where
  marks := reply.marks.map rewriteMark
  conclusion := match reply.conclusion with
    | .done result => .done result
    | .crashed cause => .crashed cause
    | .silent abandoned => .silent (abandoned.map rewriteMark)

/-- Leaves further marks once the result is there. -/
def inspect (marksOf : α → List ε) (reply : Reply ε α) : Reply ε α :=
  reply.andThen (fun result => noting (marksOf result) result)

/-- Goes on with the result unless it is an error. -/
def andThenOk (reply : Reply ε (Outcome α)) (goOn : α → Reply ε (Outcome β)) :
    Reply ε (Outcome β) :=
  reply.andThen fun
    | .ok result => goOn result
    | .error error => of (.error error)

end Reply

/-- What the start of a computation in the background comes to. -/
inductive Launch (ε α : Type) where
  /-- Starting it crashes, after some marks. -/
  | crashed (marks : List ε) (cause : Option String)
  /-- It runs by itself. -/
  | running (task : Reply ε α)
  deriving DecidableEq, Repr

/-- What the caller of a computation in the background sees: acceptance, or why there was none, or
the crash of the start.  The marks are those left until the background has come to rest. -/
def Reply.accepted {ε α : Type} : Outcome (Launch ε α) → Reply ε (Outcome Unit)
  | .error error => .of (.error error)
  | .ok (.crashed marks cause) => .crashing marks cause
  | .ok (.running task) => .noting task.marks (.ok ())

end ServiceMesh
