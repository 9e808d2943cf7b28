import Mathlib.Algebra.GroupWithZero.Nat
import Mathlib.Data.List.Induction
import ServiceMesh.Connection.Link

/-!
# Histories of a connection

A run of actions leaves a history: every action together with the connection on which it was taken.
What a run shows is read off its history, such as the frames that were taken from the peer, the
frames that were queued for it, what a consumer has seen and what a source has given.

Properties of all runs are proved by induction on the last action, which adds one step to the history
(`history_concat`).

What a run does to one call is the work of a small machine that takes the events of the call.  What
such a machine puts out is collected by `outputs`.
-/

namespace ServiceMesh

/-! ## Machines -/

/-- What a machine puts out during some events. -/
def outputs {σ ε ω : Type} (step : σ → ε → σ) (output : σ → ε → List ω) (state : σ) :
    List ε → List ω
  | [] => []
  | event :: events => output state event ++ outputs step output (step state event) events

section

variable {σ ε ω α : Type} {step : σ → ε → σ} {output : σ → ε → List ω}

@[simp]
theorem outputs_nil (state : σ) : outputs step output state [] = [] := rfl

theorem outputs_cons (state : σ) (event : ε) (events : List ε) :
    outputs step output state (event :: events) =
      output state event ++ outputs step output (step state event) events := rfl

theorem outputs_append (state : σ) (first second : List ε) :
    outputs step output state (first ++ second) =
      outputs step output state first ++
        outputs step output (first.foldl step state) second := by
  induction first generalizing state with
  | nil => rfl
  | cons event events induction =>
      simp only [List.cons_append, outputs_cons, induction, List.append_assoc, List.foldl_cons]

theorem outputs_concat (state : σ) (events : List ε) (event : ε) :
    outputs step output state (events ++ [event]) =
      outputs step output state events ++ output (events.foldl step state) event := by
  rw [outputs_append, outputs_cons, outputs_nil, List.append_nil]

variable {outlook : σ → List α → List ω} {reads : ε → Option α}

/--
A machine has an outlook on what it will put out, given what it is still to
read.  If every event but one keeps the outlook, then what was put out and
what is left of the outlook make up the whole.
-/
theorem outputs_append_outlook (sound : σ → Prop) {quit : ε}
    (keeps : ∀ state event, sound state → sound (step state event))
    (conserves : ∀ state event later, sound state → event ≠ quit →
      output state event ++ outlook (step state event) later =
        outlook state ((reads event).toList ++ later))
    {state : σ} (holds : sound state) {events : List ε} (stays : quit ∉ events)
    (later : List α) :
    outputs step output state events ++ outlook (events.foldl step state) later =
      outlook state (events.filterMap reads ++ later) := by
  induction events generalizing state with
  | nil => rfl
  | cons event events induction =>
      have rest := induction (keeps state event holds)
        (fun left => stays (List.mem_cons_of_mem _ left))
      have other : event ≠ quit := fun same => stays (same ▸ List.mem_cons_self)
      rw [outputs_cons, List.append_assoc, List.foldl_cons, rest,
        conserves state event _ holds other]
      cases found : reads event <;> simp [found]

/-- If the one event leaves no outlook, then nothing is put out but what was in it. -/
theorem outputs_prefix_outlook (sound : σ → Prop) {quit : ε}
    (keeps : ∀ state event, sound state → sound (step state event))
    (conserves : ∀ state event later, sound state → event ≠ quit →
      output state event ++ outlook (step state event) later =
        outlook state ((reads event).toList ++ later))
    (ends : ∀ state later, sound state →
      output state quit = [] ∧ outlook (step state quit) later = [])
    {state : σ} (holds : sound state) (events : List ε) :
    outputs step output state events <+: outlook state (events.filterMap reads) := by
  induction events generalizing state with
  | nil => exact List.nil_prefix
  | cons event events induction =>
      have rest := induction (keeps state event holds)
      rw [outputs_cons]
      by_cases quits : event = quit
      · subst quits
        rcases ends state (events.filterMap reads) holds with ⟨silent, nothing⟩
        rw [nothing] at rest
        rw [silent, List.prefix_nil.mp rest]
        exact List.nil_prefix
      · have kept := conserves state event (events.filterMap reads) holds quits
        have whole : List.filterMap reads (event :: events) =
            (reads event).toList ++ events.filterMap reads := by
          cases found : reads event <;> simp [found]
        rw [whole, ← kept]
        exact (List.prefix_append_right_inj _).mpr rest

end

namespace Connection

/-! ## Histories -/

/-- One action of a run, and the connection on which it is taken. -/
structure Step where
  /-- The connection before the action. -/
  before : Connection
  /-- The action. -/
  action : Action

namespace Step

/-- The connection after the action. -/
def after (step : Step) : Connection := (step.before.perform step.action).2

/-- What the action has shown. -/
def observation (step : Step) : Observation := (step.before.perform step.action).1

/-- The frame that the reader has taken. -/
def taken (step : Step) : Option Frame :=
  match step.action with
  | .receive frame => if step.before.reads then some frame else none
  | _ => none

/-- The frame that has arrived, whether or not the reader has taken it. -/
def arrived (step : Step) : Option Frame :=
  match step.action with
  | .receive frame => some frame
  | _ => none

/-- The frame that was written. -/
def written (step : Step) : Option Frame :=
  match step.observation with
  | .written frame => frame
  | _ => none

/-- The frames that were queued. -/
def posted (step : Step) : List Frame :=
  match step.action with
  | .transmit => []
  | _ => step.after.queue.drop step.before.queue.length

/-- What the consumer of an inbound stream has seen.  A stream that it has given up, or whose last
signal it has seen, shows nothing new. -/
def seen (number : Nat) (step : Step) : Option (Signal (Outcome Message)) :=
  match step.action, step.observation with
  | .pullInbound pulled, .pulled signal =>
    if pulled = number ∧ (step.before.inbound[number]?).any (fun stream => !stream.isDone) then
      match signal with
      | .pending => none
      | signal => some signal
    else none
  | _, _ => none

/-- The result that the caller of a reply has got. -/
def resolved (number : Nat) (step : Step) : Option (Outcome Message) :=
  match step.action, step.observation with
  | .pollReply polled, .reply result => if polled = number then result else none
  | _, _ => none

/-- What the source of a producer has given, if the producer was pulling it. -/
def given (number : Nat) (step : Step) : Option (Signal (Outcome Message)) :=
  match step.action with
  | .produce producing signal =>
    if producing = number ∧
        (step.before.producers[number]?).any (fun producer => producer.phase = .pulling) then
      match signal with
      | .pending => none
      | signal => some signal
    else none
  | _ => none

/-- The stream id that was used up. -/
def issued (step : Step) : Option UInt64 :=
  if step.after.nextStreamId = step.before.nextStreamId then none
  else some step.before.nextStreamId

end Step

/-- The connection after a run. -/
def after (connection : Connection) (actions : List Action) : Connection :=
  (connection.run actions).2

/-- The history of a run. -/
def history (connection : Connection) : List Action → List Step
  | [] => []
  | action :: actions =>
    ⟨connection, action⟩ :: (connection.perform action).2.history actions

@[simp]
theorem after_nil (connection : Connection) : connection.after [] = connection := rfl

@[simp]
theorem after_cons (connection : Connection) (action : Action) (actions : List Action) :
    connection.after (action :: actions) =
      (connection.perform action).2.after actions := rfl

theorem after_append (connection : Connection) (first second : List Action) :
    connection.after (first ++ second) = (connection.after first).after second := by
  induction first generalizing connection with
  | nil => rfl
  | cons action actions induction =>
      simpa using induction (connection.perform action).2

@[simp]
theorem after_concat (connection : Connection) (actions : List Action) (action : Action) :
    connection.after (actions ++ [action]) =
      ((connection.after actions).perform action).2 := by
  rw [after_append]
  rfl

theorem history_append (connection : Connection) (first second : List Action) :
    connection.history (first ++ second) =
      connection.history first ++ (connection.after first).history second := by
  induction first generalizing connection with
  | nil => rfl
  | cons action actions induction =>
      simpa [history] using induction (connection.perform action).2

@[simp]
theorem history_concat (connection : Connection) (actions : List Action) (action : Action) :
    connection.history (actions ++ [action]) =
      connection.history actions ++ [⟨connection.after actions, action⟩] := by
  rw [history_append]
  rfl

/-- The frames that the reader has taken. -/
def taken (history : List Step) : List Frame := history.filterMap Step.taken

/-- The frames that have arrived. -/
def arrived (history : List Step) : List Frame := history.filterMap Step.arrived

/-- The frames that were written. -/
def written (history : List Step) : List Frame := history.filterMap Step.written

/-- The frames that were queued. -/
def posted (history : List Step) : List Frame := history.flatMap Step.posted

/-- What the consumer of an inbound stream has seen. -/
def seen (number : Nat) (history : List Step) : List (Signal (Outcome Message)) :=
  history.filterMap (Step.seen number)

/-- The results that the caller of a reply has got. -/
def resolved (number : Nat) (history : List Step) : List (Outcome Message) :=
  history.filterMap (Step.resolved number)

/-- What the source of a producer has given. -/
def given (number : Nat) (history : List Step) : List (Signal (Outcome Message)) :=
  history.filterMap (Step.given number)

/-- The stream ids that were used up. -/
def issued (history : List Step) : List UInt64 := history.filterMap Step.issued

theorem filterMap_concat {α β : Type} (reads : α → Option β) (items : List α) (item : α) :
    (items ++ [item]).filterMap reads = items.filterMap reads ++ (reads item).toList := by
  rw [List.filterMap_append]
  cases found : reads item <;> simp [found]

theorem taken_concat (history : List Step) (step : Step) :
    taken (history ++ [step]) = taken history ++ step.taken.toList :=
  filterMap_concat _ _ _

theorem written_concat (history : List Step) (step : Step) :
    written (history ++ [step]) = written history ++ step.written.toList :=
  filterMap_concat _ _ _

theorem posted_concat (history : List Step) (step : Step) :
    posted (history ++ [step]) = posted history ++ step.posted := by
  simp [posted]

theorem seen_concat (number : Nat) (history : List Step) (step : Step) :
    seen number (history ++ [step]) = seen number history ++ (step.seen number).toList :=
  filterMap_concat _ _ _

theorem resolved_concat (number : Nat) (history : List Step) (step : Step) :
    resolved number (history ++ [step]) =
      resolved number history ++ (step.resolved number).toList :=
  filterMap_concat _ _ _

theorem given_concat (number : Nat) (history : List Step) (step : Step) :
    given number (history ++ [step]) = given number history ++ (step.given number).toList :=
  filterMap_concat _ _ _

theorem issued_concat (history : List Step) (step : Step) :
    issued (history ++ [step]) = issued history ++ step.issued.toList :=
  filterMap_concat _ _ _

/-- The number of calls that a run opens. -/
def calls (actions : List Action) : Nat := actions.countP Action.opensCall

end Connection

end ServiceMesh
