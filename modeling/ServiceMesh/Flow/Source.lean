import ServiceMesh.Error

/-!
# Sources

The items of a stream are pulled one at a time.  A source is a state together with the turn that a
pull makes of it: what it gives, what it leaves in the log on the way, and the state after it.  A
pull may find that nothing is there yet, that the items have ended, or that making the item has
crashed.  Whoever loses interest in a source abandons it, which may leave a mark in the log as well.

Logs are lists of marks of any type `ε`.  The combinators below build sources from sources;
`Source.guarded` cuts a stream after its first error.
-/

namespace ServiceMesh

/-- What a pull gives. -/
inductive Signal (α : Type) where
  /-- The next item. -/
  | item (value : α)
  /-- Nothing yet; a later pull may give more. -/
  | pending
  /-- The regular end. -/
  | ended
  /-- Making the item has crashed, with a text that says why, if there is one. -/
  | crashed (cause : Option String)
  deriving DecidableEq, Repr

/-- The signal with its item rewritten. -/
def Signal.map {α β : Type} (rewriteItem : α → β) : Signal α → Signal β
  | .item value => .item (rewriteItem value)
  | .pending => .pending
  | .ended => .ended
  | .crashed cause => .crashed cause

/-- One pull of a source: the marks it leaves, what it gives, and the state after it. -/
structure Turn (ε α σ : Type) where
  /-- The marks, in order. -/
  marks : List ε
  /-- What the pull gives. -/
  signal : Signal α
  /-- The state after the pull. -/
  next : σ

namespace Turn

variable {ε δ α β σ τ : Type}

/-- The turn with its item rewritten. -/
def mapItem (rewriteItem : α → β) (turn : Turn ε α σ) : Turn ε β σ :=
  ⟨turn.marks, turn.signal.map rewriteItem, turn.next⟩

/-- The turn with its state rewritten. -/
def mapState (rewriteState : σ → τ) (turn : Turn ε α σ) : Turn ε α τ :=
  ⟨turn.marks, turn.signal, rewriteState turn.next⟩

/-- The turn with every mark rewritten. -/
def mapMarks (rewriteMark : ε → δ) (turn : Turn ε α σ) : Turn δ α σ :=
  ⟨turn.marks.map rewriteMark, turn.signal, turn.next⟩

/-- The turn with marks in front of its own. -/
def after (marks : List ε) (turn : Turn ε α σ) : Turn ε α σ :=
  ⟨marks ++ turn.marks, turn.signal, turn.next⟩

end Turn

/-- A stream of items to be pulled one at a time. -/
structure Source (ε α : Type) : Type 1 where
  /-- The states of the source. -/
  State : Type
  /-- The present state. -/
  state : State
  /-- The turn that a pull makes of a state. -/
  pull : State → Turn ε α State
  /-- The marks left behind when the source is abandoned in a state. -/
  abandoned : State → List ε

namespace Source

variable {ε δ α β : Type}

/-- The source in another state. -/
def inState (source : Source ε α) (state : source.State) : Source ε α :=
  ⟨source.State, state, source.pull, source.abandoned⟩

/-- Pulls once: the marks, what is given, and the source after it. -/
def next (source : Source ε α) : List ε × Signal α × Source ε α :=
  let turn := source.pull source.state
  (turn.marks, turn.signal, source.inState turn.next)

/-- The marks left behind when the source is abandoned now. -/
def farewell (source : Source ε α) : List ε := source.abandoned source.state

/-- The source that makes its turns by a function of a state of its own. -/
def unfold {σ : Type} (start : σ) (pull : σ → Turn ε α σ) : Source ε α :=
  ⟨σ, start, pull, fun _ => []⟩

/-- Gives prepared signals, one at each pull, and then ends. -/
def ofSignals (signals : List (Signal α)) : Source ε α :=
  unfold signals fun
    | [] => ⟨[], .ended, []⟩
    | signal :: rest => ⟨[], signal, rest⟩

/-- Gives the items of a list. -/
def ofList (items : List α) : Source ε α := ofSignals (items.map .item)

/-- Crashes at the first pull. -/
def crashing (cause : Option String) : Source ε α := ofSignals [.crashed cause]

/-- Rewrites every item. -/
def map (rewriteItem : α → β) (source : Source ε α) : Source ε β where
  State := source.State
  state := source.state
  pull state := (source.pull state).mapItem rewriteItem
  abandoned := source.abandoned

/-- Rewrites every mark. -/
def mapMarks (rewriteMark : ε → δ) (source : Source ε α) : Source δ α where
  State := source.State
  state := source.state
  pull state := (source.pull state).mapMarks rewriteMark
  abandoned state := (source.abandoned state).map rewriteMark

/-- Leaves further marks after those of a turn that gives an item. -/
def inspect (marksOf : α → List ε) (source : Source ε α) : Source ε α where
  State := source.State
  state := source.state
  pull state :=
    let turn := source.pull state
    match turn.signal with
    | .item value => ⟨turn.marks ++ marksOf value, turn.signal, turn.next⟩
    | _ => turn
  abandoned := source.abandoned

/-- Leaves a mark when abandoned, before those of the source itself. -/
def onAbandon (marks : List ε) (source : Source ε α) : Source ε α where
  State := source.State
  state := source.state
  pull := source.pull
  abandoned state := marks ++ source.abandoned state

/-- Leaves marks at the first pull, before those of the source itself. -/
def afterMarks (marks : List ε) (source : Source ε α) : Source ε α where
  State := Bool × source.State
  state := (false, source.state)
  pull state :=
    let turn := (source.pull state.2).mapState (fun next => (true, next))
    if state.1 then turn else turn.after marks
  abandoned state := if state.1 then source.abandoned state.2 else marks ++ source.abandoned state.2

/-- Gives one item before those of a source. -/
def cons (first : α) (rest : Source ε α) : Source ε α where
  State := Bool × rest.State
  state := (false, rest.state)
  pull state :=
    if state.1 then (rest.pull state.2).mapState (fun next => (true, next))
    else ⟨[], .item first, (true, state.2)⟩
  abandoned state := rest.abandoned state.2

/-- Gives the items of one source and then those of another.  The first is abandoned as soon as it
has ended. -/
def append (first second : Source ε α) : Source ε α where
  State := first.State × second.State ⊕ second.State
  state := .inl (first.state, second.state)
  pull
    | .inl (state, waiting) =>
      let turn := first.pull state
      match turn.signal with
      | .ended =>
        ((second.pull waiting).mapState .inr).after (turn.marks ++ first.abandoned turn.next)
      | _ => turn.mapState (fun next => .inl (next, waiting))
    | .inr state => (second.pull state).mapState .inr
  abandoned
    | .inl (state, waiting) => first.abandoned state ++ second.abandoned waiting
    | .inr state => second.abandoned state

/-- Gives at most a number of items and then ends without a pull of the source. -/
def take (count : Nat) (source : Source ε α) : Source ε α where
  State := Nat × source.State
  state := (count, source.state)
  pull
    | (0, state) => ⟨[], .ended, (0, state)⟩
    | (left + 1, state) =>
      let turn := source.pull state
      match turn.signal with
      | .item _ => turn.mapState (fun next => (left, next))
      | _ => turn.mapState (fun next => (left + 1, next))
  abandoned state := source.abandoned state.2

/-- Rewrites the items one after the other with a state that every item may change. -/
def mapAccum {σ : Type} (start : σ) (step : σ → α → σ × β) (source : Source ε α) :
    Source ε β where
  State := σ × source.State
  state := (start, source.state)
  pull state :=
    let turn := source.pull state.2
    match turn.signal with
    | .item value =>
      let (kept, given) := step state.1 value
      ⟨turn.marks, .item given, (kept, turn.next)⟩
    | .pending => ⟨turn.marks, .pending, (state.1, turn.next)⟩
    | .ended => ⟨turn.marks, .ended, (state.1, turn.next)⟩
    | .crashed cause => ⟨turn.marks, .crashed cause, (state.1, turn.next)⟩
  abandoned state := source.abandoned state.2

/-- Folds all items of a source and gives the result as the only item.  While the source still has
items nothing is there. -/
def fold {σ : Type} (start : σ) (step : σ → α → σ) (source : Source ε α) : Source ε σ where
  State := Option (σ × source.State)
  state := some (start, source.state)
  pull
    | none => ⟨[], .ended, none⟩
    | some (folded, state) =>
      let turn := source.pull state
      match turn.signal with
      | .item value => ⟨turn.marks, .pending, some (step folded value, turn.next)⟩
      | .pending => ⟨turn.marks, .pending, some (folded, turn.next)⟩
      | .ended => ⟨turn.marks ++ source.abandoned turn.next, .item folded, none⟩
      | .crashed cause => ⟨turn.marks, .crashed cause, some (folded, turn.next)⟩
  abandoned
    | none => []
    | some (_, state) => source.abandoned state

/-- Waits for the first item of a source, or for its end, and goes on as the source that is selected
by it and by the remaining items. -/
def opening (source : Source ε α) (select : Option α → Source ε α → Source ε β) :
    Source ε β where
  State := source.State ⊕
    (first : Option α × source.State) × (select first.1 (source.inState first.2)).State
  state := .inl source.state
  pull
    | .inl state =>
      let turn := source.pull state
      let goOn (first : Option α) :=
        let selected := select first (source.inState turn.next)
        ((selected.pull selected.state).mapState
          (fun next => .inr ⟨(first, turn.next), next⟩)).after turn.marks
      match turn.signal with
      | .item first => goOn (some first)
      | .ended => goOn none
      | .pending => ⟨turn.marks, .pending, .inl turn.next⟩
      | .crashed cause => ⟨turn.marks, .crashed cause, .inl turn.next⟩
    | .inr ⟨first, state⟩ =>
      ((select first.1 (source.inState first.2)).pull state).mapState
        (fun next => .inr ⟨first, next⟩)
  abandoned
    | .inl state => source.abandoned state
    | .inr ⟨first, state⟩ => (select first.1 (source.inState first.2)).abandoned state

/-- Abandons one source and goes on as another. -/
def instead (source : Source ε α) (other : Source ε β) : Source ε β :=
  other.afterMarks source.farewell

/-- Gives one error and ends. -/
def failed (error : CallError) : Source ε (Outcome α) := ofList [.error error]

/-- How far a guarded source has come. -/
inductive GuardState (σ : Type) where
  /-- No error yet. -/
  | open (state : σ)
  /-- An error was given. -/
  | failed (state : σ)
  /-- The end was given in place of an item that followed an error. -/
  | shut (state : σ)
  deriving DecidableEq, Repr

/-- The state of the source that is guarded. -/
def GuardState.inner {σ : Type} : GuardState σ → σ
  | .open state | .failed state | .shut state => state

/-- The turn of a guarded source.  The pull that follows an error still asks the source and gives
the end in place of the item that comes, if one comes. -/
def guardedPull (source : Source ε (Outcome α)) :
    GuardState source.State → Turn ε (Outcome α) (GuardState source.State)
  | .open state =>
    let turn := source.pull state
    match turn.signal with
    | .item (.error _) => turn.mapState .failed
    | _ => turn.mapState .open
  | .failed state =>
    let turn := source.pull state
    match turn.signal with
    | .item _ => ⟨turn.marks, .ended, .shut turn.next⟩
    | _ => turn.mapState .failed
  | .shut state => ⟨[], .ended, .shut state⟩

/-- Ends a stream right after its first error, so that an error is always the last signal. -/
def guarded (source : Source ε (Outcome α)) : Source ε (Outcome α) where
  State := GuardState source.State
  state := .open source.state
  pull := source.guardedPull
  abandoned state := source.abandoned state.inner

/-- Rewrites the items that are no errors, which may fail. -/
def mapOutcome (rewriteItem : α → Outcome β) (source : Source ε (Outcome α)) :
    Source ε (Outcome β) :=
  source.map (fun item => item.bind rewriteItem)

end Source

/-- How a collection of items has come to its end. -/
inductive Ending where
  /-- The source has ended. -/
  | ended
  /-- There was one more item than wanted. -/
  | more
  /-- The source has crashed. -/
  | crashed (cause : Option String)
  /-- Nothing came for as many pulls as were allowed. -/
  | waiting
  deriving DecidableEq, Repr

/-- The items pulled from a source, with the marks that this has left. -/
structure Collected (ε α : Type) where
  /-- The marks of all pulls and of the farewell. -/
  marks : List ε
  /-- The items. -/
  items : List α
  /-- Why no more items were pulled. -/
  ending : Ending
  deriving DecidableEq, Repr

/-- Pulls up to `limit` items, looks whether there is one more, and abandons the source.  At most
`pulls` pulls are made. -/
def Source.collect {ε α : Type} (source : Source ε α) :
    (pulls limit : Nat) → source.State → Collected ε α
  | 0, _, state => ⟨source.abandoned state, [], .waiting⟩
  | pulls + 1, limit, state =>
    let turn := source.pull state
    let stop (ending : Ending) : Collected ε α :=
      ⟨turn.marks ++ source.abandoned turn.next, [], ending⟩
    match turn.signal with
    | .item value =>
      match limit with
      | 0 => stop .more
      | limit + 1 =>
        let rest := source.collect pulls limit turn.next
        ⟨turn.marks ++ rest.marks, value :: rest.items, rest.ending⟩
    | .pending =>
      let rest := source.collect pulls limit turn.next
      ⟨turn.marks ++ rest.marks, rest.items, rest.ending⟩
    | .ended => stop .ended
    | .crashed cause => stop (.crashed cause)

end ServiceMesh
