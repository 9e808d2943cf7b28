import ServiceMesh.Proofs.Connection.Exchange
import ServiceMesh.Proofs.Connection.Hearing

/-!
# The two sides of a link

What happens on a link happens on its sides: a run of the link is a run of either connection, whose
actions are `sideActions`.  The wires keep the order of the frames, so what one side has taken is the
first part of what the other one has sent (`taken_prefix_sent`), and what is missing is under way.
-/

namespace ServiceMesh

@[simp]
theorem Side.other_other (side : Side) : side.other.other = side := by
  cases side <;> rfl

theorem Side.other_ne (side : Side) : side.other ≠ side := by
  cases side <;> simp [Side.other]

theorem Side.eq_other_of_ne {side other : Side} (apart : other ≠ side) :
    other = side.other := by
  cases side <;> cases other <;> first | rfl | exact (apart rfl).elim

namespace Link

/-! ## Runs -/

/-- The link after a run. -/
def after (link : Link) (actions : List Action) : Link := (link.run actions).2

@[simp]
theorem after_nil (link : Link) : link.after [] = link := rfl

@[simp]
theorem after_cons (link : Link) (action : Action) (actions : List Action) :
    link.after (action :: actions) = (link.perform action).2.after actions := rfl

theorem after_append (link : Link) (first second : List Action) :
    link.after (first ++ second) = (link.after first).after second := by
  induction first generalizing link with
  | nil => rfl
  | cons action first induction => exact induction (link.perform action).2

@[simp]
theorem after_concat (link : Link) (actions : List Action) (action : Action) :
    link.after (actions ++ [action]) = ((link.after actions).perform action).2 := by
  rw [after_append, after_cons, after_nil]

/-- What an action of the link is for one of its sides. -/
def sideAction (link : Link) (side : Side) : Action → Option Connection.Action
  | .act acting action => if acting = side ∧ permits side action then some action else none
  | .transmit writing => if writing = side then some .transmit else none
  | .deliver taking =>
    if taking = side then (link.wire side).head?.map .receive else none

/-- What a run of the link is for one of its sides. -/
def sideActions (link : Link) (side : Side) : List Action → List Connection.Action
  | [] => []
  | action :: actions =>
    (link.sideAction side action).toList ++ (link.perform action).2.sideActions side actions

theorem sideActions_concat (link : Link) (side : Side) (actions : List Action)
    (action : Action) :
    link.sideActions side (actions ++ [action]) =
      link.sideActions side actions ++ ((link.after actions).sideAction side action).toList := by
  induction actions generalizing link with
  | nil => simp [sideActions]
  | cons first actions induction =>
      simp [sideActions, induction, List.append_assoc]

@[simp]
theorem connection_withConnection (link : Link) (side : Side) (connection : Connection) :
    (link.withConnection side connection).connection side = connection := by
  cases side <;> rfl

@[simp]
theorem connection_withConnection_other (link : Link) (side : Side)
    (connection : Connection) :
    (link.withConnection side connection).connection side.other =
      link.connection side.other := by
  cases side <;> rfl

@[simp]
theorem wire_withConnection (link : Link) (side other : Side) (connection : Connection) :
    (link.withConnection side connection).wire other = link.wire other := by
  cases side <;> rfl

@[simp]
theorem connection_withWire (link : Link) (side other : Side) (frames : List Frame) :
    (link.withWire side frames).connection other = link.connection other := by
  cases side <;> rfl

@[simp]
theorem wire_withWire (link : Link) (side : Side) (frames : List Frame) :
    (link.withWire side frames).wire side = frames := by
  cases side <;> rfl

@[simp]
theorem wire_withWire_other (link : Link) (side : Side) (frames : List Frame) :
    (link.withWire side frames).wire side.other = link.wire side.other := by
  cases side <;> rfl

theorem withWire_self (link : Link) (side : Side) :
    link.withWire side (link.wire side) = link := by
  cases side <;> rfl

theorem transmit_eq (link : Link) (side : Side) :
    (link.transmit side).2 =
      (link.withConnection side ((link.connection side).perform .transmit).2).withWire
        side.other (link.wire side.other ++
          (Connection.Step.written ⟨link.connection side, .transmit⟩).toList) := by
  have unchanged : (link.act side .transmit).2 =
      link.withConnection side ((link.connection side).perform .transmit).2 := rfl
  cases found : ((link.connection side).perform .transmit).1 with
  | written frame =>
      have shows : (link.act side .transmit).1 = .written frame := found
      cases frame with
      | none =>
          simp only [transmit, Connection.Step.written, Connection.Step.observation, found]
          rw [Option.toList_none, List.append_nil,
            ← wire_withConnection link side side.other
              ((link.connection side).perform .transmit).2, withWire_self]
          split
          · rename_i equal
            rw [shows] at equal
            simp at equal
          · exact unchanged
      | some frame =>
          simp only [transmit, Connection.Step.written, Connection.Step.observation, found]
          split
          · rename_i other equal
            rw [shows, Connection.Observation.written.injEq, Option.some.injEq] at equal
            subst equal
            rw [unchanged, wire_withConnection]
            rfl
          · rename_i other
            exact (other frame shows).elim
  | _ => simp [Connection.perform] at found

theorem deliver_of_nil {link : Link} {side : Side} (empty : link.wire side = []) :
    (link.deliver side).2 = link := by
  simp [deliver, empty]

theorem deliver_of_cons {link : Link} {side : Side} {frame : Frame} {frames : List Frame}
    (waits : link.wire side = frame :: frames) :
    (link.deliver side).2 =
      (link.withWire side frames).withConnection side
        ((link.connection side).perform (.receive frame)).2 := by
  simp [deliver, waits, act]

theorem sideAction_of_ne (link : Link) {side acting : Side} (apart : acting ≠ side) :
    (∀ action, link.sideAction side (.act acting action) = none) ∧
      link.sideAction side (.transmit acting) = none ∧
      link.sideAction side (.deliver acting) = none := by
  simp [sideAction, apart]

/-- An action of the link does to a side what it is for that side. -/
theorem connection_perform (link : Link) (side : Side) (action : Action) :
    (link.perform action).2.connection side =
      (link.sideAction side action).elim (link.connection side)
        (fun action => ((link.connection side).perform action).2) := by
  cases action with
  | act acting action =>
      by_cases same : acting = side
      · subst same
        cases allowed : permits acting action <;> simp [perform, sideAction, allowed, act]
      · rw [(sideAction_of_ne link same).1, Side.eq_other_of_ne (Ne.symm same)]
        cases allowed : permits acting action <;> simp [perform, allowed, act]
  | transmit writing =>
      have equal : (link.perform (.transmit writing)).2 = (link.transmit writing).2 := rfl
      rw [equal, transmit_eq, connection_withWire]
      by_cases same : writing = side
      · subst same
        simp [sideAction]
      · rw [(sideAction_of_ne link same).2.1, Side.eq_other_of_ne (Ne.symm same)]
        exact connection_withConnection_other _ _ _
  | deliver taking =>
      have equal : (link.perform (.deliver taking)).2 = (link.deliver taking).2 := rfl
      rw [equal]
      cases waits : link.wire taking with
      | nil =>
          rw [deliver_of_nil waits]
          by_cases same : taking = side
          · subst same
            simp [sideAction, waits]
          · rw [(sideAction_of_ne link same).2.2]
            rfl
      | cons frame frames =>
          rw [deliver_of_cons waits]
          by_cases same : taking = side
          · subst same
            simp [sideAction, waits]
          · rw [(sideAction_of_ne link same).2.2, Side.eq_other_of_ne (Ne.symm same)]
            simp

/-- A run of the link is a run of either side. -/
theorem connection_after (link : Link) (side : Side) (actions : List Action) :
    (link.after actions).connection side =
      (link.connection side).after (link.sideActions side actions) := by
  induction actions using List.reverseRecOn with
  | nil => rfl
  | append_singleton actions action induction =>
      rw [after_concat, sideActions_concat, connection_perform, Connection.after_append,
        ← induction]
      cases (link.after actions).sideAction side action <;> rfl

/-- The history of one side. -/
def history (link : Link) (side : Side) (actions : List Action) : List Connection.Step :=
  (link.connection side).history (link.sideActions side actions)

theorem history_concat (link : Link) (side : Side) (actions : List Action)
    (action : Action) :
    link.history side (actions ++ [action]) =
      link.history side actions ++
        (((link.after actions).sideAction side action).map (fun action =>
          Connection.Step.mk ((link.after actions).connection side) action)).toList := by
  rw [history, sideActions_concat, Connection.history_append, ← connection_after]
  cases (link.after actions).sideAction side action <;> rfl

/-- What is the first part of the run of a side is the run of the side in a first part of the run
of the link. -/
theorem exists_of_prefix (link : Link) (side : Side) (actions : List Action)
    {earlier : List Connection.Action} (early : earlier <+: link.sideActions side actions) :
    ∃ before, before <+: actions ∧ link.sideActions side before = earlier := by
  induction actions using List.reverseRecOn with
  | nil =>
      rw [sideActions, List.prefix_nil] at early
      exact ⟨[], List.prefix_rfl, early.symm⟩
  | append_singleton actions action induction =>
      have whole := sideActions_concat link side actions action
      cases found : (link.after actions).sideAction side action with
      | none =>
          rw [whole, found, Option.toList_none, List.append_nil] at early
          rcases induction early with ⟨before, within, same⟩
          exact ⟨before, within.trans (List.prefix_append _ _), same⟩
      | some last =>
          rw [found, Option.toList_some] at whole
          rw [whole, List.prefix_concat_iff] at early
          rcases early with all | early
          · exact ⟨actions ++ [action], List.prefix_rfl, whole.trans all.symm⟩
          · rcases induction early with ⟨before, within, same⟩
            exact ⟨before, within.trans (List.prefix_append _ _), same⟩

/-! ## The wires -/

theorem written_of_permits {side : Side} {action : Connection.Action}
    (allowed : permits side action = true) (connection : Connection) :
    Connection.Step.written ⟨connection, action⟩ = none := by
  cases action with
  | transmit => simp [permits] at allowed
  | _ => rfl

theorem arrived_of_permits {side : Side} {action : Connection.Action}
    (allowed : permits side action = true) (connection : Connection) :
    Connection.Step.arrived ⟨connection, action⟩ = none := by
  cases action with
  | receive frame => simp [permits] at allowed
  | _ => rfl

/-- The frame that one side writes with an action of the link. -/
def written (link : Link) (side : Side) (action : Action) : Option Frame :=
  (link.sideAction side action).bind (fun action =>
    Connection.Step.written ⟨link.connection side, action⟩)

/-- The frame that arrives on one side with an action of the link. -/
def arrived (link : Link) (side : Side) (action : Action) : Option Frame :=
  (link.sideAction side action).bind (fun action =>
    Connection.Step.arrived ⟨link.connection side, action⟩)

/-- Whatever happens at one end by itself leaves the wires alone. -/
theorem wire_act (link : Link) (side acting : Side) (action : Connection.Action) :
    link.written side (.act acting action) = none ∧ link.arrived side (.act acting action) = none ∧
      (link.perform (.act acting action)).2.wire side = link.wire side := by
  refine ⟨?_, ?_, ?_⟩
  · simp only [written, sideAction]
    split
    · rename_i allowed
      exact written_of_permits allowed.2 _
    · rfl
  · simp only [arrived, sideAction]
    split
    · rename_i allowed
      exact arrived_of_permits allowed.2 _
    · rfl
  · cases allowed : permits acting action <;> simp [perform, allowed, act]

/-- A write puts its frame at the end of the wire to the other side. -/
theorem wire_transmit (link : Link) (side writing : Side) :
    link.arrived side (.transmit writing) = none ∧
      (link.perform (.transmit writing)).2.wire side =
        link.wire side ++ (link.written side.other (.transmit writing)).toList := by
  have equal : (link.perform (.transmit writing)).2 = (link.transmit writing).2 := rfl
  rw [equal, transmit_eq]
  by_cases same : writing = side
  · subst same
    have silent : link.written writing.other (.transmit writing) = none := by
      rw [written, (sideAction_of_ne link (Side.other_ne writing).symm).2.1]
      rfl
    have kept := wire_withWire_other
      (link.withConnection writing ((link.connection writing).perform .transmit).2)
      writing.other (link.wire writing.other ++
        (Connection.Step.written ⟨link.connection writing, .transmit⟩).toList)
    rw [Side.other_other] at kept
    refine ⟨by simp [arrived, sideAction, Connection.Step.arrived], ?_⟩
    rw [silent, kept]
    simp
  · have other := Side.eq_other_of_ne same
    subst other
    refine ⟨?_, by simp [written, sideAction]⟩
    rw [arrived, (sideAction_of_ne link same).2.1]
    rfl

/-- A delivery takes its frame from the front of the wire. -/
theorem wire_deliver (link : Link) (side taking : Side) :
    link.written side (.deliver taking) = none ∧
      link.wire side =
        (link.arrived side (.deliver taking)).toList ++
          (link.perform (.deliver taking)).2.wire side := by
  have equal : (link.perform (.deliver taking)).2 = (link.deliver taking).2 := rfl
  rw [equal]
  by_cases same : taking = side
  · subst same
    cases waits : link.wire taking with
    | nil => simp [deliver_of_nil waits, written, arrived, sideAction, waits]
    | cons frame frames =>
        rw [deliver_of_cons waits]
        simp [written, arrived, sideAction, waits, Connection.Step.arrived,
          Connection.Step.written, Connection.Step.observation, Connection.perform]
  · have apart := (sideAction_of_ne link same).2.2
    have other := Side.eq_other_of_ne (Ne.symm same)
    refine ⟨by rw [written, apart]; rfl, ?_⟩
    have quiet : link.arrived side (.deliver taking) = none := by
      rw [arrived, apart]
      rfl
    rw [quiet]
    cases waits : link.wire taking with
    | nil => simp [deliver_of_nil waits]
    | cons frame frames =>
        rw [deliver_of_cons waits, wire_withConnection, other, wire_withWire_other]
        rfl

/-- A wire hands over first what was written first. -/
theorem wire_perform (link : Link) (side : Side) (action : Action) :
    link.wire side ++ (link.written side.other action).toList =
      (link.arrived side action).toList ++ (link.perform action).2.wire side := by
  cases action with
  | act acting action =>
      have wrote := (wire_act link side.other acting action).1
      rcases wire_act link side acting action with ⟨-, came, same⟩
      rw [wrote, came, same]
      simp
  | transmit writing =>
      rcases wire_transmit link side writing with ⟨came, same⟩
      rw [came, same]
      rfl
  | deliver taking =>
      have wrote := (wire_deliver link side.other taking).1
      rw [wrote, Option.toList_none, List.append_nil]
      exact (wire_deliver link side taking).2

/-- What a side has written has arrived at the other side, or is on the wire. -/
theorem written_eq_arrived_append_wire {link : Link} {side : Side}
    (blank : link.wire side = []) (actions : List Action) :
    Connection.written (link.history side.other actions) =
      Connection.arrived (link.history side actions) ++ (link.after actions).wire side := by
  induction actions using List.reverseRecOn with
  | nil => exact blank.symm
  | append_singleton actions action induction =>
      have moved := wire_perform (link.after actions) side action
      have wrote : Connection.written (link.history side.other (actions ++ [action])) =
          Connection.written (link.history side.other actions) ++
            ((link.after actions).written side.other action).toList := by
        rw [history_concat, written]
        cases (link.after actions).sideAction side.other action with
        | none => simp
        | some taken => exact Connection.written_concat _ _
      have came : Connection.arrived (link.history side (actions ++ [action])) =
          Connection.arrived (link.history side actions) ++
            ((link.after actions).arrived side action).toList := by
        rw [history_concat, arrived]
        cases (link.after actions).sideAction side action with
        | none => simp
        | some taken => exact Connection.arrived_concat _ _
      rw [after_concat, wrote, came, induction, List.append_assoc, List.append_assoc, moved]

end Link

end ServiceMesh
