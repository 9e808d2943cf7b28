import ServiceMesh.Proofs.Connection.Delivery
import ServiceMesh.Proofs.Connection.Status

/-!
# What is queued, written and read

The frames that were queued are those that were written and those that still wait, in this order.
They are the first of the frames that were sent, and all of them as long as the writer runs.  In the
same way the frames that were taken are the first of those that have arrived.
-/

namespace ServiceMesh.Connection

section

variable {connection : Connection}

/-- Only a write writes. -/
theorem written_of_ne {action : Action} (stays : action ≠ .transmit) :
    Step.written ⟨connection, action⟩ = none := by
  cases action with
  | transmit => exact (stays rfl).elim
  | _ => rfl

theorem queue_transmit :
    connection.queue =
      (Step.written ⟨connection, .transmit⟩).toList ++
        (connection.perform .transmit).2.queue := by
  simp only [Step.written, Step.observation, perform, write, transmit]
  cases waiting : connection.queue <;> simp [waiting]

theorem taken_eq (action : Action) :
    Step.taken ⟨connection, action⟩ =
      if connection.reads then Step.arrived ⟨connection, action⟩ else none := by
  cases action with
  | receive frame => rfl
  | _ => simp [Step.taken, Step.arrived]

end

variable {start : Connection}

theorem arrived_concat (history : List Step) (step : Step) :
    arrived (history ++ [step]) = arrived history ++ step.arrived.toList :=
  filterMap_concat _ _ _

/-- What was queued is what was written and what still waits. -/
theorem posted_eq_written_append_queue (wired : Wired start) (blank : start.queue = [])
    (actions : List Action) :
    posted (start.history actions) =
      written (start.history actions) ++ (start.after actions).queue := by
  induction actions using List.reverseRecOn with
  | nil => exact blank.symm
  | append_singleton actions action induction =>
      have wiredNow := wired_after wired actions
      rw [history_concat, after_concat, posted_concat, written_concat, induction,
        List.append_assoc, List.append_assoc]
      congr 1
      by_cases writes : action = .transmit
      · subst writes
        rw [← queue_transmit]
        exact List.append_nil _
      · have posts : Step.posted ⟨start.after actions, action⟩ =
            (start.after actions).admitted ((start.after actions).sends action) :=
          Step.posted_eq wiredNow
        rw [posts, written_of_ne writes, queue_perform wiredNow action writes]
        rfl

/-- What was queued is the first part of what was sent, and all of it while the writer runs. -/
theorem posted_prefix_sent (wired : Wired start) (actions : List Action) :
    posted (start.history actions) <+: sent (start.history actions) ∧
      ((start.after actions).writes = true →
        posted (start.history actions) = sent (start.history actions)) := by
  induction actions using List.reverseRecOn with
  | nil => exact ⟨List.nil_prefix, fun _ => rfl⟩
  | append_singleton actions action induction =>
      rcases induction with ⟨early, whole⟩
      have wiredNow := wired_after wired actions
      have posts : Step.posted ⟨start.after actions, action⟩ =
          (start.after actions).admitted ((start.after actions).sends action) :=
        Step.posted_eq wiredNow
      rw [history_concat, after_concat, posted_concat, sent_concat, posts]
      cases writing : (start.after actions).writes with
      | false =>
          rw [admitted, writing, if_neg (by decide), List.append_nil]
          refine ⟨early.trans (List.prefix_append _ _), fun later => ?_⟩
          rw [writes_earlier wiredNow later] at writing
          cases writing
      | true =>
          rw [admitted, writing, if_pos rfl, whole writing]
          exact ⟨List.prefix_rfl, fun _ => rfl⟩

/-- What was taken is the first part of what has arrived, and all of it while the reader runs. -/
theorem taken_prefix_arrived (wired : Wired start) (actions : List Action) :
    taken (start.history actions) <+: arrived (start.history actions) ∧
      ((start.after actions).reads = true →
        taken (start.history actions) = arrived (start.history actions)) := by
  induction actions using List.reverseRecOn with
  | nil => exact ⟨List.nil_prefix, fun _ => rfl⟩
  | append_singleton actions action induction =>
      rcases induction with ⟨early, whole⟩
      have wiredNow := wired_after wired actions
      rw [history_concat, after_concat, taken_concat, arrived_concat, taken_eq]
      cases reading : (start.after actions).reads with
      | false =>
          rw [if_neg (by decide), Option.toList_none, List.append_nil]
          refine ⟨early.trans (List.prefix_append _ _), fun later => ?_⟩
          rw [reads_earlier wiredNow later] at reading
          cases reading
      | true =>
          rw [if_pos rfl, whole reading]
          exact ⟨List.prefix_rfl, fun _ => rfl⟩

end ServiceMesh.Connection
