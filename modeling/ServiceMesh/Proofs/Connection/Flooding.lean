import ServiceMesh.Proofs.Connection.Delivery
import ServiceMesh.Proofs.Connection.Status

/-!
# More credits than a producer can hold

The credits of a producer are accounted for exactly: at every moment of a run they are those it
came to be with, and those its peer has granted, less those it has taken (`held_after`).  Nothing
bounds what the peer grants.  So the account of a producer may go beyond what it can hold, and the
reader of an open connection stops just if that has happened.

`Connection.credits_overflow_iff` says when it happens, that it takes many grants, and that a peer
can bring it about as long as a single producer is listed.  What such a flood leaves is what was
there before, on an open connection without a reader (`after_flood`).
-/

namespace ServiceMesh.Connection

/-! ## The credits of all producers -/

/-- The credits of the producers, in the order in which the producers have come to be. -/
def credits (connection : Connection) : List Nat := connection.producers.map Producer.credits

/-- The credits of the producer with a number. -/
def held (connection : Connection) (number : Nat) : Nat := (connection.credits[number]?).getD 0

section

variable {connection : Connection}

theorem held_of_present {number : Nat} {producer : Producer}
    (present : connection.producers[number]? = some producer) :
    connection.held number = producer.credits := by
  simp [held, credits, present]

theorem held_of_absent {number : Nat} (absent : connection.producers.length ≤ number) :
    connection.held number = 0 := by
  simp [held, credits, List.getElem?_eq_none_iff.mpr absent]

theorem credits_of_outbox {first second : Connection} (same : second.outbox = first.outbox) :
    second.credits = first.credits := by
  simp only [outbox, Prod.mk.injEq] at same
  rw [credits, credits, same.2]

/-- A change of how far a producer is costs no credits. -/
theorem credits_updateProducer (connection : Connection) (number : Nat)
    {change : Producer → Producer}
    (same : ∀ producer, (change producer).credits = producer.credits) :
    (connection.updateProducer number change).credits = connection.credits := by
  apply List.ext_getElem?
  intro other
  by_cases here : number = other
  · subst here
    cases found : connection.producers[number]? with
    | none => simp [credits, updateProducer, found]
    | some producer => simp [credits, updateProducer, found, same]
  · simp [credits, updateProducer, List.getElem?_modify_ne _ _ here]

theorem held_updateProducer (connection : Connection) (number : Nat)
    {change : Producer → Producer} {other : Nat} (apart : number ≠ other) :
    (connection.updateProducer number change).held other = connection.held other := by
  simp [held, credits, updateProducer, List.getElem?_modify_ne _ _ apart]

theorem credits_cancelOutbound (connection : Connection) (streamId : UInt64) :
    (connection.cancelOutbound streamId).credits = connection.credits := by
  cases listed : connection.outbound.find? streamId with
  | none => rw [cancelOutbound_of_none listed]
  | some number =>
      rw [cancelOutbound_of_some listed]
      exact credits_updateProducer _ number fun _ => rfl

theorem credits_cancelOutbounds (connection : Connection) :
    connection.cancelOutbounds.credits = connection.credits := by
  rw [cancelOutbounds]
  generalize connection.outbound.keys = streamIds
  induction streamIds generalizing connection with
  | nil => rfl
  | cons streamId streamIds induction =>
      rw [List.foldl_cons, induction, credits_cancelOutbound]

theorem credits_close (connection : Connection) :
    connection.close.credits = connection.credits := by
  cases running : connection.isClosed with
  | true => rw [close_of_closed running]
  | false =>
      rw [close_of_open running, credits_cancelOutbounds,
        credits_of_outbox (outbox_failSinks _ _)]
      rfl

theorem credits_endProducer (connection : Connection) (number : Nat) (streamId : UInt64) :
    (connection.endProducer number streamId).credits = connection.credits :=
  credits_updateProducer connection number fun _ => rfl

theorem credits_produce (connection : Connection) (number : Nat)
    (signal : Signal (Outcome Message)) :
    (connection.produce number signal).credits = connection.credits := by
  simp only [produce, send_eq]
  repeat' split
  · rfl
  · rw [credits_endProducer]
    exact credits_of_outbox (outbox_post _ _)
  · refine (credits_updateProducer _ number ?_).trans (credits_of_outbox (outbox_post _ _))
    intro producer
    rfl
  · rfl

theorem credits_respond (connection : Connection) (number : Nat) (result : Outcome Message) :
    (connection.respond number result).credits = connection.credits := by
  simp only [respond]
  split
  · rw [credits_endProducer]
    exact credits_of_outbox (outbox_post _ _)
  · rfl

theorem credits_dropInbound (connection : Connection) (number : Nat) :
    (connection.dropInbound number).credits = connection.credits := by
  simp only [dropInbound]
  repeat' split
  · rfl
  · rfl
  · rw [credits_cancelOutbound]
    exact credits_of_outbox (outbox_cancelSink _ _)
  · exact credits_of_outbox (outbox_cancelSink _ _)

/-! ## The account of one producer -/

/-- The credits with which the producer of a number comes to be at a step. -/
def Step.endows (number : Nat) (step : Step) : Nat :=
  if step.before.producers.length = number then step.after.held number else 0

/-- The credits that a step grants to the producer with a number. -/
def Step.grants (number : Nat) (step : Step) : Nat :=
  match step.taken with
  | some (.requestN streamId count) =>
    if step.before.outbound.find? streamId = some number then count.toNat else 0
  | _ => 0

/-- The credits that the producer with a number takes at a step. -/
def Step.draws (number : Nat) (step : Step) : Nat :=
  match step.action with
  | .takeCredit taking =>
    if taking = number ∧ (step.before.producers[number]?).any (fun producer =>
        producer.phase = .waiting && 0 < producer.credits) then 1 else 0
  | _ => 0

/-- What the steps of a history make together. -/
def total (reading : Step → Nat) (history : List Step) : Nat := (history.map reading).sum

theorem total_concat (reading : Step → Nat) (history : List Step) (step : Step) :
    total reading (history ++ [step]) = total reading history + reading step := by
  simp [total]

/-- What an action leaves a producer, and what the producer takes, is what it had, what it comes to
be with and what it is granted. -/
def Balances (connection : Connection) (action : Action) (number : Nat) : Prop :=
  (connection.perform action).2.held number + Step.draws number ⟨connection, action⟩ =
    connection.held number + Step.endows number ⟨connection, action⟩ +
      Step.grants number ⟨connection, action⟩

theorem grants_of_other {action : Action} (number : Nat)
    (other : ∀ streamId count, action ≠ .receive (.requestN streamId count)) :
    Step.grants number ⟨connection, action⟩ = 0 := by
  simp only [Step.grants, Step.taken]
  split
  · rename_i streamId count taken
    split at taken
    · rename_i frame
      split at taken
      · rw [Option.some.injEq] at taken
        exact (other streamId count (by rw [← taken])).elim
      · cases taken
    · cases taken
  · rfl

theorem draws_of_other {action : Action} (number : Nat)
    (other : ∀ taking, action ≠ .takeCredit taking) :
    Step.draws number ⟨connection, action⟩ = 0 := by
  cases action with
  | takeCredit taking => exact (other taking rfl).elim
  | _ => rfl

/-- A producer that is there already comes to be no more. -/
theorem endows_of_length {action : Action} (number : Nat)
    (same : (connection.perform action).2.producers.length = connection.producers.length) :
    Step.endows number ⟨connection, action⟩ = 0 := by
  simp only [Step.endows]
  split
  · rename_i here
    exact held_of_absent (Nat.le_of_eq (same.trans here))
  · rfl

/-- A producer has a credit to take, or does not take one. -/
theorem ready_or_idle (connection : Connection) (taking : Nat) :
    (∃ streamId credits,
        connection.producers[taking]? = some ⟨streamId, credits + 1, .waiting⟩) ∨
      ∀ producer, connection.producers[taking]? = some producer →
        producer.phase ≠ .waiting ∨ producer.credits = 0 := by
  by_contra neither
  simp only [not_or, not_forall, not_exists, ne_eq, not_not] at neither
  rcases neither with ⟨unready, ⟨streamId, credits, phase⟩, present, waits, some_⟩
  obtain rfl : phase = .waiting := waits
  obtain ⟨others, rfl⟩ : ∃ others, credits = others + 1 := Nat.exists_eq_succ_of_ne_zero some_
  exact unready streamId others present

theorem draws_of_idle {taking : Nat}
    (idle : ∀ producer, connection.producers[taking]? = some producer →
      producer.phase ≠ .waiting ∨ producer.credits = 0) (number : Nat) :
    Step.draws number ⟨connection, .takeCredit taking⟩ = 0 := by
  simp only [Step.draws]
  split
  · rename_i drawn
    rcases drawn with ⟨rfl, ready⟩
    rcases Option.any_eq_true .. |>.mp ready with ⟨producer, present, both⟩
    rcases idle producer present with other | empty
    · simp [other] at both
    · simp [empty] at both
  · rfl

theorem balances_takeCredit (connection : Connection) (taking number : Nat) :
    Balances connection (.takeCredit taking) number := by
  have length : (connection.perform (.takeCredit taking)).2.producers.length =
      connection.producers.length := (narrows_perform connection rfl).producers_length
  rw [Balances, endows_of_length number length, grants_of_other number (by simp)]
  change (connection.takeCredit taking).held number + _ = _
  rcases ready_or_idle connection taking with ⟨streamId, credits, present⟩ | idle
  · rw [takeCredit_of_waiting present]
    by_cases same : taking = number
    · subst same
      have later : (connection.updateProducer taking fun producer => { producer with
          credits := producer.credits - 1, phase := .pulling }).producers[taking]? =
          some ⟨streamId, credits, .pulling⟩ := by
        simp [updateProducer, present]
      rw [held_of_present later, held_of_present present]
      simp [Step.draws, present]
    · rw [held_updateProducer _ _ same]
      simp [Step.draws, same]
  · rw [takeCredit_of_idle idle, draws_of_idle idle number, Nat.add_zero]

theorem held_receiveGrant (wired : Wired connection) (streamId : UInt64) (count : UInt32)
    (number : Nat) :
    (connection.receiveGrant streamId count).held number =
      connection.held number +
        (if connection.outbound.find? streamId = some number then count.toNat else 0) := by
  cases listed : connection.outbound.find? streamId with
  | none => simp [receiveGrant, listed]
  | some found =>
      have granted : (connection.receiveGrant streamId count).held number =
          (connection.updateProducer found (fun producer =>
            { producer with credits := producer.credits + count.toNat })).held number := by
        simp only [receiveGrant, listed]
        split <;> rfl
      rw [granted]
      by_cases same : found = number
      · subst same
        rcases wired.producer streamId found listed with ⟨producer, present, -⟩
        have later : (connection.updateProducer found (fun producer =>
            { producer with credits := producer.credits + count.toNat })).producers[found]? =
            some { producer with credits := producer.credits + count.toNat } := by
          simp [updateProducer, present]
        rw [held_of_present later, held_of_present present, if_pos rfl]
      · rw [held_updateProducer _ _ same, if_neg (by simpa using same), Nat.add_zero]

/-- Apart from a grant and from a credit that is taken, an action that opens and accepts no call
leaves all credits as they are. -/
theorem credits_of_settled {action : Action} (settled : action.mayAdd = false)
    (ungranted : ∀ streamId count, action ≠ .receive (.requestN streamId count))
    (undrawn : ∀ taking, action ≠ .takeCredit taking) :
    (connection.perform action).2.credits = connection.credits := by
  cases action with
  | pollReply number => exact credits_of_outbox (outbox_pollReply _ _)
  | dropReply number => exact credits_of_outbox (outbox_dropReply _ _)
  | pullInbound number => exact credits_of_outbox (outbox_pullInbound _ _)
  | dropInbound number => exact credits_dropInbound _ _
  | takeCredit taking => exact (undrawn taking rfl).elim
  | produce number signal => exact credits_produce _ _ _
  | respond number result => exact credits_respond _ _ _
  | receive frame =>
      cases reading : connection.reads with
      | false =>
          simp only [perform, receive_stopped reading, Prod.map_snd, id_eq]
      | true =>
          cases frame with
          | request mode streamId envelope => simp [Action.mayAdd] at settled
          | next streamId envelope =>
              simp only [perform, receive_next reading]
              exact credits_of_outbox (outbox_receiveNext _ _ _)
          | complete streamId =>
              simp only [perform, receive_complete reading]
              rfl
          | error streamId code text =>
              simp only [perform, receive_error reading]
              exact credits_of_outbox (outbox_failSink _ _ _)
          | cancel streamId =>
              cases side : connection.role with
              | client =>
                  simp only [perform, receive_cancel_client reading side]
                  exact credits_cancelOutbound _ _
              | server =>
                  simp only [perform, receive_cancel_server reading side]
                  exact credits_cancelOutbound _ _
          | requestN streamId count => exact (ungranted streamId count rfl).elim
  | transmit => exact credits_of_outbox (outbox_write _)
  | close | endReader | endWriter => exact credits_close _
  | _ => simp [Action.mayAdd, Action.opensCall] at settled

theorem balances_of_credits {action : Action} (number : Nat)
    (same : (connection.perform action).2.credits = connection.credits)
    (ungranted : ∀ streamId count, action ≠ .receive (.requestN streamId count))
    (undrawn : ∀ taking, action ≠ .takeCredit taking) :
    Balances connection action number := by
  have length := congrArg List.length same
  simp only [credits, List.length_map] at length
  rw [Balances, draws_of_other number undrawn, grants_of_other number ungranted,
    endows_of_length number length, held, same, held]

theorem balances_grant (wired : Wired connection) (streamId : UInt64) (count : UInt32)
    (number : Nat) :
    Balances connection (.receive (.requestN streamId count)) number := by
  have length : (connection.perform (.receive (.requestN streamId count))).2.producers.length =
      connection.producers.length := (narrows_perform connection rfl).producers_length
  rw [Balances, draws_of_other number (by simp), endows_of_length number length]
  cases reading : connection.reads with
  | false => simp [perform, receive_stopped reading, Step.grants, Step.taken, reading]
  | true =>
      simp only [perform, receive_requestN reading, Step.grants, Step.taken, reading, if_true]
      exact held_receiveGrant wired streamId count number

/-- A producer that comes to be brings its own credits and leaves those of the others. -/
theorem balances_opened {action : Action} {streamId : UInt64} {producer : Producer}
    (opened : NewProducer connection action streamId producer) (number : Nat) :
    Balances connection action number := by
  have apart : (∀ streamId count, action ≠ .receive (.requestN streamId count)) ∧
      ∀ taking, action ≠ .takeCredit taking := by
    cases opened.origin with
    | called opens _ =>
        constructor
        · rintro streamId count rfl
          cases opens
        · rintro taking rfl
          cases opens
    | accepted _ _ request _ => simp [request]
  rw [Balances, draws_of_other number apart.2, grants_of_other number apart.1]
  simp only [Step.endows, Step.after]
  rcases Nat.lt_trichotomy number connection.producers.length with below | here | beyond
  · have same : (connection.perform action).2.producers[number]? =
        connection.producers[number]? := by
      rw [opened.producers, List.getElem?_append_left below]
    have held_same : (connection.perform action).2.held number = connection.held number := by
      simp only [held, credits, List.getElem?_map, same]
    rw [held_same, if_neg (by omega)]
  · have new : connection.held number = 0 := held_of_absent (Nat.le_of_eq here.symm)
    rw [new, if_pos here.symm]
    omega
  · have length : (connection.perform action).2.producers.length ≤ number := by
      rw [opened.producers, List.length_append, List.length_singleton]
      omega
    rw [held_of_absent length, held_of_absent (Nat.le_of_lt beyond), if_neg (by omega)]

/-- An action keeps the account of every producer. -/
theorem balances_perform (wired : Wired connection) (action : Action) (number : Nat) :
    Balances connection action number := by
  rcases outbox_perform wired action with same | ⟨streamId, producer, opened⟩
  · cases adds : action.mayAdd with
    | true =>
        refine balances_of_credits number (credits_of_outbox (same adds)) ?_ ?_
        · rintro streamId count rfl
          cases adds
        · rintro taking rfl
          cases adds
    | false =>
        by_cases granted : ∃ streamId count, action = .receive (.requestN streamId count)
        · rcases granted with ⟨streamId, count, rfl⟩
          exact balances_grant wired streamId count number
        · by_cases drawn : ∃ taking, action = .takeCredit taking
          · rcases drawn with ⟨taking, rfl⟩
            exact balances_takeCredit connection taking number
          · have ungranted (streamId : UInt64) (count : UInt32) :
                action ≠ .receive (.requestN streamId count) :=
              fun same => granted ⟨streamId, count, same⟩
            have undrawn (taking : Nat) : action ≠ .takeCredit taking :=
              fun same => drawn ⟨taking, same⟩
            exact balances_of_credits number (credits_of_settled adds ungranted undrawn)
              ungranted undrawn
  · exact balances_opened opened number

theorem length_perform (wired : Wired connection) (action : Action) :
    connection.producers.length ≤ (connection.perform action).2.producers.length := by
  rcases producers_perform wired action with same | ⟨_, _, opened⟩
  · exact Nat.le_of_eq same.symm
  · simp [opened.producers]

/-- Whatever a producer comes to be with is a window of credits. -/
theorem endows_cases (wired : Wired connection) (action : Action) (number : Nat) :
    Step.endows number ⟨connection, action⟩ = 0 ∨
      connection.producers.length = number ∧
        number < (connection.perform action).2.producers.length ∧
        Step.endows number ⟨connection, action⟩ = connection.window := by
  rcases producers_perform wired action with same | ⟨streamId, producer, opened⟩
  · exact .inl (endows_of_length number same)
  · by_cases here : connection.producers.length = number
    · have present : (connection.perform action).2.producers[number]? = some producer := by
        rw [opened.producers, ← here, List.getElem?_concat_length]
      have brings : Step.endows number ⟨connection, action⟩ = producer.credits := by
        rw [Step.endows, if_pos here, Step.after, held_of_present present]
      have within := (List.getElem?_eq_some_iff.mp present).1
      rw [brings]
      cases opened.starts with
      | calling _ => exact .inr ⟨here, within, rfl⟩
      | streaming _ _ => exact .inr ⟨here, within, rfl⟩
      | answering _ => exact .inl rfl
    · exact .inl (if_neg here)

end

/-! ## The account over a run -/

section

variable (role : Role) (peer : String) (codec : MessageCodec) (config : Config)

/-- The credits of a producer are those it came to be with and those it was granted, less those it
has taken. -/
theorem held_after (actions : List Action) (number : Nat) :
    ((spawn role peer codec config).after actions).held number +
        total (Step.draws number) ((spawn role peer codec config).history actions) =
      total (Step.endows number) ((spawn role peer codec config).history actions) +
        total (Step.grants number) ((spawn role peer codec config).history actions) := by
  induction actions using List.reverseRecOn with
  | nil => rfl
  | append_singleton actions action induction =>
      have wired := wired_after (wired_spawn role peer codec config) actions
      have balance := balances_perform wired action number
      rw [Balances] at balance
      rw [after_concat, history_concat, total_concat, total_concat, total_concat]
      omega

/-- A producer comes to be once, with a window of credits or without credits. -/
theorem endowment_after (actions : List Action) (number : Nat) :
    (((spawn role peer codec config).after actions).producers.length ≤ number →
        total (Step.endows number) ((spawn role peer codec config).history actions) = 0) ∧
      (total (Step.endows number) ((spawn role peer codec config).history actions) = 0 ∨
        total (Step.endows number) ((spawn role peer codec config).history actions) =
          (spawn role peer codec config).window) := by
  induction actions using List.reverseRecOn with
  | nil => exact ⟨fun _ => rfl, .inl rfl⟩
  | append_singleton actions action induction =>
      have wired := wired_after (wired_spawn role peer codec config) actions
      have window := (extends_after (wired_spawn role peer codec config) actions).window
      have grows := length_perform wired action
      rw [after_concat, history_concat, total_concat]
      rcases endows_cases wired action number with nothing | ⟨here, within, whole⟩
      · rw [nothing, Nat.add_zero]
        exact ⟨fun beyond => induction.1 (Nat.le_trans grows beyond), induction.2⟩
      · rw [induction.1 (Nat.le_of_eq here), whole, Nat.zero_add]
        exact ⟨fun beyond => absurd within (Nat.not_lt.mpr beyond), .inr window⟩

/-! ## Few grants -/

theorem grants_le (number : Nat) (step : Step) :
    step.grants number ≤ step.taken.toList.countP Frame.isGrant * (2 ^ 32 - 1) := by
  simp only [Step.grants]
  split
  · rename_i streamId count taken
    have small : count.toNat < 2 ^ 32 := count.toNat_lt
    rw [taken]
    split
    · simp only [Option.toList_some, List.countP_cons, List.countP_nil, Frame.isGrant, if_true]
      omega
    · exact Nat.zero_le _
  · exact Nat.zero_le _

theorem total_grants_le (number : Nat) (history : List Step) :
    total (Step.grants number) history ≤
      (taken history).countP Frame.isGrant * (2 ^ 32 - 1) := by
  induction history using List.reverseRecOn with
  | nil => exact Nat.zero_le _
  | append_singleton history step induction =>
      have now := grants_le number step
      rw [total_concat, taken_concat, List.countP_append, Nat.add_mul]
      omega

end

/-! ## The reader -/

section

variable {connection : Connection}

theorem overflows_iff_held :
    connection.overflows ↔ ∃ number, creditLimit < connection.held number := by
  constructor
  · rintro ⟨number, producer, present, much⟩
    exact ⟨number, by rwa [held_of_present present]⟩
  · rintro ⟨number, much⟩
    cases found : connection.producers[number]? with
    | none =>
        rw [held_of_absent (List.getElem?_eq_none_iff.mp found)] at much
        exact (Nat.not_lt_zero _ much).elim
    | some producer =>
        rw [held_of_present found] at much
        exact ⟨number, producer, found, much⟩

/-- A grant that leaves the reader running leaves every producer with credits that it can hold. -/
theorem calm_receiveGrant {streamId : UInt64} {count : UInt32} (calm : ¬ connection.overflows)
    (reading : (connection.receiveGrant streamId count).reads = true) :
    ¬ (connection.receiveGrant streamId count).overflows := by
  simp only [receiveGrant] at reading ⊢
  split at reading
  · exact calm
  · rename_i found listed
    split at reading
    · rename_i fits
      rw [if_pos fits]
      rintro ⟨number, producer, present, much⟩
      by_cases same : found = number
      · subst same
        rw [present, Option.all_some, decide_eq_true_eq] at fits
        exact Nat.not_lt.mpr fits much
      · simp only [updateProducer, List.getElem?_modify_ne _ _ same] at present
        exact calm ⟨number, producer, present, much⟩
    · cases reading

/-- A step after which the reader runs leaves every producer with credits that it can hold. -/
theorem calm_of_reads (wired : Wired connection) (small : connection.window ≤ creditLimit)
    {action : Action} (calm : ¬ connection.overflows)
    (reading : (connection.perform action).2.reads = true) :
    ¬ (connection.perform action).2.overflows := by
  by_cases granted : ∃ streamId count, action = .receive (.requestN streamId count)
  · rcases granted with ⟨streamId, count, rfl⟩
    simp only [perform, receive_requestN (reads_earlier wired reading)] at reading ⊢
    exact calm_receiveGrant calm reading
  · rw [overflows_iff_held] at calm ⊢
    rintro ⟨number, much⟩
    have balance := balances_perform wired action number
    rw [Balances] at balance
    have ungranted : Step.grants number ⟨connection, action⟩ = 0 :=
      grants_of_other number fun streamId count same => granted ⟨streamId, count, same⟩
    have before : connection.held number ≤ creditLimit :=
      Nat.not_lt.mp fun more => calm ⟨number, more⟩
    rcases endows_cases wired action number with nothing | ⟨here, _, whole⟩
    · omega
    · have new : connection.held number = 0 := held_of_absent (Nat.le_of_eq here)
      omega

/-- A reader that runs after a run has run before it. -/
theorem reads_of_after (wired : Wired connection) {actions : List Action}
    (reading : (connection.after actions).reads = true) : connection.reads = true := by
  induction actions generalizing connection with
  | nil => exact reading
  | cons action actions induction =>
      exact reads_earlier wired (induction (extends_perform wired action).2 reading)

end

section

variable (role : Role) (peer : String) (codec : MessageCodec) (config : Config)

theorem window_spawn_lt : (spawn role peer codec config).window < 2 ^ 32 := by
  have small := config.streamWindow.toNat_lt
  simp only [spawn]
  omega

/-- As long as the reader runs, no producer has more credits than it can hold. -/
theorem calm_after {actions : List Action}
    (reading : ((spawn role peer codec config).after actions).reads = true) :
    ¬ ((spawn role peer codec config).after actions).overflows := by
  induction actions using List.reverseRecOn with
  | nil =>
      rintro ⟨number, producer, present, _⟩
      simp [spawn] at present
  | append_singleton actions action induction =>
      rw [after_concat] at reading ⊢
      have wired := wired_after (wired_spawn role peer codec config) actions
      have window := (extends_after (wired_spawn role peer codec config) actions).window
      have small := window_spawn_lt role peer codec config
      refine calm_of_reads wired ?_ (induction (reads_earlier wired reading)) reading
      rw [window, creditLimit]
      omega

/-- The reader of an open connection has stopped only if a producer had more credits than it can
hold. -/
theorem overflows_of_stopped {actions : List Action}
    (running : ((spawn role peer codec config).after actions).isClosed = false)
    (stopped : ((spawn role peer codec config).after actions).reads = false) :
    ∃ earlier, earlier <+: actions ∧
      ((spawn role peer codec config).after earlier).overflows := by
  induction actions using List.reverseRecOn with
  | nil => cases stopped
  | append_singleton actions action induction =>
      rw [after_concat] at running stopped
      have wired := wired_after (wired_spawn role peer codec config) actions
      cases reading : ((spawn role peer codec config).after actions).reads with
      | false =>
          have before := ((extends_perform wired action).1.running running).1
          rcases induction before reading with ⟨earlier, early, exceeded⟩
          exact ⟨earlier, early.trans (List.prefix_append _ _), exceeded⟩
      | true =>
          rcases reads_perform wired running reading with still | exceeded
          · rw [stopped] at still
            cases still
          · exact ⟨actions ++ [action], List.prefix_rfl, by rwa [after_concat]⟩

theorem stopped_of_overflows {earlier actions : List Action} (early : earlier <+: actions)
    (exceeded : ((spawn role peer codec config).after earlier).overflows) :
    ((spawn role peer codec config).after actions).reads = false := by
  by_contra running
  rw [Bool.not_eq_false] at running
  rcases early with ⟨later, rfl⟩
  have wired := wired_after (wired_spawn role peer codec config) earlier
  rw [after_append] at running
  exact calm_after role peer codec config (reads_of_after wired running) exceeded

end

/-! ## Floods -/

/-- The connection with more credits for the producer with a number. -/
def supply (connection : Connection) (number more : Nat) : Connection :=
  connection.updateProducer number (fun producer =>
    { producer with credits := producer.credits + more })

/-- The same grant, over and over. -/
def flood (streamId : UInt64) (count : UInt32) (times : Nat) : List Action :=
  List.replicate times (.receive (.requestN streamId count))

section

variable {connection : Connection} {streamId : UInt64} {number : Nat} {producer : Producer}

theorem flood_succ (streamId : UInt64) (count : UInt32) (times : Nat) :
    flood streamId count (times + 1) =
      flood streamId count times ++ [.receive (.requestN streamId count)] :=
  List.replicate_succ'

theorem supply_zero (connection : Connection) (number : Nat) :
    connection.supply number 0 = connection := by
  have same : connection.producers.modify number id = connection.producers :=
    List.modify_id _ _
  simp only [supply, updateProducer, Nat.add_zero]
  exact congrArg (fun producers => { connection with producers }) same

theorem supply_supply (connection : Connection) (number more further : Nat) :
    (connection.supply number more).supply number further =
      connection.supply number (more + further) := by
  simp only [supply, updateProducer, List.modify_modify_eq]
  congr 2
  funext producer
  simp [Nat.add_assoc]

theorem supply_present (present : connection.producers[number]? = some producer) (more : Nat) :
    (connection.supply number more).producers[number]? =
      some { producer with credits := producer.credits + more } := by
  simp [supply, updateProducer, present]

theorem overflows_supply {more : Nat} (listed : number < connection.producers.length)
    (much : creditLimit < connection.held number + more) :
    (connection.supply number more).overflows := by
  have present := List.getElem?_eq_getElem listed
  rw [held_of_present present] at much
  exact ⟨number, _, supply_present present more, much⟩

/-- One more grant to a listed producer. -/
theorem perform_grant (reading : connection.reads = true)
    (listed : connection.outbound.find? streamId = some number)
    (present : connection.producers[number]? = some producer) (more : Nat) (count : UInt32) :
    ((connection.supply number more).perform (.receive (.requestN streamId count))).2 =
      if producer.credits + more + count.toNat ≤ creditLimit then
        connection.supply number (more + count.toNat)
      else { connection.supply number (more + count.toNat) with reads := false } := by
  have running : (connection.supply number more).reads = true := reading
  have leads : (connection.supply number more).outbound.find? streamId = some number := listed
  have whole := supply_supply connection number more count.toNat
  have later := supply_present present (more + count.toNat)
  rw [← whole] at later ⊢
  simp only [supply] at later
  simp only [perform, receive_requestN running, Prod.map_snd, id_eq, receiveGrant, leads]
  simp only [supply, later, Option.all_some, decide_eq_true_eq, Nat.add_assoc]

theorem perform_stopped (stopped : connection.reads = false) (frame : Frame) :
    (connection.perform (.receive frame)).2 = connection := by
  simp [perform, receive_stopped stopped]

/-- While the producer can hold its credits, a flood does nothing but to add to them. -/
theorem after_flood_calm (reading : connection.reads = true)
    (listed : connection.outbound.find? streamId = some number)
    (present : connection.producers[number]? = some producer) (count : UInt32) {times : Nat}
    (fits : producer.credits + times * count.toNat ≤ creditLimit) :
    connection.after (flood streamId count times) =
      connection.supply number (times * count.toNat) := by
  induction times with
  | zero => rw [Nat.zero_mul, supply_zero]; rfl
  | succ times induction =>
      rw [Nat.succ_mul] at fits ⊢
      rw [flood_succ, after_concat, induction (by omega),
        perform_grant reading listed present _ count, if_pos (by omega)]

/-- A flood of more credits than the producer can hold stops the reader, and changes nothing else
but the credits. -/
theorem after_flood (reading : connection.reads = true)
    (listed : connection.outbound.find? streamId = some number)
    (present : connection.producers[number]? = some producer)
    (calm : producer.credits ≤ creditLimit) (count : UInt32) {times : Nat}
    (beyond : creditLimit < producer.credits + times * count.toNat) :
    ∃ grants, grants ≤ times ∧ creditLimit < producer.credits + grants * count.toNat ∧
      connection.after (flood streamId count times) =
        { connection.supply number (grants * count.toNat) with reads := false } := by
  induction times with
  | zero =>
      rw [Nat.zero_mul] at beyond
      exact (Nat.not_lt.mpr calm beyond).elim
  | succ times induction =>
      rw [flood_succ, after_concat]
      rcases Nat.lt_or_ge creditLimit (producer.credits + times * count.toNat) with already | fits
      · rcases induction already with ⟨grants, few, much, stopped⟩
        refine ⟨grants, Nat.le_succ_of_le few, much, ?_⟩
        rw [perform_stopped (by rw [stopped]), stopped]
      · refine ⟨times + 1, Nat.le_refl _, beyond, ?_⟩
        rw [Nat.succ_mul] at beyond ⊢
        rw [after_flood_calm reading listed present count fits,
          perform_grant reading listed present _ count, if_neg (by omega)]

/-- Where no producer is listed, grants do nothing. -/
theorem after_grants_of_unlisted (unlisted : ∀ streamId, connection.outbound.find? streamId = none)
    (grants : List (UInt64 × UInt32)) :
    connection.after (grants.map fun grant => .receive (.requestN grant.1 grant.2)) =
      connection := by
  induction grants with
  | nil => rfl
  | cons grant grants induction =>
      have same : (connection.perform (.receive (.requestN grant.1 grant.2))).2 = connection := by
        cases reading : connection.reads with
        | false => exact perform_stopped reading _
        | true => simp [perform, receive_requestN reading, receiveGrant, unlisted]
      rw [List.map_cons, after_cons, same]
      exact induction

end

/-! ## Main result -/

/-- What is known of the credits of all producers after a run. -/
structure CreditLaw (start : Connection) (actions : List Action) : Prop where
  /-- No credit is lost or made up. -/
  account : ∀ number,
    (start.after actions).held number + total (Step.draws number) (start.history actions) =
      total (Step.endows number) (start.history actions) +
        total (Step.grants number) (start.history actions)
  /-- A producer brings a window of credits, or none. -/
  endowment : ∀ number,
    total (Step.endows number) (start.history actions) = 0 ∨
      total (Step.endows number) (start.history actions) = start.window
  /-- There are too many just if the peer has granted too many. -/
  overflows_iff : (start.after actions).overflows ↔ ∃ number,
    creditLimit + total (Step.draws number) (start.history actions) <
      total (Step.endows number) (start.history actions) +
        total (Step.grants number) (start.history actions)
  /-- It takes very many grants. -/
  few : (taken (start.history actions)).countP Frame.isGrant < 2 ^ 29 →
    ¬ (start.after actions).overflows
  /-- Nothing else stops the reader of an open connection. -/
  stops_iff : (start.after actions).isClosed = false →
    ((start.after actions).reads = false ↔
      ∃ earlier, earlier <+: actions ∧ (start.after earlier).overflows)
  /-- A peer that is read can do it with grants alone, as long as a producer is listed. -/
  floods_iff : (start.after actions).reads = true →
    ((∃ grants : List (UInt64 × UInt32), ((start.after actions).after
        (grants.map fun grant => .receive (.requestN grant.1 grant.2))).overflows) ↔
      ∃ streamId number, (start.after actions).outbound.find? streamId = some number)
  /-- The connection then stays as it is, without a reader. -/
  flooded : (start.after actions).reads = true → ∀ streamId number,
    (start.after actions).outbound.find? streamId = some number →
      ∃ more, creditLimit < (start.after actions).held number + more ∧
        (start.after actions).after (flood streamId 0xFFFFFFFF (2 ^ 29 + 1)) =
          { (start.after actions).supply number more with reads := false }

section

variable (role : Role) (peer : String) (codec : MessageCodec) (config : Config)

theorem overflows_after_iff (actions : List Action) :
    ((spawn role peer codec config).after actions).overflows ↔ ∃ number,
      creditLimit + total (Step.draws number) ((spawn role peer codec config).history actions) <
        total (Step.endows number) ((spawn role peer codec config).history actions) +
          total (Step.grants number) ((spawn role peer codec config).history actions) := by
  rw [overflows_iff_held]
  refine exists_congr fun number => ?_
  have account := held_after role peer codec config actions number
  omega

theorem calm_of_few {actions : List Action}
    (few : (taken ((spawn role peer codec config).history actions)).countP Frame.isGrant <
      2 ^ 29) :
    ¬ ((spawn role peer codec config).after actions).overflows := by
  rw [overflows_after_iff]
  rintro ⟨number, much⟩
  have window := window_spawn_lt role peer codec config
  have granted := total_grants_le number ((spawn role peer codec config).history actions)
  rw [creditLimit] at much
  rcases (endowment_after role peer codec config actions number).2 with nothing | whole <;> omega

/-- A flood that is long enough stops the reader. -/
theorem flooded_after {actions : List Action} {streamId : UInt64} {number : Nat}
    (reading : ((spawn role peer codec config).after actions).reads = true)
    (listed : ((spawn role peer codec config).after actions).outbound.find? streamId =
      some number) :
    ∃ more, creditLimit < ((spawn role peer codec config).after actions).held number + more ∧
      ((spawn role peer codec config).after actions).after
          (flood streamId 0xFFFFFFFF (2 ^ 29 + 1)) =
        { ((spawn role peer codec config).after actions).supply number more with
          reads := false } := by
  have wired := wired_after (wired_spawn role peer codec config) actions
  rcases wired.producer streamId number listed with ⟨producer, present, -⟩
  have calm : producer.credits ≤ creditLimit := Nat.not_lt.mp fun much =>
    calm_after role peer codec config reading ⟨number, producer, present, much⟩
  have count : (0xFFFFFFFF : UInt32).toNat = 0xFFFFFFFF := rfl
  have beyond : creditLimit <
      producer.credits + (2 ^ 29 + 1) * (0xFFFFFFFF : UInt32).toNat := by
    rw [count, creditLimit]
    omega
  rcases after_flood reading listed present calm 0xFFFFFFFF beyond with
    ⟨grants, -, much, stopped⟩
  exact ⟨grants * (0xFFFFFFFF : UInt32).toNat, by rwa [held_of_present present], stopped⟩

/-- Whatever is sent to a connection and done on it, its producers and its reader keep the law. -/
theorem credits_overflow_iff (actions : List Action) :
    CreditLaw (spawn role peer codec config) actions where
  account number := held_after role peer codec config actions number
  endowment number := (endowment_after role peer codec config actions number).2
  overflows_iff := overflows_after_iff role peer codec config actions
  few := calm_of_few role peer codec config
  stops_iff running := by
    constructor
    · exact overflows_of_stopped role peer codec config running
    · rintro ⟨earlier, early, exceeded⟩
      exact stopped_of_overflows role peer codec config early exceeded
  floods_iff reading := by
    constructor
    · rintro ⟨grants, exceeded⟩
      by_contra unlisted
      rw [after_grants_of_unlisted] at exceeded
      · exact calm_after role peer codec config reading exceeded
      · intro streamId
        by_contra listed
        rcases Option.ne_none_iff_exists'.mp listed with ⟨number, found⟩
        exact unlisted ⟨streamId, number, found⟩
    · rintro ⟨streamId, number, listed⟩
      refine ⟨List.replicate (2 ^ 29 + 1) (streamId, 0xFFFFFFFF), ?_⟩
      have wired := wired_after (wired_spawn role peer codec config) actions
      rcases wired.producer streamId number listed with ⟨producer, present, -⟩
      rcases flooded_after role peer codec config reading listed with ⟨more, much, stopped⟩
      rw [List.map_replicate]
      exact stopped ▸ overflows_supply (List.getElem?_eq_some_iff.mp present).1 much
  flooded reading streamId number listed := flooded_after role peer codec config reading listed

end

/-- A call whose handler does not answer. -/
def hangingCall : List Action :=
  [.receive (.request .requestResponse 1 ⟨[], Utf8.encode "\x7b\"q\":\"A/hang\"\x7d"⟩)]

/-- A peer that grants credits to the one response of a call stops the reader of an open server. -/
theorem hangingCall_flooded :
    ((spawn .server "peer" (.ofRegistry .withJson) .standard).after
        (hangingCall ++ flood 1 0xFFFFFFFF (2 ^ 29 + 1))).overflows ∧
      ((spawn .server "peer" (.ofRegistry .withJson) .standard).after
        (hangingCall ++ flood 1 0xFFFFFFFF (2 ^ 29 + 1))).reads = false ∧
      ((spawn .server "peer" (.ofRegistry .withJson) .standard).after
        (hangingCall ++ flood 1 0xFFFFFFFF (2 ^ 29 + 1))).isClosed = false ∧
      ((spawn .server "peer" (.ofRegistry .withJson) .standard).after
        (hangingCall ++ flood 1 0xFFFFFFFF (2 ^ 29 + 1))).outbound = [(1, 0)] := by
  have reading : ((spawn .server "peer" (.ofRegistry .withJson) .standard).after
      hangingCall).reads = true := by
    decide +kernel
  have running : ((spawn .server "peer" (.ofRegistry .withJson) .standard).after
      hangingCall).isClosed = false := by
    decide +kernel
  have outbound : ((spawn .server "peer" (.ofRegistry .withJson) .standard).after
      hangingCall).outbound = [(1, 0)] := by
    decide +kernel
  have listed : ((spawn .server "peer" (.ofRegistry .withJson) .standard).after
      hangingCall).outbound.find? 1 = some 0 := by
    rw [outbound]
    rfl
  have there : 0 < ((spawn .server "peer" (.ofRegistry .withJson) .standard).after
      hangingCall).producers.length := by
    decide +kernel
  rcases flooded_after .server "peer" (.ofRegistry .withJson) .standard reading listed with
    ⟨more, much, stopped⟩
  rw [after_append, stopped]
  exact ⟨overflows_supply there much, rfl, running, outbound⟩

end ServiceMesh.Connection
