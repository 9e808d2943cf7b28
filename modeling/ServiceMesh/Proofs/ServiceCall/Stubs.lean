import ServiceMesh.Proofs.Flow.Guarding
import ServiceMesh.Proofs.Message.Headers
import ServiceMesh.Proofs.ServiceCall.Isolation
import ServiceMesh.Stub

/-!
# The qualifier under which a stub calls

All that a stub does with a service call is to hand it messages (`TypedStub.HandsOver`,
`RawStub.HandsOver`), and all its messages have one qualifier.  For a raw stub this is the qualifier
of its method.  The headers of a typed stub are written after the qualifier, so a header under the
reserved key of the qualifier puts its own text in the place of it (`TypedStub.target`).  Whatever
is served or registered under other qualifiers has no influence on what a stub gives
(`TypedStub.StaysWithin`, `RawStub.StaysWithin`).

A typed stub therefore calls the method that it is made for just if the last header of this kind
says so (`stubs_keep_qualifier_iff`).
-/

namespace ServiceMesh

universe u

variable {ε χ ω : Type}

namespace ServiceCall

variable {ρ : Type u}

/-- Makes a call with the message that is handed over, and without one leaves it at a refusal. -/
def conveying (call : ServiceCall ε χ ω) (handed : Outcome Message) (refuse : CallError → ρ)
    (make : Message → ServiceCall ε χ ω × ρ) : ServiceCall ε χ ω × ρ :=
  match handed with
  | .ok message => make message
  | .error error => (call, refuse error)

theorem conveying_isolated (call : ServiceCall ε χ ω) {qualifier : String}
    {handed : Outcome Message} {refuse : CallError → ρ}
    {make alone : Message → ServiceCall ε χ ω × ρ} {same : ρ → ρ → Prop}
    (reflexive : ∀ answers, same answers answers)
    (made : ∀ message, handed = .ok message → Isolated qualifier same (make message)
      (alone message)) :
    Isolated qualifier same (call.conveying handed refuse make)
      ((call.only qualifier).conveying handed refuse alone) := by
  cases handed with
  | ok message => exact made message rfl
  | error error => exact call.isolated_self qualifier (reflexive _)

end ServiceCall

theorem Binding.checkMode_eq_ok_iff {binding : Binding} {mode : Mode} :
    binding.checkMode mode = .ok () ↔ binding.mode = mode := by
  rw [checkMode]
  split <;> simp_all

open ServiceCall (Isolated)

/-! ## Typed stubs -/

namespace TypedStub

variable {α β : Type} [Wire α] [Wire β]

/-- The stub with headers written one after the other. -/
def withHeaders (stub : TypedStub) (additions : List (String × String)) : TypedStub :=
  additions.foldl (fun extended addition => extended.withHeader addition.1 addition.2) stub

/-- The message that a stub hands over for a request when it is called in a mode. -/
def handed (stub : TypedStub) (mode : Mode) (request : α) : Outcome Message :=
  (stub.binding.checkMode mode).bind fun _ => stub.message request

/-- The qualifier of the messages of a stub: that of its method, unless a header writes another. -/
def target (stub : TypedStub) : String :=
  (stub.headers.get? Reserved.qualifier.key).getD stub.binding.qualifier

/-- Every message that a stub hands over for a request of a type has the qualifier of its method. -/
def Keeps (stub : TypedStub) (α : Type) [Wire α] : Prop :=
  ∀ (mode : Mode) (request : α) (message : Message), stub.handed mode request = .ok message →
    message.qualifier = stub.binding.qualifier

theorem withHeaders_eq (stub : TypedStub) (additions : List (String × String)) :
    stub.withHeaders additions = { stub with headers := stub.headers.insertMany additions } := by
  induction additions generalizing stub with
  | nil => rfl
  | cons addition additions induction => exact induction (stub.withHeader addition.1 addition.2)

theorem target_withHeaders (space action : String) (mode : Mode)
    (additions : List (String × String)) :
    ((of β space action mode).withHeaders additions).target =
      (additions.reverse.lookup Reserved.qualifier.key).getD (Qualifier.join space action) := by
  rw [withHeaders_eq, target, Dict.get?_insertMany]
  show ((_ : Option String).or none).getD _ = _
  rw [Option.or_none]
  rfl

section

variable {stub : TypedStub} {mode : Mode} {request : α} {message : Message}

theorem qualifier_of_message (written : stub.message request = .ok message) :
    message.qualifier = stub.target := by
  -- The headers come after the qualifier, and the payload after both leaves it alone.
  have stored := Message.textAt_withHeaders (Message.blank.withQualifier stub.binding.qualifier)
    stub.headers.entries Reserved.qualifier.key
  rw [Dict.lookup_reverse stub.headers.ordered, Message.textAt_key, Message.textAt_key] at stored
  rw [TypedStub.message] at written
  cases content : Message.payloadOf request with
  | error error =>
      rw [content] at written
      cases written
  | ok payload =>
      rw [content] at written
      cases written
      exact Option.some.inj (stored.trans Option.or_some)

theorem exists_message_iff :
    (∃ message, stub.message request = .ok message) ↔
      ∃ payload, Message.payloadOf request = .ok payload := by
  rw [TypedStub.message]
  cases Message.payloadOf request with
  | error error => exact ⟨nofun, nofun⟩
  | ok payload => exact ⟨fun _ => ⟨payload, rfl⟩, fun _ => ⟨_, rfl⟩⟩

theorem handed_eq_ok_iff : stub.handed mode request = .ok message ↔
    stub.binding.mode = mode ∧ stub.message request = .ok message := by
  rw [handed, ← Binding.checkMode_eq_ok_iff]
  cases stub.binding.checkMode mode with
  | error error => exact ⟨nofun, nofun⟩
  | ok _ => exact ⟨fun written => ⟨rfl, written⟩, And.right⟩

theorem qualifier_of_handed (written : stub.handed mode request = .ok message) :
    message.qualifier = stub.target :=
  qualifier_of_message (handed_eq_ok_iff.mp written).2

end

/-- All that a typed stub does with a service call is to hand it messages and to read its answers. -/
structure HandsOver (stub : TypedStub) (call : ServiceCall ε χ ω) (β : Type) [Wire β] : Prop where
  send : ∀ {α : Type} [Wire α] (request : α), stub.send call request =
    call.conveying (stub.handed .fireAndForget request) (fun error => .of (.error error))
      call.fireAndForget
  request : ∀ {α : Type} [Wire α] (request : α), stub.request call β request =
    call.conveying (stub.handed .requestResponse request) (fun error => .of (.error error))
      fun message => (call.requestResponse message).map id fun reply =>
        reply.andThenOk fun response => .of (response.decodeData β call.codecs)
  stream : ∀ {α : Type} [Wire α] (request : α), stub.stream call β request =
    call.conveying (stub.handed .requestStream request) .failed
      fun message => (call.requestStream message).map id fun responses =>
        (responses.readings β call.codecs).guarded
  channel : ∀ {α : Type} [Wire α] (freshId : String) (first : Option α) (others : Source ε α),
    stub.binding.mode = .requestChannel → stub.channel call β freshId first others =
      (call.openChannel freshId (first.map (stub.handed .requestChannel))
        (others.map (stub.handed .requestChannel))).map id fun responses =>
          (responses.readings β call.codecs).guarded
  otherwise : ∀ {α : Type} [Wire α] (freshId : String) (first : Option α) (others : Source ε α),
    stub.binding.mode ≠ .requestChannel → stub.channel call β freshId first others =
      (call, (others.mapMarks .note).instead
        (.failed (Dispatcher.wrongMode stub.binding .requestChannel)))

/-- What a typed stub gives is the same where nothing but one qualifier is served and registered. -/
structure StaysWithin (stub : TypedStub) (call : ServiceCall ε χ ω) (β : Type) [Wire β]
    (qualifier : String) : Prop where
  send : ∀ {α : Type} [Wire α] (request : α), Isolated qualifier Eq
    (stub.send call request) (stub.send (call.only qualifier) request)
  request : ∀ {α : Type} [Wire α] (request : α), Isolated qualifier Eq
    (stub.request call β request) (stub.request (call.only qualifier) β request)
  stream : ∀ {α : Type} [Wire α] (request : α), Isolated qualifier Source.Alike
    (stub.stream call β request) (stub.stream (call.only qualifier) β request)
  channel : ∀ {α : Type} [Wire α] (freshId : String) (first : Option α) (others : Source ε α),
    Isolated qualifier Source.Alike (stub.channel call β freshId first others)
      (stub.channel (call.only qualifier) β freshId first others)

/-- A typed stub calls under a qualifier and under no other. -/
structure CallsUnder (stub : TypedStub) (call : ServiceCall ε χ ω) (β : Type) [Wire β]
    (qualifier : String) : Prop where
  /-- Its messages go to the service call and nothing else does. -/
  handsOver : stub.HandsOver call β
  /-- All of them have the qualifier. -/
  addressed : ∀ {α : Type} [Wire α] (mode : Mode) (request : α) (message : Message),
    stub.handed mode request = .ok message → message.qualifier = qualifier
  /-- What is served or registered under others has no influence. -/
  staysWithin : stub.StaysWithin call β qualifier

/-- Nothing is handed over in another mode, or for a request that cannot be written. -/
theorem conveying_handed (stub : TypedStub) (call : ServiceCall ε χ ω) (mode : Mode) (request : α)
    {ρ : Type u} (refuse : CallError → ρ) (make : Message → ServiceCall ε χ ω × ρ) :
    call.conveying (stub.handed mode request) refuse make =
      match stub.binding.checkMode mode, stub.message request with
      | .error error, _ | .ok _, .error error => (call, refuse error)
      | .ok _, .ok message => make message := by
  rw [handed]
  cases stub.binding.checkMode mode with
  | error error => rfl
  | ok _ => cases stub.message request <;> rfl

theorem handsOver (stub : TypedStub) (call : ServiceCall ε χ ω) (β : Type) [Wire β] :
    stub.HandsOver call β := by
  constructor
  case send => exact fun request => (stub.conveying_handed call _ request _ _).symm
  case request => exact fun request => (stub.conveying_handed call _ request _ _).symm
  case stream => exact fun request => (stub.conveying_handed call _ request _ _).symm
  case channel =>
    intro γ _ freshId first others fits
    have checked := Binding.checkMode_eq_ok_iff.mpr fits
    have same : stub.handed (α := γ) .requestChannel = stub.message := by
      funext request
      rw [handed, checked]
      rfl
    rw [TypedStub.channel, checked, same]
    rfl
  case otherwise =>
    intro _ _ freshId first others differs
    rw [TypedStub.channel, Binding.checkMode, if_neg differs]

theorem staysWithin (stub : TypedStub) (call : ServiceCall ε χ ω) (β : Type) [Wire β] :
    stub.StaysWithin call β stub.target := by
  have full := stub.handsOver call β
  have alone := stub.handsOver (call.only stub.target) β
  constructor
  case send =>
    intro _ _ request
    rw [full.send, alone.send]
    refine call.conveying_isolated (fun _ => rfl) fun message written => ?_
    exact call.fireAndForget_isolated (qualifier_of_handed written)
  case request =>
    intro _ _ request
    rw [full.request, alone.request]
    refine call.conveying_isolated (fun _ => rfl) fun message written => ?_
    refine (call.requestResponse_isolated (qualifier_of_handed written)).map ?_
    rintro reply _ rfl
    rfl
  case stream =>
    intro _ _ request
    rw [full.stream, alone.stream]
    refine call.conveying_isolated Source.Alike.refl fun message written => ?_
    refine (call.requestStream_isolated (qualifier_of_handed written)).map ?_
    exact fun _ _ alike => (alike.map _).guarded
  case channel =>
    intro _ _ freshId first others
    by_cases fits : stub.binding.mode = .requestChannel
    · rw [full.channel freshId first others fits, alone.channel freshId first others fits]
      refine (call.openChannel_isolated freshId _ ?_).map
        fun _ _ alike => (alike.map _).guarded
      intro message opens
      rcases Option.map_eq_some_iff.mp opens with ⟨request, -, written⟩
      exact qualifier_of_handed written
    · rw [full.otherwise freshId first others fits, alone.otherwise freshId first others fits]
      exact call.isolated_self _ (.refl _)

theorem callsUnder (stub : TypedStub) (call : ServiceCall ε χ ω) (β : Type) [Wire β] :
    stub.CallsUnder call β stub.target :=
  ⟨stub.handsOver call β, fun _ _ _ written => qualifier_of_handed written,
    stub.staysWithin call β⟩

/-- A stub keeps to its method just if no header puts another qualifier in its place, or if none of
the requests can be written. -/
theorem keeps_iff (stub : TypedStub) (α : Type) [Wire α] :
    stub.Keeps α ↔ stub.target = stub.binding.qualifier ∨
      ∀ (request : α) (payload : Payload), Message.payloadOf request ≠ .ok payload := by
  constructor
  · intro keeps
    by_cases writable : ∃ (request : α) (payload : Payload), Message.payloadOf request = .ok payload
    · rcases writable with ⟨request, payload, content⟩
      rcases exists_message_iff.mpr ⟨payload, content⟩ with ⟨message, written⟩
      refine .inl ((qualifier_of_message written).symm.trans ?_)
      exact keeps stub.binding.mode request message (handed_eq_ok_iff.mpr ⟨rfl, written⟩)
    · exact .inr fun request payload content => writable ⟨request, payload, content⟩
  · rintro (own | silent) mode request message written
    · exact (qualifier_of_handed written).trans own
    · have carries := (handed_eq_ok_iff.mp written).2
      rcases exists_message_iff.mp ⟨message, carries⟩ with ⟨payload, content⟩
      exact absurd content (silent request payload)

end TypedStub

/-! ## Raw stubs -/

namespace RawStub

/-- What a stub hands over for a message when it is called in a mode. -/
def handed (stub : RawStub) (mode : Mode) (message : Message) : Outcome Message :=
  (stub.binding.checkMode mode).map fun _ => stub.address message

theorem handed_eq_ok_iff {stub : RawStub} {mode : Mode} {message sent : Message} :
    stub.handed mode message = .ok sent ↔
      stub.binding.mode = mode ∧ stub.address message = sent := by
  rw [handed, ← Binding.checkMode_eq_ok_iff]
  cases stub.binding.checkMode mode with
  | error error => exact ⟨nofun, nofun⟩
  | ok _ => exact ⟨fun written => ⟨rfl, Except.ok.inj written⟩, fun sent => congrArg _ sent.2⟩

/-- All that a raw stub does with a service call is to hand it messages. -/
structure HandsOver (stub : RawStub) (call : ServiceCall ε χ ω) : Prop where
  send : ∀ message, stub.send call message =
    call.conveying (stub.handed .fireAndForget message) (fun error => .of (.error error))
      call.fireAndForget
  request : ∀ message, stub.request call message =
    call.conveying (stub.handed .requestResponse message) (fun error => .of (.error error))
      call.requestResponse
  stream : ∀ message, stub.stream call message =
    call.conveying (stub.handed .requestStream message) .failed call.requestStream
  channel : ∀ freshId first others, stub.binding.mode = .requestChannel →
    stub.channel call freshId first others =
      call.openChannel freshId (first.map fun item => item.bind (stub.handed .requestChannel))
        (others.mapOutcome (stub.handed .requestChannel))
  otherwise : ∀ freshId first others, stub.binding.mode ≠ .requestChannel →
    stub.channel call freshId first others = (call, (others.mapMarks .note).instead
      (.failed (Dispatcher.wrongMode stub.binding .requestChannel)))

/-- What a raw stub gives is the same where nothing but one qualifier is served and registered. -/
structure StaysWithin (stub : RawStub) (call : ServiceCall ε χ ω) (qualifier : String) : Prop where
  send : ∀ message, Isolated qualifier Eq
    (stub.send call message) (stub.send (call.only qualifier) message)
  request : ∀ message, Isolated qualifier Eq
    (stub.request call message) (stub.request (call.only qualifier) message)
  stream : ∀ message, Isolated qualifier Source.Alike
    (stub.stream call message) (stub.stream (call.only qualifier) message)
  channel : ∀ freshId first others, Isolated qualifier Source.Alike
    (stub.channel call freshId first others)
    (stub.channel (call.only qualifier) freshId first others)

/-- A raw stub calls under a qualifier and under no other. -/
structure CallsUnder (stub : RawStub) (call : ServiceCall ε χ ω) (qualifier : String) : Prop where
  /-- Its messages go to the service call and nothing else does. -/
  handsOver : stub.HandsOver call
  /-- They are the messages that the stub is given, but for the qualifier. -/
  addressed : ∀ (mode : Mode) (message sent : Message), stub.handed mode message = .ok sent →
    sent = { message with qualifier }
  /-- What is served or registered under others has no influence. -/
  staysWithin : stub.StaysWithin call qualifier

/-- Nothing is handed over in another mode. -/
theorem conveying_handed (stub : RawStub) (call : ServiceCall ε χ ω) (mode : Mode)
    (message : Message) {ρ : Type u} (refuse : CallError → ρ)
    (make : Message → ServiceCall ε χ ω × ρ) :
    call.conveying (stub.handed mode message) refuse make =
      match stub.binding.checkMode mode with
      | .error error => (call, refuse error)
      | .ok _ => make (stub.address message) := by
  rw [handed]
  cases stub.binding.checkMode mode <;> rfl

theorem handsOver (stub : RawStub) (call : ServiceCall ε χ ω) : stub.HandsOver call := by
  constructor
  case send => exact fun message => (stub.conveying_handed call _ message _ _).symm
  case request => exact fun message => (stub.conveying_handed call _ message _ _).symm
  case stream => exact fun message => (stub.conveying_handed call _ message _ _).symm
  case channel =>
    intro freshId first others fits
    have checked := Binding.checkMode_eq_ok_iff.mpr fits
    have same : stub.handed .requestChannel = fun message => .ok (stub.address message) := by
      funext message
      rw [handed, checked]
      rfl
    rw [RawStub.channel, checked, same]
    rfl
  case otherwise =>
    intro freshId first others differs
    rw [RawStub.channel, Binding.checkMode, if_neg differs]

theorem qualifier_of_handed {stub : RawStub} {mode : Mode} {message sent : Message}
    (written : stub.handed mode message = .ok sent) : sent.qualifier = stub.binding.qualifier :=
  (handed_eq_ok_iff.mp written).2 ▸ rfl

theorem staysWithin (stub : RawStub) (call : ServiceCall ε χ ω) :
    stub.StaysWithin call stub.binding.qualifier := by
  have full := stub.handsOver call
  have alone := stub.handsOver (call.only stub.binding.qualifier)
  constructor
  case send =>
    intro message
    rw [full.send, alone.send]
    refine call.conveying_isolated (fun _ => rfl) fun sent written => ?_
    exact call.fireAndForget_isolated (qualifier_of_handed written)
  case request =>
    intro message
    rw [full.request, alone.request]
    refine call.conveying_isolated (fun _ => rfl) fun sent written => ?_
    exact call.requestResponse_isolated (qualifier_of_handed written)
  case stream =>
    intro message
    rw [full.stream, alone.stream]
    refine call.conveying_isolated Source.Alike.refl fun sent written => ?_
    exact call.requestStream_isolated (qualifier_of_handed written)
  case channel =>
    intro freshId first others
    by_cases fits : stub.binding.mode = .requestChannel
    · rw [full.channel freshId first others fits, alone.channel freshId first others fits]
      -- An error in the place of the first message is refused wherever the call goes.
      refine call.openChannel_isolated freshId _ fun sent opens => ?_
      rcases Option.map_eq_some_iff.mp opens with ⟨error | message, -, written⟩
      · cases written
      · exact qualifier_of_handed written
    · rw [full.otherwise freshId first others fits, alone.otherwise freshId first others fits]
      exact call.isolated_self _ (.refl _)

theorem callsUnder (stub : RawStub) (call : ServiceCall ε χ ω) :
    stub.CallsUnder call stub.binding.qualifier :=
  ⟨stub.handsOver call, fun _ _ _ written => (handed_eq_ok_iff.mp written).2.symm,
    stub.staysWithin call⟩

end RawStub

/-! ## Main result -/

/-- What the stubs of a method do, whatever headers are added to them. -/
structure StubsCall (call : ServiceCall ε χ ω) (space action : String) (mode : Mode) : Prop where
  /-- A raw stub calls under the qualifier of the method. -/
  raw : (RawStub.of space action mode).CallsUnder call (Qualifier.join space action)
  /-- A typed stub calls under the qualifier that the last header for it says, and under that of the
  method if there is none. -/
  typed : ∀ (β : Type) [Wire β] (additions : List (String × String)),
    ((TypedStub.of β space action mode).withHeaders additions).CallsUnder call β
      ((additions.reverse.lookup Reserved.qualifier.key).getD (Qualifier.join space action))
  /-- So it keeps to the method just if that header, if there is one, says the same qualifier.  Of
  requests that cannot be written nothing is handed over. -/
  keeps_iff : ∀ (β α : Type) [Wire β] [Wire α] (additions : List (String × String)),
    ((TypedStub.of β space action mode).withHeaders additions).Keeps α ↔
      (∀ text, additions.reverse.lookup Reserved.qualifier.key = some text →
        text = Qualifier.join space action) ∨
      ∀ (request : α) (payload : Payload), Message.payloadOf request ≠ .ok payload

/-- A typed stub keeps to the qualifier of its method just if no header says another, a raw stub
always does, and either is answered under one qualifier only. -/
theorem stubs_keep_qualifier_iff (call : ServiceCall ε χ ω) (space action : String) (mode : Mode) :
    StubsCall call space action mode := by
  constructor
  case raw => exact (RawStub.of space action mode).callsUnder call
  case typed =>
    intro β _ additions
    rw [← TypedStub.target_withHeaders (β := β) space action mode]
    exact TypedStub.callsUnder _ call β
  case keeps_iff =>
    intro β α _ _ additions
    rw [TypedStub.keeps_iff, TypedStub.target_withHeaders, TypedStub.withHeaders_eq]
    refine or_congr ?_ Iff.rfl
    show _ = Qualifier.join space action ↔ _
    cases additions.reverse.lookup Reserved.qualifier.key with
    | none => exact ⟨fun _ => nofun, fun _ => rfl⟩
    | some text => exact ⟨fun same _ found => Option.some.inj found ▸ same, fun same => same _ rfl⟩

/-- A stub whose header names another method. -/
def divertedStub : TypedStub :=
  (TypedStub.of String "A" "x" .requestResponse).withHeaders [("q", "B/y")]

/-- A typed stub need not keep to its method. -/
theorem divertedStub_strays : ¬ divertedStub.Keeps String := by
  intro keeps
  have same := keeps .requestResponse "joe" _ rfl
  revert same
  decide

end ServiceMesh
