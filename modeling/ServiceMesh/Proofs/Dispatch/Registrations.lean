import Mathlib.Data.List.Basic
import Mathlib.Data.List.Induction
import ServiceMesh.Proofs.Dispatch.Table

/-!
# What is registered

A service is made by registrations, one after the other (`Service.registered_iff`).  Each of them adds
at most one method, and tags aside the methods of a service are those that its registrations add
(`methods_made`).  So an offer, which lists the registrations of every service, says of each message
whether a dispatcher that is built from it has a handler for it (`handler_of_registered`), or why it
has none (`handler_eq_error_iff`).
-/

namespace ServiceMesh

variable {ε : Type}

/-- One thing that is done to a service while it is made. -/
inductive Registration (ε : Type) : Type 1 where
  /-- A tag of the service is written. -/
  | tag (key value : String)
  /-- A tag of a method is written. -/
  | methodTag (action key value : String)
  /-- A handler of values is registered, which gives nothing back. -/
  | fireAndForget (α : Type) [Wire α] (action : String) (handle : α → Reply ε (Outcome Unit))
  /-- A handler is registered that answers a value with a value. -/
  | requestResponse (α β : Type) [Wire α] [Wire β] (action : String)
    (handle : α → Reply ε (Outcome β))
  /-- A handler is registered that answers a value with a stream of values. -/
  | requestStream (α β : Type) [Wire α] [Wire β] (action : String)
    (handle : α → Source ε (Outcome β))
  /-- A handler is registered that answers a stream of values with a stream of values. -/
  | requestChannel (α β : Type) [Wire α] [Wire β] (action : String)
    (handle : Source ε (Outcome α) → Source ε (Outcome β))
  /-- A handler of messages is registered, which gives nothing back. -/
  | rawFireAndForget (action : String) (handle : Message → Launch ε (Outcome Unit))
  /-- A handler is registered that answers a message with a message. -/
  | rawRequestResponse (action : String) (handle : Message → Reply ε (Outcome Message))
  /-- A handler is registered that answers a message with a stream of messages. -/
  | rawRequestStream (action : String) (handle : Message → Source ε (Outcome Message))
  /-- A handler is registered that answers a stream of messages with a stream of messages. -/
  | rawRequestChannel (action : String)
    (handle : Source ε (Outcome Message) → Source ε (Outcome Message))

namespace Service

/-- The service after a registration. -/
def register (service : Service ε) : Registration ε → Service ε
  | .tag key value => service.withTag key value
  | .methodTag action key value => service.withMethodTag action key value
  | @Registration.fireAndForget _ α _ action handle => service.fireAndForget α action handle
  | @Registration.requestResponse _ α β _ _ action handle =>
    service.requestResponse α β action handle
  | @Registration.requestStream _ α β _ _ action handle => service.requestStream α β action handle
  | @Registration.requestChannel _ α β _ _ action handle => service.requestChannel α β action handle
  | .rawFireAndForget action handle => service.rawFireAndForget action handle
  | .rawRequestResponse action handle => service.rawRequestResponse action handle
  | .rawRequestStream action handle => service.rawRequestStream action handle
  | .rawRequestChannel action handle => service.rawRequestChannel action handle

/-- The service of a namespace after some registrations. -/
def made (space : String) (registrations : List (Registration ε)) : Service ε :=
  registrations.foldl register (.named space)

theorem made_concat (space : String) (registrations : List (Registration ε))
    (registration : Registration ε) :
    made space (registrations ++ [registration]) =
      (made space registrations).register registration :=
  List.foldl_concat ..

theorem Registered.register {service : Service ε} (registered : service.Registered)
    (registration : Registration ε) : (service.register registration).Registered := by
  cases registration with
  | tag key value => exact registered.withTag key value
  | methodTag action key value => exact registered.withMethodTag action key value
  | fireAndForget α action handle => exact registered.fireAndForget α action handle
  | requestResponse α β action handle => exact registered.requestResponse α β action handle
  | requestStream α β action handle => exact registered.requestStream α β action handle
  | requestChannel α β action handle => exact registered.requestChannel α β action handle
  | rawFireAndForget action handle => exact registered.rawFireAndForget action handle
  | rawRequestResponse action handle => exact registered.rawRequestResponse action handle
  | rawRequestStream action handle => exact registered.rawRequestStream action handle
  | rawRequestChannel action handle => exact registered.rawRequestChannel action handle

theorem registered_made (space : String) (registrations : List (Registration ε)) :
    (made space registrations).Registered := by
  induction registrations using List.reverseRecOn with
  | nil => exact .named space
  | append_singleton registrations registration registered =>
      rw [made_concat]
      exact registered.register registration

/-- A service that has been made by registrations has been made by a list of them. -/
theorem registered_iff {service : Service ε} :
    service.Registered ↔ ∃ space registrations, service = made space registrations := by
  constructor
  · intro registered
    have step : ∀ {earlier : Service ε}, (∃ space registrations, earlier = made space registrations) →
        ∀ registration, ∃ space registrations,
          earlier.register registration = made space registrations := by
      rintro _ ⟨space, registrations, rfl⟩ registration
      exact ⟨space, registrations ++ [registration], (made_concat ..).symm⟩
    induction registered with
    | named space => exact ⟨space, [], rfl⟩
    | withTag key value _ made => exact step made (.tag key value)
    | withMethodTag action key value _ made => exact step made (.methodTag action key value)
    | fireAndForget α action handle _ made => exact step made (.fireAndForget α action handle)
    | requestResponse α β action handle _ made =>
        exact step made (.requestResponse α β action handle)
    | requestStream α β action handle _ made => exact step made (.requestStream α β action handle)
    | requestChannel α β action handle _ made => exact step made (.requestChannel α β action handle)
    | rawFireAndForget action handle _ made => exact step made (.rawFireAndForget action handle)
    | rawRequestResponse action handle _ made => exact step made (.rawRequestResponse action handle)
    | rawRequestStream action handle _ made => exact step made (.rawRequestStream action handle)
    | rawRequestChannel action handle _ made => exact step made (.rawRequestChannel action handle)
  · rintro ⟨space, registrations, rfl⟩
    exact registered_made space registrations

end Service

/-! ## Methods -/

/-- The method without its tags. -/
def Method.untagged (method : Method ε) : Method ε := { method with tags := Dict.empty }

/-- The methods that a registration adds to a service of a namespace: at most one. -/
def Registration.methods (space : String) (registration : Registration ε) : List (Method ε) :=
  ((Service.named space).register registration).methods

namespace Service

theorem map_untagged_tagFirst (action key value : String) (methods : List (Method ε)) :
    (tagFirst action key value methods).map Method.untagged = methods.map Method.untagged := by
  induction methods with
  | nil => rfl
  | cons method methods induction =>
      rw [tagFirst]
      split
      · rfl
      · exact congrArg (_ :: ·) induction

theorem map_untagged_withMethod (service : Service ε) (binding : Binding) (handler : Handler ε) :
    (service.withMethod binding handler).methods.map Method.untagged =
      service.methods.map Method.untagged ++ [⟨binding, Dict.empty, handler⟩] := by
  rw [withMethod, List.map_append]
  rfl

/-- A registration adds its methods, and leaves the others as they are except for their tags. -/
theorem methods_register (service : Service ε) (registration : Registration ε) :
    (service.register registration).methods.map Method.untagged =
        service.methods.map Method.untagged ++ registration.methods service.space ∧
      (service.register registration).space = service.space := by
  cases registration with
  | tag key value => exact ⟨(List.append_nil _).symm, rfl⟩
  | methodTag action key value =>
      exact ⟨(map_untagged_tagFirst ..).trans (List.append_nil _).symm, rfl⟩
  | _ => exact ⟨map_untagged_withMethod .., rfl⟩

/-- Tags aside, a service has the methods that its registrations add. -/
theorem methods_made (space : String) (registrations : List (Registration ε)) :
    (made space registrations).methods.map Method.untagged =
        registrations.flatMap (Registration.methods space) ∧
      (made space registrations).space = space := by
  induction registrations using List.reverseRecOn with
  | nil => exact ⟨rfl, rfl⟩
  | append_singleton registrations registration induction =>
      have step := methods_register (made space registrations) registration
      rw [induction.1, induction.2] at step
      rw [made_concat, List.flatMap_append, List.flatMap_singleton]
      exact step

end Service

/-! ## Offers -/

/-- The services that a process offers: their namespaces and their registrations. -/
abbrev Offer (ε : Type) : Type 1 := List (String × List (Registration ε))

namespace Offer

/-- The services of an offer. -/
def services (offer : Offer ε) : List (Service ε) := offer.map fun part => .made part.1 part.2

/-- The methods of an offer, without tags. -/
def methods (offer : Offer ε) : List (Method ε) :=
  offer.flatMap fun part => part.2.flatMap (Registration.methods part.1)

theorem map_untagged_services (offer : Offer ε) :
    (offer.services.flatMap Service.methods).map Method.untagged = offer.methods := by
  rw [services, methods, List.flatMap_map, List.map_flatMap]
  exact List.flatMap_congr fun part _ => (Service.methods_made part.1 part.2).1

/-- A method of an offer is a method of one of its services, tags aside. -/
theorem mem_methods {offer : Offer ε} {method : Method ε} :
    method ∈ offer.methods ↔
      ∃ tagged ∈ offer.services.flatMap Service.methods, tagged.untagged = method := by
  rw [← map_untagged_services]
  exact List.mem_map

theorem mem_methods_of_registration {offer : Offer ε} {part : String × List (Registration ε)}
    (member : part ∈ offer) {registration : Registration ε} (listed : registration ∈ part.2)
    {method : Method ε} (adds : registration.methods part.1 = [method]) :
    method ∈ offer.methods := by
  refine List.mem_flatMap.mpr ⟨part, member, List.mem_flatMap.mpr ⟨registration, listed, ?_⟩⟩
  rw [adds]
  exact List.mem_singleton_self method

end Offer

namespace Dispatcher

variable {codecs : CodecRegistry} {offer : Offer ε} {dispatcher : Dispatcher ε}

/-- Why a message is refused in a mode. -/
inductive Refused (offer : Offer ε) (mode : Mode) (message : Message) : CallError → Prop where
  /-- It has no qualifier. -/
  | unnamed (missing : message.qualifier = "") : Refused offer mode message missingQualifier
  /-- No method has its qualifier. -/
  | unknown (present : message.qualifier ≠ "")
      (apart : ∀ method ∈ offer.methods, method.binding.qualifier ≠ message.qualifier) :
      Refused offer mode message (.unavailable s!"No service registered for '{message.qualifier}'")
  /-- The method of its qualifier serves another mode. -/
  | wrongMode {method : Method ε} (member : method ∈ offer.methods)
      (named : method.binding.qualifier = message.qualifier) (other : method.binding.mode ≠ mode) :
      Refused offer mode message (wrongMode method.binding mode)

/-- A dispatcher finds the methods of its offer, each under its qualifier. -/
theorem handler_of_registered (built : build codecs offer.services = .ok dispatcher)
    {method : Method ε} (member : method ∈ offer.methods) {message : Message}
    (named : message.qualifier = method.binding.qualifier) (mode : Mode) :
    dispatcher.handler message mode =
      if method.binding.mode = mode then .ok method.handler
      else .error (wrongMode method.binding mode) := by
  rcases Offer.mem_methods.mp member with ⟨tagged, among, rfl⟩
  have found : dispatcher.methods.get? message.qualifier = some tagged :=
    (get?_of_build built).mpr ⟨among, named.symm⟩
  have present : message.qualifier ≠ "" := by
    rw [named]
    exact Qualifier.join_ne_empty _ _
  rw [handler, if_neg present, found]
  rfl

/-- So it finds what a registration has added. -/
theorem handler_of_registration (built : build codecs offer.services = .ok dispatcher)
    {part : String × List (Registration ε)} (member : part ∈ offer)
    {registration : Registration ε} (listed : registration ∈ part.2) {method : Method ε}
    (adds : registration.methods part.1 = [method]) {message : Message}
    (named : message.qualifier = method.binding.qualifier) :
    dispatcher.handler message method.binding.mode = .ok method.handler := by
  have found := Offer.mem_methods_of_registration member listed adds
  rw [handler_of_registered built found named, if_pos rfl]

theorem contains_of_registration (built : build codecs offer.services = .ok dispatcher)
    {part : String × List (Registration ε)} (member : part ∈ offer)
    {registration : Registration ε} (listed : registration ∈ part.2) {method : Method ε}
    (adds : registration.methods part.1 = [method]) :
    dispatcher.contains method.binding.qualifier = true := by
  have found := Offer.mem_methods_of_registration member listed adds
  rcases Offer.mem_methods.mp found with ⟨tagged, among, rfl⟩
  exact Option.isSome_iff_exists.mpr ⟨tagged, (get?_of_build built).mpr ⟨among, rfl⟩⟩

/-- A dispatcher finds no other methods. -/
theorem get?_eq_none (built : build codecs offer.services = .ok dispatcher) {qualifier : String}
    (apart : ∀ method ∈ offer.methods, method.binding.qualifier ≠ qualifier) :
    dispatcher.methods.get? qualifier = none := by
  rw [Option.eq_none_iff_forall_not_mem]
  intro tagged found
  rcases (get?_of_build built).mp found with ⟨among, named⟩
  exact apart tagged.untagged (Offer.mem_methods.mpr ⟨tagged, among, rfl⟩) named

/-- A message has no handler just if it has no qualifier, or no method has its qualifier, or this
method serves another mode. -/
theorem handler_eq_error_iff (built : build codecs offer.services = .ok dispatcher)
    {message : Message} {mode : Mode} {error : CallError} :
    dispatcher.handler message mode = .error error ↔ Refused offer mode message error := by
  constructor
  · intro fails
    by_cases missing : message.qualifier = ""
    · rw [handler, if_pos missing] at fails
      cases fails
      exact .unnamed missing
    by_cases known : ∃ method ∈ offer.methods, method.binding.qualifier = message.qualifier
    · rcases known with ⟨method, member, named⟩
      rw [handler_of_registered built member named.symm] at fails
      split at fails
      · cases fails
      · cases fails
        exact .wrongMode member named ‹_›
    · have apart : ∀ method ∈ offer.methods, method.binding.qualifier ≠ message.qualifier :=
        fun method member named => known ⟨method, member, named⟩
      rw [handler, if_neg missing, get?_eq_none built apart] at fails
      cases fails
      exact .unknown missing apart
  · intro refused
    cases refused with
    | unnamed missing => rw [handler, if_pos missing]
    | unknown present apart => rw [handler, if_neg present, get?_eq_none built apart]
    | wrongMode member named other =>
        rw [handler_of_registered built member named.symm, if_neg other]

end Dispatcher

end ServiceMesh
