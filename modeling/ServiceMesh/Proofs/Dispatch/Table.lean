import ServiceMesh.Dispatcher
import ServiceMesh.Proofs.Binding
import ServiceMesh.Proofs.Dict

/-!
# The table of a dispatcher

A service gets its methods by registration, so each of them is called in the namespace of the service
(`Service.Registered.housed`).  A dispatcher adds the methods of its services to an empty table.  What
the addition of one method takes and gives is told once (`addMethod_eq_ok_iff`); what one method in
front of others adds (`Added.cons`) gives by induction what the table of all of them holds
(`added_of_addMethods`).
-/

namespace ServiceMesh

variable {ε : Type}

/-! ## Registered methods -/

/-- A service that has been made by the registration of handlers and by tags. -/
inductive Service.Registered : Service ε → Prop where
  | named (space : String) : Registered (.named space)
  | withTag {service : Service ε} (key value : String) (registered : Registered service) :
      Registered (service.withTag key value)
  | withMethodTag {service : Service ε} (action key value : String)
      (registered : Registered service) : Registered (service.withMethodTag action key value)
  | fireAndForget (α : Type) [Wire α] {service : Service ε} (action : String)
      (handle : α → Reply ε (Outcome Unit)) (registered : Registered service) :
      Registered (service.fireAndForget α action handle)
  | requestResponse (α β : Type) [Wire α] [Wire β] {service : Service ε} (action : String)
      (handle : α → Reply ε (Outcome β)) (registered : Registered service) :
      Registered (service.requestResponse α β action handle)
  | requestStream (α β : Type) [Wire α] [Wire β] {service : Service ε} (action : String)
      (handle : α → Source ε (Outcome β)) (registered : Registered service) :
      Registered (service.requestStream α β action handle)
  | requestChannel (α β : Type) [Wire α] [Wire β] {service : Service ε} (action : String)
      (handle : Source ε (Outcome α) → Source ε (Outcome β)) (registered : Registered service) :
      Registered (service.requestChannel α β action handle)
  | rawFireAndForget {service : Service ε} (action : String)
      (handle : Message → Launch ε (Outcome Unit)) (registered : Registered service) :
      Registered (service.rawFireAndForget action handle)
  | rawRequestResponse {service : Service ε} (action : String)
      (handle : Message → Reply ε (Outcome Message)) (registered : Registered service) :
      Registered (service.rawRequestResponse action handle)
  | rawRequestStream {service : Service ε} (action : String)
      (handle : Message → Source ε (Outcome Message)) (registered : Registered service) :
      Registered (service.rawRequestStream action handle)
  | rawRequestChannel {service : Service ε} (action : String)
      (handle : Source ε (Outcome Message) → Source ε (Outcome Message))
      (registered : Registered service) : Registered (service.rawRequestChannel action handle)

/-- Every method is called in the namespace of the service. -/
def Service.Housed (service : Service ε) : Prop :=
  ∀ method ∈ service.methods, method.binding.space = service.space

/-- A tag changes neither what a method is called nor what serves it. -/
theorem exists_of_mem_tagFirst (action key value : String) {methods : List (Method ε)}
    {method : Method ε} (member : method ∈ Service.tagFirst action key value methods) :
    ∃ untagged ∈ methods,
      untagged.binding = method.binding ∧ untagged.handler = method.handler := by
  induction methods with
  | nil => cases member
  | cons first methods induction =>
      rw [Service.tagFirst] at member
      split at member
      · rcases List.mem_cons.mp member with rfl | later
        · exact ⟨first, List.mem_cons_self, rfl, rfl⟩
        · exact ⟨method, List.mem_cons_of_mem _ later, rfl, rfl⟩
      · rcases List.mem_cons.mp member with rfl | later
        · exact ⟨method, List.mem_cons_self, rfl, rfl⟩
        · rcases induction later with ⟨untagged, among, same⟩
          exact ⟨untagged, List.mem_cons_of_mem _ among, same⟩

theorem Service.Housed.withMethod {service : Service ε} (housed : service.Housed)
    {binding : Binding} (own : binding.space = service.space) (handler : Handler ε) :
    (service.withMethod binding handler).Housed := by
  intro method member
  rcases List.mem_append.mp member with earlier | added
  · exact housed method earlier
  · rw [List.mem_singleton.mp added]
    exact own

theorem Service.Registered.housed {service : Service ε} (registered : service.Registered) :
    service.Housed := by
  induction registered with
  | named space => exact fun method member => nomatch member
  | withTag key value _ housed => exact housed
  | withMethodTag action key value _ housed =>
      intro method member
      rcases exists_of_mem_tagFirst action key value member with ⟨untagged, among, same, -⟩
      exact same ▸ housed untagged among
  | fireAndForget α action handle _ housed => exact housed.withMethod rfl _
  | requestResponse α β action handle _ housed => exact housed.withMethod rfl _
  | requestStream α β action handle _ housed => exact housed.withMethod rfl _
  | requestChannel α β action handle _ housed => exact housed.withMethod rfl _
  | rawFireAndForget action handle _ housed => exact housed.withMethod rfl _
  | rawRequestResponse action handle _ housed => exact housed.withMethod rfl _
  | rawRequestStream action handle _ housed => exact housed.withMethod rfl _
  | rawRequestChannel action handle _ housed => exact housed.withMethod rfl _

namespace Dispatcher

/-! ## Tables -/

variable {table later : Dict (Method ε)} {method : Method ε} {methods : List (Method ε)}

theorem addMethod_eq_ok_iff :
    addMethod table method = .ok later ↔
      method.binding.space ≠ "" ∧ method.binding.action ≠ "" ∧
        table.get? method.binding.qualifier = none ∧
          table.insert method.binding.qualifier method = later := by
  rw [addMethod]
  by_cases invalid : method.binding.space = "" ∨ method.binding.action = ""
  · rw [if_pos (by simpa using invalid)]
    rcases invalid with missing | missing <;> simp [missing]
  · rw [not_or] at invalid
    rw [if_neg (by simpa using invalid), Dict.contains]
    cases table.get? method.binding.qualifier <;> simp [invalid]

/-- What the addition of methods to a table has required, and what it has given. -/
structure Added (table : Dict (Method ε)) (methods : List (Method ε)) (later : Dict (Method ε)) :
    Prop where
  /-- No two methods share a qualifier. -/
  distinct : (methods.map fun method => method.binding.qualifier).Nodup
  /-- No method has a qualifier that was in the table before. -/
  fresh : ∀ method ∈ methods, table.get? method.binding.qualifier = none
  /-- The methods have come under their qualifiers, and what was there is still there. -/
  found : ∀ key method, later.get? key = some method ↔
    table.get? key = some method ∨ (method ∈ methods ∧ method.binding.qualifier = key)

theorem added_nil (table : Dict (Method ε)) : Added table [] table :=
  ⟨List.nodup_nil, nofun, by simp⟩

/-- Whatever is added after a first method is new to a table that has it already. -/
theorem Added.cons {first : Method ε} {next : Dict (Method ε)}
    (step : addMethod table first = .ok next) (rest : Added next methods later) :
    Added table (first :: methods) later := by
  rcases addMethod_eq_ok_iff.mp step with ⟨-, -, absent, rfl⟩
  have apart : ∀ method ∈ methods,
      method.binding.qualifier ≠ first.binding.qualifier ∧
        table.get? method.binding.qualifier = none := by
    intro method among
    have new := rest.fresh method among
    rw [Dict.get?_insert] at new
    split at new
    · cases new
    · exact ⟨‹_›, new⟩
  constructor
  · rw [List.map_cons, List.nodup_cons, List.mem_map]
    exact ⟨fun ⟨method, among, same⟩ => (apart method among).1 same, rest.distinct⟩
  · intro method among
    rcases List.mem_cons.mp among with rfl | among
    · exact absent
    · exact (apart method among).2
  · intro key method
    rw [rest.found, Dict.get?_insert, List.mem_cons]
    by_cases same : key = first.binding.qualifier
    · subst same
      rw [if_pos rfl, absent, Option.some.injEq]
      constructor
      · rintro (rfl | ⟨among, same⟩)
        · exact .inr ⟨.inl rfl, rfl⟩
        · exact absurd same (apart method among).1
      · rintro (none_ | ⟨rfl | among, same⟩)
        · cases none_
        · exact .inl rfl
        · exact absurd same (apart method among).1
    · rw [if_neg same]
      apply or_congr_right
      constructor
      · rintro ⟨among, named⟩
        exact ⟨.inr among, named⟩
      · rintro ⟨rfl | among, named⟩
        · exact absurd named.symm same
        · exact ⟨among, named⟩

theorem added_of_addMethods (success : addMethods table methods = .ok later) :
    Added table methods later := by
  induction methods generalizing table with
  | nil =>
      rw [addMethods, Except.ok.injEq] at success
      exact success ▸ added_nil table
  | cons first methods induction =>
      rw [addMethods] at success
      cases step : addMethod table first with
      | error error =>
          rw [step] at success
          cases success
      | ok next =>
          rw [step] at success
          exact (induction success).cons step

/-! ## Dispatchers -/

variable {codecs : CodecRegistry} {services : List (Service ε)} {dispatcher : Dispatcher ε}

theorem build_eq_ok_iff :
    build codecs services = .ok dispatcher ↔
      addMethods Dict.empty (services.flatMap Service.methods) = .ok dispatcher.methods ∧
        codecs = dispatcher.codecs ∧ services.map Service.info = dispatcher.registrations := by
  rw [build]
  rcases dispatcher with ⟨used, methods, registrations⟩
  cases addMethods Dict.empty (services.flatMap Service.methods) with
  | error error => simp
  | ok table =>
      rw [Except.ok.injEq, mk.injEq, Except.ok.injEq]
      exact ⟨fun ⟨same, also, last⟩ => ⟨also, same, last⟩,
        fun ⟨also, same, last⟩ => ⟨same, also, last⟩⟩

theorem codecs_of_build (built : build codecs services = .ok dispatcher) :
    dispatcher.codecs = codecs :=
  (build_eq_ok_iff.mp built).2.1.symm

theorem distinct_of_build (built : build codecs services = .ok dispatcher) :
    ((services.flatMap Service.methods).map fun method => method.binding.qualifier).Nodup :=
  (added_of_addMethods (build_eq_ok_iff.mp built).1).distinct

/-- A dispatcher finds the methods of its services, each under its qualifier. -/
theorem get?_of_build (built : build codecs services = .ok dispatcher) {key : String}
    {method : Method ε} :
    dispatcher.methods.get? key = some method ↔
      method ∈ services.flatMap Service.methods ∧ method.binding.qualifier = key := by
  rw [(added_of_addMethods (build_eq_ok_iff.mp built).1).found, Dict.get?_empty]
  exact ⟨fun found => found.resolve_left nofun, .inr⟩

/-- A dispatcher of services does not serve messages without a qualifier. -/
theorem contains_empty_of_build (built : build codecs services = .ok dispatcher) :
    dispatcher.contains "" = false := by
  rw [contains, Dict.contains, Option.isSome_eq_false_iff, Option.isNone_iff_eq_none]
  apply Option.eq_none_iff_forall_ne_some.mpr
  intro method found
  exact Qualifier.join_ne_empty _ _ ((get?_of_build built).mp found).2

end Dispatcher

end ServiceMesh
