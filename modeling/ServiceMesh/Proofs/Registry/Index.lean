import ServiceMesh.Proofs.Dict
import ServiceMesh.Registry.Directory
import Mathlib.Data.List.Nodup

/-!
# The index of a registry

A registry is made from a list of endpoints, and its index from theirs alone.  So a look-up gives what
the endpoints announce under the qualifier, in their order (`lookup_ofEndpoints`), and the qualifiers
are those with a reference (`mem_qualifiers_ofEndpoints`).  A change of a directory makes the list that
the same change of its current registry makes (`current_apply`).
-/

namespace ServiceMesh

/-- Of things with different keys one is found by its key. -/
theorem filter_of_nodup_map {α β : Type} [DecidableEq β] {key : α → β} {things : List α}
    (distinct : (things.map key).Nodup) {thing : α} (member : thing ∈ things) :
    things.filter (fun other => key other = key thing) = [thing] := by
  induction things with
  | nil => cases member
  | cons first others induction =>
      rw [List.map_cons, List.nodup_cons] at distinct
      rcases List.mem_cons.mp member with rfl | later
      · have apart : others.filter (fun other => key other = key thing) = [] := by
          rw [List.filter_eq_nil_iff]
          intro other among same
          exact distinct.1 (of_decide_eq_true same ▸ List.mem_map_of_mem among)
        rw [List.filter_cons_of_pos (by simp), apart]
      · have apart : key first ≠ key thing := fun same =>
          distinct.1 (same ▸ List.mem_map_of_mem later)
        rw [List.filter_cons_of_neg (by simpa using apart), induction distinct.2 later]

/-! ## References of an endpoint -/

namespace Endpoint

theorem mem_references_iff {endpoint : Endpoint} {reference : Reference} :
    reference ∈ endpoint.references ↔
      ∃ service ∈ endpoint.services, ∃ method ∈ service.methods,
        endpoint.reference service method = reference := by
  simp only [references, List.mem_flatMap, List.mem_map]

theorem endpointId_of_mem {endpoint : Endpoint} {reference : Reference}
    (member : reference ∈ endpoint.references) : reference.endpointId = endpoint.id := by
  rcases mem_references_iff.mp member with ⟨service, -, method, -, rfl⟩
  rfl

/-- A tag is that of the method, else of the service, else of the endpoint. -/
theorem tag?_reference (endpoint : Endpoint) (service : ServiceInfo) (method : MethodInfo)
    (key : String) :
    (endpoint.reference service method).tag? key =
      (method.tags.get? key).or ((service.tags.get? key).or (endpoint.tags.get? key)) := by
  rw [Reference.tag?, reference, Dict.get?_override, Dict.get?_override]

/-- The references of an endpoint under one qualifier, by the declarations that they come from. -/
theorem filter_references (endpoint : Endpoint) (qualifier : String) :
    endpoint.references.filter (fun reference => reference.qualifier = qualifier) =
      endpoint.services.flatMap fun service =>
        (service.methods.filter fun method =>
          Qualifier.join service.space method.action = qualifier).map
            (endpoint.reference service) := by
  rw [references, List.filter_flatMap]
  congr 1
  funext service
  rw [List.filter_map]
  rfl

/-- The references with one endpoint identity are those of the endpoints that have it. -/
theorem filter_endpointId (endpoints : List Endpoint) (id : String) :
    (endpoints.flatMap references).filter (fun reference => reference.endpointId = id) =
      (endpoints.filter fun endpoint => endpoint.id = id).flatMap references := by
  induction endpoints with
  | nil => rfl
  | cons endpoint endpoints induction =>
      rw [List.flatMap_cons, List.filter_append, induction]
      by_cases same : endpoint.id = id
      · have own : endpoint.references.filter (fun reference => reference.endpointId = id) =
            endpoint.references := by
          rw [List.filter_eq_self]
          intro reference member
          simpa using (endpointId_of_mem member).trans same
        rw [own, List.filter_cons_of_pos (by simpa using same), List.flatMap_cons]
      · have foreign : endpoint.references.filter (fun reference => reference.endpointId = id) =
            [] := by
          rw [List.filter_eq_nil_iff]
          intro reference member
          simpa [endpointId_of_mem member] using same
        rw [foreign, List.filter_cons_of_neg (by simpa using same), List.nil_append]

end Endpoint

namespace Registry

/-! ## The index -/

theorem getD_addReference (index : Dict (List Reference)) (reference : Reference)
    (qualifier : String) :
    ((addReference index reference).get? qualifier).getD [] =
      (index.get? qualifier).getD [] ++
        [reference].filter (fun reference => reference.qualifier = qualifier) := by
  rw [addReference, Dict.get?_insert]
  by_cases same : qualifier = reference.qualifier
  · simp [same]
  · simp [same, Ne.symm same]

theorem getD_addReferences (references : List Reference) (index : Dict (List Reference))
    (qualifier : String) :
    ((references.foldl addReference index).get? qualifier).getD [] =
      (index.get? qualifier).getD [] ++
        references.filter (fun reference => reference.qualifier = qualifier) := by
  induction references generalizing index with
  | nil => simp
  | cons reference references induction =>
      rw [List.foldl_cons, induction, getD_addReference, List.append_assoc, ← List.filter_append,
        List.singleton_append]

/-- A look-up gives the references under the qualifier, in the order of the endpoints. -/
theorem lookup_ofEndpoints (endpoints : List Endpoint) (qualifier : String) :
    (ofEndpoints endpoints).lookup qualifier =
      (endpoints.flatMap Endpoint.references).filter
        (fun reference => reference.qualifier = qualifier) := by
  rw [lookup, ofEndpoints, getD_addReferences]
  rfl

theorem filled_addReferences (references : List Reference) {index : Dict (List Reference)}
    (filled : ∀ qualifier, index.get? qualifier ≠ some []) (qualifier : String) :
    (references.foldl addReference index).get? qualifier ≠ some [] := by
  induction references generalizing index with
  | nil => exact filled qualifier
  | cons reference references induction =>
      apply induction
      intro other
      rw [addReference, Dict.get?_insert]
      split
      · simp
      · exact filled other

/-- The qualifiers are those that have a reference. -/
theorem mem_qualifiers_ofEndpoints {endpoints : List Endpoint} {qualifier : String} :
    qualifier ∈ (ofEndpoints endpoints).qualifiers ↔
      (ofEndpoints endpoints).lookup qualifier ≠ [] := by
  have filled := filled_addReferences (endpoints.flatMap Endpoint.references)
    (fun key => nofun : ∀ key, (Dict.empty : Dict (List Reference)).get? key ≠ some []) qualifier
  rw [qualifiers, Dict.mem_keys_iff, lookup, ofEndpoints]
  cases found : ((endpoints.flatMap Endpoint.references).foldl addReference
      Dict.empty).get? qualifier with
  | none => simp
  | some references =>
      rw [found] at filled
      simpa using filled

/-! ## The list of endpoints -/

/-- An announcement keeps its place, or is the last one. -/
theorem map_id_announce (endpoint : Endpoint) (endpoints : List Endpoint) :
    (announce endpoint endpoints).map Endpoint.id =
      if endpoint.id ∈ endpoints.map Endpoint.id then endpoints.map Endpoint.id
      else endpoints.map Endpoint.id ++ [endpoint.id] := by
  induction endpoints with
  | nil => rfl
  | cons known others induction =>
      rw [announce]
      by_cases same : known.id = endpoint.id
      · simp [same]
      · rw [if_neg same, List.map_cons, induction]
        simp only [List.map_cons, List.mem_cons, Ne.symm same, false_or]
        split <;> rfl

theorem mem_announce_iff {endpoint known : Endpoint} {endpoints : List Endpoint}
    (distinct : (endpoints.map Endpoint.id).Nodup) :
    known ∈ announce endpoint endpoints ↔
      known = endpoint ∨ (known ∈ endpoints ∧ known.id ≠ endpoint.id) := by
  induction endpoints with
  | nil => simp [announce]
  | cons head others induction =>
      rw [List.map_cons, List.nodup_cons] at distinct
      rw [announce]
      by_cases same : head.id = endpoint.id
      · -- Nobody else has the identity of the endpoint that is replaced.
        have apart (within : known ∈ others) : known.id ≠ endpoint.id := fun equal =>
          distinct.1 (same.trans equal.symm ▸ List.mem_map_of_mem within)
        rw [if_pos same, List.mem_cons, List.mem_cons]
        constructor
        · rintro (rfl | within)
          · exact .inl rfl
          · exact .inr ⟨.inr within, apart within⟩
        · rintro (rfl | ⟨rfl | within, other⟩)
          · exact .inl rfl
          · exact absurd same other
          · exact .inr within
      · rw [if_neg same, List.mem_cons, List.mem_cons, induction distinct.2]
        constructor
        · rintro (rfl | rfl | ⟨within, other⟩)
          · exact .inr ⟨.inl rfl, same⟩
          · exact .inl rfl
          · exact .inr ⟨.inr within, other⟩
        · rintro (rfl | ⟨rfl | within, other⟩)
          · exact .inr (.inl rfl)
          · exact .inl rfl
          · exact .inr (.inr ⟨within, other⟩)

end Registry

/-! ## Directories -/

namespace Directory

/-- A removal changes the number of endpoints just if the identity was known. -/
theorem unregister_eq (directory : Directory) (id : String) :
    directory.unregister id =
      if directory.current.knows id then
        (true, ⟨directory.earlier ++ [directory.current], directory.current.unregister id⟩)
      else (false, directory) := by
  have fewer : ((directory.current.endpoints.filter fun endpoint => endpoint.id ≠ id).length !=
      directory.current.endpoints.length) = directory.current.knows id := by
    rw [Bool.eq_iff_iff, bne_iff_ne, ne_eq, List.length_filter_eq_length_iff, Registry.knows,
      List.any_eq_true]
    simp
  simp only [unregister, update, fewer, Registry.unregister]
  cases directory.current.knows id <;> rfl

/-- A removal reports whether the identity was known. -/
theorem unregister_iff {directory : Directory} {id : String} :
    (directory.unregister id).1 = true ↔
      ∃ endpoint ∈ directory.current.endpoints, endpoint.id = id := by
  rw [unregister_eq]
  cases known : directory.current.knows id with
  | false => simpa [Registry.knows] using known
  | true => simpa [Registry.knows] using known

theorem unregister_of_absent {directory : Directory} {id : String}
    (absent : (directory.unregister id).1 = false) : (directory.unregister id).2 = directory := by
  rw [unregister_eq] at absent ⊢
  split at absent
  · cases absent
  · rename_i unknown
    rw [if_neg unknown]

/-- A directory changes as its current registry does. -/
theorem current_apply (directory : Directory) (event : DiscoveryEvent) :
    (directory.apply event).current = directory.current.apply event := by
  cases event with
  | added endpoint => rfl
  | removed id =>
      rw [apply, unregister_eq, Registry.apply]
      split
      · rfl
      · rename_i unknown
        rw [Registry.unregister, if_neg unknown]

theorem current_listen (directory : Directory) (events : List DiscoveryEvent) :
    (directory.listen events).current = directory.current.listen events := by
  induction events generalizing directory with
  | nil => rfl
  | cons event events induction =>
      rw [listen, List.foldl_cons, ← listen, induction, current_apply]
      rfl

/-- Whatever changes, the registries that have been replaced stay, and the current one is kept. -/
theorem earlier_apply (directory : Directory) (event : DiscoveryEvent) :
    directory.earlier ++ [directory.current] <+:
      (directory.apply event).earlier ++ [(directory.apply event).current] := by
  have replaced (registry : Registry) : directory.earlier ++ [directory.current] <+:
      (directory.earlier ++ [directory.current]) ++ [registry] :=
    List.prefix_append _ _
  cases event with
  | added endpoint => exact replaced _
  | removed id =>
      rw [apply, unregister_eq]
      split
      · exact replaced _
      · exact List.prefix_rfl

theorem earlier_listen (directory : Directory) (events : List DiscoveryEvent) :
    directory.earlier ++ [directory.current] <+:
      (directory.listen events).earlier ++ [(directory.listen events).current] := by
  induction events generalizing directory with
  | nil => exact List.prefix_rfl
  | cons event events induction =>
      exact (earlier_apply directory event).trans (induction (directory.apply event))

/-- A snapshot shows the registry of which it was taken, whatever changes later. -/
theorem view?_listen (directory : Directory) (events : List DiscoveryEvent) :
    (directory.listen events).view? directory.snapshot = some directory.current := by
  rcases earlier_listen directory events with ⟨later, kept⟩
  rw [view?, ← kept, snapshot, List.append_assoc, List.getElem?_append_right (Nat.le_refl _),
    Nat.sub_self]
  rfl

end Directory

end ServiceMesh
