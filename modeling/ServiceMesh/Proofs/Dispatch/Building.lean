import Mathlib.Data.Nat.Find
import ServiceMesh.Proofs.Dispatch.Table

/-!
# When a dispatcher can be built

The methods of some services, in their order of registration, can be served together if each of them
has a namespace and an action and no two share a qualifier (`Dispatcher.Sound`).  Otherwise one of
them is the first with a fault, and there are two kinds of faults (`Dispatcher.Fault`).

The table takes a method just if it has no fault behind the methods that are in the table already
(`addMethod_eq_error_iff_fault`), and so it takes methods one after the other up to the first fault.
The main result is that building succeeds on sound lists of methods and reports the first fault of
all others (`build_decides`).
-/

namespace ServiceMesh

variable {ε : Type}

/-- The method has a namespace and an action. -/
def Method.Named (method : Method ε) : Prop :=
  method.binding.space ≠ "" ∧ method.binding.action ≠ ""

namespace Dispatcher

/-! ## Faults -/

/-- What is wrong with the method at a place of a list.  One without a namespace or an action is
invalid, whatever its qualifier; any other must not repeat the qualifier of an earlier one. -/
inductive Fault (methods : List (Method ε)) (place : Nat) : DispatcherError → Prop where
  /-- It lacks a namespace or an action. -/
  | invalid {method : Method ε} (placed : methods[place]? = some method)
      (unnamed : ¬ method.Named) :
      Fault methods place (.invalidMethod method.binding.qualifier)
  /-- It has the qualifier of an earlier one. -/
  | repeated {method earlier : Method ε} {before : Nat} (placed : methods[place]? = some method)
      (named : method.Named) (precedes : before < place)
      (stands : methods[before]? = some earlier)
      (same : earlier.binding.qualifier = method.binding.qualifier) :
      Fault methods place (.duplicateQualifier method.binding.qualifier)

/-- An error tells what is wrong with a method before which there is no fault. -/
def FirstFault (methods : List (Method ε)) (error : DispatcherError) : Prop :=
  ∃ place, Fault methods place error ∧ ∀ before < place, ∀ other, ¬ Fault methods before other

/-- All methods of a list can be served together. -/
structure Sound (methods : List (Method ε)) : Prop where
  /-- Each has a namespace and an action. -/
  named : ∀ method ∈ methods, method.Named
  /-- No two of them share a qualifier. -/
  distinct : methods.Pairwise fun earlier later =>
    earlier.binding.qualifier ≠ later.binding.qualifier

variable {methods : List (Method ε)} {method : Method ε} {place : Nat} {error : DispatcherError}

/-- Faults depend on the methods up to their place alone. -/
theorem fault_take {before : Nat} (precedes : before < place) :
    Fault (methods.take place) before error ↔ Fault methods before error := by
  have same : ∀ {index : Nat}, index ≤ before → (methods.take place)[index]? = methods[index]? :=
    fun below => List.getElem?_take_of_lt (Nat.lt_of_le_of_lt below precedes)
  constructor
  · intro fault
    cases fault with
    | invalid placed unnamed => exact .invalid (same (Nat.le_refl _) ▸ placed) unnamed
    | repeated placed named earlier stands agree =>
        exact .repeated (same (Nat.le_refl _) ▸ placed) named earlier
          (same (Nat.le_of_lt earlier) ▸ stands) agree
  · intro fault
    cases fault with
    | invalid placed unnamed => exact .invalid ((same (Nat.le_refl _)).trans placed) unnamed
    | repeated placed named earlier stands agree =>
        exact .repeated ((same (Nat.le_refl _)).trans placed) named earlier
          ((same (Nat.le_of_lt earlier)).trans stands) agree

/-- A fault is one of a method of the list. -/
theorem Fault.exists_method (fault : Fault methods place error) :
    ∃ method, methods[place]? = some method := by
  cases fault with
  | invalid placed => exact ⟨_, placed⟩
  | repeated placed => exact ⟨_, placed⟩

/-- Methods can be served together just if none of them has a fault. -/
theorem sound_iff : Sound methods ↔ ∀ place error, ¬ Fault methods place error := by
  constructor
  · intro sound place error fault
    cases fault with
    | invalid placed unnamed => exact unnamed (sound.named _ (List.mem_of_getElem? placed))
    | repeated placed named precedes stands same =>
        rcases List.getElem?_eq_some_iff.mp placed with ⟨within, rfl⟩
        rcases List.getElem?_eq_some_iff.mp stands with ⟨also, rfl⟩
        exact List.pairwise_iff_getElem.mp sound.distinct _ _ also within precedes same
  · intro faultless
    have named : ∀ method ∈ methods, method.Named := by
      intro method member
      rcases List.mem_iff_getElem?.mp member with ⟨place, placed⟩
      by_contra unnamed
      exact faultless place _ (.invalid placed unnamed)
    refine ⟨named, List.pairwise_iff_getElem.mpr fun before place also within precedes same => ?_⟩
    exact faultless place _ (.repeated (List.getElem?_eq_getElem within)
      (named _ (List.getElem_mem within)) precedes (List.getElem?_eq_getElem also) same)

/-- The methods before a place can be served together just if no fault precedes it. -/
theorem sound_take_iff :
    Sound (methods.take place) ↔ ∀ before < place, ∀ error, ¬ Fault methods before error := by
  rw [sound_iff]
  constructor
  · intro faultless before precedes error fault
    exact faultless before error ((fault_take precedes).mpr fault)
  · intro faultless before error fault
    rcases fault.exists_method with ⟨method, placed⟩
    have within := (List.getElem?_eq_some_iff.mp placed).1
    have precedes : before < place :=
      Nat.lt_of_lt_of_le within (List.length_take_le place methods)
    exact faultless before precedes error ((fault_take precedes).mp fault)

/-- Methods that cannot be served together have a first fault. -/
theorem exists_firstFault (unsound : ¬ Sound methods) : ∃ error, FirstFault methods error := by
  classical
  have faulty : ∃ place error, Fault methods place error := by
    simpa only [sound_iff, not_forall, not_not] using unsound
  rcases Nat.find_spec faulty with ⟨error, fault⟩
  exact ⟨error, Nat.find faulty, fault,
    fun before precedes other also => Nat.find_min faulty precedes ⟨other, also⟩⟩

/-! ## Adding methods -/

variable {table : Dict (Method ε)}

theorem addMethod_eq_error_iff :
    addMethod table method = .error error ↔
      (¬ method.Named ∧ .invalidMethod method.binding.qualifier = error) ∨
        (method.Named ∧ table.get? method.binding.qualifier ≠ none ∧
          .duplicateQualifier method.binding.qualifier = error) := by
  rw [addMethod]
  by_cases named : method.Named
  · rw [if_neg (by simpa [Method.Named] using named), Dict.contains]
    cases table.get? method.binding.qualifier <;> simp [named]
  · rw [if_pos (by simpa [Method.Named, or_iff_not_imp_left] using named), Except.error.injEq]
    simp [named]

/-- Methods fail to be added just if one of them cannot be added behind those before it. -/
theorem addMethods_eq_error_iff :
    addMethods table methods = .error error ↔
      ∃ place method next, methods[place]? = some method ∧
        addMethods table (methods.take place) = .ok next ∧
          addMethod next method = .error error := by
  induction methods generalizing table with
  | nil => simp [addMethods]
  | cons first methods induction =>
      rw [addMethods]
      constructor
      · intro fails
        cases step : addMethod table first with
        | error fault =>
            rw [step] at fails
            exact ⟨0, first, table, rfl, rfl, step.trans fails⟩
        | ok next =>
            rw [step] at fails
            rcases induction.mp fails with ⟨place, method, last, placed, added, refused⟩
            refine ⟨place + 1, method, last, placed, ?_, refused⟩
            rw [List.take_succ_cons, addMethods, step]
            exact added
      · rintro ⟨place, method, last, placed, added, refused⟩
        cases place with
        | zero =>
            rw [List.getElem?_cons_zero, Option.some.injEq] at placed
            rw [List.take_zero, addMethods, Except.ok.injEq] at added
            rw [placed, added, refused]
        | succ place =>
            rw [List.getElem?_cons_succ] at placed
            rw [List.take_succ_cons, addMethods] at added
            cases step : addMethod table first with
            | error fault =>
                rw [step] at added
                cases added
            | ok next =>
                rw [step] at added
                exact induction.mpr ⟨place, method, last, placed, added, refused⟩

/-- In a table of the methods of a list up to a place the method of this place has its fault. -/
theorem addMethod_eq_error_iff_fault {next : Dict (Method ε)}
    (placed : methods[place]? = some method)
    (added : addMethods Dict.empty (methods.take place) = .ok next) :
    addMethod next method = .error error ↔ Fault methods place error := by
  have present : next.get? method.binding.qualifier ≠ none ↔
      ∃ earlier ∈ methods.take place,
        earlier.binding.qualifier = method.binding.qualifier := by
    rw [Option.ne_none_iff_exists']
    simp only [(added_of_addMethods added).found, Dict.get?_empty, reduceCtorEq, false_or]
  rw [addMethod_eq_error_iff, present]
  constructor
  · rintro (⟨unnamed, rfl⟩ | ⟨named, ⟨earlier, member, same⟩, rfl⟩)
    · exact .invalid placed unnamed
    · rcases List.mem_take_iff_getElem.mp member with ⟨before, within, rfl⟩
      rw [Nat.lt_min] at within
      exact .repeated placed named within.1 (List.getElem?_eq_getElem within.2) same
  · intro fault
    cases fault with
    | @invalid found here unnamed =>
        cases here.symm.trans placed
        exact .inl ⟨unnamed, rfl⟩
    | @repeated found earlier before here named precedes stands same =>
        cases here.symm.trans placed
        rcases List.getElem?_eq_some_iff.mp stands with ⟨within, rfl⟩
        exact .inr ⟨named, ⟨_, List.mem_take_iff_getElem.mpr
          ⟨before, Nat.lt_min.mpr ⟨precedes, within⟩, rfl⟩, same⟩, rfl⟩

/-! ## Adding methods to the empty table -/

theorem exists_addMethods_of_sound (sound : Sound methods) :
    ∃ next, addMethods Dict.empty methods = .ok next := by
  cases outcome : addMethods Dict.empty methods with
  | ok next => exact ⟨next, rfl⟩
  | error error =>
      rcases addMethods_eq_error_iff.mp outcome with ⟨place, method, next, placed, added, refused⟩
      exact absurd ((addMethod_eq_error_iff_fault placed added).mp refused)
        (sound_iff.mp sound place error)

theorem addMethods_of_firstFault (first : FirstFault methods error) :
    addMethods Dict.empty methods = .error error := by
  rcases first with ⟨place, fault, faultless⟩
  rcases fault.exists_method with ⟨method, placed⟩
  rcases exists_addMethods_of_sound (sound_take_iff.mpr faultless) with ⟨next, added⟩
  exact addMethods_eq_error_iff.mpr ⟨place, method, next, placed, added,
    (addMethod_eq_error_iff_fault placed added).mpr fault⟩

/-- Sound methods can be added to the empty table, and no others. -/
theorem exists_addMethods_iff :
    (∃ next, addMethods Dict.empty methods = .ok next) ↔ Sound methods := by
  refine ⟨fun ⟨next, added⟩ => ?_, exists_addMethods_of_sound⟩
  by_contra unsound
  rcases exists_firstFault unsound with ⟨error, first⟩
  rw [addMethods_of_firstFault first] at added
  cases added

/-- The first fault is the one that is reported. -/
theorem addMethods_eq_error_iff_firstFault :
    addMethods Dict.empty methods = .error error ↔ FirstFault methods error := by
  refine ⟨fun fails => ?_, addMethods_of_firstFault⟩
  rcases addMethods_eq_error_iff.mp fails with ⟨place, method, next, placed, added, refused⟩
  exact ⟨place, (addMethod_eq_error_iff_fault placed added).mp refused,
    sound_take_iff.mp (exists_addMethods_iff.mp ⟨next, added⟩)⟩

/-! ## Main result -/

/-- Building decides whether the methods of some services can be served together. -/
structure Decides (codecs : CodecRegistry) (services : List (Service ε)) : Prop where
  /-- It succeeds just if they can. -/
  succeeds : (∃ dispatcher, build codecs services = .ok dispatcher) ↔
    Sound (services.flatMap Service.methods)
  /-- It fails with the first fault, if there is one. -/
  fails : ∀ error, build codecs services = .error error ↔
    FirstFault (services.flatMap Service.methods) error

theorem build_eq_error_iff {codecs : CodecRegistry} {services : List (Service ε)} :
    build codecs services = .error error ↔
      addMethods Dict.empty (services.flatMap Service.methods) = .error error := by
  rw [build]
  cases addMethods Dict.empty (services.flatMap Service.methods) with
  | ok methods => simp
  | error fault => simp

/-- Every list of services is decided. -/
theorem build_decides (codecs : CodecRegistry) (services : List (Service ε)) :
    Decides codecs services := by
  constructor
  · rw [← exists_addMethods_iff]
    constructor
    · rintro ⟨dispatcher, built⟩
      exact ⟨dispatcher.methods, (build_eq_ok_iff.mp built).1⟩
    · rintro ⟨methods, added⟩
      exact ⟨⟨codecs, methods, services.map Service.info⟩, build_eq_ok_iff.mpr ⟨added, rfl, rfl⟩⟩
  · intro error
    rw [build_eq_error_iff, addMethods_eq_error_iff_firstFault]

/-- A method without a namespace is invalid, also where it repeats an earlier qualifier. -/
example :
    build .withJson
        [(Service.named "/shop").rawRequestResponse "list" fun message => .of (.ok message),
          (Service.named "").rawRequestResponse "shop/list" fun message =>
            (.of (.ok message) : Reply Unit (Outcome Message))] =
      .error (.invalidMethod "/shop/list") := by
  rfl

end Dispatcher

end ServiceMesh
