import ApiSurface.Proofs.Faults
import ApiSurface.Proofs.Schema.Run

/-!
# What the generation of schemas fails for

An operation is refused if the parameters of its endpoint do not fit into one request. Whatever
makes the schemas of types fails for the classes that it reads or for the form of their fields and
enums, and never for that.

Main definitions: `Fault.isAboutRequest`, `Requestless`. Main statement: `Answers.requestless`.
-/
namespace ApiSurface

/-- The fault is that the parameters of an endpoint do not fit into one request. -/
def Fault.isAboutRequest : Fault → Bool
  | unrecognized (.pathParameterType _) _ => true
  | unrecognized .secondBody _ => true
  | unrecognized (.scalarBody _) _ => true
  | unrecognized .uploadsWithBody _ => true
  | _ => false

/-- Faults about requests are told by the construct that is not recognized. -/
theorem Fault.isAboutRequest_iff {fault : Fault} :
    fault.isAboutRequest = true ↔ ∃ cause location, fault = .unrecognized cause location ∧
      (cause.construct = "path parameter" ∨ cause.construct = "request body") := by
  cases fault with
  | unrecognized cause location =>
    cases cause <;> simp [isAboutRequest, Unrecognized.construct]
  | _ => simp [isAboutRequest]

/-- A computation that does not fail with a fault about a request. -/
def Requestless {α : Type} (x : Except Fault α) : Prop :=
  FailsWith (·.isAboutRequest = false) x

theorem ClassFaults.requestless {α : Type} {x : Except Fault α} (h : ClassFaults x) :
    Requestless x :=
  h.mono fun fault hfault => by cases fault <;> first | rfl | cases hfault

namespace Schema
open Requesting FailsWith

/-! ## Steps that ask for nothing -/

section Steps

variable (bindings : Bindings) (location : String)

theorem requestless_resolve (name : String) : Requestless (bindings.resolve name) := by
  unfold Bindings.resolve
  split
  · exact ok _
  · exact error rfl

theorem requestless_argumentPath (type : String) (argument : TypeArgument) :
    Requestless (argumentPath bindings location type argument) := by
  unfold argumentPath
  split
  · exact requestless_resolve _ _
  · exact ok _
  · exact error rfl

theorem requestless_argumentPaths (type : String) (arguments : List TypeArgument) :
    Requestless (argumentPaths bindings location type arguments) := by
  induction arguments with
  | nil => exact ok []
  | cons argument arguments ih =>
    exact bind (requestless_argumentPath _ _ _ _) fun _ => bind ih fun _ => ok _

theorem requestless_fieldType (f : Field) : Requestless (fieldType f) := by
  unfold fieldType
  split
  · exact (ClassFaults.ofReading _ _).requestless
  · exact bind (ClassFaults.ofReading _ _).requestless fun _ => ok _

theorem requestless_declaredVariables (c : Class) : Requestless (declaredVariables c) := by
  unfold declaredVariables
  split
  · exact (ClassFaults.ofReading _ _).requestless
  · exact ok []

variable (u : Universe) (marker : String)

theorem requestless_isDiscriminator (f : Field) : Requestless (isDiscriminator u marker f) := by
  unfold isDiscriminator
  split
  · exact ok false
  split
  · split
    · exact (ClassFaults.descends u _ _).requestless
    · exact ok false
  · exact ok false

theorem requestless_onlyDiscriminator (found : Option Field) (fields : List Field) :
    Requestless (onlyDiscriminator u marker location found fields) := by
  induction fields generalizing found with
  | nil => exact ok found
  | cons f fields ih =>
    refine bind (requestless_isDiscriminator u marker f) fun b => ?_
    split
    · split
      · exact error rfl
      · exact ih _
    · exact ih _

theorem requestless_discriminatorField (record : ClassRecord) :
    Requestless (discriminatorField u marker record) := by
  refine bind (ClassFaults.info record).requestless fun c => ?_
  refine bind (requestless_onlyDiscriminator _ u marker none c.fields) fun found => ?_
  split
  · exact ok _
  · exact error rfl

theorem requestless_agreeOn (first : Field) (records : List ClassRecord) :
    Requestless (agreeOn u marker first records) := by
  induction records with
  | nil => exact ok first
  | cons record records ih =>
    refine bind (requestless_discriminatorField u marker record) fun f => ?_
    split
    · exact ih
    · exact error rfl

theorem requestless_commonDiscriminator (records : List ClassRecord) :
    Requestless (commonDiscriminator u marker location records) := by
  cases records with
  | nil => exact error rfl
  | cons record records =>
    exact bind (requestless_discriminatorField u marker record) fun first =>
      requestless_agreeOn u marker first records

end Steps

/-! ## Computations that ask for names -/

/-- The computation does not end with a fault about a request. -/
def Requesting.Requestless {α : Type} (x : Requesting α) : Prop := ApiSurface.Requestless x.outcome

namespace Requesting.Requestless

variable {α β : Type}

theorem pure (a : α) : (pure a : Requesting α).Requestless := ok a

theorem fail {fault : Fault} (h : fault.isAboutRequest = false) :
    (fail fault : Requesting α).Requestless :=
  error h

theorem bind {x : Requesting α} {f : α → Requesting β} (hx : x.Requestless)
    (hf : ∀ a, (f a).Requestless) : (x >>= f).Requestless := by
  unfold Requestless
  rw [outcome_bind]
  exact FailsWith.bind hx hf

theorem ofExcept {result : Except Fault α} {f : α → Requesting β}
    (h : ApiSurface.Requestless result) (hf : ∀ a, (f a).Requestless) :
    (Requesting.ofExcept result >>= f).Requestless := by
  refine bind ?_ hf
  unfold Requestless
  rwa [outcome_ofExcept]

theorem nameOf (path : String) (generics : List String) :
    (nameOf path generics).Requestless :=
  ok _

end Requesting.Requestless

open Requesting.Requestless

theorem requestless_classSchema (path : String) (generics : List String) :
    (classSchema path generics).Requestless := by
  unfold classSchema
  split
  · exact .pure _
  · exact .bind (.nameOf path generics) fun _ => .pure _

mutual

theorem requestless_fieldSchema (bindings : Bindings) (location : String) (type : GenericType) :
    (fieldSchema bindings location type).Requestless := by
  match type with
  | .base p => exact .pure _
  | .array component =>
    exact .bind (requestless_fieldSchema bindings location component) fun _ => .pure _
  | .variable name =>
    exact .ofExcept (requestless_resolve bindings name) fun path => requestless_classSchema path []
  | .object name arguments =>
    unfold fieldSchema
    split
    · exact .bind (requestless_elementSchema bindings location name arguments) fun _ => .pure _
    · exact .ofExcept (requestless_argumentPaths bindings location name arguments) fun generics =>
        requestless_classSchema name generics

theorem requestless_elementSchema (bindings : Bindings) (location collection : String)
    (arguments : List TypeArgument) :
    (elementSchema bindings location collection arguments).Requestless := by
  match arguments with
  | [] => exact .fail rfl
  | .any :: _ => exact .fail rfl
  | .atLeast _ :: _ => exact .fail rfl
  | .exact t :: _ => exact requestless_fieldSchema bindings location t
  | .atMost t :: _ => exact requestless_fieldSchema bindings location t

end

theorem requestless_propertySchemas (bindings : Bindings) (fields : List Field) :
    (propertySchemas bindings fields).Requestless := by
  induction fields with
  | nil => exact .pure []
  | cons f fields ih =>
    refine .ofExcept (requestless_fieldType f) fun type => ?_
    exact .bind (requestless_fieldSchema bindings _ type) fun _ => .bind ih fun _ => .pure _

theorem requestless_mineMapping (location : String) (typeIndex loads : Nat) (name : Option String)
    (payloads : List Payload) :
    (mineMapping location typeIndex loads name payloads).Requestless := by
  fun_induction mineMapping location typeIndex loads name payloads with
  | case1 => exact .pure []
  | case2 _ _ _ _ ih => exact ih
  | case3 _ _ _ ih => exact ih
  | case4 => exact .fail rfl
  | case5 _ _ _ _ ih => exact .bind (.nameOf _ _) fun _ => .bind ih fun _ => .pure _
  | case6 => exact .fail rfl
  | case7 => exact .fail rfl
  | case8 _ _ _ _ _ _ ih => exact ih
  | case9 _ _ _ _ _ _ ih => exact ih

theorem requestless_mappingOf (record : ClassRecord) : (mappingOf record).Requestless := by
  refine .ofExcept (ClassFaults.info record).requestless fun c => ?_
  split
  · exact .fail rfl
  split
  · exact .fail rfl
  split
  · exact .fail rfl
  · exact requestless_mineMapping _ _ _ _ _

theorem requestless_namesOf (records : List ClassRecord) : (namesOf records).Requestless := by
  induction records with
  | nil => exact .pure []
  | cons record records ih =>
    exact .bind (.nameOf record.path []) fun _ => .bind ih fun _ => .pure _

theorem requestless_alternativesSchema (u : Universe) (markers : Markers) (record : ClassRecord) :
    (alternativesSchema u markers record).Requestless := by
  refine .ofExcept (ClassFaults.implementations u _ _).requestless fun concrete => ?_
  split
  · exact .fail rfl
  refine .bind (requestless_namesOf concrete) fun names => ?_
  split
  · exact .fail rfl
  refine .ofExcept (requestless_commonDiscriminator _ u _ concrete) fun common => ?_
  refine .ofExcept (ClassFaults.ofReading _ _).requestless fun path => ?_
  refine .ofExcept (ClassFaults.lookup u path).requestless fun enum => ?_
  exact .bind (requestless_mappingOf enum) fun _ => .pure _

theorem requestless_recordSchema (u : Universe) (markers : Markers) (record : ClassRecord)
    (generics : List String) : (recordSchema u markers record generics).Requestless := by
  refine .ofExcept (ClassFaults.info record).requestless fun c => ?_
  split
  · exact .pure _
  split
  · refine .ofExcept (requestless_declaredVariables c) fun parameters => ?_
    exact .bind (requestless_propertySchemas _ _) fun _ => .pure _
  · exact requestless_alternativesSchema u markers record

/-! ## Runs -/

variable {u : Universe} {markers : Markers}

/-- **Answering requests for schemas does not fail with a fault about a request.** -/
theorem Answers.requestless {rs : List Request} {c c' : Catalog} {outcome : Except Fault Unit}
    (run : Answers u markers rs c outcome c') : ApiSurface.Requestless outcome := by
  induction run with
  | done => exact ok ()
  | missing absent => exact error ((ClassFaults.lookup u _).requestless _ absent)
  | known _ _ _ ih => exact ih
  | collision => exact error rfl
  | stopped _ _ _ ih => exact ih
  | unmade _ _ _ failed => exact error (requestless_recordSchema u markers _ _ _ failed)
  | made _ _ _ _ _ _ ih => exact ih

/-- A fault about a request is not one of generating schemas. -/
theorem outcome_of_make {α : Type} {x : Requesting α} {c : Catalog} {fault : Fault}
    (h : (runFrom (make u markers x) c).1 = .error fault) (habout : fault.isAboutRequest = true) :
    x.outcome = .error fault := by
  obtain ⟨outcome, c', run, hrun⟩ := make_answers u markers x c
  rw [hrun] at h
  rcases bind_eq_error.mp h with hfault | ⟨-, -, hfault⟩
  · have hrequestless := run.requestless fault hfault
    simp [habout] at hrequestless
  · exact hfault

end Schema

end ApiSurface
