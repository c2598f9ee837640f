import ApiSurface.Endpoint.Extraction
import ApiSurface.Proofs.Calls.Run
import ApiSurface.Proofs.Markers.Schemas
import ApiSurface.Proofs.Markers.Steps

/-!
# An analysis does not see markers

Walks, the extraction of endpoints and the document are the same in two universes that are the
same without markers. Only the listings in some faults show where markers are, by the indices of
the other instructions.

Main definition: `AnalysedAlike`. Main statements: `walk_alike`, `extract_alike`,
`markers_carry_no_meaning`.
-/
namespace ApiSurface

/-! ## Walks -/

namespace Calls

variable {u u' : Universe} {markers : Markers} {limit : Nat}

/-- Where methods are entered alike, steps that are alike are performed alike. -/
theorem performAll_alike {enter enter' : List Frame → ClassRecord → Method → Walking Unit}
    {path : List Frame}
    (henter : ∀ {record record' : ClassRecord} {m m' : Method},
      record.unmarked = record'.unmarked → m.unmarked = m'.unmarked →
        ComputationsAlike Eq (enter path record m) (enter' path record' m'))
    {steps steps' : List Step} (h : StepsAlike steps steps') :
    ComputationsAlike Eq (performAll enter path steps) (performAll enter' path steps') := by
  induction h with
  | nil => exact .refl _
  | @cons step step' _ _ hstep _ ih =>
    refine ComputationsAlike.bind_eq ?_ fun _ => ih
    cases hstep with
    | same =>
      cases step with
      | enter record m => exact henter rfl rfl
      | _ => exact .refl _
    | enter hr hm => exact henter hr hm
    | fail hfault => exact fun w => ⟨.error hfault, rfl⟩

/-- A method is entered alike. -/
theorem visit_alike (hu : u.unmarked = u'.unmarked) (real : u.BodiesReal) (real' : u'.BodiesReal)
    (left : Nat) (path : List Frame) {record record' : ClassRecord} {m m' : Method}
    (h : record.unmarked = record'.unmarked) (hm : m.unmarked = m'.unmarked) :
    ComputationsAlike Eq (visit u markers limit left path record m)
      (visit u' markers limit left path record' m') := by
  induction left generalizing path record record' m m' with
  | zero =>
    unfold visit
    rw [frame_eq h hm]
    exact .refl _
  | succ left ih =>
    unfold visit
    rw [frame_eq h hm]
    refine ComputationsAlike.bind_eq (.refl _) fun w => ?_
    split
    · exact .refl _
    · refine ComputationsAlike.bind_eq (.refl _) fun _ => ?_
      exact performAll_alike (ih _) (methodSteps_alike hu real real' h hm)

/-- A walk from a method is the same whether there are markers or not. -/
theorem walk_alike (hu : u.unmarked = u'.unmarked) (real : u.BodiesReal) (real' : u'.BodiesReal)
    {record record' : ClassRecord} {m m' : Method} (h : record.unmarked = record'.unmarked)
    (hm : m.unmarked = m'.unmarked) :
    RunsAlike Eq (walk u markers limit record m) (walk u' markers limit record' m') :=
  visit_alike hu real real' limit [] h hm {}

end Calls

/-! ## Endpoints -/

namespace Endpoint

section

variable (u : Universe)

@[simp] theorem genericPaths_unmarked (location owner : String) (arguments : List TypeArgument) :
    genericPaths u.unmarked location owner arguments = genericPaths u location owner arguments := by
  induction arguments with
  | nil => rfl
  | cons argument arguments ih =>
    unfold genericPaths
    cases argument.bound? with
    | none => rfl
    | some t =>
      cases t with
      | object name nested =>
        dsimp only
        rw [ih, u.lookup_unmarked]
        cases u.lookup name <;> rfl
      | _ => rfl

mutual

theorem endpointType_unmarked (location : String) (t : GenericType) :
    endpointType u.unmarked location t = endpointType u location t := by
  match t with
  | .base p => rfl
  | .array component => rw [endpointType, endpointType, endpointType_unmarked location component]
  | .variable name => rfl
  | .object name arguments =>
    unfold endpointType
    rw [elementType_unmarked location name arguments, genericPaths_unmarked, u.lookup_unmarked]
    cases u.lookup name <;> rfl

theorem elementType_unmarked (location collection : String) (arguments : List TypeArgument) :
    elementType u.unmarked location collection arguments =
      elementType u location collection arguments := by
  match arguments with
  | [] => rfl
  | .any :: _ => rfl
  | .atLeast _ :: _ => rfl
  | .exact t :: _ => exact endpointType_unmarked location t
  | .atMost t :: _ => exact endpointType_unmarked location t

end

@[simp] theorem resultType_unmarked (location : String) (returned : GenericType) :
    resultType u.unmarked location returned = resultType u location returned := by
  unfold resultType
  simp only [endpointType_unmarked]

@[simp] theorem readParameters_unmarked (m : Method) (location : String) (index slot : Nat)
    (types : List (FieldType × GenericType)) :
    readParameters u.unmarked m.unmarked location index slot types =
      readParameters u m location index slot types := by
  induction types generalizing index slot with
  | nil => rfl
  | cons type others ih =>
    have hparameter : readParameter u.unmarked m.unmarked location type.2 index slot =
        readParameter u m location type.2 index slot := by
      unfold readParameter
      rw [endpointType_unmarked]
      rfl
    rw [readParameters, readParameters, hparameter, ih]

/-- What an endpoint has whatever its path is the same without markers. -/
@[simp] theorem endpointOf_unmarked (location : String) (record : ClassRecord) (m : Method)
    (verb : Verb) (mapping : Annotation) :
    endpointOf u.unmarked location record.unmarked m.unmarked verb mapping =
      endpointOf u location record m verb mapping := by
  unfold endpointOf parametersOf
  simp only [readParameters_unmarked, resultType_unmarked]
  rfl

end

@[simp] theorem methodMapping?_unmarked (m : Method) :
    methodMapping? m.unmarked = methodMapping? m := rfl

@[simp] theorem classMapping?_unmarked (c : Class) :
    classMapping? c.unmarked = classMapping? c := rfl

section

variable {u u' : Universe} (hu : u.unmarked = u'.unmarked) (real : u.BodiesReal)
  (real' : u'.BodiesReal) (settings : Settings)

theorem ofExcept_alike {α β : Type} {R : α → β → Prop} {x : Except Fault α}
    {y : Except Fault β} (h : OutcomesAlike R x y) :
    ComputationsAlike R (Reporting.ofExcept x) (Reporting.ofExcept y) := fun _ => ⟨h, rfl⟩

include hu real real'

theorem methodEndpoints_alike {record record' : ClassRecord}
    (h : record.unmarked = record'.unmarked) (bases : List String) {m m' : Method}
    (hm : m.unmarked = m'.unmarked) (verb : Verb) (mapping : Annotation) :
    ComputationsAlike Eq (methodEndpoints u settings record bases m verb mapping)
      (methodEndpoints u' settings record' bases m' verb mapping) := by
  have hendpoint (location : String) : endpointOf u location record m verb mapping =
      endpointOf u' location record' m' verb mapping := by
    rw [← endpointOf_unmarked u, hu, h, hm, endpointOf_unmarked]
  have hannotations : m.annotations = m'.annotations := by
    rw [← m.unmarked_annotations, hm, m'.unmarked_annotations]
  have hwalk : RunsAlike Eq (Calls.walk u settings.markers settings.maxCallDepth record m)
      (Calls.walk u' settings.markers settings.maxCallDepth record' m') :=
    Calls.walk_alike hu real real' h hm
  unfold methodEndpoints
  rw [Calls.frame_eq h hm]
  dsimp only
  rw [hendpoint, hannotations]
  generalize Calls.walk u settings.markers settings.maxCallDepth record m = r at hwalk ⊢
  generalize Calls.walk u' settings.markers settings.maxCallDepth record' m' = r' at hwalk ⊢
  obtain ⟨outcome, w⟩ := r
  obtain ⟨outcome', w'⟩ := r'
  obtain ⟨houtcome, hw⟩ := hwalk
  dsimp only at houtcome hw
  subst hw
  refine ComputationsAlike.bind_eq (.refl _) fun endpoint => ?_
  -- The choice is whether several content types are reported; the walk comes after it.
  split
  · refine .bind_eq (.refl _) fun _ => .bind_eq (.refl _) fun status => ?_
    refine .bind_eq (.refl _) fun _ => ?_
    exact .bind_eq (ofExcept_alike houtcome) fun _ => .refl _
  · refine .bind_eq (.refl _) fun status => .bind_eq (.refl _) fun _ => ?_
    exact .bind_eq (ofExcept_alike houtcome) fun _ => .refl _

theorem methodsEndpoints_alike {record record' : ClassRecord}
    (h : record.unmarked = record'.unmarked) (bases : List String) {ms ms' : List Method}
    (hms : List.Forall₂ (fun m m' => m.unmarked = m'.unmarked) ms ms') :
    ComputationsAlike Eq (methodsEndpoints u settings record bases ms)
      (methodsEndpoints u' settings record' bases ms') := by
  induction hms with
  | nil => exact .refl _
  | @cons m m' ms ms' hm _ ih =>
    have hflags : m.flags = m'.flags := by
      rw [← m.unmarked_flags, hm, m'.unmarked_flags]
    have hmapping : methodMapping? m = methodMapping? m' := by
      rw [← methodMapping?_unmarked, hm, methodMapping?_unmarked]
    unfold methodsEndpoints
    rw [hflags, hmapping]
    dsimp only
    split
    · cases methodMapping? m' with
      | none => exact .bind_eq (.refl _) fun own => .bind_eq ih fun _ => .refl _
      | some found =>
        have hown := methodEndpoints_alike hu real real' settings h bases hm found.1 found.2
        exact .bind_eq hown fun own => .bind_eq ih fun _ => .refl _
    · exact .bind_eq (.refl _) fun own => .bind_eq ih fun _ => .refl _

theorem classEndpoints_alike {record record' : ClassRecord}
    (h : record.unmarked = record'.unmarked) :
    ComputationsAlike Eq (classEndpoints u settings record)
      (classEndpoints u' settings record') := by
  refine .bind (ofExcept_alike (ClassRecord.info_alike h)) fun c c' hc => ?_
  have hmapping : classMapping? c = classMapping? c' := by
    rw [← classMapping?_unmarked, hc, classMapping?_unmarked]
  rw [hmapping]
  cases classMapping? c' with
  | none =>
    rw [ClassRecord.path_eq h]
    exact .refl _
  | some mapping =>
    exact methodsEndpoints_alike hu real real' settings h (mappingPaths mapping)
      (forall₂_of_map_eq (congrArg Class.methods hc))

theorem classesEndpoints_alike {records records' : List ClassRecord}
    (h : List.Forall₂ (fun r r' => r.unmarked = r'.unmarked) records records') :
    ComputationsAlike Eq (classesEndpoints u settings records)
      (classesEndpoints u' settings records') := by
  induction h with
  | nil => exact .refl _
  | cons hrecord _ ih =>
    exact .bind_eq (classEndpoints_alike hu real real' settings hrecord) fun _ =>
      .bind_eq ih fun _ => .refl _

/-- The endpoints of a universe are the same whether there are markers or not. -/
theorem extract_alike :
    ComputationsAlike Eq (extract u settings) (extract u' settings) := by
  refine classesEndpoints_alike hu real real' settings (forall₂_of_map_eq ?_)
  rw [← u.recordsIn_unmarked, hu, u'.recordsIn_unmarked]

end

end Endpoint

/-! ## An analysis -/

/-- An analysis does the same in both universes: walks from corresponding methods, the extraction
of endpoints, and the document made of any endpoints. -/
structure AnalysedAlike (u u' : Universe) (settings : Settings) : Prop where
  walk : ∀ (limit : Nat) (record record' : ClassRecord) (m m' : Method),
    record.unmarked = record'.unmarked → m.unmarked = m'.unmarked →
      RunsAlike Eq (Calls.walk u settings.markers limit record m)
        (Calls.walk u' settings.markers limit record' m')
  extract : ∀ events : List Event,
    RunsAlike Eq (runFrom (Endpoint.extract u settings) events)
      (runFrom (Endpoint.extract u' settings) events)
  assemble : ∀ (endpoints : List Endpoint) (events : List Event),
    runFrom (OpenApi.assemble u settings endpoints) events =
      runFrom (OpenApi.assemble u' settings endpoints) events

/-- **Markers carry no meaning**: universes that are the same without markers are analysed alike,
as long as no body is made of markers alone. Such a body counts as one, and without its markers
nothing is left of it. -/
theorem markers_carry_no_meaning {u u' : Universe} (same : u.unmarked = u'.unmarked)
    (real : u.BodiesReal) (real' : u'.BodiesReal) (settings : Settings) :
    AnalysedAlike u u' settings where
  walk _ _ _ _ _ h hm := Calls.walk_alike same real real' h hm
  extract := Endpoint.extract_alike same real real' settings
  assemble endpoints events := by
    rw [← OpenApi.assemble_unmarked u, same, OpenApi.assemble_unmarked]

/-! ## A controller that throws -/

/-- A method whose body has markers between its instructions: it throws a new exception. -/
def throwerMethod : Method where
  name := "fail"
  descriptor := "()V"
  flags := { isPublic := true }
  annotations := [⟨Endpoint.bindingType "GetMapping", []⟩]
  body := [⟨0, .label⟩, ⟨0, .lineNumber 3⟩, ⟨0, .type Opcode.newObject "p/E"⟩, ⟨3, .op 0x59⟩,
    ⟨4, .lineNumber 4⟩, ⟨4, .call ⟨.special, "p/E", "<init>", "()V"⟩⟩, ⟨7, .label⟩,
    ⟨7, .lineNumber 3⟩, ⟨7, .op Opcode.athrow⟩]

/-- The controller of the sample. -/
def throwerClass : Class where
  name := "p/C"
  annotations := [⟨Endpoint.bindingType "RequestMapping", []⟩]
  methods := [throwerMethod]

/-- The classes of the sample. -/
def throwerRecords : List ClassRecord := [.ofClass throwerClass, .ofClass { name := "p/E" }]

/-- The universe of the sample. -/
def thrower : Universe :=
  (Universe.ofRecords throwerRecords { controllers := ["p"], traversal := ["p"] }).toOption.get
    (by decide +kernel)

theorem thrower_bodiesReal : thrower.BodiesReal := by
  have h : Universe.ofRecords throwerRecords { controllers := ["p"], traversal := ["p"] } =
      .ok thrower := toOption_eq_some.mp (Option.some_get _).symm
  refine Universe.bodiesReal_ofRecords h ?_
  simp [throwerRecords, throwerClass, ClassRecord.BodiesReal, ClassRecord.ofClass,
    ClassRecord.info, Fault.ofDecoding, throwerMethod, realPart, Instruction.isMarker,
    Payload.isMarker]

/-- The endpoint of the sample throws the new exception, with markers and without. -/
theorem markers_carry_no_meaning_thrower :
    (runFrom (Endpoint.extract thrower {}) []).1.toOption.map
        (·.map fun e => e.exceptions.map (·.type)) = some [["p/E"]] ∧
      AnalysedAlike thrower thrower.unmarked {} :=
  ⟨by decide +kernel, markers_carry_no_meaning thrower.unmarked_unmarked.symm thrower_bodiesReal
    thrower.bodiesReal_unmarked {}⟩

end ApiSurface
