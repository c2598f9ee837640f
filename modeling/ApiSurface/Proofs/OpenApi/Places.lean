import ApiSurface.Proofs.OpenApi.Operation
import ApiSurface.Proofs.OpenApi.Operations
import ApiSurface.Proofs.Schema.Faults
import ApiSurface.Proofs.Schema.Session
import Mathlib.Logic.Function.Iterate

/-!
# The places of parameters

Every parameter of an endpoint has one place in a request: it is listed with the operation, or it is
one of the files of a form, or it is the body. The operation is made by adding one parameter after
the other; what has been added is described by the parameters so far, and so the order of the
parameters matters within a place only.

Parameters can be refused: no value of a class or an array fits into a path, a body is not a scalar
and the only one, and there is no form beside it.

Main definitions: `Place`, `Placeable`, `Places`. Main statement: `parameters_placed`.
-/
namespace ApiSurface

/-- The type is that of a file under any number of arrays. -/
def EndpointType.IsUpload (type : EndpointType) : Prop :=
  ∃ layers, type = EndpointType.array^[layers] (.builtIn .multipartFile)

namespace OpenApi
open Schema Requesting

theorem isUpload_array {items : EndpointType} :
    (EndpointType.array items).IsUpload ↔ items.IsUpload := by
  constructor
  · rintro ⟨_ | layers, h⟩
    · cases h
    · rw [Function.iterate_succ_apply'] at h
      exact ⟨layers, EndpointType.array.inj h⟩
  · rintro ⟨layers, rfl⟩
    exact ⟨layers + 1, (Function.iterate_succ_apply' ..).symm⟩

/-- A type that is no array has no arrays around it. -/
theorem isUpload_of_not_array {type : EndpointType} (h : ∀ items, type ≠ .array items) :
    type.IsUpload ↔ type = .builtIn .multipartFile := by
  constructor
  · rintro ⟨_ | layers, htype⟩
    · exact htype
    · rw [Function.iterate_succ_apply'] at htype
      exact absurd htype (h _)
  · rintro rfl
    exact ⟨0, rfl⟩

theorem isUpload_iff {type : EndpointType} : isUpload type = true ↔ type.IsUpload := by
  induction type with
  | builtIn type => simp [isUpload, isUpload_of_not_array]
  | object path generics => simp [isUpload, isUpload_of_not_array]
  | array items ih => rw [isUpload, ih, isUpload_array]

instance (type : EndpointType) : Decidable type.IsUpload := decidable_of_iff _ isUpload_iff

/-! ## Places -/

/-- Where the value of a parameter is in a request. -/
inductive Place where
  /-- Listed with the operation, in the path or the query. -/
  | listed
  /-- A file of a form. -/
  | form
  /-- The body. -/
  | body
deriving DecidableEq

/-- The place of a parameter. -/
def placeOf (p : Parameter) : Place :=
  match p.source with
  | .path => .listed
  | .query => if p.type.IsUpload then .form else .listed
  | .body => .body

/-- The parameters of a place, in order. -/
def parametersAt (place : Place) (ps : List Parameter) : List Parameter :=
  ps.filter fun p => placeOf p = place

/-- A parameter as it is listed. -/
def listing (p : Parameter) : RequestParameter where
  name := p.name
  source := p.source
  required := p.source = .path
  schema := ofType p.type

/-- A parameter as a property of a form. -/
def formProperty (p : Parameter) : String × Schema := (p.name, ofType p.type)

/-- The parts of a request with these parameters. -/
def partsOf (ps : List Parameter) : RequestParts where
  parameters := (parametersAt .listed ps).map listing
  uploads := (parametersAt .form ps).map formProperty
  body := (parametersAt .body ps).head?.map fun p => ofType p.type

/-- The type is a scalar. -/
def IsScalar (type : EndpointType) : Prop := ∃ b, type = .builtIn b

/-- The parameters can be added one after the other. -/
structure Placeable (ps : List Parameter) : Prop where
  path : ∀ p ∈ ps, p.source = .path → IsScalar p.type
  body : ∀ p ∈ ps, p.source = .body → ¬ IsScalar p.type
  single : (parametersAt .body ps).length ≤ 1

/-- A parameter can be added to others. -/
structure Fits (done : List Parameter) (p : Parameter) : Prop where
  path : p.source = .path → IsScalar p.type
  body : p.source = .body → ¬ IsScalar p.type
  single : p.source = .body → parametersAt .body done = []

/-! ## One parameter after the other -/

theorem parametersAt_append (place : Place) (done rest : List Parameter) :
    parametersAt place (done ++ rest) = parametersAt place done ++ parametersAt place rest :=
  List.filter_append ..

theorem parametersAt_singleton (place : Place) (p : Parameter) :
    parametersAt place [p] = if placeOf p = place then [p] else [] := by
  by_cases h : placeOf p = place <;> simp [parametersAt, h]

section Steps

variable {done : List Parameter} {p : Parameter}

theorem placeOf_path (h : p.source = .path) : placeOf p = .listed := by
  rw [placeOf, h]

theorem placeOf_upload (h : p.source = .query) (hupload : p.type.IsUpload) :
    placeOf p = .form := by
  simp [placeOf, h, hupload]

theorem placeOf_query (h : p.source = .query) (hupload : ¬ p.type.IsUpload) :
    placeOf p = .listed := by
  simp [placeOf, h, hupload]

theorem placeOf_eq_body : placeOf p = .body ↔ p.source = .body := by
  unfold placeOf
  split
  · simp_all
  · split <;> simp_all
  · simp_all

theorem placeable_append_singleton : Placeable (done ++ [p]) ↔ Placeable done ∧ Fits done p := by
  have hsingle : (parametersAt .body (done ++ [p])).length ≤ 1 ↔
      (parametersAt .body done).length ≤ 1 ∧
        (p.source = .body → parametersAt .body done = []) := by
    rw [← List.length_eq_zero_iff, parametersAt_append, List.length_append,
      parametersAt_singleton]
    by_cases h : p.source = .body
    · simp only [placeOf_eq_body.mpr h, ↓reduceIte, List.length_singleton, h, forall_const]
      omega
    · simp [mt placeOf_eq_body.mp h, h]
  constructor
  · rintro ⟨path, body, single⟩
    obtain ⟨path, hpath⟩ := List.forall_mem_append.mp path
    obtain ⟨body, hbody⟩ := List.forall_mem_append.mp body
    obtain ⟨single, hnone⟩ := hsingle.mp single
    exact ⟨⟨path, body, single⟩, by simpa using hpath, by simpa using hbody, hnone⟩
  · rintro ⟨⟨path, body, single⟩, fits⟩
    refine ⟨List.forall_mem_append.mpr ⟨path, ?_⟩, List.forall_mem_append.mpr ⟨body, ?_⟩,
      hsingle.mpr ⟨single, fits.single⟩⟩
    · simpa using fits.path
    · simpa using fits.body

/-- A parameter that fits is added at its place. -/
theorem addParameter_fits (location : String) (h : Fits done p) :
    (addParameter location (partsOf done) p).outcome = .ok (partsOf (done ++ [p])) := by
  simp only [partsOf, parametersAt_append, parametersAt_singleton]
  cases hsource : p.source with
  | path =>
    obtain ⟨b, hb⟩ := h.path hsource
    simp [addParameter, placeOf_path hsource, hsource, hb, listing, ofType]
  | query =>
    by_cases hupload : p.type.IsUpload
    · simp [addParameter, placeOf_upload hsource hupload, hsource, isUpload_iff.mpr hupload,
        outcome_bind, formProperty]
    · simp [addParameter, placeOf_query hsource hupload, hsource, mt isUpload_iff.mp hupload,
        outcome_bind, listing]
  | body =>
    rw [placeOf_eq_body.mpr hsource, h.single hsource]
    cases htype : p.type with
    | builtIn b => exact absurd ⟨b, htype⟩ (h.body hsource)
    | object path generics => simp [addParameter, hsource, htype, outcome_bind]
    | array items => simp [addParameter, hsource, htype, outcome_bind]

/-- A parameter that does not fit ends the adding. -/
theorem addParameter_refused (location : String) (h : ¬ Fits done p) :
    ∃ fault, (addParameter location (partsOf done) p).outcome = .error fault ∧
      fault.isAboutRequest = true := by
  unfold addParameter
  cases hsource : p.source with
  | path =>
    cases htype : p.type with
    | builtIn b => exact absurd ⟨fun _ => ⟨b, htype⟩, by simp [hsource], by simp [hsource]⟩ h
    | object path generics => exact ⟨_, rfl, rfl⟩
    | array items => exact ⟨_, rfl, rfl⟩
  | query => exact absurd ⟨by simp [hsource], by simp [hsource], by simp [hsource]⟩ h
  | body =>
    dsimp only
    split
    · exact ⟨_, rfl, rfl⟩
    next hfirst =>
      have hnone : parametersAt .body done = [] := by simpa [partsOf] using hfirst
      split
      · exact ⟨_, rfl, rfl⟩
      next hscalar =>
        refine absurd ⟨by simp [hsource], fun _ => ?_, fun _ => hnone⟩ h
        rintro ⟨b, hb⟩
        exact hscalar b hb

end Steps

theorem Placeable.of_append {done rest : List Parameter} (h : Placeable (done ++ rest)) :
    Placeable done where
  path p hp := h.path p (List.mem_append_left _ hp)
  body p hp := h.body p (List.mem_append_left _ hp)
  single := by
    have hle := h.single
    rw [parametersAt_append, List.length_append] at hle
    omega

/-- Parameters are added in order if they can be, and the first that does not fit is refused. -/
theorem addParameters_after (location : String) {done : List Parameter} (h : Placeable done)
    (rest : List Parameter) :
    (Placeable (done ++ rest) →
        (addParameters location (partsOf done) rest).outcome = .ok (partsOf (done ++ rest))) ∧
      (¬ Placeable (done ++ rest) →
        ∃ fault, (addParameters location (partsOf done) rest).outcome = .error fault ∧
          fault.isAboutRequest = true) := by
  induction rest generalizing done with
  | nil =>
    rw [List.append_nil]
    exact ⟨fun _ => rfl, fun hnot => absurd h hnot⟩
  | cons p rest ih =>
    rw [List.append_cons, addParameters, outcome_bind]
    by_cases hfits : Fits done p
    · rw [addParameter_fits location hfits]
      exact ih (placeable_append_singleton.mpr ⟨h, hfits⟩)
    · obtain ⟨fault, hfault, habout⟩ := addParameter_refused location hfits
      rw [hfault]
      exact ⟨fun hall => absurd (placeable_append_singleton.mp hall.of_append).2 hfits,
        fun _ => ⟨fault, rfl, habout⟩⟩

theorem Placeable.nil : Placeable [] := ⟨by simp, by simp, by simp [parametersAt]⟩

/-- What adding the parameters of an endpoint ends with. -/
theorem addParameters_spec (location : String) (ps : List Parameter) :
    (Placeable ps → (addParameters location {} ps).outcome = .ok (partsOf ps)) ∧
      (¬ Placeable ps → ∃ fault, (addParameters location {} ps).outcome = .error fault ∧
        fault.isAboutRequest = true) :=
  addParameters_after location .nil ps

/-! ## Conflicts -/

variable {u : Universe} {e : Endpoint} {ps : List Parameter}

/-- The parameters are not the parts of one request. -/
def Conflict (ps : List Parameter) : Prop :=
  (∃ p ∈ ps, p.source = .path ∧ ¬ IsScalar p.type) ∨
    2 ≤ (parametersAt .body ps).length ∨
    (∃ p ∈ ps, p.source = .body ∧ IsScalar p.type) ∨
    parametersAt .form ps ≠ [] ∧ parametersAt .body ps ≠ []

/-- There is a conflict if parameters cannot be added, or if there is a body beside a form. -/
theorem conflict_iff :
    Conflict ps ↔ ¬ Placeable ps ∨ parametersAt .form ps ≠ [] ∧ parametersAt .body ps ≠ [] := by
  have hplaceable : Placeable ps ↔
      (∀ p ∈ ps, p.source = .path → IsScalar p.type) ∧
        (parametersAt .body ps).length < 2 ∧
        ∀ p ∈ ps, p.source = .body → ¬ IsScalar p.type :=
    ⟨fun ⟨path, body, single⟩ => ⟨path, Nat.lt_succ_of_le single, body⟩,
      fun ⟨path, single, body⟩ => ⟨path, body, Nat.le_of_lt_succ single⟩⟩
  rw [hplaceable, Conflict, not_and_or, not_and_or]
  push Not
  rw [or_assoc, or_assoc]

theorem requestBody_conflict (location contentType : String)
    (h : parametersAt .form ps ≠ [] ∧ parametersAt .body ps ≠ []) :
    requestBody location contentType (partsOf ps) =
      .error (.unrecognized .uploadsWithBody location) := by
  obtain ⟨p, others, hbody⟩ := List.exists_cons_of_ne_nil h.2
  simp [requestBody, partsOf, hbody, h.1]

/-- The body of a request without a conflict. -/
def contentOf (contentType : String) (ps : List Parameter) : Option Content :=
  match parametersAt .body ps, parametersAt .form ps with
  | p :: _, _ => some ⟨contentType, ofType p.type⟩
  | [], [] => none
  | [], p :: uploads => some ⟨"multipart/form-data", .object ((p :: uploads).map formProperty)⟩

theorem requestBody_partsOf (location contentType : String)
    (h : ¬ (parametersAt .form ps ≠ [] ∧ parametersAt .body ps ≠ [])) :
    requestBody location contentType (partsOf ps) = .ok (contentOf contentType ps) := by
  unfold requestBody partsOf contentOf
  cases hbody : parametersAt .body ps <;> cases hform : parametersAt .form ps <;> simp_all

/-! ## Requests for schemas -/

/-- What a session is asked for to make the schemas of parameters. What is in the path has none. -/
def parameterDemands (ps : List Parameter) : List Demand :=
  (ps.filter (·.source ≠ .path)).map fun p => .schemaOf p.type

/-- What is asked for to make the schemas of parameters. -/
def parameterRequests (ps : List Parameter) : List Request := demanded (parameterDemands ps)

theorem parameterRequests_cons (p : Parameter) (ps : List Parameter) :
    parameterRequests (p :: ps) = parameterRequests [p] ++ parameterRequests ps := by
  simp only [parameterRequests, parameterDemands, demanded]
  rw [← List.flatMap_append, ← List.map_append, ← List.filter_append, List.singleton_append]

theorem parameterRequests_path {p : Parameter} (h : p.source = .path) :
    parameterRequests [p] = [] := by
  simp [parameterRequests, parameterDemands, demanded, h]

theorem parameterRequests_of_ne {p : Parameter} (h : p.source ≠ .path) :
    parameterRequests [p] = (typeSchema p.type).requests := by
  simp [parameterRequests, parameterDemands, demanded, h, Demand.asking,
    requests_bind_of_ok (outcome_typeSchema p.type)]

/-- A parameter that is added has had its schema asked for; one that is refused asks for nothing. -/
theorem requests_addParameter (location : String) (parts : RequestParts) (p : Parameter) :
    (∃ parts', (addParameter location parts p).outcome = .ok parts' ∧
        (addParameter location parts p).requests = parameterRequests [p]) ∨
      ∃ fault, addParameter location parts p = .fail fault := by
  have hasked (f : Schema → RequestParts) (h : p.source ≠ .path) :
      ∃ parts', (typeSchema p.type >>= fun schema => pure (f schema)).outcome = .ok parts' ∧
        (typeSchema p.type >>= fun schema => pure (f schema)).requests =
          parameterRequests [p] := by
    refine ⟨f (ofType p.type), by simp [outcome_bind], ?_⟩
    simp [requests_bind_of_ok (outcome_typeSchema p.type), parameterRequests_of_ne h]
  unfold addParameter
  split
  · next hsource =>
    split
    · exact .inl ⟨_, rfl, (parameterRequests_path hsource).symm⟩
    · exact .inr ⟨_, rfl⟩
  · next hsource =>
    split
    · exact .inl (hasked _ (by simp [hsource]))
    · exact .inl (hasked _ (by simp [hsource]))
  · next hsource =>
    split
    · exact .inr ⟨_, rfl⟩
    split
    · exact .inr ⟨_, rfl⟩
    · exact .inl (hasked _ (by simp [hsource]))

/-- Adding parameters asks for their schemas in order, as far as it comes. -/
theorem requests_addParameters (location : String) (parts : RequestParts) (ps : List Parameter) :
    (addParameters location parts ps).requests <+: parameterRequests ps := by
  induction ps generalizing parts with
  | nil => exact List.nil_prefix
  | cons p ps ih =>
    rw [addParameters, parameterRequests_cons]
    obtain ⟨parts', houtcome, hrequests⟩ | ⟨fault, hfault⟩ := requests_addParameter location parts p
    · rw [requests_bind_of_ok houtcome, hrequests]
      exact (List.prefix_append_right_inj _).mpr (ih parts')
    · rw [hfault]
      exact List.nil_prefix

/-! ## Statuses of exceptions -/

theorem requestless_responseStatus (annotations : List Annotation) (location : String) :
    Requestless (responseStatus annotations location) := by
  unfold responseStatus
  split
  · exact .ok none
  split
  · exact .ok none
  · split
    · split
      · exact .ok _
      · exact .error rfl
    · exact .error rfl
  · exact .error rfl

theorem requestless_statusFrom (u : Universe) (budget : Nat) (record : ClassRecord) :
    Requestless (statusFrom u budget record) := by
  induction budget generalizing record with
  | zero =>
    unfold statusFrom
    refine .bind (ClassFaults.info record).requestless fun c => ?_
    refine .bind (requestless_responseStatus _ _) fun status => ?_
    split <;> exact .ok _
  | succ budget ih =>
    unfold statusFrom
    refine .bind (ClassFaults.info record).requestless fun c => ?_
    refine .bind (requestless_responseStatus _ _) fun status => ?_
    split
    · exact .ok _
    dsimp only
    split
    · exact .ok none
    · exact ih _

theorem requestless_addExceptions (u : Universe) (responses : Responses)
    (es : List ThrownException) : Requestless (addExceptions u responses es) := by
  induction es generalizing responses with
  | nil => exact .ok responses
  | cons x es ih =>
    refine .bind ?_ fun status => ?_
    · unfold exceptionStatus
      split
      · exact .ok none
      · exact requestless_statusFrom u _ _
    · split
      · exact ih _
      · exact ih _

/-! ## Operations -/

/-- An operation is refused for a conflict, before anything is asked for but the schemas of the
parameters. -/
theorem operationOf_conflict (u : Universe) (h : Conflict e.parameters) :
    ∃ fault, (operationOf u e).outcome = .error fault ∧ fault.isAboutRequest = true ∧
      (operationOf u e).requests <+: parameterRequests e.parameters := by
  have hrequests := requests_addParameters (endpointLocation e) {} e.parameters
  obtain ⟨hadded, hrefused⟩ := addParameters_spec (endpointLocation e) e.parameters
  by_cases hplaceable : Placeable e.parameters
  · have hboth := (conflict_iff.mp h).resolve_left (not_not_intro hplaceable)
    have hbody := requestBody_conflict (endpointLocation e) e.contentType hboth
    refine ⟨.unrecognized .uploadsWithBody (endpointLocation e), ?_, rfl, ?_⟩
    · rw [outcome_operationOf, hadded hplaceable, ok_bind, hbody, error_bind]
    · rw [operationOf, requests_bind_of_ok (hadded hplaceable), hbody]
      simpa using hrequests
  · obtain ⟨fault, hfault, habout⟩ := hrefused hplaceable
    refine ⟨fault, ?_, habout, ?_⟩
    · rw [outcome_operationOf, hfault, error_bind]
    · rw [operationOf, requests_bind, hfault]
      simpa [Except.toOption] using hrequests

/-- Without a conflict an operation is made, unless an exception has a status that cannot be
read. -/
theorem outcome_operationOf_fits (u : Universe) (h : ¬ Conflict e.parameters) :
    (operationOf u e).outcome = (do
      let responses ←
        addExceptions u (({} : Responses).insert e.status.code (successResponse e)) e.exceptions
      .ok ⟨(tagOf e.path).toList, (partsOf e.parameters).parameters,
        contentOf e.contentType e.parameters, responses, e.exceptions.map .ofException,
        e.validations.map .ofRule⟩) := by
  obtain ⟨hplaceable, hapart⟩ := not_or.mp (mt conflict_iff.mpr h)
  rw [outcome_operationOf, (addParameters_spec _ _).1 (not_not.mp hplaceable), ok_bind,
    requestBody_partsOf _ _ hapart, ok_bind]

/-- Where the parameters of an endpoint are in its operation. -/
structure Places (e : Endpoint) (o : Operation) : Prop where
  /-- The parameters of the path, and those of the query that are no uploads, in order. -/
  listed : o.parameters = (parametersAt .listed e.parameters).map listing
  /-- What is in the path is required, and a scalar. -/
  path : ∀ r ∈ o.parameters, r.source = .path → r.required = true ∧ ∃ b, r.schema = .scalar b
  /-- Uploads are the properties of one form, in order. -/
  form : parametersAt .form e.parameters ≠ [] → o.requestBody =
    some ⟨"multipart/form-data", .object ((parametersAt .form e.parameters).map formProperty)⟩
  single : (parametersAt .body e.parameters).length ≤ 1
  body : ∀ p ∈ parametersAt .body e.parameters,
    o.requestBody = some ⟨e.contentType, ofType p.type⟩
  none_iff : o.requestBody = none ↔
    parametersAt .form e.parameters = [] ∧ parametersAt .body e.parameters = []

/-- The parts of a request without a conflict are the places of its parameters. -/
theorem places_of_not_conflict {o : Operation} (h : ¬ Conflict e.parameters)
    (hlisted : o.parameters = (partsOf e.parameters).parameters)
    (hcontent : o.requestBody = contentOf e.contentType e.parameters) : Places e o := by
  obtain ⟨hplaceable, hapart⟩ := not_or.mp (mt conflict_iff.mpr h)
  obtain ⟨hpath, -, hsingle⟩ := not_not.mp hplaceable
  unfold contentOf at hcontent
  constructor
  case listed => exact hlisted
  case path =>
    intro r hr hsource
    obtain ⟨p, hp, rfl⟩ := List.mem_map.mp (hlisted ▸ hr)
    obtain ⟨b, hb⟩ := hpath p (List.mem_of_mem_filter hp) hsource
    exact ⟨decide_eq_true hsource, b, by rw [listing, hb, ofType]⟩
  case single => exact hsingle
  all_goals
    cases hbody : parametersAt .body e.parameters <;>
      cases hform : parametersAt .form e.parameters <;> simp_all

theorem places_of_outcome {o : Operation} (h : (operationOf u e).outcome = .ok o) :
    Places e o := by
  by_cases hconflict : Conflict e.parameters
  · obtain ⟨fault, hfault, -⟩ := operationOf_conflict u hconflict
    cases h.symm.trans hfault
  · rw [outcome_operationOf_fits u hconflict] at h
    obtain ⟨responses, -, h⟩ := bind_eq_ok.mp h
    cases h
    exact places_of_not_conflict hconflict rfl rfl

/-- An operation that is refused for its request has a conflict. -/
theorem conflict_of_outcome {fault : Fault} (h : (operationOf u e).outcome = .error fault)
    (habout : fault.isAboutRequest = true) : Conflict e.parameters := by
  by_contra hconflict
  rw [outcome_operationOf_fits u hconflict] at h
  have hrequestless := (requestless_addExceptions u _ _).bind (fun _ => .ok _) fault h
  simp [habout] at hrequestless

/-- **Every parameter has its place, and an operation is refused for a conflict only.** What a
generator makes of a type is the schema that stands for the type here. If an operation is made, its
parameters, its form and its body are those of the endpoint. If the schemas of the parameters can
be made one after the other, it is refused for its request exactly if there is a conflict. -/
theorem parameters_placed (u : Universe) (markers : Markers) (e : Endpoint) (c : Catalog) :
    (∀ type schema c', runFrom (endpointSchema u markers type) c = (.ok schema, c') →
        schema = ofType type) ∧
      (∀ o c', runFrom (make u markers (operationOf u e)) c = (.ok o, c') → Places e o) ∧
      (Succeeds (session u markers (parameterDemands e.parameters) c).1 →
        ((∃ cause location, (runFrom (make u markers (operationOf u e)) c).1 =
            .error (.unrecognized cause location) ∧
            (cause.construct = "path parameter" ∨ cause.construct = "request body")) ↔
          Conflict e.parameters)) := by
  refine ⟨fun type schema c' h => ?_, fun o c' h => places_of_outcome (answers_of_make h).2,
    fun h => ⟨?_, fun hconflict => ?_⟩⟩
  · rw [← Except.ok.injEq, ← (answers_of_make h).2, outcome_typeSchema]
  · rintro ⟨cause, location, hfault, hconstruct⟩
    have habout := Fault.isAboutRequest_iff.mpr ⟨cause, location, rfl, hconstruct⟩
    exact conflict_of_outcome (outcome_of_make hfault habout) habout
  · obtain ⟨fault, hfault, habout, hrequests⟩ := operationOf_conflict u hconflict
    obtain ⟨cause, location, rfl, hconstruct⟩ := Fault.isAboutRequest_iff.mp habout
    exact ⟨cause, location, (make_of_session h hrequests).trans hfault, hconstruct⟩

/-! ## Uploads -/

/-- An endpoint with uploads between the parameters that are listed. -/
def uploadEndpoint : Endpoint :=
  { wareEndpoint .post "upload" "p/Ware" with
    parameters := [⟨"scans", .query, .array (.array (.builtIn .multipartFile))⟩,
      ⟨"id", .path, .builtIn .uuid⟩, ⟨"photo", .query, .builtIn .multipartFile⟩,
      ⟨"wares", .query, .array (.object "p/Ware" [])⟩] }

/-- An endpoint with a body beside an upload. -/
def mixedEndpoint : Endpoint :=
  { wareEndpoint .put "mix" "p/Ware" with
    parameters := [⟨"basket", .body, .object "p/Basket" []⟩,
      ⟨"photo", .query, .builtIn .multipartFile⟩] }

/-- Uploads are taken out of the list, into a form; and a form does not go with a body. -/
theorem parameters_placed_uploads :
    (∃ o c, runFrom (make wares {} (operationOf wares uploadEndpoint)) {} = (.ok o, c) ∧
      Places uploadEndpoint o ∧ o.parameters.map (·.name) = ["id", "wares"] ∧
      o.requestBody.map (·.type) = some "multipart/form-data") ∧
      ∃ cause location, (runFrom (make wares {} (operationOf wares mixedEndpoint)) {}).1 =
        .error (.unrecognized cause location) ∧
        (cause.construct = "path parameter" ∨ cause.construct = "request body") := by
  have hplaces := (parameters_placed wares {} uploadEndpoint {}).2.1
  have hconflict := (parameters_placed wares {} mixedEndpoint {}).2.2
  let run := runFrom (make wares {} (operationOf wares uploadEndpoint)) {}
  let o := run.1.toOption.get (by decide +kernel)
  have hok : run.1 = .ok o := toOption_eq_some.mp (Option.some_get _).symm
  have hrun : run = (.ok o, run.2) := Prod.ext hok rfl
  refine ⟨⟨o, run.2, hrun, hplaces o run.2 hrun, by decide +kernel, by decide +kernel⟩, ?_⟩
  exact (hconflict (by decide +kernel)).mpr (.inr (.inr (.inr (by decide +kernel))))

end OpenApi
end ApiSurface
