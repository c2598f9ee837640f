import ApiSurface.OpenApi.Assembly
import ApiSurface.Proofs.Schema.Requests

/-!
# What an operation asks for

The schemas of an operation stand in its parameters, its request body and its responses. They refer
to exactly what was asked for to make the operation.

Main definition: `Operation.references`. Main statement: `operationOf_refers`.
-/
namespace ApiSurface.OpenApi
open Schema Requesting

/-- The names in the schema of a body. -/
def contentReferences (content : Option Content) : List String :=
  content.toList.flatMap (·.schema.references)

/-- The names in the schemas of parameters. -/
def parameterReferences (parameters : List RequestParameter) : List String :=
  parameters.flatMap (·.schema.references)

/-- The names in the schemas of responses. -/
def responseReferences (responses : Responses) : List String :=
  responses.toList.flatMap fun (_, r) => contentReferences r.content

/-- The names in the schemas of an operation. -/
def Operation.references (o : Operation) : List String :=
  parameterReferences o.parameters ++ contentReferences o.requestBody ++
    responseReferences o.responses

/-- The names in the schemas of the parts of a request. -/
def RequestParts.references (parts : RequestParts) : List String :=
  parameterReferences parts.parameters ++ propertyReferences parts.uploads ++
    parts.body.toList.flatMap (·.references)

theorem mem_propertyReferences {properties : List (String × Schema)} {n : String} :
    n ∈ propertyReferences properties ↔ ∃ p ∈ properties, n ∈ p.2.references := by
  induction properties with
  | nil => simp [propertyReferences]
  | cons p properties ih => simp [propertyReferences, ih]

/-! ## Requests -/

theorem addParameter_refers (location : String) (parts : RequestParts) (p : Parameter) :
    (addParameter location parts p).Refers parts.references RequestParts.references := by
  unfold addParameter
  split
  · split
    · exact .pure fun n => by
        simp [RequestParts.references, parameterReferences, Schema.references]
    · exact .fail
  · split
    · refine .bind (typeSchema_refers p.type) fun schema => .pure fun n => ?_
      simp only [RequestParts.references, List.mem_append, mem_propertyReferences]
      simp
      grind
    · refine .bind (typeSchema_refers p.type) fun schema => .pure fun n => ?_
      simp [RequestParts.references, parameterReferences]
      grind
  · split
    · exact .fail
    split
    · exact .fail
    · refine .bind (typeSchema_refers p.type) fun schema => .pure fun n => ?_
      simp_all [RequestParts.references]

theorem addParameters_refers (location : String) (parts : RequestParts) (ps : List Parameter) :
    (addParameters location parts ps).Refers parts.references RequestParts.references := by
  induction ps generalizing parts with
  | nil => exact .pure fun _ => .rfl
  | cons p ps ih => exact .seq (addParameter_refers location parts p) ih

/-- A request body has the schemas of the parts that are not parameters. -/
theorem requestBody_references {location contentType : String} {parts : RequestParts}
    {body : Option Content} (h : requestBody location contentType parts = .ok body) (n : String) :
    n ∈ contentReferences body ↔
      n ∈ propertyReferences parts.uploads ++ parts.body.toList.flatMap (·.references) := by
  unfold requestBody at h
  split at h <;> split at h <;> cases h <;>
    simp_all [contentReferences, Schema.references, propertyReferences]

/-! ## Responses -/

theorem mem_responseReferences {responses : Responses} {n : String} :
    n ∈ responseReferences responses ↔
      ∃ (code : Nat) (r : Response), responses[code]? = some r ∧
        n ∈ contentReferences r.content := by
  simp [responseReferences, Std.ExtTreeMap.mem_toList_iff_getElem?_eq_some]

theorem mem_responseReferences_insert {code : Nat} {r : Response} {n : String} :
    n ∈ responseReferences (({} : Responses).insert code r) ↔ n ∈ contentReferences r.content := by
  rw [mem_responseReferences]
  constructor
  · rintro ⟨other, r, hr, hn⟩
    rw [Std.ExtTreeMap.getElem?_insert] at hr
    split at hr
    · cases hr
      exact hn
    · simp at hr
  · exact fun hn => ⟨code, r, by simp, hn⟩

/-- The responses to exceptions have no content. -/
theorem addExceptions_references {u : Universe} {responses all : Responses}
    {es : List ThrownException} (h : addExceptions u responses es = .ok all) (n : String) :
    n ∈ responseReferences all ↔ n ∈ responseReferences responses := by
  induction es generalizing responses with
  | nil =>
    cases h
    rfl
  | cons e es ih =>
    obtain ⟨status, -, h⟩ := bind_eq_ok.mp h
    split at h
    · exact ih h
    next status =>
      rw [ih h, mem_responseReferences, mem_responseReferences]
      simp only [Std.ExtTreeMap.getElem?_insertIfNew]
      constructor
      · rintro ⟨code, r, hr, hn⟩
        split at hr
        · cases hr
          simp [contentReferences] at hn
        · exact ⟨code, r, hr, hn⟩
      · rintro ⟨code, r, hr, hn⟩
        refine ⟨code, r, ?_, hn⟩
        rw [if_neg, hr]
        rintro ⟨heq, hnew⟩
        obtain rfl := Nat.compare_eq_eq.mp heq
        exact hnew (Std.ExtTreeMap.mem_iff_isSome_getElem?.mpr (by simp [hr]))

theorem returnedContent_refers (returns : Option EndpointType) :
    (returnedContent returns).Refers [] contentReferences := by
  cases returns with
  | none => exact .pure fun _ => .rfl
  | some type =>
    exact .bind (typeSchema_refers type) fun schema => .pure (by simp [contentReferences])

/-- **The schemas of an operation refer to what was asked for to make it.** -/
theorem operationOf_refers (u : Universe) (e : Endpoint) :
    (operationOf u e).Refers [] Operation.references := by
  refine .seq (addParameters_refers _ _ _) fun parts => ?_
  refine .ofExcept fun body hbody => ?_
  refine .bind (returnedContent_refers e.returns) fun content => ?_
  refine .ofExcept fun responses hresponses => ?_
  refine .pure fun n => ?_
  simp only [Operation.references, List.mem_append, requestBody_references hbody,
    addExceptions_references hresponses, mem_responseReferences_insert, RequestParts.references,
    or_assoc]

/-! ## Outcomes -/

/-- The response to a call that succeeds. -/
def successResponse (e : Endpoint) : Response where
  description := e.status.reason
  content := e.returns.map fun type => ⟨"application/json", ofType type⟩

theorem outcome_returnedContent (returns : Option EndpointType) :
    (returnedContent returns).outcome =
      .ok (returns.map fun type => ⟨"application/json", ofType type⟩) := by
  cases returns with
  | none => rfl
  | some type =>
    rw [returnedContent, outcome_bind, outcome_typeSchema]
    rfl

/-- What the operation of an endpoint ends with, in the order of its parts. -/
theorem outcome_operationOf (u : Universe) (e : Endpoint) :
    (operationOf u e).outcome = (do
      let parts ← (addParameters (endpointLocation e) {} e.parameters).outcome
      let body ← requestBody (endpointLocation e) e.contentType parts
      let responses ←
        addExceptions u (({} : Responses).insert e.status.code (successResponse e)) e.exceptions
      .ok ⟨(tagOf e.path).toList, parts.parameters, body, responses,
        e.exceptions.map .ofException, e.validations.map .ofRule⟩) := by
  simp only [operationOf, outcome_bind, outcome_ofExcept, outcome_returnedContent, ok_bind,
    outcome_pure, successResponse]

end ApiSurface.OpenApi
