import ApiSurface.Endpoint.Parameters
import ApiSurface.Journal.Reporting
import ApiSurface.Signature.Reading

/-!
# Extracting endpoints

The controllers of a universe are its mapped classes in the controller packages. Each of their
public methods with a mapping of its own gives one endpoint for every pair of a path of the class
and a path of the method.

Main definitions: `mappingPaths`, `methodEndpoints`, `extract`.
-/
namespace ApiSurface.Endpoint

/-- The content type of a body if none is declared. -/
def defaultContentType : String := "application/json"

/-- The verbs of the annotations that map a method. -/
def verbMappings : List (String × Verb) :=
  [(bindingType "GetMapping", .get), (bindingType "PostMapping", .post),
    (bindingType "PutMapping", .put), (bindingType "DeleteMapping", .delete),
    (bindingType "PatchMapping", .patch)]

/-- The paths of a mapping; the empty path if it has none. -/
def mappingPaths (mapping : Annotation) : List String :=
  let paths := ((mapping.value? ["value", "path"]).map Element.strings).getD []
  if paths.isEmpty then [""] else paths

/-- The mapping of a class. -/
def classMapping? (c : Class) : Option Annotation :=
  c.annotations.find? (·.type = bindingType "RequestMapping")

/-- The verb and the mapping of a method: its first mapping annotation decides. -/
def methodMapping? (m : Method) : Option (Verb × Annotation) :=
  m.annotations.findSome? fun a =>
    (verbMappings.find? (·.1 = a.type)).map fun (_, verb) => (verb, a)

/-- The content types that a mapping declares. -/
def declaredContentTypes (mapping : Annotation) : List String :=
  ((mapping.value? ["consumes"]).map Element.strings).getD []

/-- The type that a method returns, if any. A signature takes precedence, but a method without a
result by its descriptor has none. -/
def returnedType (erased : MethodType) (signature : Option GenericMethod) : Option GenericType :=
  match erased.returns, signature with
  | none, _ => none
  | some _, some signature => signature.returns
  | some t, none => some (.ofErased t)

/-- What an endpoint has whatever its path. -/
def endpointOf (u : Universe) (location : String) (record : ClassRecord) (m : Method)
    (verb : Verb) (mapping : Annotation) : Except Fault Endpoint := do
  let erased ← Fault.ofReading m.descriptor (MethodType.ofDescriptor m.descriptor)
  let signature ← match m.signature with
    | none => .ok none
    | some text => do
      let signature ← Fault.ofReading text (GenericMethod.ofSignature text)
      .ok (some signature)
  let parameters ← parametersOf u m location erased.parameters signature
  let returns ← match returnedType erased signature with
    | none => .ok none
    | some t => resultType u location t
  .ok
    { verb, path := "", contentType := (declaredContentTypes mapping).headD defaultContentType
      status := .success, parameters, returns, exceptions := [], validations := []
      controller := record.path, method := m.name }

/-- The endpoint with a path of the class and a path of the method. -/
def atPaths (e : Endpoint) (base path : String) : Endpoint :=
  { e with path := joinPaths base path }

/-- The endpoints of a mapped method. -/
def methodEndpoints (u : Universe) (settings : Settings) (record : ClassRecord)
    (bases : List String) (m : Method) (verb : Verb) (mapping : Annotation) :
    Reporting (List Endpoint) := do
  let location := (Frame.ofMethod record m).location
  let endpoint ← Reporting.ofExcept (endpointOf u location record m verb mapping)
  let declared := declaredContentTypes mapping
  if 1 < declared.length then Reporting.report (.contentTypes location declared)
  let status ← Reporting.ofExcept (responseStatus m.annotations location)
  let (outcome, walk) := Calls.walk u settings.markers settings.maxCallDepth record m
  Reporting.reportAll walk.events
  Reporting.ofExcept outcome
  Reporting.report (.walked location walk.exceptions.length walk.validations.length)
  let endpoint := { endpoint with
    status := status.getD .success
    exceptions := walk.exceptions
    validations := walk.validations }
  pure (bases.flatMap fun base => (mappingPaths mapping).map fun path => endpoint.atPaths base path)

/-- The endpoints of the methods of a controller. -/
def methodsEndpoints (u : Universe) (settings : Settings) (record : ClassRecord)
    (bases : List String) : List Method → Reporting (List Endpoint)
  | [] => pure []
  | m :: ms => do
    let own ←
      if m.flags.isPublic && ! m.flags.isBridge then
        match methodMapping? m with
        | some (verb, mapping) => methodEndpoints u settings record bases m verb mapping
        | none => pure []
      else pure []
    let others ← methodsEndpoints u settings record bases ms
    pure (own ++ others)

/-- The endpoints of a class: none unless the class is mapped. -/
def classEndpoints (u : Universe) (settings : Settings) (record : ClassRecord) :
    Reporting (List Endpoint) := do
  let c ← Reporting.ofExcept record.info
  match classMapping? c with
  | none => do
    Reporting.report (.notMapped record.path)
    pure []
  | some mapping => methodsEndpoints u settings record (mappingPaths mapping) c.methods

/-- The endpoints of several classes. -/
def classesEndpoints (u : Universe) (settings : Settings) :
    List ClassRecord → Reporting (List Endpoint)
  | [] => pure []
  | record :: records => do
    let own ← classEndpoints u settings record
    let others ← classesEndpoints u settings records
    pure (own ++ others)

/-- The endpoints of a universe. -/
def extract (u : Universe) (settings : Settings) : Reporting (List Endpoint) :=
  classesEndpoints u settings (u.recordsIn .controllers)

end ApiSurface.Endpoint
