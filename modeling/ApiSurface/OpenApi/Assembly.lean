import ApiSurface.OpenApi.Request

/-!
# Assembling a document

Each endpoint becomes an operation. Of several endpoints with one path and verb the first is kept,
but the schemas that the others refer to stay in the document.

Main definitions: `exceptionStatus`, `operationOf`, `assemble`.
-/
namespace ApiSurface.OpenApi
open Schema (Generating Requesting make typeSchema)

/-- The status that a class, or the nearest class above it that has one, declares. -/
def statusFrom (u : Universe) : (budget : Nat) → ClassRecord → Except Fault (Option Status)
  | budget, record => do
    let c ← record.info
    match ← responseStatus c.annotations record.path with
    | some status => .ok (some status)
    | none => match budget with
      | 0 => .ok none
      | budget + 1 => match c.superclass.bind u.find? with
        | none => .ok none
        | some parent => statusFrom u budget parent

/-- The status that an exception is answered with. -/
def exceptionStatus (u : Universe) (type : String) : Except Fault (Option Status) :=
  match u.find? type with
  | none => .ok none
  | some record => statusFrom u u.size record

/-- Add the responses to exceptions whose codes have no response yet. -/
def addExceptions (u : Universe) (responses : Responses) :
    List ThrownException → Except Fault Responses
  | [] => .ok responses
  | e :: es => do
    match ← exceptionStatus u e.type with
    | none => addExceptions u responses es
    | some status =>
      addExceptions u (responses.insertIfNew status.code ⟨status.reason, none⟩) es

/-- The first segment of a request path. -/
def tagOf (path : String) : Option String := (pathSegments path).head?.map String.ofList

/-- What an endpoint is in messages about its operation. -/
def endpointLocation (e : Endpoint) : String := e.controller ++ "#" ++ e.method

/-- The body of the response to a call that succeeds. -/
def returnedContent : Option EndpointType → Requesting (Option Content)
  | none => pure none
  | some type => do
    let schema ← typeSchema type
    pure (some ⟨"application/json", schema⟩)

/-- The operation of an endpoint. -/
def operationOf (u : Universe) (e : Endpoint) : Requesting Operation := do
  let location := endpointLocation e
  let parts ← addParameters location {} e.parameters
  let body ← .ofExcept (requestBody location e.contentType parts)
  let content ← returnedContent e.returns
  let success : Responses := ({} : Responses).insert e.status.code ⟨e.status.reason, content⟩
  let responses ← .ofExcept (addExceptions u success e.exceptions)
  pure
    { tags := (tagOf e.path).toList
      parameters := parts.parameters
      requestBody := body
      responses
      thrownExceptions := e.exceptions.map .ofException
      validationRules := e.validations.map .ofRule }

/-- The operations of a path, of which there may be none. -/
def itemOf (paths : Paths) (path : String) : PathItem := (paths[path]?).getD .empty

/-- Add the operations of endpoints, keeping those that are there. -/
def addOperations (u : Universe) (markers : Markers) (paths : Paths) :
    List Endpoint → Generating Paths
  | [] => pure paths
  | e :: es => do
    let operation ← make u markers (operationOf u e)
    let item := itemOf paths e.path
    match item e.verb with
    | some _ => do
      modify fun c =>
        { c with events := c.events ++ [.mappingKept e.path e.verb.name e.controller] }
      addOperations u markers paths es
    | none => addOperations u markers (paths.insert e.path (item.insert e.verb operation)) es

/-- The document of endpoints. -/
def assemble (u : Universe) (settings : Settings) (endpoints : List Endpoint) :
    Reporting Document := do
  let (outcome, catalog) := (addOperations u settings.markers {} endpoints).run.run {}
  Reporting.reportAll catalog.events
  let paths ← Reporting.ofExcept outcome
  pure { info := settings.document, paths, schemas := catalog.schemas }

end ApiSurface.OpenApi
