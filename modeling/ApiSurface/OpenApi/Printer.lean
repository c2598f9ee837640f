import ApiSurface.Json.Printer
import ApiSurface.OpenApi.Document

/-!
# Documents as JSON

The members of an object stand in a fixed order; paths, responses and schemas are in ascending
order of their keys and operations in that of their verbs. Empty lists of exceptions and rules
are left out.

Main definition: `Document.toJson`.
-/
namespace ApiSurface.OpenApi

/-- The value of a constant in a document. -/
def RuleValue.toJson : RuleValue → Json
  | .int value => .int value
  | .number value => .number value
  | .string text => .string text

/-- The arguments of a demand in a document. -/
def RuleEntry.arguments (entry : RuleEntry) : List (String × Json) :=
  Json.member? "mode" (entry.mode.map .string) ++
    Json.member? "value" (entry.value.map RuleValue.toJson) ++
    Json.member? "other" (entry.other.map .string) ++
    Json.member? "min" (entry.min.map RuleValue.toJson) ++
    Json.member? "max" (entry.max.map RuleValue.toJson)

/-- A rule in a document. -/
def RuleEntry.toJson (entry : RuleEntry) : Json :=
  .object ([("validator", .string entry.validator), ("field", .string entry.field),
    ("constraint", .string entry.constraint)] ++ entry.arguments)

/-- An exception in a document. -/
def ThrownEntry.toJson (entry : ThrownEntry) : Json :=
  .object [("type", .string entry.type), ("callPath", .string entry.callPath)]

/-- The schema of the only content type of a body. -/
def Content.toJson (c : Content) : Json :=
  .object [(c.type, .object [("schema", c.schema.toJson)])]

/-- A response in a document. -/
def Response.toJson (r : Response) : Json :=
  .object (("description", .string r.description) ::
    Json.member? "content" (r.content.map Content.toJson))

/-- The responses of an operation in a document. -/
def responsesJson (responses : Responses) : Json :=
  .object (responses.toList.map fun (code, r) => (toString code, r.toJson))

/-- A parameter in a document. Only a required parameter says whether it is. -/
def RequestParameter.toJson (p : RequestParameter) : Json :=
  .object ([("name", .string p.name), ("in", .string p.source.key)] ++
    (if p.required then [("required", .bool true)] else []) ++ [("schema", p.schema.toJson)])

/-- A list that is left out if it is empty. -/
def listMember (key : String) (items : List Json) : List (String × Json) :=
  if items.isEmpty then [] else [(key, .array items)]

/-- An operation in a document. -/
def Operation.toJson (o : Operation) : Json :=
  .object ([("tags", Json.strings o.tags),
      ("parameters", .array (o.parameters.map RequestParameter.toJson))] ++
    Json.member? "requestBody" (o.requestBody.map fun c => .object [("content", c.toJson)]) ++
    [("responses", responsesJson o.responses)] ++
    listMember "x-thrown-exceptions" (o.thrownExceptions.map ThrownEntry.toJson) ++
    listMember "x-validation-rules" (o.validationRules.map RuleEntry.toJson))

/-- The operations of a path in a document. -/
def PathItem.toJson (item : PathItem) : Json :=
  .object (Verb.all.filterMap fun verb =>
    (item verb).map fun operation => (verb.key, operation.toJson))

/-- The paths of a document. -/
def pathsJson (paths : Std.ExtTreeMap String PathItem) : Json :=
  .object (paths.toList.map fun (path, item) => (path, item.toJson))

/-- The schemas that a document refers to by name. -/
def schemasJson (schemas : Std.ExtTreeMap String Schema) : Json :=
  .object (schemas.toList.map fun (name, schema) => (name, schema.toJson))

/-- A server in a document. -/
def serverJson (s : Server) : Json :=
  .object [("url", .string s.url), ("description", .string s.description)]

/-- The document. -/
def Document.toJson (d : Document) : Json :=
  .object [
    ("openapi", .string "3.0.1"),
    ("info", .object [("title", .string d.info.title), ("version", .string d.info.version)]),
    ("servers", .array (d.info.servers.map serverJson)),
    ("paths", pathsJson d.paths),
    ("components", .object [("schemas", schemasJson d.schemas)])]

end ApiSurface.OpenApi
