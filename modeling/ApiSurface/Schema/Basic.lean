import ApiSurface.BuiltIn
import ApiSurface.Json.Basic
import ApiSurface.Text.PercentForm

/-!
# Schemas

A schema describes the data of a type. Classes have named schemas, and all other schemas refer to
them by name; the text of a reference is the encoded name after a fixed path.

Main definitions: `Schema`, `referenceTo`, `Schema.references`, `Schema.toJson`.
-/
namespace ApiSurface

/-- The data of a type. -/
inductive Schema where
  /-- The schema of a name. -/
  | reference (name : String)
  | scalar (type : BuiltIn)
  | array (items : Schema)
  | enumeration (literals : List String)
  | object (properties : List (String × Schema))
  /-- One of several named schemas; the literal that a property has says which. -/
  | oneOf (alternatives : List String) (property : String) (mapping : List (String × String))

/-- The text that refers to the schema of a name. -/
def referenceTo (name : String) : String :=
  "#/components/schemas/" ++ Text.PercentForm.encode name

namespace Schema

mutual

/-- The names that occur in a schema. -/
def references : Schema → List String
  | reference name => [name]
  | scalar _ => []
  | array items => items.references
  | enumeration _ => []
  | object properties => propertyReferences properties
  | oneOf alternatives _ mapping => alternatives ++ mapping.map (·.2)

/-- The names that occur in the schemas of properties. -/
def propertyReferences : List (String × Schema) → List String
  | [] => []
  | (_, schema) :: properties => schema.references ++ propertyReferences properties

end

/-- A reference to a name in a document. -/
def referenceJson (name : String) : Json := .object [("$ref", .string (referenceTo name))]

mutual

/-- The schema in a document. -/
def toJson : Schema → Json
  | reference name => referenceJson name
  | scalar type =>
    .object (("type", .string type.type) :: Json.member? "format" (type.format?.map .string))
  | array items => .object [("type", .string "array"), ("items", items.toJson)]
  | enumeration literals =>
    .object [("type", .string "string"), ("enum", Json.strings literals)]
  | object properties =>
    .object [("type", .string "object"), ("properties", .object (propertiesJson properties))]
  | oneOf alternatives property mapping =>
    .object [("oneOf", .array (alternatives.map referenceJson)),
      ("discriminator", .object [("propertyName", .string property),
        ("mapping", .object (mapping.map fun (literal, name) =>
          (literal, .string (referenceTo name))))])]

/-- The schemas of properties in a document. -/
def propertiesJson : List (String × Schema) → List (String × Json)
  | [] => []
  | (name, schema) :: properties => (name, schema.toJson) :: propertiesJson properties

end

end Schema

end ApiSurface
