import ApiSurface.Endpoint.Basic
import ApiSurface.OpenApi.Entry
import ApiSurface.Schema.Basic
import ApiSurface.Settings.Basic

/-!
# API documents

A document has one operation for each path and verb, and the named schemas that operations and
other schemas refer to.

Main definitions: `Response`, `Operation`, `PathItem`, `Document`.
-/
namespace ApiSurface.OpenApi

/-- A body: a content type and the schema of its data. -/
structure Content where
  type : String
  schema : Schema

/-- A response. -/
structure Response where
  description : String
  content : Option Content

/-- A parameter in the path or the query of a request. -/
structure RequestParameter where
  name : String
  source : ParameterSource
  required : Bool
  schema : Schema

/-- The response of each status code. -/
abbrev Responses := Std.ExtTreeMap Nat Response

/-- What a path does for a verb. -/
structure Operation where
  tags : List String
  parameters : List RequestParameter
  requestBody : Option Content
  responses : Responses
  thrownExceptions : List ThrownEntry
  validationRules : List RuleEntry

/-- The operations of a path. -/
def PathItem := Verb → Option Operation

namespace PathItem

/-- A path without operations. -/
def empty : PathItem := fun _ => none

/-- Add the operation of a verb. -/
def insert (item : PathItem) (verb : Verb) (operation : Operation) : PathItem :=
  fun v => if v = verb then some operation else item v

@[simp] theorem insert_self (item : PathItem) (verb : Verb) (operation : Operation) :
    item.insert verb operation verb = some operation := by simp [insert]

theorem insert_of_ne (item : PathItem) {v verb : Verb} (operation : Operation) (h : v ≠ verb) :
    item.insert verb operation v = item v := by simp [insert, h]

end PathItem

/-- The operations of each path. -/
abbrev Paths := Std.ExtTreeMap String PathItem

/-- An API document. -/
structure Document where
  info : DocumentInfo
  paths : Paths
  schemas : Std.ExtTreeMap String Schema

end ApiSurface.OpenApi
