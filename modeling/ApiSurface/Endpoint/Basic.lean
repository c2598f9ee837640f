import ApiSurface.BuiltIn
import ApiSurface.Calls.Walk
import ApiSurface.Endpoint.Status

/-!
# Endpoints

An endpoint is one path and verb that a controller method answers, with its parameters, its
result, and what the methods it reaches may throw and demand.

Main definitions: `Verb`, `EndpointType`, `Parameter`, `Endpoint`, `joinPaths`.
-/
namespace ApiSurface

/-- The verb of a request, in the order in which a document lists them. -/
inductive Verb where
  | get | put | post | delete | patch
deriving DecidableEq

namespace Verb

/-- The verbs in their order. -/
def all : List Verb := [get, put, post, delete, patch]

/-- The key of the verb in a document. -/
def key : Verb → String
  | get => "get"
  | put => "put"
  | post => "post"
  | delete => "delete"
  | patch => "patch"

/-- The name of the verb in messages. -/
def name : Verb → String
  | get => "Get"
  | put => "Put"
  | post => "Post"
  | delete => "Delete"
  | patch => "Patch"

/-- The verb of a key. -/
def ofKey? (key : String) : Option Verb := all.find? (·.key = key)

theorem mem_all (v : Verb) : v ∈ all := by cases v <;> decide

end Verb

/-- The part of a request that holds a parameter. -/
inductive ParameterSource where
  | path | query | body
deriving DecidableEq

/-- The part of a request in a document. -/
def ParameterSource.key : ParameterSource → String
  | path => "path"
  | query => "query"
  | body => "body"

/-- The type of a parameter or a result. -/
inductive EndpointType where
  | builtIn (type : BuiltIn)
  /-- A class of the universe with its type arguments. -/
  | object (path : String) (generics : List String)
  | array (items : EndpointType)
deriving DecidableEq

/-- A parameter of an endpoint. -/
structure Parameter where
  name : String
  source : ParameterSource
  type : EndpointType
deriving DecidableEq

/-- A path and a verb that a controller method answers. -/
structure Endpoint where
  verb : Verb
  path : String
  contentType : String
  status : Status
  parameters : List Parameter
  returns : Option EndpointType
  exceptions : List ThrownException
  validations : List ValidationRule
  controller : String
  method : String
deriving DecidableEq

/-- The segments of a request path that are not empty. -/
def pathSegments (path : String) : List (List Char) :=
  (Text.segments '/' path.toList).filter (! ·.isEmpty)

/-- The segments of both paths, each after a slash; a slash alone if there are none. -/
def joinPaths (base path : String) : String :=
  String.ofList ('/' :: Text.joinSegments '/' (pathSegments base ++ pathSegments path))

end ApiSurface
