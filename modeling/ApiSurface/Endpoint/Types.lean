import ApiSurface.Endpoint.Basic
import ApiSurface.Signature.Basic

/-!
# Types of parameters and results

The generic type of a parameter or result is resolved against the universe: scalars are kept,
collections become arrays, and any other class has to be in the universe together with the
classes it is applied to.

Main definitions: `endpointType`, `resultType`.
-/
namespace ApiSurface.Endpoint

/-- The classes that type arguments name. Each has to be in the universe. -/
def genericPaths (u : Universe) (location owner : String) :
    List TypeArgument → Except Fault (List String)
  | [] => .ok []
  | argument :: arguments =>
    match argument.bound? with
    | some (.object name _) => do
      let record ← u.lookup name
      let paths ← genericPaths u location owner arguments
      .ok (record.path :: paths)
    | _ => .error (.unrecognized (.argumentForm argument owner) location)

mutual

/-- The endpoint type of a generic type. -/
def endpointType (u : Universe) (location : String) : GenericType → Except Fault EndpointType
  | .base p => .ok (.builtIn (.ofPrimitive p))
  | .array component => do
    let items ← endpointType u location component
    .ok (.array items)
  | .variable name => .error (.unrecognized (.endpointVariable name) location)
  | .object name arguments =>
    match BuiltIn.ofClass? name with
    | some builtIn => .ok (.builtIn builtIn)
    | none =>
      if isCollection name then do
        let items ← elementType u location name arguments
        .ok (.array items)
      else do
        let record ← u.lookup name
        let generics ← genericPaths u location name arguments
        .ok (.object record.path generics)

/-- The endpoint type of the elements of a collection. -/
def elementType (u : Universe) (location collection : String) :
    List TypeArgument → Except Fault EndpointType
  | .exact t :: _ => endpointType u location t
  | .atMost t :: _ => endpointType u location t
  | _ => .error (.unrecognized (.endpointElement collection) location)

end

/-- The class whose argument is the type of the response's body. -/
def entityClass : String := "org/springframework/http/ResponseEntity"

/-- The type that a method answers with: the argument of a response entity, or the returned
type. -/
def bodyType (location : String) : GenericType → Except Fault GenericType
  | .object name arguments =>
    if name = entityClass then
      match arguments.head?.bind TypeArgument.bound? with
      | some inner => .ok inner
      | none => .error (.unrecognized .entityBody location)
    else .ok (.object name arguments)
  | other => .ok other

/-- The type stands for an answer without content. -/
def isVoid : GenericType → Bool
  | .object name _ => name = "java/lang/Void"
  | _ => false

/-- The endpoint type of what a method returns. -/
def resultType (u : Universe) (location : String) (returned : GenericType) :
    Except Fault (Option EndpointType) := do
  let body ← bodyType location returned
  if isVoid body then .ok none
  else
    let type ← endpointType u location body
    .ok (some type)

end ApiSurface.Endpoint
