import ApiSurface.OpenApi.Document
import ApiSurface.Schema.Generation

/-!
# The request of an operation

Parameters in the path are scalars. Files that are uploaded are the parts of one multipart body;
other parameters of the query are listed with those of the path. A body is never a scalar, is the
only one, and does not come together with uploads.

Main definitions: `RequestParts`, `addParameters`, `requestBody`.
-/
namespace ApiSurface.OpenApi
open Schema (Requesting typeSchema)

/-- The parameters of an endpoint by the part of the request that they belong to. -/
structure RequestParts where
  parameters : List RequestParameter := []
  uploads : List (String × Schema) := []
  body : Option Schema := none

/-- The type is that of an uploaded file, or an array of them. -/
def isUpload : EndpointType → Bool
  | .builtIn type => type = .multipartFile
  | .array items => isUpload items
  | .object _ _ => false

/-- Add a parameter to its part of the request. -/
def addParameter (location : String) (parts : RequestParts) (p : Parameter) :
    Requesting RequestParts :=
  match p.source with
  | .path =>
    match p.type with
    | .builtIn type =>
      pure { parts with parameters := parts.parameters ++ [⟨p.name, .path, true, .scalar type⟩] }
    | _ => .fail (.unrecognized (.pathParameterType p.name) location)
  | .query =>
    if isUpload p.type then do
      let schema ← typeSchema p.type
      pure { parts with uploads := parts.uploads ++ [(p.name, schema)] }
    else do
      let schema ← typeSchema p.type
      pure { parts with parameters := parts.parameters ++ [⟨p.name, .query, false, schema⟩] }
  | .body =>
    if parts.body.isSome then .fail (.unrecognized .secondBody location)
    else match p.type with
      | .builtIn _ => .fail (.unrecognized (.scalarBody p.name) location)
      | type => do
        let schema ← typeSchema type
        pure { parts with body := some schema }

/-- Add parameters in order. -/
def addParameters (location : String) (parts : RequestParts) :
    List Parameter → Requesting RequestParts
  | [] => pure parts
  | p :: ps => do
    let parts ← addParameter location parts p
    addParameters location parts ps

/-- The body of a request with these parts. -/
def requestBody (location contentType : String) (parts : RequestParts) :
    Except Fault (Option Content) :=
  match parts.body with
  | some schema =>
    if parts.uploads.isEmpty then .ok (some ⟨contentType, schema⟩)
    else .error (.unrecognized .uploadsWithBody location)
  | none =>
    if parts.uploads.isEmpty then .ok none
    else .ok (some ⟨"multipart/form-data", .object parts.uploads⟩)

end ApiSurface.OpenApi
