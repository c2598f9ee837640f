import ApiSurface.Endpoint.Basic
import ApiSurface.Schema.Alternatives
import ApiSurface.Schema.Bound
import ApiSurface.Schema.Catalog

/-!
# Generating schemas

`generate` returns the name of the schema of a class applied to classes. A name that is registered
for the same request is returned at once; otherwise it is registered, and the schema is made, with
the schemas of all classes that it refers to.

Every schema under way has a registered name of its own, so `nameBound` bounds the depth of the
recursion.

Main definitions: `recordSchema`, `generate`, `endpointSchema`.
-/
namespace ApiSurface.Schema

/-- The schema of the class of a record. -/
def recordSchema (u : Universe) (markers : Markers) (record : ClassRecord)
    (generics : List String) : Requesting Schema := do
  let c ← .ofExcept record.info
  if c.flags.isEnum then
    pure (.enumeration ((c.fields.filter (·.flags.isEnum)).map (·.name)))
  else if c.isConcrete then objectSchema markers record c generics
  else alternativesSchema u markers record

/-- The name of the schema of a class applied to classes. `budget` bounds the names that are not
registered yet. -/
def generateWithin (u : Universe) (markers : Markers) :
    (budget : Nat) → Request → Generating String
  | budget, request => do
    let record ← ofExcept (u.lookup request.path)
    let name := schemaName record.path request.generics
    let catalog ← get
    match catalog.registry[name]? with
    | some existing =>
      if existing = request then pure name
      else throw (.schemaNameCollision name existing.path request.path)
    | none => match budget with
      | 0 => pure name
      | budget + 1 => do
        modify (·.register name request)
        let schema ← answer (generateWithin u markers budget)
          (recordSchema u markers record request.generics)
        modify (·.finish name request.path schema)
        pure name

/-- The name of the schema of a class applied to classes. -/
def generate (u : Universe) (markers : Markers) (path : String) (generics : List String) :
    Generating String :=
  generateWithin u markers (nameBound u generics) ⟨path, generics⟩

/-- Carry out a computation that asks for names, generating their schemas. -/
def make {α : Type} (u : Universe) (markers : Markers) : Requesting α → Generating α :=
  answer fun request => generate u markers request.path request.generics

/-- The schema of a parameter or a result. -/
def typeSchema : EndpointType → Requesting Schema
  | .builtIn type => pure (.scalar type)
  | .object path generics => do
    let name ← .nameOf path generics
    pure (.reference name)
  | .array items => do
    let items ← typeSchema items
    pure (.array items)

/-- The schema of a parameter or a result, with the schemas that it refers to. -/
def endpointSchema (u : Universe) (markers : Markers) (type : EndpointType) : Generating Schema :=
  make u markers (typeSchema type)

end ApiSurface.Schema
