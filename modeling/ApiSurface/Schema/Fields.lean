import ApiSurface.Descriptor.Reading
import ApiSurface.Schema.Basic
import ApiSurface.Schema.Requesting
import ApiSurface.Settings.Basic
import ApiSurface.Signature.Reading

/-!
# Schemas of fields

The fields of a class become the properties of its schema, in their order. Static and synthetic
fields and fields marked as ignored are left out. A type variable of the class stands for the
class it is applied to.

The schemas of other classes are asked for by name.

Main definitions: `Bindings`, `fieldSchema`, `objectSchema`.
-/
namespace ApiSurface.Schema

/-- What the type variables of a class stand for. -/
structure Bindings where
  owner : String
  pairs : List (String × String)

/-- The class that a type variable stands for. -/
def Bindings.resolve (b : Bindings) (name : String) : Except Fault String :=
  match b.pairs.find? (·.1 = name) with
  | some (_, path) => .ok path
  | none => .error (.unrecognized (.unboundVariable name) b.owner)

/-- The schema of a class applied to classes: in place for a scalar, by reference otherwise. -/
def classSchema (path : String) (generics : List String) : Requesting Schema :=
  match BuiltIn.ofClass? path with
  | some type => pure (.scalar type)
  | none => do
    let name ← .nameOf path generics
    pure (.reference name)

/-- The class that an argument of a class stands for. -/
def argumentPath (bindings : Bindings) (location type : String) (argument : TypeArgument) :
    Except Fault String :=
  match argument.bound? with
  | some (.variable name) => bindings.resolve name
  | some (.object name _) => .ok name
  | _ => .error (.unrecognized (.argumentForm argument type) location)

/-- The classes that a class is applied to. -/
def argumentPaths (bindings : Bindings) (location type : String) :
    List TypeArgument → Except Fault (List String)
  | [] => .ok []
  | argument :: arguments => do
    let path ← argumentPath bindings location type argument
    let paths ← argumentPaths bindings location type arguments
    .ok (path :: paths)

mutual

/-- The schema of a generic type. -/
def fieldSchema (bindings : Bindings) (location : String) : GenericType → Requesting Schema
  | .base p => pure (.scalar (.ofPrimitive p))
  | .array component => do
    let items ← fieldSchema bindings location component
    pure (.array items)
  | .variable name => do
    let path ← .ofExcept (bindings.resolve name)
    classSchema path []
  | .object name arguments =>
    if isCollection name then do
      let items ← elementSchema bindings location name arguments
      pure (.array items)
    else do
      let generics ← .ofExcept (argumentPaths bindings location name arguments)
      classSchema name generics

/-- The schema of the elements of a collection. -/
def elementSchema (bindings : Bindings) (location collection : String) :
    List TypeArgument → Requesting Schema
  | .exact t :: _ => fieldSchema bindings location t
  | .atMost t :: _ => fieldSchema bindings location t
  | _ => .fail (.unrecognized (.fieldElement collection) location)

end

/-- The generic type of a field. -/
def fieldType (f : Field) : Except Fault GenericType :=
  match f.signature with
  | some text => Fault.ofReading text (GenericType.ofSignature text)
  | none => do
    let erased ← Fault.ofReading f.descriptor (FieldType.ofDescriptor f.descriptor)
    .ok (.ofErased erased)

/-- The field is part of the data. -/
def isData (markers : Markers) (f : Field) : Bool :=
  ! f.flags.isStatic && ! f.flags.isSynthetic &&
    ! f.annotations.any (·.type = "L" ++ markers.jsonIgnore ++ ";")

/-- The properties of fields, in order. -/
def propertySchemas (bindings : Bindings) : List Field → Requesting (List (String × Schema))
  | [] => pure []
  | f :: fields => do
    let type ← .ofExcept (fieldType f)
    let schema ← fieldSchema bindings (bindings.owner ++ "." ++ f.name) type
    let properties ← propertySchemas bindings fields
    pure ((f.name, schema) :: properties)

/-- The type variables that a class declares. -/
def declaredVariables (c : Class) : Except Fault (List String) :=
  match c.signature with
  | some text => Fault.ofReading text (Signature.typeParameters text)
  | none => .ok []

/-- The schema of a class of data, applied to classes. -/
def objectSchema (markers : Markers) (record : ClassRecord) (c : Class) (generics : List String) :
    Requesting Schema := do
  let parameters ← .ofExcept (declaredVariables c)
  let bindings : Bindings := ⟨record.path, parameters.zip generics⟩
  let properties ← propertySchemas bindings (c.fields.filter (isData markers))
  pure (.object properties)

end ApiSurface.Schema
