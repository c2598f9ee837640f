import ApiSurface.Schema.Fields
import ApiSurface.Universe.Hierarchy

/-!
# Schemas of abstract classes

An abstract class or an interface is one of the concrete classes below it. Each of them has one
field whose type is an enum that descends from the configured marker, and the constants of that
enum are mapped to the classes they stand for by the enum's initializer.

Main definitions: `discriminatorField`, `mappingOf`, `alternativesSchema`.
-/
namespace ApiSurface.Schema

/-- The field is an object whose class is in the universe and descends from the marker. -/
def isDiscriminator (u : Universe) (marker : String) (f : Field) : Except Fault Bool :=
  if f.flags.isStatic then .ok false
  else match FieldType.ofDescriptor f.descriptor with
    | .ok (.object name) => if (u.find? name).isSome then u.descends name marker else .ok false
    | _ => .ok false

/-- The only discriminator among fields, if `found` is the one before them. -/
def onlyDiscriminator (u : Universe) (marker location : String) (found : Option Field) :
    List Field → Except Fault (Option Field)
  | [] => .ok found
  | f :: fields => do
    if ← isDiscriminator u marker f then
      if found.isSome then .error (.unrecognized .manyDiscriminators location)
      else onlyDiscriminator u marker location (some f) fields
    else onlyDiscriminator u marker location found fields

/-- The field that tells the objects of a class from those of the other alternatives. -/
def discriminatorField (u : Universe) (marker : String) (record : ClassRecord) :
    Except Fault Field := do
  let c ← record.info
  match ← onlyDiscriminator u marker record.path none c.fields with
  | some f => .ok f
  | none => .error (.unrecognized .noDiscriminator record.path)

/-- The discriminator of the first alternative, from whose type the others must not deviate. -/
def agreeOn (u : Universe) (marker : String) (first : Field) :
    List ClassRecord → Except Fault Field
  | [] => .ok first
  | record :: records => do
    let f ← discriminatorField u marker record
    if first.descriptor = f.descriptor then agreeOn u marker first records
    else
      .error (.unrecognized (.deviatingDiscriminator f.name f.descriptor first.descriptor)
        record.path)

/-- The discriminator that all alternatives have. -/
def commonDiscriminator (u : Universe) (marker location : String) :
    List ClassRecord → Except Fault Field
  | [] => .error (.unrecognized .noDiscriminator location)
  | record :: records => do
    let first ← discriminatorField u marker record
    agreeOn u marker first records

/-! ## Mapping constants to classes -/

/-- The field of an enum that holds the class of each constant. -/
def isTypeField (f : Field) : Bool := f.name = "type" && f.descriptor = "Ljava/lang/Class;"

/-- Where the class stands among the arguments of a constant's constructor, after its name. -/
def typeIndex? (c : Class) : Option Nat :=
  (c.fields.filter fun f => ! f.flags.isStatic && ! f.flags.isEnum).findIdx? isTypeField

/-- Read an initializer. `loads` counts the constants loaded since the last constructor call: the
first is the name of an enum constant, and the one after `typeIndex` more is its class. -/
def mineMapping (location : String) (typeIndex : Nat) (loads : Nat) (name : Option String) :
    List Payload → Requesting (List (String × String))
  | [] => pure []
  | .call call :: rest =>
    mineMapping location typeIndex (if call.isConstructor then 0 else loads) name rest
  | .constant value :: rest =>
    if loads = 0 then
      match value with
      | .string literal => mineMapping location typeIndex 1 (some literal) rest
      | other => .fail (.unrecognized (.discriminatorName other) location)
    else if loads = typeIndex + 1 then
      match value, name with
      | .classRef path, some literal => do
        let schema ← .nameOf path []
        let mapping ← mineMapping location typeIndex (loads + 1) name rest
        pure ((literal, schema) :: mapping)
      | .classRef _, none => .fail (.unrecognized .discriminatorOrder location)
      | other, _ => .fail (.unrecognized (.discriminatorClass other) location)
    else mineMapping location typeIndex (loads + 1) name rest
  | _ :: rest => mineMapping location typeIndex loads name rest

/-- The schema name that each constant of a discriminator enum stands for. -/
def mappingOf (record : ClassRecord) : Requesting (List (String × String)) := do
  let c ← .ofExcept record.info
  if ! c.flags.isEnum then .fail (.unrecognized .discriminatorNotEnum record.path)
  else match typeIndex? c with
    | none => .fail (.unrecognized .discriminatorWithoutType record.path)
    | some typeIndex => match c.method? "<clinit>" none with
      | none => .fail (.unrecognized .discriminatorWithoutInitializer record.path)
      | some initializer =>
        mineMapping record.path typeIndex 0 none (initializer.body.map (·.payload))

/-! ## Alternatives -/

/-- The schema names of classes. -/
def namesOf : List ClassRecord → Requesting (List String)
  | [] => pure []
  | record :: records => do
    let name ← .nameOf record.path []
    let names ← namesOf records
    pure (name :: names)

/-- The schema of an abstract class or an interface. -/
def alternativesSchema (u : Universe) (markers : Markers) (record : ClassRecord) :
    Requesting Schema := do
  let concrete ← .ofExcept (u.implementations .types record.path)
  if concrete.isEmpty then .fail (.unrecognized .noImplementations record.path)
  else do
    let names ← namesOf concrete
    match markers.discriminatorEnum with
    | none => .fail (.unrecognized .noMarker record.path)
    | some marker => do
      let common ← .ofExcept (commonDiscriminator u marker record.path concrete)
      let path ← .ofExcept (Fault.ofReading common.descriptor
        (Descriptor.classNameOf common.descriptor))
      let enum ← .ofExcept (u.lookup path)
      let mapping ← mappingOf enum
      pure (.oneOf names common.name mapping)

end ApiSurface.Schema
