import ApiSurface.ClassFile.Code
import ApiSurface.ClassFile.Container
import ApiSurface.Universe.Basic

/-!
# Decoding class files

The parts of a container are resolved against its constant pool in a fixed order, which decides
the fault of a file with several: superclass, interfaces, attributes, fields, methods and last the
class itself. Of a repeated attribute the last counts.

The library that finds the container in the bytes is a parameter. What it refuses is refused in its
own words.

Main definitions: `classOf`, `decode`, `ClassRecord.ofBytes`.
-/
namespace ApiSurface.ClassFile

/-- A bit of a set of flags. -/
def hasFlag (flags bit : Nat) : Bool := flags / bit % 2 = 1

/-- Apply a fallible function to each member of a list, in order. -/
def mapAll {α β : Type} (f : α → Except Undecodable β) : List α → Except Undecodable (List β)
  | [] => .ok []
  | a :: as => do
    let b ← f a
    let bs ← mapAll f as
    .ok (b :: bs)

/-! ## Annotations -/

mutual

/-- Resolve the value of an annotation element. -/
def resolveElement (pool : Pool) : RawElement → Except Undecodable Element
  | .string text => do
    let text ← pool.utf8 text
    .ok (.constant (.string text))
  | .constant index => do
    let value ← pool.constant index
    .ok (.constant value)
  | .enumConstant type name => do
    let type ← pool.utf8 type
    let name ← pool.utf8 name
    .ok (.enumConstant type name)
  | .classRef descriptor => do
    let descriptor ← pool.utf8 descriptor
    .ok (.classRef descriptor)
  | .nested type values => do
    let values ← resolvePairs pool values
    let type ← pool.utf8 type
    .ok (.nested type values)
  | .array values => do
    let values ← resolveElements pool values
    .ok (.array values)

/-- Resolve the values of an array. -/
def resolveElements (pool : Pool) : List RawElement → Except Undecodable (List Element)
  | [] => .ok []
  | value :: values => do
    let first ← resolveElement pool value
    let others ← resolveElements pool values
    .ok (first :: others)

/-- Resolve named values. -/
def resolvePairs (pool : Pool) :
    List (Nat × RawElement) → Except Undecodable (List (String × Element))
  | [] => .ok []
  | (name, value) :: pairs => do
    let name ← pool.utf8 name
    let value ← resolveElement pool value
    let others ← resolvePairs pool pairs
    .ok ((name, value) :: others)

end

/-- Resolve an annotation, its values before its type. -/
def annotationOf (pool : Pool) (raw : RawAnnotation) : Except Undecodable Annotation := do
  let values ← resolvePairs pool raw.values
  let type ← pool.utf8 raw.type
  .ok { type, values }

/-! ## Members -/

/-- What attributes say about a class or a field. -/
structure Description where
  signature : Option String := none
  annotations : List Annotation := []
  bootstraps : List (List Nat) := []

/-- Resolve the attributes of a class or a field. -/
def describe (pool : Pool) (d : Description) : List Attribute → Except Undecodable Description
  | [] => .ok d
  | .signature text :: others => do
    let text ← pool.utf8 text
    describe pool { d with signature := some text } others
  | .annotations raw :: others => do
    let annotations ← mapAll (annotationOf pool) raw
    describe pool { d with annotations } others
  | .bootstraps bootstraps :: others => describe pool { d with bootstraps } others
  | _ :: others => describe pool d others

/-- Resolve a field. -/
def resolveField (pool : Pool) (raw : RawMember) : Except Undecodable Field := do
  let d ← describe pool {} raw.attributes
  let name ← pool.utf8 raw.name
  let descriptor ← pool.utf8 raw.descriptor
  .ok
    { name, descriptor
      flags :=
        { isStatic := hasFlag raw.flags 0x0008
          isEnum := hasFlag raw.flags 0x4000
          isSynthetic := hasFlag raw.flags 0x1000 }
      signature := d.signature
      annotations := d.annotations }

/-- Resolve an entry of a table of local variables. -/
def resolveLocal (pool : Pool) (raw : RawLocal) : Except Undecodable LocalVariable := do
  let name ← pool.utf8 raw.name
  let descriptor ← pool.utf8 raw.descriptor
  .ok { name, descriptor, index := raw.slot, start := raw.start, length := raw.length }

/-- The local variables of all tables among the attributes of code. -/
def resolveLocals (pool : Pool) : List Attribute → Except Undecodable (List LocalVariable)
  | [] => .ok []
  | .locals entries :: others => do
    let own ← mapAll (resolveLocal pool) entries
    let more ← resolveLocals pool others
    .ok (own ++ more)
  | _ :: others => resolveLocals pool others

/-- The source lines of all tables among the attributes of code. -/
def sourceLines : List Attribute → List (Nat × Nat)
  | [] => []
  | .lines entries :: others => entries ++ sourceLines others
  | _ :: others => sourceLines others

/-- Resolve the name of a parameter; it may have none. -/
def resolveParameterName (pool : Pool) (index : Nat) : Except Undecodable (Option String) :=
  if index = 0 then .ok none
  else do
    let name ← pool.utf8 index
    .ok (some name)

/-- Resolve the attributes of a method. -/
def resolveAttributes (pool : Pool) (bootstraps : List (List Nat)) (m : Method) :
    List Attribute → Except Undecodable Method
  | [] => .ok m
  | .code code handlers attributes :: others => do
    let locals ← resolveLocals pool attributes
    let body ← decodeCode pool bootstraps code handlers (sourceLines attributes)
    resolveAttributes pool bootstraps { m with locals, body } others
  | .signature text :: others => do
    let text ← pool.utf8 text
    resolveAttributes pool bootstraps { m with signature := some text } others
  | .annotations raw :: others => do
    let annotations ← mapAll (annotationOf pool) raw
    resolveAttributes pool bootstraps { m with annotations } others
  | .parameterAnnotations raw :: others => do
    let parameterAnnotations ← mapAll (mapAll (annotationOf pool)) raw
    resolveAttributes pool bootstraps { m with parameterAnnotations } others
  | .parameterNames indexes :: others => do
    let parameterNames ← mapAll (resolveParameterName pool) indexes
    resolveAttributes pool bootstraps { m with parameterNames } others
  | _ :: others => resolveAttributes pool bootstraps m others

/-- Resolve a method. -/
def resolveMethod (pool : Pool) (bootstraps : List (List Nat)) (raw : RawMember) :
    Except Undecodable Method := do
  let name ← pool.utf8 raw.name
  let descriptor ← pool.utf8 raw.descriptor
  let flags : MethodFlags :=
    { isPublic := hasFlag raw.flags 0x0001
      isStatic := hasFlag raw.flags 0x0008
      isAbstract := hasFlag raw.flags 0x0400
      isSynthetic := hasFlag raw.flags 0x1000
      isBridge := hasFlag raw.flags 0x0040 }
  resolveAttributes pool bootstraps { name, descriptor, flags } raw.attributes

/-! ## The class -/

/-- Resolve the superclass; index zero stands for none. -/
def resolveSuperclass (pool : Pool) (index : Nat) : Except Undecodable (Option String) :=
  if index = 0 then .ok none
  else do
    let name ← pool.className index
    .ok (some name)

/-- Resolve a container that was loaded under a name. -/
def Container.resolve (c : Container) (name : String) : Except Undecodable Class := do
  let pool : Pool := { name, entries := c.entries }
  let superclass ← resolveSuperclass pool c.superclass
  let interfaces ← mapAll pool.className c.interfaces
  let d ← describe pool {} c.attributes
  let fields ← mapAll (resolveField pool) c.fields
  let methods ← mapAll (ClassFile.resolveMethod pool d.bootstraps) c.methods
  let declared ← pool.className c.thisClass
  .ok
    { name := declared, superclass, interfaces
      flags :=
        { isInterface := hasFlag c.flags 0x0200
          isAbstract := hasFlag c.flags 0x0400
          isEnum := hasFlag c.flags 0x4000 }
      signature := d.signature
      annotations := d.annotations
      fields, methods }

/-- The class of the class file that was loaded under a name. -/
def classOf [ContainerParser] (name : String) (bytes : List UInt8) : Except Undecodable Class :=
  match ContainerParser.parse bytes with
  | .ok container => container.resolve name
  | .error text => .error ⟨name, .unparsed text⟩

/-- Decode the class file that was loaded under a name. -/
def decode [ContainerParser] (name : String) (bytes : List UInt8) : Except Fault Class :=
  Fault.ofDecoding (classOf name bytes)

end ApiSurface.ClassFile

namespace ApiSurface

/-- The record of a class file, which has to declare the class of its name. -/
def ClassRecord.ofBytes [ClassFile.ContainerParser] (path : String) (bytes : List UInt8) :
    ClassRecord where
  path := path
  content := do
    let c ← ClassFile.classOf path bytes
    if c.name = path then .ok c else .error ⟨path, .declares c.name⟩

end ApiSurface
