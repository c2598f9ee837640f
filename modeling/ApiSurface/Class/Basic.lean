import ApiSurface.Bytecode.Instruction
import ApiSurface.Class.Annotation

/-!
# Compiled classes

What is known of a class: its place in the hierarchy, its annotations, its fields and its methods
with their decoded bodies.

Main definitions: `Class`, `Field`, `Method`, `LocalVariable`.
-/
namespace ApiSurface

/-- Flags of a field. -/
structure FieldFlags where
  isStatic : Bool := false
  isEnum : Bool := false
  isSynthetic : Bool := false

/-- A field that a class declares. -/
structure Field where
  name : String
  descriptor : String
  flags : FieldFlags := {}
  signature : Option String := none
  annotations : List Annotation := []

/-- Flags of a method. -/
structure MethodFlags where
  isPublic : Bool := false
  isStatic : Bool := false
  isAbstract : Bool := false
  isSynthetic : Bool := false
  isBridge : Bool := false

/-- The name of a local variable slot over a range of offsets. -/
structure LocalVariable where
  name : String
  descriptor : String
  index : Nat
  start : Nat
  length : Nat
deriving DecidableEq

/-- The variable holds its slot at the offset. -/
def LocalVariable.isLiveAt (v : LocalVariable) (offset : Nat) : Bool :=
  v.start ≤ offset && offset < v.start + v.length

/-- A method that a class declares, with its decoded body. -/
structure Method where
  name : String
  descriptor : String
  flags : MethodFlags := {}
  signature : Option String := none
  annotations : List Annotation := []
  /-- Annotations of each parameter. -/
  parameterAnnotations : List (List Annotation) := []
  /-- Names of the parameters that the compiler was asked to keep. -/
  parameterNames : List (Option String) := []
  locals : List LocalVariable := []
  body : List Instruction := []

/-- Flags of a class. -/
structure ClassFlags where
  isInterface : Bool := false
  isAbstract : Bool := false
  isEnum : Bool := false

/-- A compiled class. Names of classes are internal names, with `/` between packages. -/
structure Class where
  name : String
  superclass : Option String := some "java/lang/Object"
  interfaces : List String := []
  flags : ClassFlags := {}
  signature : Option String := none
  annotations : List Annotation := []
  fields : List Field := []
  methods : List Method := []

namespace Class

/-- The classes one step up the hierarchy: the superclass first, then the interfaces. -/
def supertypes (c : Class) : List String := c.superclass.toList ++ c.interfaces

/-- Objects of the class can be made: it is neither an interface nor abstract. -/
def isConcrete (c : Class) : Bool := ! c.flags.isInterface && ! c.flags.isAbstract

/-- The first method of the name, and of the descriptor if one is given, in table order. -/
def method? (c : Class) (name : String) (descriptor : Option String) : Option Method :=
  c.methods.find? fun m => m.name = name && descriptor.all (· = m.descriptor)

end Class

end ApiSurface
