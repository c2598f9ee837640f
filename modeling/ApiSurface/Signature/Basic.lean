import ApiSurface.Descriptor.Basic

/-!
# Generic types

A generic type is what a class keeps of the type that its source wrote: classes with type
arguments, type variables, and arrays of these. An erased type is the generic type without
arguments and variables.

Main definitions: `GenericType`, `TypeArgument`, `GenericType.ofErased`, `TypeArgument.bound?`.
-/
namespace ApiSurface

mutual
/-- A type as its source wrote it. -/
inductive GenericType where
  | base (primitive : Primitive)
  | object (name : String) (arguments : List TypeArgument)
  | variable (name : String)
  | array (component : GenericType)

/-- What stands for a type parameter between `<` and `>`. -/
inductive TypeArgument where
  /-- `*`: any type. -/
  | any
  | exact (type : GenericType)
  /-- `+`: a subtype of the bound. -/
  | atMost (bound : GenericType)
  /-- `-`: a supertype of the bound. -/
  | atLeast (bound : GenericType)
end

/-- The parameters and the returned type of a method as its source wrote them. -/
structure GenericMethod where
  parameters : List GenericType
  returns : Option GenericType

namespace GenericType

/-- The generic form of an erased type. -/
def ofErased : FieldType → GenericType
  | .base p => .base p
  | .object name => .object name []
  | .array component => .array (ofErased component)

end GenericType

/-- The type an argument pins a parameter down to: the type itself or its upper bound. -/
def TypeArgument.bound? : TypeArgument → Option GenericType
  | .exact t => some t
  | .atMost t => some t
  | .any => none
  | .atLeast _ => none

end ApiSurface
