/-!
# Erased types and their descriptors

A field type is a primitive, a class or an array of field types. Its descriptor is the text that
a compiled class stores for it: one letter for a primitive, `L`*name*`;` for a class and `[`
followed by the component's descriptor for an array.

Main definitions: `Primitive`, `FieldType`, `MethodType`, `FieldType.descriptor`,
`FieldType.slots`.
-/
namespace ApiSurface

/-- The types a value can have without being a reference. -/
inductive Primitive where
  | byte | char | double | float | int | long | short | boolean
deriving DecidableEq

namespace Primitive

/-- The letter that stands for the type in a descriptor. -/
def letter : Primitive → Char
  | byte => 'B'
  | char => 'C'
  | double => 'D'
  | float => 'F'
  | int => 'I'
  | long => 'J'
  | short => 'S'
  | boolean => 'Z'

/-- The type a descriptor letter stands for. -/
def ofLetter? : Char → Option Primitive
  | 'B' => some byte
  | 'C' => some char
  | 'D' => some double
  | 'F' => some float
  | 'I' => some int
  | 'J' => some long
  | 'S' => some short
  | 'Z' => some boolean
  | _ => none

@[simp] theorem ofLetter?_letter (p : Primitive) : ofLetter? p.letter = some p := by
  cases p <;> rfl

/-- The type's name in messages and listings. -/
def name : Primitive → String
  | byte => "Byte"
  | char => "Char"
  | double => "Double"
  | float => "Float"
  | int => "Int"
  | long => "Long"
  | short => "Short"
  | boolean => "Boolean"

end Primitive

/-- The erased type of a field, parameter or returned value. Classes carry their internal name,
with `/` between packages. -/
inductive FieldType where
  | base (primitive : Primitive)
  | object (name : String)
  | array (component : FieldType)
deriving DecidableEq

namespace FieldType

/-- The letters of the type's descriptor. -/
def spelling : FieldType → List Char
  | base p => [p.letter]
  | object name => 'L' :: (name.toList ++ [';'])
  | array component => '[' :: component.spelling

/-- The descriptor of the type. -/
def descriptor (t : FieldType) : String := String.ofList t.spelling

/-- The class a reference of this type names; neither primitives nor arrays name one. -/
def className? : FieldType → Option String
  | object name => some name
  | _ => none

/-- Local variable slots that a value of the type occupies. -/
def slots : FieldType → Nat
  | base .long => 2
  | base .double => 2
  | _ => 1

theorem slots_pos (t : FieldType) : 0 < t.slots := by
  unfold slots; split <;> decide

end FieldType

/-- The erased type of a method. No returned type stands for `void`. -/
structure MethodType where
  parameters : List FieldType
  returns : Option FieldType
deriving DecidableEq

namespace MethodType

/-- The letters of the method's descriptor: the parameters in brackets, then the returned type
or `V`. -/
def spelling (m : MethodType) : List Char :=
  '(' :: (m.parameters.flatMap FieldType.spelling ++
    (')' :: m.returns.elim ['V'] FieldType.spelling))

/-- The descriptor of the method. -/
def descriptor (m : MethodType) : String := String.ofList m.spelling

end MethodType

end ApiSurface
