import ApiSurface.Bytecode.Constant

/-!
# Annotations

An annotation has a type and named element values. The value of an element is a constant, an
enum constant, a class, another annotation or an array of such values.

Main definitions: `Element`, `Annotation`, `Annotation.value?`, `Element.strings`.
-/
namespace ApiSurface

/-- The value of an annotation element. Types are given by their descriptors. -/
inductive Element where
  | constant (value : Constant)
  | enumConstant (type : String) (name : String)
  | classRef (descriptor : String)
  | nested (type : String) (values : List (String × Element))
  | array (values : List Element)

/-- An annotation with its element values in declaration order. -/
structure Annotation where
  type : String
  values : List (String × Element)

/-- The first element, in the order of `names`, that the annotation gives a value. -/
def Annotation.value? (a : Annotation) (names : List String) : Option Element :=
  names.findSome? fun wanted => (a.values.find? (·.1 = wanted)).map (·.2)

mutual

/-- The strings of a string or of an array, at any depth and from left to right. -/
def Element.strings : Element → List String
  | .constant (.string value) => [value]
  | .array values => stringsOf values
  | _ => []

/-- The strings of the values of an array. -/
def stringsOf : List Element → List String
  | [] => []
  | value :: values => value.strings ++ stringsOf values

end

theorem stringsOf_eq_flatMap (values : List Element) :
    stringsOf values = values.flatMap Element.strings := by
  induction values with
  | nil => rfl
  | cons value values ih => simp [stringsOf, ih]

end ApiSurface
