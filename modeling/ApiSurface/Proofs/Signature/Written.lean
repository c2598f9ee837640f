import ApiSurface.Signature.Basic
import Mathlib.Data.List.Basic

/-!
# Signatures as they are written

A class type is written as the parts of its name with dots between them, each with the arguments
that it is given, if any. What is known of it afterwards is one name and one list of arguments, so
what is written says more than the type that it stands for. The declarations of type parameters, the
declared exceptions of a method and the supertypes of a class are written, too, and not kept.

Parts of names and names of variables carry the proof that no letter in them has a meaning of its
own in a signature.

Main definitions: `WrittenType`, `WrittenType.type`, `WrittenMethod`, `WrittenHeader`.
-/
namespace ApiSurface.Signature

/-- A part of the name of a class, between two dots. -/
structure NamePart where
  text : String
  nonempty : text ≠ ""
  plain : ∀ c ∈ text.toList, c ≠ '<' ∧ c ≠ ';' ∧ c ≠ '.'

/-- The name of a type variable. -/
structure VariableName where
  text : String
  nonempty : text ≠ ""
  plain : ∀ c ∈ text.toList, c ≠ ';' ∧ c ≠ ':' ∧ c ≠ '<' ∧ c ≠ '>'

mutual

/-- A generic type as it is written. -/
inductive WrittenType where
  | base (primitive : Primitive)
  | variable (name : VariableName)
  | array (component : WrittenType)
  /-- A class by the parts of its name, of which there is at least one. -/
  | object (outer : WrittenPart) (nested : List WrittenPart)

/-- A part of the name of a class with its arguments. Without arguments no list is written. -/
inductive WrittenPart where
  | mk (name : NamePart) (arguments : List WrittenArgument)

/-- What is written for a type parameter. -/
inductive WrittenArgument where
  | any
  | exact (type : WrittenType)
  | atMost (bound : WrittenType)
  | atLeast (bound : WrittenType)

end

/-! ## Letters -/

mutual

/-- The letters of a type. -/
def WrittenType.spelling : WrittenType → List Char
  | .base p => [p.letter]
  | .variable name => 'T' :: (name.text.toList ++ [';'])
  | .array component => '[' :: component.spelling
  | .object outer nested => 'L' :: (outer.spelling ++ (nestedSpelling nested ++ [';']))

/-- The letters of a part of a name, with its arguments between angle brackets. -/
def WrittenPart.spelling : WrittenPart → List Char
  | .mk name [] => name.text.toList
  | .mk name (argument :: arguments) =>
    name.text.toList ++
      '<' :: (argument.spelling ++ (argumentsSpelling arguments ++ ['>']))

/-- The letters of the parts after the first, each after a dot. -/
def nestedSpelling : List WrittenPart → List Char
  | [] => []
  | part :: parts => '.' :: (part.spelling ++ nestedSpelling parts)

/-- The letters of an argument. -/
def WrittenArgument.spelling : WrittenArgument → List Char
  | .any => ['*']
  | .exact type => type.spelling
  | .atMost bound => '+' :: bound.spelling
  | .atLeast bound => '-' :: bound.spelling

/-- The letters of arguments. -/
def argumentsSpelling : List WrittenArgument → List Char
  | [] => []
  | argument :: arguments => argument.spelling ++ argumentsSpelling arguments

end

/-- The text of a type. -/
def WrittenType.text (t : WrittenType) : String := String.ofList t.spelling

/-! ## Types -/

/-- The name of a part. -/
def WrittenPart.name : WrittenPart → String
  | .mk name _ => name.text

/-- The last list that is not empty, or `kept` if there is none. -/
def lastGiven {α : Type} (kept : List α) (lists : List (List α)) : List α :=
  (lists.filter (! ·.isEmpty)).getLast?.getD kept

mutual

/-- The type that is written. The parts of the name of a class are joined by `$`, and of their
arguments the last are kept. -/
def WrittenType.type : WrittenType → GenericType
  | .base p => .base p
  | .variable name => .variable name.text
  | .array component => .array component.type
  | .object outer nested =>
    .object (String.intercalate "$" (outer.name :: nested.map (·.name)))
      (lastGiven [] (outer.arguments :: nestedArguments nested))

/-- The arguments of a part of a name. -/
def WrittenPart.arguments : WrittenPart → List TypeArgument
  | .mk _ arguments => argumentTypes arguments

/-- The arguments of each part. -/
def nestedArguments : List WrittenPart → List (List TypeArgument)
  | [] => []
  | part :: parts => part.arguments :: nestedArguments parts

/-- The argument that is written. -/
def WrittenArgument.argument : WrittenArgument → TypeArgument
  | .any => .any
  | .exact type => .exact type.type
  | .atMost bound => .atMost bound.type
  | .atLeast bound => .atLeast bound.type

/-- The arguments that are written. -/
def argumentTypes : List WrittenArgument → List TypeArgument
  | [] => []
  | argument :: arguments => argument.argument :: argumentTypes arguments

end

/-! ## Declarations -/

/-- A written type other than a primitive. -/
structure Bound where
  type : WrittenType
  reference : ∀ p, type ≠ .base p

/-- The bounds of a type parameter. -/
inductive WrittenBounds where
  /-- A class and any interfaces. -/
  | ofClass (bound : Bound) (interfaces : List Bound)
  /-- No class, and at least one interface. -/
  | ofInterfaces (first : Bound) (others : List Bound)

/-- The letters of bounds by interfaces, each after a colon. -/
def interfacesSpelling (interfaces : List Bound) : List Char :=
  interfaces.flatMap fun bound => ':' :: bound.type.spelling

/-- The letters of bounds. The colon of a class that is left out stays. -/
def WrittenBounds.spelling : WrittenBounds → List Char
  | .ofClass bound interfaces => ':' :: (bound.type.spelling ++ interfacesSpelling interfaces)
  | .ofInterfaces first others => ':' :: interfacesSpelling (first :: others)

/-- The declaration of a type parameter. -/
structure WrittenParameter where
  name : VariableName
  bounds : WrittenBounds

/-- The letters of the declaration of a type parameter. -/
def WrittenParameter.spelling (p : WrittenParameter) : List Char :=
  p.name.text.toList ++ p.bounds.spelling

/-- The letters of declarations of type parameters; none if there are no type parameters. -/
def declarationSpelling (declared : List WrittenParameter) : List Char :=
  if declared.isEmpty then []
  else '<' :: (declared.flatMap WrittenParameter.spelling ++ ['>'])

/-- The signature of a method as it is written. -/
structure WrittenMethod where
  declared : List WrittenParameter
  parameters : List WrittenType
  /-- No returned type stands for `void`. -/
  returns : Option WrittenType
  throws : List Bound

/-- The letters of the signature of a method. -/
def WrittenMethod.spelling (m : WrittenMethod) : List Char :=
  declarationSpelling m.declared ++
    '(' :: (m.parameters.flatMap WrittenType.spelling ++
      ')' :: (m.returns.elim ['V'] WrittenType.spelling ++
        m.throws.flatMap fun thrown => '^' :: thrown.type.spelling))

/-- The text of the signature of a method. -/
def WrittenMethod.text (m : WrittenMethod) : String := String.ofList m.spelling

/-- The signature of a class as it is written. -/
structure WrittenHeader where
  declared : List WrittenParameter
  superclass : Bound
  interfaces : List Bound

/-- The letters of the signature of a class. -/
def WrittenHeader.spelling (h : WrittenHeader) : List Char :=
  declarationSpelling h.declared ++
    (h.superclass.type.spelling ++ h.interfaces.flatMap (·.type.spelling))

/-- The text of the signature of a class. -/
def WrittenHeader.text (h : WrittenHeader) : String := String.ofList h.spelling

end ApiSurface.Signature
