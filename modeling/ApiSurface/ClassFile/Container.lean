import ApiSurface.ClassFile.Pool

/-!
# The container of a class file

A container is a class file as it is laid out: a constant pool, the members of the class, and
attributes, of which as much is kept as the analysis uses. Indexes into the constant pool stand as
they are written, and nothing is looked up.

Taking bytes apart into a container is left to a library. The analysis is the same for all of them,
so the library is a parameter: an instance of `ContainerParser`.

Main definitions: `Attribute`, `Container`, `ContainerParser`.
-/
namespace ApiSurface.ClassFile

/-! ## Annotations -/

/-- The value of an annotation element, with indexes for texts and constants. -/
inductive RawElement where
  | constant (index : Nat)
  /-- A string, whose text is given directly. -/
  | string (text : Nat)
  | enumConstant (type name : Nat)
  | classRef (descriptor : Nat)
  | nested (type : Nat) (values : List (Nat × RawElement))
  | array (values : List RawElement)

/-- An annotation with indexes for its texts. -/
structure RawAnnotation where
  type : Nat
  values : List (Nat × RawElement)

/-! ## Attributes -/

/-- An entry of a table of local variables, with indexes for texts. -/
structure RawLocal where
  start : Nat
  length : Nat
  name : Nat
  descriptor : Nat
  slot : Nat

/-- An attribute, as far as the analysis uses it. -/
inductive Attribute where
  | code (code : List UInt8) (handlers : List Nat) (attributes : List Attribute)
  /-- Offsets and the source lines that start at them. -/
  | lines (entries : List (Nat × Nat))
  | locals (entries : List RawLocal)
  | signature (text : Nat)
  | annotations (annotations : List RawAnnotation)
  | parameterAnnotations (annotations : List (List RawAnnotation))
  /-- The texts of the parameters' names; zero stands for none. -/
  | parameterNames (names : List Nat)
  /-- The arguments of each bootstrap method. -/
  | bootstraps (arguments : List (List Nat))
  | unused

/-! ## Members and the class -/

/-- A field or method, with indexes for its texts. -/
structure RawMember where
  flags : Nat
  name : Nat
  descriptor : Nat
  attributes : List Attribute

/-- A class file with its structure only. -/
structure Container where
  entries : Array PoolEntry
  flags : Nat
  thisClass : Nat
  superclass : Nat
  interfaces : List Nat
  fields : List RawMember
  methods : List RawMember
  attributes : List Attribute

/-- The library that takes class files apart. Nothing is assumed of it: it may accept and refuse any
bytes, and the text of a refusal is its own. -/
class ContainerParser where
  /-- The container that the bytes are, or the text that tells why they are none. -/
  parse : List UInt8 → Except String Container

end ApiSurface.ClassFile
