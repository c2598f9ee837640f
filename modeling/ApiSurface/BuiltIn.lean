import ApiSurface.Descriptor.Basic

/-!
# Types described in place

Scalar types have no schema of their own: wherever one occurs, its type and format are written
down. A primitive and the class that boxes it are the same scalar type. Collections are written
as arrays.

Main definitions: `BuiltIn`, `BuiltIn.ofPrimitive`, `BuiltIn.ofClass?`, `isCollection`.
-/
namespace ApiSurface

/-- A type that is described in place. -/
inductive BuiltIn where
  | uuid | multipartFile | localDateTime | string | integer | long | double | float | byte | char
  | short | boolean
deriving DecidableEq

namespace BuiltIn

/-- The name of the type. -/
def name : BuiltIn → String
  | uuid => "Uuid"
  | multipartFile => "MultipartFile"
  | localDateTime => "LocalDateTime"
  | string => "String"
  | integer => "Integer"
  | long => "Long"
  | double => "Double"
  | float => "Float"
  | byte => "Byte"
  | char => "Char"
  | short => "Short"
  | boolean => "Boolean"

/-- All types described in place. -/
def all : List BuiltIn :=
  [uuid, multipartFile, localDateTime, string, integer, long, double, float, byte, char, short,
    boolean]

/-- The type of a name. -/
def ofName? (name : String) : Option BuiltIn := all.find? (·.name = name)

/-- The scalar type of a primitive. -/
def ofPrimitive : Primitive → BuiltIn
  | .byte => byte
  | .char => char
  | .double => double
  | .float => float
  | .int => integer
  | .long => long
  | .short => short
  | .boolean => boolean

/-- The scalar type of a class. -/
def ofClass? : String → Option BuiltIn
  | "java/util/UUID" => some uuid
  | "org/springframework/web/multipart/MultipartFile" => some multipartFile
  | "java/time/LocalDateTime" => some localDateTime
  | "java/lang/String" => some string
  | "java/lang/Integer" => some integer
  | "java/lang/Long" => some long
  | "java/lang/Double" => some double
  | "java/lang/Float" => some float
  | "java/lang/Byte" => some byte
  | "java/lang/Character" => some char
  | "java/lang/Short" => some short
  | "java/lang/Boolean" => some boolean
  | _ => none

/-- The scalar type of a descriptor. -/
def ofDescriptor? (descriptor : String) : Option BuiltIn :=
  match descriptor.toList with
  | [letter] => (Primitive.ofLetter? letter).map ofPrimitive
  | 'L' :: rest =>
    if rest.getLast? = some ';' then ofClass? (String.ofList rest.dropLast) else none
  | _ => none

/-- The type as a document writes it. -/
def type : BuiltIn → String
  | byte => "integer"
  | integer => "integer"
  | short => "integer"
  | long => "integer"
  | float => "number"
  | double => "number"
  | boolean => "boolean"
  | _ => "string"

/-- The format as a document writes it, for types that have one. -/
def format? : BuiltIn → Option String
  | uuid => some "uuid"
  | localDateTime => some "date-time"
  | multipartFile => some "binary"
  | byte => some "int32"
  | integer => some "int32"
  | short => some "int32"
  | long => some "int64"
  | float => some "float"
  | double => some "double"
  | _ => none

end BuiltIn

/-- The class holds elements and is written as an array of them. -/
def isCollection (name : String) : Bool :=
  name = "java/util/List" || name = "java/util/Collection" || name = "java/util/Set"

end ApiSurface
