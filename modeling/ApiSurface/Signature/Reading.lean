import ApiSurface.Descriptor.Reading
import ApiSurface.Signature.Basic

/-!
# Reading generic signatures

The grammar extends that of descriptors: a class type may carry arguments and nested class
names, and `T`*name*`;` is a type variable. Every recursive call is made on fewer letters, and
`count` bounds the letters left, so a count of zero means that the text has ended.
-/
namespace ApiSurface.Signature
open Descriptor

/-- Letters that end a segment of a class name. -/
def endsSegment (c : Char) : Bool := c = '<' || c = ';' || c = '.'

/-- Consume a type whose first letter is `c`, given readers for an array's component and for the
body of a class type. -/
def readHeaded (component : Reader GenericType) (body : Reader (String × List TypeArgument))
    (c : Char) (rest : List Char) : Except Refusal (GenericType × List Char) :=
  if c = 'L' then do
    let ((name, arguments), rest) ← body rest
    .ok (.object name arguments, rest)
  else if c = 'T' then do
    let name := rest.takeWhile (· ≠ ';')
    let rest ← expect ';' (rest.dropWhile (· ≠ ';'))
    .ok (.variable (String.ofList name), rest)
  else if c = '[' then do
    let (t, rest) ← component rest
    .ok (.array t, rest)
  else match Primitive.ofLetter? c with
    | some p => .ok (.base p, rest)
    | none => .error (.unexpected (leadByte c))

mutual

/-- Consume one generic type. -/
def readType : (count : Nat) → Reader GenericType
  | 0, _ => .error .ended
  | _ + 1, [] => .error .ended
  | count + 1, c :: rest => readHeaded (readType count) (readClass count []) c rest

/-- Consume the rest of a class type after `L`. Segments of nested classes are joined by `$`, and
the arguments of the last segment that has any are kept; `kept` are those of the segments before. -/
def readClass (count : Nat) (kept : List TypeArgument) : Reader (String × List TypeArgument) :=
  fun letters =>
    let segment := String.ofList (letters.takeWhile (! endsSegment ·))
    match count, letters.dropWhile (! endsSegment ·) with
    | _, [] => .error .unterminatedClass
    | 0, _ => .error .unterminatedClass
    | count + 1, c :: rest =>
      if c = ';' then .ok ((segment, kept), rest)
      else if c = '.' then do
        let ((name, arguments), rest) ← readClass count kept rest
        .ok ((segment ++ "$" ++ name, arguments), rest)
      else do
        let (arguments, rest) ← readArguments count rest
        match rest with
        | ';' :: rest => .ok ((segment, arguments), rest)
        | '.' :: rest => do
          let ((name, arguments), rest) ← readClass count arguments rest
          .ok ((segment ++ "$" ++ name, arguments), rest)
        | _ => .error .unterminatedClass

/-- Consume type arguments up to and with `>`. -/
def readArguments : (count : Nat) → Reader (List TypeArgument)
  | 0, _ => .error .unterminatedArguments
  | _ + 1, [] => .error .unterminatedArguments
  | count + 1, c :: rest =>
    if c = '>' then .ok ([], rest)
    else do
      let (argument, rest) ←
        if c = '*' then .ok (.any, rest)
        else if c = '+' then do
          let (t, rest) ← readType count rest
          .ok (.atMost t, rest)
        else if c = '-' then do
          let (t, rest) ← readType count rest
          .ok (.atLeast t, rest)
        else do
          let (t, rest) ← readHeaded (readType count) (readClass count []) c rest
          .ok (.exact t, rest)
      let (arguments, rest) ← readArguments count rest
      .ok (argument :: arguments, rest)

end

/-- Consume interface bounds, each after a colon. -/
def readBounds : (count : Nat) → List Char → Except Refusal (List Char)
  | count + 1, ':' :: rest => do
    let (_, rest) ← readType rest.length rest
    readBounds count rest
  | _, rest => .ok rest

/-- Consume the class bound and the interface bounds after the name of a type parameter. The
class bound may be left out. -/
def skipBounds (letters : List Char) : Except Refusal (List Char) :=
  match letters with
  | c :: _ =>
    if c = 'L' ∨ c = 'T' ∨ c = '[' then do
      let (_, rest) ← readType letters.length letters
      readBounds rest.length rest
    else readBounds letters.length letters
  | [] => .ok []

/-- Consume named type parameters up to and with `>`. -/
def readParameterNames : (count : Nat) → Reader (List String)
  | _, '>' :: rest => .ok ([], rest)
  | 0, _ => .error .emptyParameter
  | count + 1, letters => do
    let name := letters.takeWhile (· ≠ ':')
    if name.isEmpty then .error .emptyParameter
    let rest ← expect ':' (letters.dropWhile (· ≠ ':'))
    let rest ← skipBounds rest
    let (names, rest) ← readParameterNames count rest
    .ok (String.ofList name :: names, rest)

/-- Consume the declaration of type parameters, if there is one. -/
def readDeclaration : Reader (List String)
  | '<' :: rest => readParameterNames rest.length rest
  | letters => .ok ([], letters)

/-- The type parameters that the signature of a class declares, in order. What follows them is
not looked at. -/
def typeParameters (text : String) : Except Refusal (List String) := do
  let (names, _) ← readDeclaration text.toList
  .ok names

end ApiSurface.Signature

namespace ApiSurface
open Descriptor Signature

/-- The generic type whose signature is `text`. -/
def GenericType.ofSignature (text : String) : Except Refusal GenericType := do
  let (t, rest) ← readType text.toList.length text.toList
  finish rest
  .ok t

/-- The generic types of the method whose signature is `text`. Declared exceptions may follow the
returned type and are not looked at. -/
def GenericMethod.ofSignature (text : String) : Except Refusal GenericMethod := do
  let (_, rest) ← readDeclaration text.toList
  let ((parameters, returns), _) ← readMethod (readType rest.length) rest
  .ok { parameters, returns }

end ApiSurface
