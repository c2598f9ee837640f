import ApiSurface.Descriptor.Basic
import ApiSurface.Descriptor.Refusal

/-!
# Reading descriptors

`readFieldType` consumes one descriptor from the front of the letters. The entry points
`FieldType.ofDescriptor` and `MethodType.ofDescriptor` read a whole text and refuse anything
left over. Loops over the letters count down the letters that are left, so running out of count
is the same as running out of text.
-/
namespace ApiSurface.Descriptor

/-- The class name between `L` and `;`. -/
def readClassName (letters : List Char) : Except Refusal (String × List Char) := do
  let name := letters.takeWhile (· ≠ ';')
  let rest ← expect ';' (letters.dropWhile (· ≠ ';'))
  if name.isEmpty then .error .emptyClass else .ok (String.ofList name, rest)

/-- Consume the descriptor of one field type. -/
def readFieldType : Reader FieldType
  | [] => .error .ended
  | c :: rest =>
    if c = 'L' then do
      let (name, rest) ← readClassName rest
      .ok (.object name, rest)
    else if c = '[' then do
      let (component, rest) ← readFieldType rest
      .ok (.array component, rest)
    else match Primitive.ofLetter? c with
      | some p => .ok (.base p, rest)
      | none => .error (.unexpected (leadByte c))

/-- Consume types up to and with the closing bracket. `count` bounds the letters left. -/
def readParameters {α : Type} (item : Reader α) : (count : Nat) → Reader (List α)
  | 0, _ => .error .ended
  | _ + 1, ')' :: rest => .ok ([], rest)
  | count + 1, letters => do
    let (parameter, rest) ← item letters
    let (parameters, rest) ← readParameters item count rest
    .ok (parameter :: parameters, rest)

/-- Consume `V` or the type that a method returns. -/
def readReturn {α : Type} (item : Reader α) : Reader (Option α)
  | 'V' :: rest => .ok (none, rest)
  | letters => do
    let (returned, rest) ← item letters
    .ok (some returned, rest)

/-- Consume the bracketed parameters and the returned type of a method. -/
def readMethod {α : Type} (item : Reader α) (letters : List Char) :
    Except Refusal ((List α × Option α) × List Char) := do
  let rest ← expect '(' letters
  let (parameters, rest) ← readParameters item rest.length rest
  let (returned, rest) ← readReturn item rest
  .ok ((parameters, returned), rest)

/-- The class that the descriptor of a class names. -/
def classNameOf (descriptor : String) : Except Refusal String :=
  match descriptor.toList with
  | 'L' :: rest =>
    if rest.getLast? = some ';' ∧ rest.dropLast ≠ [] then .ok (String.ofList rest.dropLast)
    else .error .notClass
  | _ => .error .notClass

end ApiSurface.Descriptor

namespace ApiSurface
open Descriptor

/-- The field type whose descriptor is `text`. -/
def FieldType.ofDescriptor (text : String) : Except Refusal FieldType := do
  let (t, rest) ← readFieldType text.toList
  finish rest
  .ok t

/-- The method type whose descriptor is `text`. -/
def MethodType.ofDescriptor (text : String) : Except Refusal MethodType := do
  let ((parameters, returns), rest) ← readMethod readFieldType text.toList
  finish rest
  .ok { parameters, returns }

end ApiSurface
