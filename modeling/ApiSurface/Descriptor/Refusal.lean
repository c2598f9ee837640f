/-!
# Why a descriptor or signature is refused

Positions are not kept while reading. A refusal says how many UTF-8 bytes were left unread, and
the position is counted back from the end of the whole text when the refusal is put into words.
-/
namespace ApiSurface.Descriptor

/-- The reason why a descriptor or signature is refused. -/
inductive Refusal where
  /-- Another letter had to stand here; `left` bytes were unread after the offending byte. -/
  | expected (wanted : Char) (left : Nat)
  /-- A complete type was read, and `left` bytes follow it. -/
  | trailing (left : Nat)
  /-- No type starts with this byte. -/
  | unexpected (byte : UInt8)
  /-- The text ends where a type had to start. -/
  | ended
  /-- `L;` names no class. -/
  | emptyClass
  /-- The text is not the descriptor of a class. -/
  | notClass
  /-- A class type ends without `;`, or a nested class does not follow its dot. -/
  | unterminatedClass
  /-- A list of type arguments is not closed. -/
  | unterminatedArguments
  /-- A type parameter has no name. -/
  | emptyParameter
deriving DecidableEq

/-- Bytes that the letters occupy in UTF-8. -/
def byteSize (letters : List Char) : Nat :=
  letters.foldr (fun c size => c.utf8Size + size) 0

/-- First byte of a letter in UTF-8. -/
def leadByte (c : Char) : UInt8 := (String.utf8EncodeChar c).headD 0

/-- The reason in words, for a refusal of `text`. -/
def Refusal.message (text : String) : Refusal → String
  | expected wanted left =>
    "expected '" ++ wanted.toString ++ "' at " ++ toString (byteSize text.toList - left)
  | trailing left => "trailing input at " ++ toString (byteSize text.toList - left)
  | unexpected byte => "unexpected '" ++ (Char.ofNat byte.toNat).toString ++ "'"
  | ended => "unexpected end"
  | emptyClass => "empty class name"
  | notClass => "not a class descriptor"
  | unterminatedClass => "unterminated class signature"
  | unterminatedArguments => "unterminated type arguments"
  | emptyParameter => "empty type parameter"

/-- A reader consumes letters from the front of the text and returns what it leaves. -/
abbrev Reader (α : Type) := List Char → Except Refusal (α × List Char)

/-- Consume one given letter. -/
def expect (wanted : Char) : List Char → Except Refusal (List Char)
  | [] => .error (.expected wanted 0)
  | c :: rest =>
    if c = wanted then .ok rest else .error (.expected wanted (byteSize (c :: rest) - 1))

/-- Refuse letters after a complete type. -/
def finish : List Char → Except Refusal Unit
  | [] => .ok ()
  | rest => .error (.trailing (byteSize rest))

end ApiSurface.Descriptor
