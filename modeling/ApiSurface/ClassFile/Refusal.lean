import ApiSurface.Bytecode.Opcode

/-!
# Why a class file is refused

The container, the references into the constant pool and the code of methods are checked where
they are used, and each check has its own reason.
-/
namespace ApiSurface.ClassFile

/-- What a constant pool entry was used as. -/
inductive EntryUse where
  | utf8 | classRef | nameAndType | member | methodHandle | loadable | dynamicCall
deriving DecidableEq

/-- The use in words. -/
def EntryUse.text : EntryUse → String
  | utf8 => "utf8"
  | classRef => "class"
  | nameAndType => "name and type"
  | member => "member reference"
  | methodHandle => "method handle"
  | loadable => "loadable constant"
  | dynamicCall => "invokedynamic"

/-- The reason why a class file is refused. -/
inductive Refusal where
  /-- The bytes are not laid out as a class file, in the words of the library that reads them. -/
  | unparsed (text : String)
  /-- A constant pool entry is missing or of another kind than its use. -/
  | entry (index : Nat) (use : EntryUse)
  /-- An operand reaches past the end of the code. -/
  | operandBounds (offset : Nat)
  /-- The bounds of a jump table are crossed or too far apart. -/
  | tableRange (offset : Nat)
  /-- A jump table has a negative number of cases. -/
  | lookupSize (offset : Nat)
  /-- A dynamic call has no bootstrap method. -/
  | bootstrap (offset : Nat)
  /-- No instruction has this operation code. -/
  | unknownOpcode (opcode : Opcode) (offset : Nat)
  /-- The class is declared under another name than its file has. -/
  | declares (name : String)
deriving DecidableEq

/-- A byte as two lower-case hexadecimal digits. -/
def hexByte (byte : UInt8) : String :=
  let digits := Nat.toDigits 16 byte.toNat
  String.ofList (List.replicate (2 - digits.length) '0' ++ digits)

/-- The reason in words. -/
def Refusal.message : Refusal → String
  | unparsed text => text
  | entry index use => "constant pool entry " ++ toString index ++ " is not a " ++ use.text
  | operandBounds offset => "operand out of bounds at offset " ++ toString offset
  | tableRange offset => "invalid tableswitch range at bytecode offset " ++ toString offset
  | lookupSize offset => "invalid lookupswitch size at bytecode offset " ++ toString offset
  | bootstrap offset => "missing bootstrap method at bytecode offset " ++ toString offset
  | unknownOpcode opcode offset =>
    "unknown opcode 0x" ++ hexByte opcode ++ " at bytecode offset " ++ toString offset
  | declares name => "unit declares class " ++ name

/-- A class file that is refused, by the name under which it was loaded. -/
structure Undecodable where
  name : String
  reason : Refusal
deriving DecidableEq

end ApiSurface.ClassFile
