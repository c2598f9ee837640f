import ApiSurface.Bytecode.Instruction
import ApiSurface.ClassFile.Refusal

/-!
# The constant pool

A class file keeps its texts, constants and references in a table, whose entries refer to one
another by index. Nothing is checked until an entry is used.

Main definitions: `PoolEntry`, `Pool`, and one function for each use of an entry.
-/
namespace ApiSurface.ClassFile

/-- An entry of the constant pool. -/
inductive PoolEntry where
  /-- The first slot, and the slot after a constant of eight bytes. -/
  | unused
  | utf8 (text : String)
  | int (value : Int32)
  | float (bits : UInt32)
  | long (value : Int64)
  | double (bits : UInt64)
  | classRef (name : Nat)
  | string (text : Nat)
  /-- A field, a method or an interface method. -/
  | member (owner nameAndType : Nat)
  | nameAndType (name descriptor : Nat)
  | methodHandle (kind : UInt8) (member : Nat)
  | methodType (descriptor : Nat)
  /-- A constant or a call made when it is first used. -/
  | dynamic (bootstrap nameAndType : Nat)
  /-- A module or a package. -/
  | other

/-- The constant pool of a class. -/
structure Pool where
  /-- The name under which the class was loaded, for faults. -/
  name : String
  entries : Array PoolEntry

namespace Pool

/-- The fault of an entry that does not serve its use. -/
def misused {α : Type} (p : Pool) (index : Nat) (use : EntryUse) : Except Undecodable α :=
  .error ⟨p.name, .entry index use⟩

/-- The text of an entry. -/
def utf8 (p : Pool) (index : Nat) : Except Undecodable String :=
  match p.entries[index]? with
  | some (.utf8 text) => .ok text
  | _ => p.misused index .utf8

/-- The class that an entry names. -/
def className (p : Pool) (index : Nat) : Except Undecodable String :=
  match p.entries[index]? with
  | some (.classRef name) => p.utf8 name
  | _ => p.misused index .classRef

/-- A name and a descriptor. -/
def nameAndType (p : Pool) (index : Nat) : Except Undecodable (String × String) :=
  match p.entries[index]? with
  | some (.nameAndType name descriptor) => do
    let name ← p.utf8 name
    let descriptor ← p.utf8 descriptor
    .ok (name, descriptor)
  | _ => p.misused index .nameAndType

/-- Owner, name and descriptor of a field or method. -/
def member (p : Pool) (index : Nat) : Except Undecodable (String × String × String) :=
  match p.entries[index]? with
  | some (.member owner nameAndType) => do
    let (name, descriptor) ← p.nameAndType nameAndType
    let owner ← p.className owner
    .ok (owner, name, descriptor)
  | _ => p.misused index .member

/-- A method handle. -/
def methodHandle (p : Pool) (index : Nat) : Except Undecodable MethodHandle :=
  match p.entries[index]? with
  | some (.methodHandle kind member) => do
    let (owner, name, descriptor) ← p.member member
    .ok { kind, owner, name, descriptor }
  | _ => p.misused index .methodHandle

/-- A constant that instructions can load. -/
def constant (p : Pool) (index : Nat) : Except Undecodable Constant :=
  match p.entries[index]? with
  | some (.int value) => .ok (.int value)
  | some (.float bits) => .ok (.float bits)
  | some (.long value) => .ok (.long value)
  | some (.double bits) => .ok (.double bits)
  | some (.string text) => do
    let text ← p.utf8 text
    .ok (.string text)
  | some (.classRef name) => do
    let name ← p.utf8 name
    .ok (.classRef name)
  | some (.methodType descriptor) => do
    let descriptor ← p.utf8 descriptor
    .ok (.methodType descriptor)
  | some (.methodHandle _ _) => do
    let target ← p.methodHandle index
    .ok (.handle target)
  | _ => p.misused index .loadable

/-- Constants that instructions can load. -/
def constants (p : Pool) : List Nat → Except Undecodable (List Constant)
  | [] => .ok []
  | index :: indexes => do
    let first ← p.constant index
    let others ← p.constants indexes
    .ok (first :: others)

/-- Bootstrap method, name and descriptor of a dynamic call. -/
def dynamicCall (p : Pool) (index : Nat) : Except Undecodable (Nat × String × String) :=
  match p.entries[index]? with
  | some (.dynamic bootstrap nameAndType) => do
    let (name, descriptor) ← p.nameAndType nameAndType
    .ok (bootstrap, name, descriptor)
  | _ => p.misused index .dynamicCall

end Pool

end ApiSurface.ClassFile
