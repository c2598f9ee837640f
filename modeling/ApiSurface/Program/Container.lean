import ApiSurface.ClassFile.Bytes
import ApiSurface.ClassFile.Container
import ApiSurface.Text.ModifiedUtf8

/-!
# A reader of containers

The program reads class files without a library. An attribute says how long it is, but its extent
follows from its structure, so an attribute of an unknown name cannot be read. Two kinds of
attribute also need as many bytes as they claim.

Nested structures are read by recursion on the number of bytes left; every level takes a byte.

Main definitions: `readContainer`, `Container.read?`, and the instance of `ContainerParser`.
-/
namespace ApiSurface.ClassFile

/-! ## The constant pool -/

/-- Read an entry of the constant pool. -/
def readEntry : ByteReader PoolEntry := do
  let tag ← byte
  match tag.toNat with
  | 1 => do
    let length ← number 2
    let bytes ← take length
    match Text.ModifiedUtf8.decode? bytes with
    | some text => return .utf8 text
    | none => failure
  | 3 => return .int (Int32.ofInt (signed 32 (← number 4)))
  | 4 => return .float (UInt32.ofNat (← number 4))
  | 5 => return .long (Int64.ofInt (signed 64 (← number 8)))
  | 6 => return .double (UInt64.ofNat (← number 8))
  | 7 => return .classRef (← number 2)
  | 8 => return .string (← number 2)
  | 9 => return .member (← number 2) (← number 2)
  | 10 => return .member (← number 2) (← number 2)
  | 11 => return .member (← number 2) (← number 2)
  | 12 => return .nameAndType (← number 2) (← number 2)
  | 15 => return .methodHandle (← byte) (← number 2)
  | 16 => return .methodType (← number 2)
  | 17 => return .dynamic (← number 2) (← number 2)
  | 18 => return .dynamic (← number 2) (← number 2)
  | 19 => do
    skip 2
    return .other
  | 20 => do
    skip 2
    return .other
  | _ => failure

/-- The entry takes two slots. -/
def PoolEntry.isWide : PoolEntry → Bool
  | .long _ => true
  | .double _ => true
  | _ => false

/-- Read entries for a number of slots. -/
def readSlots : Nat → ByteReader (List PoolEntry)
  | 0 => pure []
  | 1 => do return [← readEntry]
  | slots + 2 => do
    let entry ← readEntry
    if entry.isWide then do
      let others ← readSlots slots
      return entry :: .unused :: others
    else do
      let others ← readSlots (slots + 1)
      return entry :: others

/-- Read the constant pool. A count of zero gives no slots, not even the first. -/
def readPool : ByteReader (Array PoolEntry) := do
  match ← number 2 with
  | 0 => return #[]
  | slots + 1 => do
    let entries ← readSlots slots
    return (.unused :: entries).toArray

/-! ## Annotations -/

/-- Read a name and then a value. -/
def readPair (value : ByteReader RawElement) : ByteReader (Nat × RawElement) := do
  let name ← number 2
  let value ← value
  return (name, value)

/-- Read the value of an annotation element. -/
def readElement : (left : Nat) → ByteReader RawElement
  | 0 => failure
  | left + 1 => do
    let tag ← byte
    match Char.ofNat tag.toNat with
    | 's' => return .string (← number 2)
    | 'e' => return .enumConstant (← number 2) (← number 2)
    | 'c' => return .classRef (← number 2)
    | '@' => do
      let type ← number 2
      let values ← counted 2 (readPair (readElement left))
      return .nested type values
    | '[' => do
      let values ← counted 2 (readElement left)
      return .array values
    | c =>
      if c ∈ ['B', 'C', 'D', 'F', 'I', 'J', 'S', 'Z'] then return .constant (← number 2)
      else failure

/-- Read an annotation. -/
def readAnnotation : ByteReader RawAnnotation := do
  let type ← number 2
  let values ← counted 2 (readPair (readElement (← left)))
  return { type, values }

/-- Read a counted list of annotations. -/
def readAnnotations : ByteReader (List RawAnnotation) := counted 2 readAnnotation

/-- Skip what a type annotation is attached to. -/
def skipTypeTarget : ByteReader Unit := do
  let kind ← byte
  let n := kind.toNat
  if n = 0x00 ∨ n = 0x01 then skip 1
  else if n = 0x10 then skip 2
  else if n = 0x11 ∨ n = 0x12 then skip 2
  else if n = 0x13 ∨ n = 0x14 ∨ n = 0x15 then return
  else if n = 0x16 then skip 1
  else if n = 0x17 then skip 2
  else if n = 0x40 ∨ n = 0x41 then skipCounted 2 6
  else if n = 0x42 then skip 2
  else if 0x43 ≤ n ∧ n ≤ 0x46 then skip 2
  else if 0x47 ≤ n ∧ n ≤ 0x4b then skip 3
  else failure

/-- Skip a type annotation. -/
def skipTypeAnnotation : ByteReader Unit := do
  skipTypeTarget
  skipCounted 1 2
  let _ ← readAnnotation
  return

/-! ## Stack maps -/

/-- Skip a verification type. -/
def skipVerificationType : ByteReader Unit := do
  let tag ← byte
  if tag.toNat ≤ 6 then return
  else if tag.toNat ≤ 8 then skip 2
  else failure

/-- Skip verification types. -/
def skipVerificationTypes (count : Nat) : ByteReader Unit := do
  let _ ← times skipVerificationType count
  return

/-- Skip a stack map frame. -/
def skipFrame : ByteReader Unit := do
  let tag ← byte
  let n := tag.toNat
  if n ≤ 63 then return
  else if n ≤ 127 then skipVerificationType
  else if n ≤ 246 then failure
  else if n = 247 then do
    skip 2
    skipVerificationType
  else if n ≤ 251 then skip 2
  else if n ≤ 254 then do
    skip 2
    skipVerificationTypes (n - 251)
  else do
    skip 2
    let locals ← number 2
    skipVerificationTypes locals
    let stack ← number 2
    skipVerificationTypes stack

/-! ## Attributes -/

/-- Read an entry of a table of local variables. -/
def readLocal : ByteReader RawLocal := do
  let start ← number 2
  let length ← number 2
  let name ← number 2
  let descriptor ← number 2
  let slot ← number 2
  return { start, length, name, descriptor, slot }

/-- Read an entry of a table of source lines. -/
def readLine : ByteReader (Nat × Nat) := do
  let start ← number 2
  let line ← number 2
  return (start, line)

/-- Read the offset that an exception handler starts at. -/
def readHandler : ByteReader Nat := do
  skip 4
  let handler ← number 2
  skip 2
  return handler

/-- Read the arguments of a bootstrap method. -/
def readBootstrap : ByteReader (List Nat) := do
  skip 2
  counted 2 (number 2)

/-- Read the name of a parameter, and skip its flags. -/
def readParameterName : ByteReader Nat := do
  let name ← number 2
  skip 2
  return name

/-- Read code, given a reader of attributes. -/
def readCode (nested : ByteReader Attribute) : ByteReader Attribute := do
  skip 4
  let length ← number 4
  let code ← take length
  let handlers ← counted 2 readHandler
  let attributes ← counted 2 nested
  return .code code handlers attributes

/-- Skip a component of a record, given a reader of attributes. -/
def skipComponent (nested : ByteReader Attribute) : ByteReader Unit := do
  skip 4
  let _ ← counted 2 nested
  return

/-- Skip with a reader. -/
def skipping {α : Type} (item : ByteReader α) : ByteReader Attribute := do
  let _ ← item
  return .unused

/-- Read the body of an attribute by its name, given a reader of attributes and the length that
the attribute claims. -/
def readBody (nested : ByteReader Attribute) (length : Nat) (name : String) :
    ByteReader Attribute :=
  match name with
  | "Code" => readCode nested
  | "LineNumberTable" => do return .lines (← counted 2 readLine)
  | "LocalVariableTable" => do return .locals (← counted 2 readLocal)
  | "Signature" => do return .signature (← number 2)
  | "RuntimeVisibleAnnotations" => do
    demand length
    return .annotations (← readAnnotations)
  | "RuntimeVisibleParameterAnnotations" => do
    return .parameterAnnotations (← counted 1 readAnnotations)
  | "MethodParameters" => do return .parameterNames (← counted 1 readParameterName)
  | "BootstrapMethods" => do return .bootstraps (← counted 2 readBootstrap)
  | "ConstantValue" => skipping (skip 2)
  | "Exceptions" => skipping (skipCounted 2 2)
  | "Synthetic" => pure .unused
  | "Deprecated" => pure .unused
  | "SourceFile" => skipping (skip 2)
  | "InnerClasses" => skipping (skipCounted 2 8)
  | "EnclosingMethod" => skipping (skip 4)
  | "LocalVariableTypeTable" => skipping (skipCounted 2 10)
  | "RuntimeInvisibleAnnotations" => skipping readAnnotations
  | "RuntimeVisibleTypeAnnotations" => skipping (counted 2 skipTypeAnnotation)
  | "AnnotationDefault" => do
    demand length
    skipping (readElement (← left))
  | "StackMapTable" => skipping (counted 2 skipFrame)
  | "NestHost" => skipping (skip 2)
  | "NestMembers" => skipping (skipCounted 2 2)
  | "Record" => skipping (counted 2 (skipComponent nested))
  | "PermittedSubclasses" => skipping (skipCounted 2 2)
  | _ => failure

/-- Read an attribute. -/
def readAttribute (entries : Array PoolEntry) : (left : Nat) → ByteReader Attribute
  | 0 => failure
  | left + 1 => do
    let name ← number 2
    let length ← number 4
    match entries[name]? with
    | some (.utf8 name) => readBody (readAttribute entries left) length name
    | _ => failure

/-- Read a counted list of attributes. -/
def readAttributes (entries : Array PoolEntry) : ByteReader (List Attribute) := do
  counted 2 (readAttribute entries (← left))

/-! ## Members and the class -/

/-- Read a field or method. -/
def readMember (entries : Array PoolEntry) : ByteReader RawMember := do
  let flags ← number 2
  let name ← number 2
  let descriptor ← number 2
  let attributes ← readAttributes entries
  return { flags, name, descriptor, attributes }

/-- Read a container from its start. -/
def readContainer : ByteReader Container := do
  let magic ← number 4
  if magic ≠ 0xcafebabe then failure
  skip 4
  let entries ← readPool
  let flags ← number 2
  let thisClass ← number 2
  let superclass ← number 2
  let interfaces ← counted 2 (number 2)
  let fields ← counted 2 (readMember entries)
  let methods ← counted 2 (readMember entries)
  let attributes ← readAttributes entries
  return { entries, flags, thisClass, superclass, interfaces, fields, methods, attributes }

/-- The container that the bytes are, without bytes left over. -/
def Container.read? (bytes : List UInt8) : Option Container :=
  match readContainer bytes with
  | some (container, []) => some container
  | _ => none

/-- The refusal of bytes that cannot be read. Why they cannot is not told. -/
@[match_pattern] def Refusal.container : Refusal := .unparsed "<container>"

/-- The reader takes the part of the library in the program. -/
instance : ContainerParser where
  parse bytes :=
    match Container.read? bytes with
    | some container => .ok container
    | none => .error Refusal.container.message

end ApiSurface.ClassFile
