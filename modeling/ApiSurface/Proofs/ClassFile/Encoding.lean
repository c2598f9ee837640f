import ApiSurface.ClassFile.Code
import ApiSurface.Proofs.ClassFile.Bytes

/-!
# Instructions as bytes

The legal encodings of instructions, without reference to how they are decoded. Many instructions
can be written in several ways: the slot of a local variable may be part of the operation code, a
byte after it, or two bytes after a prefix. An encoding stands at an offset, on which the operands
of branches and the alignment of jump tables depend.

What an instruction means is given as the payload that all of its encodings stand for.

Main definitions: `LocalAccess`, `Encodes`, `EncodesAll`.
-/
namespace ApiSurface.ClassFile

/-! ## Operation codes -/

/-- The operation codes of instructions without operands, as first and last of each group. -/
def plainRanges : List (Opcode × Opcode) :=
  [(0x00, 0x0f), (0x2e, 0x35), (0x4f, 0x83), (0x85, 0x98), (0xac, 0xb1), (0xbe, 0xbf),
    (0xc2, 0xc3)]

/-- The instruction has no operands. -/
def IsPlain (opcode : Opcode) : Prop := ∃ r ∈ plainRanges, r.1 ≤ opcode ∧ opcode ≤ r.2

example : plainRanges.map (fun r => (r.1.mnemonic, r.2.mnemonic)) =
    [("nop", "dconst_1"), ("iaload", "saload"), ("iastore", "lxor"), ("i2l", "dcmpg"),
      ("ireturn", "return"), ("arraylength", "athrow"), ("monitorenter", "monitorexit")] := by
  decide +kernel

/-- The instruction branches by a distance of two bytes. -/
def IsBranch (opcode : Opcode) : Prop :=
  (Opcode.ifeq ≤ opcode ∧ opcode ≤ Opcode.jsr) ∨ opcode = Opcode.ifnull ∨ opcode = Opcode.ifnonnull

/-- The instruction branches by a distance of four bytes. -/
def IsFarBranch (opcode : Opcode) : Prop := opcode = Opcode.gotoW ∨ opcode = Opcode.jsrW

/-- The instruction reads or writes a field. -/
def IsFieldAccess (opcode : Opcode) : Prop := Opcode.getstatic ≤ opcode ∧ opcode ≤ Opcode.putfield

/-- The instruction names a type and nothing else. -/
def IsTyped (opcode : Opcode) : Prop :=
  opcode = Opcode.newObject ∨ opcode = Opcode.anewarray ∨ opcode = Opcode.checkcast ∨
    opcode = Opcode.instanceOf

/-! ## Local variables -/

/-- The types of local variables that have instructions of their own. -/
inductive LocalType where
  | int | long | float | double | reference
deriving DecidableEq

/-- The place of a type among the operation codes. -/
def LocalType.index : LocalType → Nat
  | int => 0
  | long => 1
  | float => 2
  | double => 3
  | reference => 4

/-- All types of local variables. -/
def LocalType.all : List LocalType := [int, long, float, double, reference]

/-- What an instruction does with a local variable. -/
inductive LocalAccess where
  | load (type : LocalType)
  | store (type : LocalType)
  /-- Return from a subroutine to the address in the variable. -/
  | ret
deriving DecidableEq

namespace LocalAccess

/-- Everything that an instruction can do with a local variable. -/
def all : List LocalAccess := LocalType.all.map load ++ LocalType.all.map store ++ [ret]

/-- The operation code with the slot as an operand. -/
def opcode : LocalAccess → Opcode
  | load type => Opcode.iload + UInt8.ofNat type.index
  | store type => Opcode.istore + UInt8.ofNat type.index
  | ret => Opcode.ret

/-- The operation code that implies one of the first four slots. -/
def implied? (slot : Fin 4) : LocalAccess → Option Opcode
  | load type => some (Opcode.iload0 + UInt8.ofNat (4 * type.index + slot))
  | store type => some (Opcode.istore0 + UInt8.ofNat (4 * type.index + slot))
  | ret => none

example : (store .double).opcode.mnemonic = "dstore" := by decide +kernel

example : ((store .double).implied? 3).map Opcode.mnemonic = some "dstore_3" := by decide +kernel

end LocalAccess

instance : DecidablePred IsPlain := fun opcode =>
  inferInstanceAs (Decidable (∃ r ∈ plainRanges, r.1 ≤ opcode ∧ opcode ≤ r.2))

instance : DecidablePred IsBranch := fun opcode =>
  inferInstanceAs (Decidable ((Opcode.ifeq ≤ opcode ∧ opcode ≤ Opcode.jsr) ∨
    opcode = Opcode.ifnull ∨ opcode = Opcode.ifnonnull))

instance : DecidablePred IsFarBranch := fun opcode =>
  inferInstanceAs (Decidable (opcode = Opcode.gotoW ∨ opcode = Opcode.jsrW))

instance : DecidablePred IsFieldAccess := fun opcode =>
  inferInstanceAs (Decidable (Opcode.getstatic ≤ opcode ∧ opcode ≤ Opcode.putfield))

instance : DecidablePred IsTyped := fun opcode =>
  inferInstanceAs (Decidable (opcode = Opcode.newObject ∨ opcode = Opcode.anewarray ∨
    opcode = Opcode.checkcast ∨ opcode = Opcode.instanceOf))

/-- What holds of all bytes holds of all operation codes. -/
theorem forall_opcode {p : Opcode → Prop} (h : ∀ n : Fin 256, p (UInt8.ofFin n)) (opcode : Opcode) :
    p opcode :=
  h opcode.toFin

/-- The operation codes that belong to no group. -/
def singleOpcodes : List Opcode :=
  [Opcode.bipush, Opcode.sipush, Opcode.ldc, Opcode.ldcW, Opcode.ldc2W, Opcode.iinc,
    Opcode.tableswitch, Opcode.lookupswitch, Opcode.invokevirtual, Opcode.invokespecial,
    Opcode.invokestatic, Opcode.invokeinterface, Opcode.invokedynamic, Opcode.newarray,
    Opcode.wide, Opcode.multianewarray]

/-- Every assigned operation code begins an encoding of one of the groups or one of its own. -/
theorem begins_encoding (opcode : Opcode) (h : opcode.toNat < Opcode.mnemonics.size) :
    IsPlain opcode ∨ IsBranch opcode ∨ IsFarBranch opcode ∨ IsFieldAccess opcode ∨
      IsTyped opcode ∨ (∃ access ∈ LocalAccess.all, access.opcode = opcode) ∨
      (∃ access ∈ LocalAccess.all, ∃ slot, access.implied? slot = some opcode) ∨
      opcode ∈ singleOpcodes := by
  rw [Opcode.size_mnemonics] at h
  revert h
  exact forall_opcode (p := fun c => c.toNat < 202 → IsPlain c ∨ IsBranch c ∨ IsFarBranch c ∨
    IsFieldAccess c ∨ IsTyped c ∨ (∃ access ∈ LocalAccess.all, access.opcode = c) ∨
    (∃ access ∈ LocalAccess.all, ∃ slot, access.implied? slot = some c) ∨ c ∈ singleOpcodes)
    (by decide +kernel) opcode

/-! ## Encodings -/

/-- A branch at `pc` by a distance leads to an offset within code of the length. -/
def Leads (length pc : Nat) (distance : Int) (target : Nat) : Prop :=
  (pc : Int) + distance = target ∧ target < length

/-- Some bytes that bring the operands of a jump table at `pc` to a multiple of four. -/
def Aligns (pc : Nat) (fill : List UInt8) : Prop :=
  fill.length < 4 ∧ 4 ∣ pc + 1 + fill.length

/-- The bytes are an encoding, at offset `pc` of code of some length, of the instruction with the
payload. -/
inductive Encodes (pool : Pool) (bootstraps : List (List Nat)) (length pc : Nat) :
    List UInt8 → Payload → Prop
  | plain {opcode : Opcode} (plain : IsPlain opcode) :
      Encodes pool bootstraps length pc [opcode] (.op opcode)
  | bipush {value : Int} (fits : Fits 8 value) :
      Encodes pool bootstraps length pc (Opcode.bipush :: twosComplement 1 value)
        (.push Opcode.bipush (Int32.ofInt value))
  | sipush {value : Int} (fits : Fits 16 value) :
      Encodes pool bootstraps length pc (Opcode.sipush :: twosComplement 2 value)
        (.push Opcode.sipush (Int32.ofInt value))
  | ldc {index : Nat} {value : Constant} (fits : index < 256)
      (resolves : pool.constant index = .ok value) :
      Encodes pool bootstraps length pc (Opcode.ldc :: bigEndian 1 index) (.constant value)
  /-- A constant by an index of two bytes, of one slot or of two. -/
  | ldcW {opcode : Opcode} {index : Nat} {value : Constant}
      (loads : opcode = Opcode.ldcW ∨ opcode = Opcode.ldc2W) (fits : index < 256 ^ 2)
      (resolves : pool.constant index = .ok value) :
      Encodes pool bootstraps length pc (opcode :: bigEndian 2 index) (.constant value)
  /-- The slot is part of the operation code. -/
  | localImplied {access : LocalAccess} {slot : Fin 4} {opcode : Opcode}
      (implied : access.implied? slot = some opcode) :
      Encodes pool bootstraps length pc [opcode] (.localSlot access.opcode slot)
  | localPlain {access : LocalAccess} {slot : Nat} (fits : slot < 256) :
      Encodes pool bootstraps length pc (access.opcode :: bigEndian 1 slot)
        (.localSlot access.opcode slot)
  | localWide {access : LocalAccess} {slot : Nat} (fits : slot < 256 ^ 2) :
      Encodes pool bootstraps length pc (Opcode.wide :: access.opcode :: bigEndian 2 slot)
        (.localSlot access.opcode slot)
  | iinc {slot : Nat} {delta : Int} (fits : slot < 256) (fits' : Fits 8 delta) :
      Encodes pool bootstraps length pc
        (Opcode.iinc :: (bigEndian 1 slot ++ twosComplement 1 delta)) (.increment slot delta)
  | iincWide {slot : Nat} {delta : Int} (fits : slot < 256 ^ 2) (fits' : Fits 16 delta) :
      Encodes pool bootstraps length pc
        (Opcode.wide :: Opcode.iinc :: (bigEndian 2 slot ++ twosComplement 2 delta))
        (.increment slot delta)
  | branch {opcode : Opcode} {distance : Int} {target : Nat} (branches : IsBranch opcode)
      (fits : Fits 16 distance) (leads : Leads length pc distance target) :
      Encodes pool bootstraps length pc (opcode :: twosComplement 2 distance)
        (.jump opcode target)
  | farBranch {opcode : Opcode} {distance : Int} {target : Nat} (branches : IsFarBranch opcode)
      (fits : Fits 32 distance) (leads : Leads length pc distance target) :
      Encodes pool bootstraps length pc (opcode :: twosComplement 4 distance)
        (.jump opcode target)
  /-- The lowest and the highest value, and a distance for each value between them. -/
  | tableswitch {fill : List UInt8} {low fallback : Int} {target : Nat}
      {cases : List (Int × Nat)} (aligns : Aligns pc fill) (fits : Fits 32 fallback)
      (leads : Leads length pc fallback target) (fitsLow : Fits 32 low)
      (fitsHigh : Fits 32 (low + cases.length - 1))
      (each : ∀ c ∈ cases, Fits 32 c.1 ∧ Leads length pc c.1 c.2) :
      Encodes pool bootstraps length pc
        (Opcode.tableswitch :: (fill ++
          words ([fallback, low, low + cases.length - 1] ++ cases.map (·.1))))
        (.switch Opcode.tableswitch target (cases.map (·.2)))
  /-- The number of cases, and a value and a distance for each of them. -/
  | lookupswitch {fill : List UInt8} {fallback : Int} {target : Nat}
      {cases : List (Int × Int × Nat)} (aligns : Aligns pc fill) (fits : Fits 32 fallback)
      (leads : Leads length pc fallback target)
      (each : ∀ c ∈ cases, Fits 32 c.1 ∧ Fits 32 c.2.1 ∧ Leads length pc c.2.1 c.2.2) :
      Encodes pool bootstraps length pc
        (Opcode.lookupswitch :: (fill ++
          words ([fallback, (cases.length : Int)] ++ cases.flatMap fun c => [c.1, c.2.1])))
        (.switch Opcode.lookupswitch target (cases.map (·.2.2)))
  | field {opcode : Opcode} {index : Nat} {owner name descriptor : String}
      (accesses : IsFieldAccess opcode) (fits : index < 256 ^ 2)
      (resolves : pool.member index = .ok (owner, name, descriptor)) :
      Encodes pool bootstraps length pc (opcode :: bigEndian 2 index)
        (.field { opcode, owner, name, descriptor })
  | call {kind : CallKind} {index : Nat} {owner name descriptor : String}
      (kind_ne : kind ≠ .interface) (fits : index < 256 ^ 2)
      (resolves : pool.member index = .ok (owner, name, descriptor)) :
      Encodes pool bootstraps length pc (kind.opcode :: bigEndian 2 index)
        (.call { kind, owner, name, descriptor })
  /-- A call on an interface also says how many slots its arguments take. -/
  | interfaceCall {index : Nat} {slots : UInt8} {owner name descriptor : String}
      (fits : index < 256 ^ 2) (resolves : pool.member index = .ok (owner, name, descriptor)) :
      Encodes pool bootstraps length pc
        (Opcode.invokeinterface :: (bigEndian 2 index ++ [slots, 0]))
        (.call { kind := .interface, owner, name, descriptor })
  | dynamicCall {index bootstrap : Nat} {indexes : List Nat} {name descriptor : String}
      {arguments : List Constant} (fits : index < 256 ^ 2)
      (resolves : pool.dynamicCall index = .ok (bootstrap, name, descriptor))
      (recorded : bootstraps[bootstrap]? = some indexes)
      (loadable : pool.constants indexes = .ok arguments) :
      Encodes pool bootstraps length pc (Opcode.invokedynamic :: (bigEndian 2 index ++ [0, 0]))
        (.dynamicCall { name, descriptor, arguments })
  | type {opcode : Opcode} {index : Nat} {name : String} (typed : IsTyped opcode)
      (fits : index < 256 ^ 2) (resolves : pool.className index = .ok name) :
      Encodes pool bootstraps length pc (opcode :: bigEndian 2 index) (.type opcode name)
  | multianewarray {index : Nat} {dimensions : UInt8} {name : String} (fits : index < 256 ^ 2)
      (resolves : pool.className index = .ok name) :
      Encodes pool bootstraps length pc
        (Opcode.multianewarray :: (bigEndian 2 index ++ [dimensions]))
        (.type Opcode.multianewarray name)
  /-- An array of a primitive type, which has a code of its own. -/
  | newarray {primitive : UInt8} :
      Encodes pool bootstraps length pc [Opcode.newarray, primitive] (.other Opcode.newarray)

/-- The bytes are encodings, one after the other from offset `pc` on, of the instructions. -/
inductive EncodesAll (pool : Pool) (bootstraps : List (List Nat)) (length : Nat) :
    (pc : Nat) → List UInt8 → List Instruction → Prop
  | nil {pc : Nat} : EncodesAll pool bootstraps length pc [] []
  | cons {pc : Nat} {bytes rest : List UInt8} {payload : Payload} {others : List Instruction}
      (first : Encodes pool bootstraps length pc bytes payload)
      (more : EncodesAll pool bootstraps length (pc + bytes.length) rest others) :
      EncodesAll pool bootstraps length pc (bytes ++ rest) (⟨pc, payload⟩ :: others)

end ApiSurface.ClassFile
