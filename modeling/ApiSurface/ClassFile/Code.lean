import ApiSurface.ClassFile.Bytes
import ApiSurface.ClassFile.Pool
import Std.Data.ExtTreeMap

/-!
# Instructions of a method

The first byte of an instruction decides the form of its operands. Instructions are decoded one
after the other from the bytes that are left; an instruction also says how many bytes it takes,
which may be more than there are.

The forms with a short index are brought to the general one, so that a load of one slot decodes to
the same payload however it is written.

Main definitions: `OperandForm`, `operandForm`, `decodeOne`, `decodeAll`, `decodeCode`.
-/
namespace ApiSurface.ClassFile

/-- The operands that follow an operation code. -/
inductive OperandForm where
  | none
  | push8
  | push16
  | constant8
  | constant16
  | slot8
  /-- The slot is part of the operation code; `general` is the code with a slot operand. -/
  | slotImplied (general : Opcode) (slot : Nat)
  | increment
  | branch16
  | branch32
  | tableSwitch
  | lookupSwitch
  | field
  | call (kind : CallKind)
  | dynamicCall
  | type
  /-- A type and the number of dimensions. -/
  | arrayType
  /-- A code for a primitive type. -/
  | primitiveType
  | wide
  /-- No instruction has the operation code. -/
  | unassigned
deriving DecidableEq

/-- The form with an implied slot, counted from the first of a group of codes: four slots for each
of the general codes from `general` on. -/
def impliedSlot (first general opcode : Opcode) : OperandForm :=
  let shift := opcode.toNat - first.toNat
  .slotImplied (general + UInt8.ofNat (shift / 4)) (shift % 4)

/-- The operands that follow an operation code. -/
def operandForm (opcode : Opcode) : OperandForm :=
  let n := opcode.toNat
  if n ≤ 0x0f then .none
  else if n = 0x10 then .push8
  else if n = 0x11 then .push16
  else if n = 0x12 then .constant8
  else if n ≤ 0x14 then .constant16
  else if n ≤ 0x19 then .slot8
  else if n ≤ 0x2d then impliedSlot .iload0 .iload opcode
  else if n ≤ 0x35 then .none
  else if n ≤ 0x3a then .slot8
  else if n ≤ 0x4e then impliedSlot .istore0 .istore opcode
  else if n ≤ 0x83 then .none
  else if n = 0x84 then .increment
  else if n ≤ 0x98 then .none
  else if n ≤ 0xa8 then .branch16
  else if n = 0xa9 then .slot8
  else if n = 0xaa then .tableSwitch
  else if n = 0xab then .lookupSwitch
  else if n ≤ 0xb1 then .none
  else if n ≤ 0xb5 then .field
  else if n = 0xb6 then .call .virtual
  else if n = 0xb7 then .call .special
  else if n = 0xb8 then .call .static
  else if n = 0xb9 then .call .interface
  else if n = 0xba then .dynamicCall
  else if n = 0xbb then .type
  else if n = 0xbc then .primitiveType
  else if n = 0xbd then .type
  else if n ≤ 0xbf then .none
  else if n ≤ 0xc1 then .type
  else if n ≤ 0xc3 then .none
  else if n = 0xc4 then .wide
  else if n = 0xc5 then .arrayType
  else if n ≤ 0xc7 then .branch16
  else if n ≤ 0xc9 then .branch32
  else .unassigned

/-! ## Operands -/

/-- The name that stands for the code itself where an operand is cut off. -/
def codeName : String := "<bytecode>"

/-- The number in `width` bytes, `skipped` bytes after the operation code. Faults give its
offset. -/
def operand (pc : Nat) (rest : List UInt8) (skipped width : Nat) : Except Undecodable Nat :=
  let bytes := (rest.drop skipped).take width
  if bytes.length = width then .ok (unsigned bytes)
  else .error ⟨codeName, .operandBounds (pc + 1 + skipped)⟩

/-- The signed number in `width` bytes. -/
def signedOperand (pc : Nat) (rest : List UInt8) (skipped width : Nat) :
    Except Undecodable Int := do
  let n ← operand pc rest skipped width
  .ok (signed (8 * width) n)

/-- The offset that a branch leads to. Offsets are kept in 32 bits. -/
def branchTarget (pc : Nat) (distance : Int) : Nat := ((pc + distance) % 0x100000000).toNat

/-- Bytes that bring the operands of a jump table to a multiple of four. -/
def padding (pc : Nat) : Nat := (4 - (pc + 1) % 4) % 4

/-- The targets of a jump table, of which the first stands `skipped` bytes after the operation
code and each other `step` bytes after the one before. -/
def tableTargets (pc step : Nat) :
    (count skipped : Nat) → List UInt8 → Except Undecodable (List Nat)
  | 0, _, _ => .ok []
  | count + 1, skipped, table => do
    let bytes := table.take 4
    if bytes.length = 4 then do
      let targets ← tableTargets pc step count (skipped + step) (table.drop step)
      .ok (branchTarget pc (signed 32 (unsigned bytes)) :: targets)
    else .error ⟨codeName, .operandBounds (pc + 1 + skipped)⟩

/-! ## Instructions -/

/-- What an instruction does and the bytes it takes. -/
abbrev Decoded := Payload × Nat

/-- Decode a jump table over a range of values. -/
def decodeTableSwitch (name : String) (pc : Nat) (opcode : Opcode) (rest : List UInt8) :
    Except Undecodable Decoded := do
  let base := padding pc
  let fallback ← signedOperand pc rest base 4
  let low ← signedOperand pc rest (base + 4) 4
  let high ← signedOperand pc rest (base + 8) 4
  let count := high - low + 1
  if high - low < -0x80000000 ∨ 0x80000000 ≤ count ∨ count < 0 then
    .error ⟨name, .tableRange pc⟩
  else do
    let targets ← tableTargets pc 4 count.toNat (base + 12) (rest.drop (base + 12))
    .ok (.switch opcode (branchTarget pc fallback) targets, base + 13 + 4 * count.toNat)

/-- Decode a jump table with a value for each target. -/
def decodeLookupSwitch (name : String) (pc : Nat) (opcode : Opcode) (rest : List UInt8) :
    Except Undecodable Decoded := do
  let base := padding pc
  let fallback ← signedOperand pc rest base 4
  let count ← signedOperand pc rest (base + 4) 4
  if count < 0 then .error ⟨name, .lookupSize pc⟩
  else do
    let targets ← tableTargets pc 8 count.toNat (base + 12) (rest.drop (base + 12))
    .ok (.switch opcode (branchTarget pc fallback) targets, base + 9 + 8 * count.toNat)

/-- Decode a dynamic call. -/
def decodeDynamicCall (pool : Pool) (bootstraps : List (List Nat)) (pc : Nat)
    (rest : List UInt8) : Except Undecodable Decoded := do
  let index ← operand pc rest 0 2
  let (bootstrap, name, descriptor) ← pool.dynamicCall index
  match bootstraps[bootstrap]? with
  | none => .error ⟨pool.name, .bootstrap pc⟩
  | some indexes => do
    let arguments ← pool.constants indexes
    .ok (.dynamicCall { name, descriptor, arguments }, 5)

/-- Decode an instruction with a slot of two bytes. -/
def decodeWide (pc : Nat) (rest : List UInt8) : Except Undecodable Decoded := do
  let widened ← operand pc rest 0 1
  let slot ← operand pc rest 1 2
  if widened = Opcode.iinc.toNat then do
    let delta ← signedOperand pc rest 3 2
    .ok (.increment slot delta, 6)
  else .ok (.localSlot (UInt8.ofNat widened) slot, 4)

/-- Decode the instruction at offset `pc`, given its operation code and the bytes after it. -/
def decodeOne (pool : Pool) (bootstraps : List (List Nat)) (pc : Nat) (opcode : Opcode)
    (rest : List UInt8) : Except Undecodable Decoded :=
  match operandForm opcode with
  | .none => .ok (.op opcode, 1)
  | .push8 => do
    let value ← signedOperand pc rest 0 1
    .ok (.push opcode (Int32.ofInt value), 2)
  | .push16 => do
    let value ← signedOperand pc rest 0 2
    .ok (.push opcode (Int32.ofInt value), 3)
  | .constant8 => do
    let index ← operand pc rest 0 1
    let value ← pool.constant index
    .ok (.constant value, 2)
  | .constant16 => do
    let index ← operand pc rest 0 2
    let value ← pool.constant index
    .ok (.constant value, 3)
  | .slot8 => do
    let slot ← operand pc rest 0 1
    .ok (.localSlot opcode slot, 2)
  | .slotImplied general slot => .ok (.localSlot general slot, 1)
  | .increment => do
    let slot ← operand pc rest 0 1
    let delta ← signedOperand pc rest 1 1
    .ok (.increment slot delta, 3)
  | .branch16 => do
    let distance ← signedOperand pc rest 0 2
    .ok (.jump opcode (branchTarget pc distance), 3)
  | .branch32 => do
    let distance ← signedOperand pc rest 0 4
    .ok (.jump opcode (branchTarget pc distance), 5)
  | .tableSwitch => decodeTableSwitch pool.name pc opcode rest
  | .lookupSwitch => decodeLookupSwitch pool.name pc opcode rest
  | .field => do
    let index ← operand pc rest 0 2
    let (owner, name, descriptor) ← pool.member index
    .ok (.field { opcode, owner, name, descriptor }, 3)
  | .call kind => do
    let index ← operand pc rest 0 2
    let (owner, name, descriptor) ← pool.member index
    .ok (.call { kind, owner, name, descriptor }, if kind = .interface then 5 else 3)
  | .dynamicCall => decodeDynamicCall pool bootstraps pc rest
  | .type => do
    let index ← operand pc rest 0 2
    let name ← pool.className index
    .ok (.type opcode name, 3)
  | .arrayType => do
    let index ← operand pc rest 0 2
    let name ← pool.className index
    .ok (.type opcode name, 4)
  | .primitiveType => .ok (.other opcode, 2)
  | .wide => decodeWide pc rest
  | .unassigned => .error ⟨pool.name, .unknownOpcode opcode pc⟩

/-- Decode instructions from offset `pc` on. `count` bounds the bytes left. -/
def decodeFrom (pool : Pool) (bootstraps : List (List Nat)) :
    (count pc : Nat) → List UInt8 → Except Undecodable (List Instruction)
  | _, _, [] => .ok []
  | 0, _, _ :: _ => .ok []
  | count + 1, pc, opcode :: rest => do
    let (payload, length) ← decodeOne pool bootstraps pc opcode rest
    let others ← decodeFrom pool bootstraps count (pc + length) (rest.drop (length - 1))
    .ok (⟨pc, payload⟩ :: others)

/-- Decode the instructions of a method. -/
def decodeAll (pool : Pool) (bootstraps : List (List Nat)) (code : List UInt8) :
    Except Undecodable (List Instruction) :=
  decodeFrom pool bootstraps code.length 0 code

/-! ## Markers -/

/-- The offsets that an instruction may branch to. -/
def branchTargets : Payload → List Nat
  | .jump _ target => [target]
  | .switch _ fallback targets => fallback :: targets
  | _ => []

/-- The markers and the instruction at one offset: a label first, then a line. -/
def marked (labels : Std.ExtTreeMap Nat Unit) (lines : Std.ExtTreeMap Nat Nat) (i : Instruction) :
    List Instruction :=
  (if labels.contains i.offset then [⟨i.offset, .label⟩] else []) ++
    ((lines[i.offset]?).map fun line => ⟨i.offset, .lineNumber line⟩).toList ++ [i]

/-- Put markers before the instructions that branches or handlers lead to or that start a source
line. Of several lines at one offset the first counts. -/
def withMarkers (handlers : List Nat) (lines : List (Nat × Nat)) (code : List Instruction) :
    List Instruction :=
  let targets := handlers ++ code.flatMap fun i => branchTargets i.payload
  let labels : Std.ExtTreeMap Nat Unit := targets.foldl (fun m t => m.insert t ()) {}
  let firsts : Std.ExtTreeMap Nat Nat :=
    lines.foldl (fun m (offset, line) => m.insertIfNew offset line) {}
  code.flatMap (marked labels firsts)

/-- Decode the code of a method, with the offsets of its handlers and the lines of its source. -/
def decodeCode (pool : Pool) (bootstraps : List (List Nat)) (code : List UInt8)
    (handlers : List Nat) (lines : List (Nat × Nat)) : Except Undecodable (List Instruction) := do
  let instructions ← decodeAll pool bootstraps code
  .ok (withMarkers handlers lines instructions)

end ApiSurface.ClassFile
