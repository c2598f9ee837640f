import ApiSurface.Proofs.ClassFile.Assembly

/-!
# Decoded instructions tile the code

The length of an instruction follows from its operation code, and for the few instructions of no
fixed length from their operands and their place. Decoding goes from each instruction to the next by
this length, so the decoded instructions stand one after the other from the start of the code on.

The last one ends with the code, unless it is one of the four whose last operands are not read: then
the code may end before them.

Main definitions: `instructionLength`, `Tiles`, `unread`. Main statements: `decodeOne_spans`,
`decodeFrom_tiles`, `decodeCode_tiles`, `decodeCode_newarray_cut`.
-/
namespace ApiSurface.ClassFile

/-! ## Lengths of instructions -/

/-- The lengths of instructions of a fixed length, for the operation codes from a first one to a
last. -/
def fixedLengths : List (Opcode × Opcode × Nat) :=
  [(0x00, 0x0f, 1), (0x10, 0x10, 2), (0x11, 0x11, 3), (0x12, 0x12, 2), (0x13, 0x14, 3),
    (0x15, 0x19, 2), (0x1a, 0x35, 1), (0x36, 0x3a, 2), (0x3b, 0x83, 1), (0x84, 0x84, 3),
    (0x85, 0x98, 1), (0x99, 0xa8, 3), (0xa9, 0xa9, 2), (0xac, 0xb1, 1), (0xb2, 0xb8, 3),
    (0xb9, 0xba, 5), (0xbb, 0xbb, 3), (0xbc, 0xbc, 2), (0xbd, 0xbd, 3), (0xbe, 0xbf, 1),
    (0xc0, 0xc1, 3), (0xc2, 0xc3, 1), (0xc5, 0xc5, 4), (0xc6, 0xc7, 3), (0xc8, 0xc9, 5)]

/-- The length of an instruction if its operation code fixes it. -/
def fixedLength? (opcode : Opcode) : Option Nat :=
  (fixedLengths.find? fun (first, last, _) => first ≤ opcode && opcode ≤ last).map (·.2.2)

/-- The bytes from the operation code at an offset to the next multiple of four. -/
def alignment (pc : Nat) : Nat := 3 - pc % 4

/-- The signed number in the four bytes after the first `skipped` ones. -/
def wordAt (rest : List UInt8) (skipped : Nat) : Int :=
  signed 32 (unsigned ((rest.drop skipped).take 4))

/-- The bytes that an instruction at offset `pc` takes with all its operands, by its operation code
and the bytes after it. A jump table says how many entries it has. -/
def instructionLength (pc : Nat) (opcode : Opcode) (rest : List UInt8) : Nat :=
  match fixedLength? opcode with
  | some length => length
  | none =>
    if opcode = Opcode.wide then
      if rest.head? = some Opcode.iinc then 6 else 4
    else if opcode = Opcode.tableswitch then
      let low := wordAt rest (alignment pc + 4)
      let high := wordAt rest (alignment pc + 8)
      1 + alignment pc + 12 + 4 * (high - low + 1).toNat
    else if opcode = Opcode.lookupswitch then
      1 + alignment pc + 8 + 8 * (wordAt rest (alignment pc + 4)).toNat
    else 0

/-- The operands of jump tables are aligned. -/
theorem dvd_alignment (pc : Nat) : 4 ∣ pc + 1 + alignment pc := by
  unfold alignment
  omega

theorem alignment_eq_padding (pc : Nat) : alignment pc = padding pc := by
  unfold alignment padding
  omega

/-- Instructions stand one after the other in code, each with its full length, from one offset to
another. -/
inductive Tiles (code : List UInt8) (stop : Nat) : (pc : Nat) → List Instruction → Prop
  | nil : Tiles code stop stop []
  | cons {pc : Nat} {opcode : Opcode} {rest : List UInt8} {payload : Payload}
      {others : List Instruction} (bytes : code.drop pc = opcode :: rest)
      (more : Tiles code stop (pc + instructionLength pc opcode rest) others) :
      Tiles code stop pc (⟨pc, payload⟩ :: others)

/-- The bytes at the end of an instruction that decoding does not look at. -/
def unread : Payload → Nat
  | .other opcode => if opcode = Opcode.newarray then 1 else 0
  | .type opcode _ => if opcode = Opcode.multianewarray then 1 else 0
  | .call c => if c.kind = .interface then 2 else 0
  | .dynamicCall _ => 2
  | _ => 0

/-! ## Operands that were read -/

section Operands

variable {pc skipped width : Nat} {rest : List UInt8}

/-- The bytes of an operand that was read are there. -/
theorem operand_eq_ok {n : Nat} (h : operand pc rest skipped width = .ok n) (hw : 0 < width) :
    n = unsigned ((rest.drop skipped).take width) ∧ skipped + width ≤ rest.length := by
  unfold operand at h
  dsimp only at h
  split at h
  next hlength =>
    rw [List.length_take, List.length_drop] at hlength
    exact ⟨(Except.ok.inj h).symm, by omega⟩
  next => cases h

theorem signedOperand_eq_ok {n : Int} (h : signedOperand pc rest skipped width = .ok n)
    (hw : 0 < width) :
    n = signed (8 * width) (unsigned ((rest.drop skipped).take width)) ∧
      skipped + width ≤ rest.length := by
  obtain ⟨m, hm, h⟩ := bind_eq_ok.mp h
  obtain ⟨rfl, hinside⟩ := operand_eq_ok hm hw
  exact ⟨(Except.ok.inj h).symm, hinside⟩

/-- The last of the targets that were read is there. -/
theorem length_of_tableTargets {step count : Nat} {table : List UInt8} {targets : List Nat}
    (hstep : 4 ≤ step) (h : tableTargets pc step count skipped table = .ok targets) :
    count * step ≤ table.length + (step - 4) := by
  induction count generalizing skipped table targets with
  | zero => simp
  | succ count ih =>
    unfold tableTargets at h
    dsimp only at h
    split at h
    next hlength =>
      obtain ⟨others, hothers, -⟩ := bind_eq_ok.mp h
      have hrest := ih hothers
      rw [List.length_take] at hlength
      rw [List.length_drop] at hrest
      rw [Nat.succ_mul]
      -- Where a whole step does not fit any more, no target is left to be read.
      rcases Nat.eq_zero_or_pos count with rfl | hcount
      · omega
      · have hmul : step ≤ count * step := Nat.le_mul_of_pos_left step hcount
        omega
    next => cases h

end Operands

/-! ## Decoding an instruction -/

/-- The length by the form of the operands. -/
def formLength? : OperandForm → Option Nat
  | .none => some 1
  | .push8 => some 2
  | .push16 => some 3
  | .constant8 => some 2
  | .constant16 => some 3
  | .slot8 => some 2
  | .slotImplied _ _ => some 1
  | .increment => some 3
  | .branch16 => some 3
  | .branch32 => some 5
  | .field => some 3
  | .call kind => some (if kind = .interface then 5 else 3)
  | .dynamicCall => some 5
  | .type => some 3
  | .arrayType => some 4
  | .primitiveType => some 2
  | .tableSwitch => none
  | .lookupSwitch => none
  | .wide => none
  | .unassigned => none

theorem fixedLength?_eq (opcode : Opcode) :
    fixedLength? opcode = formLength? (operandForm opcode) := by
  revert opcode
  exact forall_opcode (p := fun c => fixedLength? c = formLength? (operandForm c))
    (by decide +kernel)

theorem operandForm_wide {opcode : Opcode} (h : operandForm opcode = .wide) :
    opcode = Opcode.wide := by
  revert h
  exact forall_opcode (p := fun c => operandForm c = .wide → c = Opcode.wide) (by decide +kernel)
    opcode

theorem operandForm_tableSwitch {opcode : Opcode} (h : operandForm opcode = .tableSwitch) :
    opcode = Opcode.tableswitch := by
  revert h
  exact forall_opcode (p := fun c => operandForm c = .tableSwitch → c = Opcode.tableswitch)
    (by decide +kernel) opcode

theorem operandForm_lookupSwitch {opcode : Opcode} (h : operandForm opcode = .lookupSwitch) :
    opcode = Opcode.lookupswitch := by
  revert h
  exact forall_opcode (p := fun c => operandForm c = .lookupSwitch → c = Opcode.lookupswitch)
    (by decide +kernel) opcode

theorem operandForm_arrayType {opcode : Opcode} (h : operandForm opcode = .arrayType) :
    opcode = Opcode.multianewarray := by
  revert h
  exact forall_opcode (p := fun c => operandForm c = .arrayType → c = Opcode.multianewarray)
    (by decide +kernel) opcode

theorem operandForm_primitiveType {opcode : Opcode} (h : operandForm opcode = .primitiveType) :
    opcode = Opcode.newarray := by
  revert h
  exact forall_opcode (p := fun c => operandForm c = .primitiveType → c = Opcode.newarray)
    (by decide +kernel) opcode

/-- A payload and a number of bytes span the instruction at an offset. -/
structure Spans (pc : Nat) (opcode : Opcode) (rest : List UInt8) (payload : Payload)
    (length : Nat) : Prop where
  /-- The bytes are all that the instruction takes. -/
  full : length = instructionLength pc opcode rest
  pos : 0 < length
  /-- All bytes are there, apart from those that are not read. -/
  inside : length ≤ rest.length + 1 + unread payload
  real : payload.isMarker = false

variable {pool : Pool} {bootstraps : List (List Nat)} {pc : Nat} {opcode : Opcode}
  {rest : List UInt8} {payload : Payload} {length : Nat}

/-- The length of an instruction of a fixed length. -/
theorem instructionLength_fixed (h : formLength? (operandForm opcode) = some length) :
    instructionLength pc opcode rest = length := by
  rw [instructionLength, fixedLength?_eq, h]

theorem decodeTableSwitch_spans (form : operandForm opcode = .tableSwitch)
    (h : decodeTableSwitch pool.name pc opcode rest = .ok (payload, length)) :
    Spans pc opcode rest payload length := by
  obtain ⟨fallback, hfallback, h⟩ := bind_eq_ok.mp h
  obtain ⟨low, hlow, h⟩ := bind_eq_ok.mp h
  obtain ⟨high, hhigh, h⟩ := bind_eq_ok.mp h
  dsimp only at h
  split at h
  next => cases h
  next =>
    obtain ⟨targets, htargets, h⟩ := bind_eq_ok.mp h
    cases h
    obtain ⟨hlow, -⟩ := signedOperand_eq_ok hlow (by decide)
    obtain ⟨hhigh, hread⟩ := signedOperand_eq_ok hhigh (by decide)
    have htable := length_of_tableTargets (Nat.le_refl 4) htargets
    rw [List.length_drop] at htable
    have hlength : instructionLength pc opcode rest =
        1 + padding pc + 12 + 4 * (high - low + 1).toNat := by
      rw [instructionLength, fixedLength?_eq, form, operandForm_tableSwitch form,
        alignment_eq_padding, hlow, hhigh]
      rfl
    constructor
    · omega
    · omega
    · simp only [unread]
      omega
    · rfl

theorem decodeLookupSwitch_spans (form : operandForm opcode = .lookupSwitch)
    (h : decodeLookupSwitch pool.name pc opcode rest = .ok (payload, length)) :
    Spans pc opcode rest payload length := by
  obtain ⟨fallback, hfallback, h⟩ := bind_eq_ok.mp h
  obtain ⟨count, hcount, h⟩ := bind_eq_ok.mp h
  split at h
  next => cases h
  next =>
    obtain ⟨targets, htargets, h⟩ := bind_eq_ok.mp h
    cases h
    obtain ⟨hcount, hread⟩ := signedOperand_eq_ok hcount (by decide)
    have htable := length_of_tableTargets (show 4 ≤ 8 by decide) htargets
    rw [List.length_drop] at htable
    have hlength : instructionLength pc opcode rest =
        1 + padding pc + 8 + 8 * count.toNat := by
      rw [instructionLength, fixedLength?_eq, form, operandForm_lookupSwitch form,
        alignment_eq_padding, hcount]
      rfl
    constructor
    · omega
    · omega
    · simp only [unread]
      omega
    · rfl

theorem decodeWide_spans (form : operandForm opcode = .wide)
    (h : decodeWide pc rest = .ok (payload, length)) : Spans pc opcode rest payload length := by
  obtain ⟨widened, hwidened, h⟩ := bind_eq_ok.mp h
  obtain ⟨slot, hslot, h⟩ := bind_eq_ok.mp h
  obtain ⟨hwidened, -⟩ := operand_eq_ok hwidened (by decide)
  obtain ⟨-, hread⟩ := operand_eq_ok hslot (by decide)
  obtain ⟨first, others, rfl⟩ : ∃ first others, rest = first :: others :=
    List.exists_cons_of_length_pos (by omega)
  have hfirst : widened = first.toNat := by simpa [unsigned] using hwidened
  have hlength : instructionLength pc opcode (first :: others) =
      if first = Opcode.iinc then 6 else 4 := by
    rw [instructionLength, fixedLength?_eq, form, operandForm_wide form]
    simp [formLength?]
  rw [hfirst] at h
  by_cases hiinc : first = Opcode.iinc
  · rw [if_pos (congrArg UInt8.toNat hiinc)] at h
    obtain ⟨delta, hdelta, h⟩ := bind_eq_ok.mp h
    cases h
    obtain ⟨-, hread⟩ := signedOperand_eq_ok hdelta (by decide)
    rw [if_pos hiinc] at hlength
    exact ⟨hlength.symm, by decide, by omega, rfl⟩
  · rw [if_neg (fun h => hiinc (UInt8.toNat_inj.mp h))] at h
    cases h
    rw [if_neg hiinc] at hlength
    exact ⟨hlength.symm, by decide, by omega, rfl⟩

/-- An instruction of a fixed length spans that many bytes. -/
theorem spans_fixed {form : OperandForm} (hform : operandForm opcode = form)
    (hlength : formLength? form = some length) (pos : 0 < length)
    (inside : length ≤ rest.length + 1 + unread payload) (real : payload.isMarker = false) :
    Spans pc opcode rest payload length :=
  ⟨(instructionLength_fixed (by rw [hform, hlength])).symm, pos, inside, real⟩

/-- **A decoded instruction takes its full length**, and what is missing of it at the end of the
code was not read. -/
theorem decodeOne_spans (h : decodeOne pool bootstraps pc opcode rest = .ok (payload, length)) :
    Spans pc opcode rest payload length := by
  unfold decodeOne at h
  cases form : operandForm opcode <;> rw [form] at h <;> dsimp only at h
  case none | slotImplied =>
    cases h
    exact spans_fixed form rfl (by decide) (by omega) rfl
  case push8 | push16 | branch16 | branch32 =>
    obtain ⟨value, hvalue, h⟩ := bind_eq_ok.mp h
    cases h
    have hread := (signedOperand_eq_ok hvalue (by decide)).2
    exact spans_fixed form rfl (by decide) (by omega) rfl
  case slot8 =>
    obtain ⟨slot, hslot, h⟩ := bind_eq_ok.mp h
    cases h
    have hread := (operand_eq_ok hslot (by decide)).2
    exact spans_fixed form rfl (by decide) (by omega) rfl
  case constant8 | constant16 | field | type =>
    obtain ⟨index, hindex, h⟩ := bind_eq_ok.mp h
    obtain ⟨resolved, -, h⟩ := bind_eq_ok.mp h
    cases h
    have hread := (operand_eq_ok hindex (by decide)).2
    exact spans_fixed form rfl (by decide) (by omega) (by rfl)
  case increment =>
    obtain ⟨slot, -, h⟩ := bind_eq_ok.mp h
    obtain ⟨delta, hdelta, h⟩ := bind_eq_ok.mp h
    cases h
    have hread := (signedOperand_eq_ok hdelta (by decide)).2
    exact spans_fixed form rfl (by decide) (by omega) rfl
  case tableSwitch => exact decodeTableSwitch_spans form h
  case lookupSwitch => exact decodeLookupSwitch_spans form h
  case call kind =>
    obtain ⟨index, hindex, h⟩ := bind_eq_ok.mp h
    obtain ⟨member, -, h⟩ := bind_eq_ok.mp h
    cases h
    have hread := (operand_eq_ok hindex (by decide)).2
    refine spans_fixed form rfl ?_ ?_ rfl
    · split <;> decide
    · simp only [unread]
      split <;> omega
  case dynamicCall =>
    obtain ⟨index, hindex, h⟩ := bind_eq_ok.mp h
    obtain ⟨member, -, h⟩ := bind_eq_ok.mp h
    dsimp only at h
    split at h
    · cases h
    obtain ⟨arguments, -, h⟩ := bind_eq_ok.mp h
    cases h
    have hread := (operand_eq_ok hindex (by decide)).2
    refine spans_fixed form rfl (by decide) ?_ rfl
    simp only [unread]
    omega
  case arrayType =>
    obtain ⟨index, hindex, h⟩ := bind_eq_ok.mp h
    obtain ⟨name, -, h⟩ := bind_eq_ok.mp h
    cases h
    have hread := (operand_eq_ok hindex (by decide)).2
    refine spans_fixed form rfl (by decide) ?_ rfl
    simp only [unread, operandForm_arrayType form, if_true]
    omega
  case primitiveType =>
    cases h
    refine spans_fixed form rfl (by decide) ?_ rfl
    simp only [unread, operandForm_primitiveType form, if_true]
    omega
  case wide => exact decodeWide_spans form h
  case unassigned => cases h

/-! ## The code of a method -/

variable {code : List UInt8} {listing : List Instruction}

/-- Where tiles end is settled by where they start. -/
theorem Tiles.unique {stop stop' : Nat} (h : Tiles code stop pc listing)
    (h' : Tiles code stop' pc listing) : stop = stop' := by
  induction h with
  | nil =>
    cases h'
    rfl
  | cons bytes _ ih =>
    cases h' with
    | cons bytes' more' =>
      obtain ⟨rfl, rfl⟩ := List.cons.inj (bytes.symm.trans bytes')
      exact ih more'

/-- Decoding tiles the code from where it starts to its end, or past it by what was not read of the
last instruction. -/
theorem decodeFrom_tiles {count : Nat} (hcount : (code.drop pc).length ≤ count)
    (h : decodeFrom pool bootstraps count pc (code.drop pc) = .ok listing) :
    (∀ i ∈ listing, i.isMarker = false) ∧ ∃ stop, Tiles code stop pc listing ∧
      code.length ≤ stop ∧
      ∀ i, listing.getLast? = some i → stop ≤ code.length + unread i.payload := by
  induction count generalizing pc listing with
  | zero =>
    have hnil : code.drop pc = [] := List.length_eq_zero_iff.mp (Nat.le_zero.mp hcount)
    rw [hnil] at h
    cases h
    exact ⟨by simp, pc, .nil, List.drop_eq_nil_iff.mp hnil, by simp⟩
  | succ count ih =>
    cases hbytes : code.drop pc with
    | nil =>
      rw [hbytes] at h
      cases h
      exact ⟨by simp, pc, .nil, List.drop_eq_nil_iff.mp hbytes, by simp⟩
    | cons opcode rest =>
      rw [hbytes] at h hcount
      obtain ⟨⟨payload, length⟩, hone, h⟩ := bind_eq_ok.mp h
      obtain ⟨others, hothers, h⟩ := bind_eq_ok.mp h
      cases h
      have spans := decodeOne_spans hone
      have hlength := congrArg List.length hbytes
      rw [List.length_drop, List.length_cons] at hlength
      have hnext : code.drop (pc + length) = rest.drop (length - 1) := by
        rw [← List.drop_drop, hbytes]
        obtain ⟨k, rfl⟩ := Nat.exists_eq_add_of_lt spans.pos
        simp
      rw [← hnext] at hothers
      have hcount' : (code.drop (pc + length)).length ≤ count := by
        rw [hnext, List.length_drop]
        rw [List.length_cons] at hcount
        omega
      obtain ⟨hreal, stop, htiles, hstop, hlast⟩ := ih hcount' hothers
      refine ⟨List.forall_mem_cons.mpr ⟨spans.real, hreal⟩, stop, .cons hbytes ?_, hstop, ?_⟩
      · rw [← spans.full]
        exact htiles
      · intro i hi
        cases others with
        | nil =>
          -- The instruction is the last one, so it is what may be missing at the end.
          cases htiles
          obtain rfl : ⟨pc, payload⟩ = i := by simpa using hi
          have hinside := spans.inside
          dsimp only
          omega
        | cons next others => exact hlast i (by simpa using hi)

/-- **Decoded instructions tile the code, up to operands that are not read.** The first one stands
at the start, each next one where the one before it ends, and the last one ends with the code or after
it. It ends after it only if it is one of the instructions whose last operands are not read, and by
no more than these; so whatever ends in another instruction is tiled exactly, and a truncated one is
refused. -/
theorem decodeCode_tiles {handlers : List Nat} {lines : List (Nat × Nat)}
    {instructions : List Instruction}
    (h : decodeCode pool bootstraps code handlers lines = .ok instructions) :
    ∃ stop, Tiles code stop 0 (instructions.filter (! ·.isMarker)) ∧ code.length ≤ stop ∧
      (∀ i, (instructions.filter (! ·.isMarker)).getLast? = some i →
        stop ≤ code.length + unread i.payload) ∧
      (Tiles code code.length 0 (instructions.filter (! ·.isMarker)) ↔ stop = code.length) := by
  obtain ⟨listing, hlisting, h⟩ := bind_eq_ok.mp h
  cases h
  have hstart : decodeFrom pool bootstraps code.length 0 (code.drop 0) = .ok listing := hlisting
  obtain ⟨hreal, stop, htiles, hstop, hlast⟩ := decodeFrom_tiles (by simp) hstart
  rw [filter_withMarkers handlers lines hreal]
  refine ⟨stop, htiles, hstop, hlast, ?_⟩
  constructor
  · intro hexact
    exact htiles.unique hexact
  · rintro rfl
    exact htiles

/-- A constant is loaded from a local variable, and an array is made of it; the code ends before the
byte that says what the array is made of. -/
def cutCode : List UInt8 := [Opcode.wide, Opcode.iload, 1, 0, Opcode.newarray]

/-- What the code decodes to. -/
def cutInstructions : List Instruction :=
  [⟨0, .label⟩, ⟨0, .lineNumber 7⟩, ⟨0, .localSlot Opcode.iload 256⟩,
    ⟨4, .other Opcode.newarray⟩]

theorem decodeCode_cutCode :
    decodeCode samplePool [] cutCode [0] [(0, 7)] = .ok cutInstructions :=
  toOption_eq_some.mp (by decide +kernel)

/-- The instructions of the sample end at most one byte after its code. -/
theorem decodeCode_tiles_cut :
    decodeCode samplePool [] cutCode [0] [(0, 7)] = .ok cutInstructions ∧
      ∃ stop, Tiles cutCode stop 0 (cutInstructions.filter (! ·.isMarker)) ∧ 5 ≤ stop ∧ stop ≤ 6 ∧
        (Tiles cutCode 5 0 (cutInstructions.filter (! ·.isMarker)) ↔ stop = 5) := by
  refine ⟨decodeCode_cutCode, ?_⟩
  obtain ⟨stop, htiles, hstop, hlast, hiff⟩ := decodeCode_tiles decodeCode_cutCode
  exact ⟨stop, htiles, hstop, hlast ⟨4, .other Opcode.newarray⟩ (by decide +kernel), hiff⟩

/-- **A creation of an array that is cut off is decoded.** The code is one byte, the instruction
takes two. -/
theorem decodeCode_newarray_cut :
    decodeCode samplePool [] [Opcode.newarray] [] [] = .ok [⟨0, .other Opcode.newarray⟩] ∧
      ¬ Tiles [Opcode.newarray] [Opcode.newarray].length 0 [⟨0, .other Opcode.newarray⟩] := by
  refine ⟨toOption_eq_some.mp (by decide +kernel), ?_⟩
  intro h
  cases h with
  | cons bytes more =>
    cases bytes
    have hlength : 0 + instructionLength 0 Opcode.newarray [] = 2 := by decide +kernel
    rw [hlength] at more
    cases more

end ApiSurface.ClassFile
