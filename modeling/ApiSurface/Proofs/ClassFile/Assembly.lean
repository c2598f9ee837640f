import ApiSurface.Proofs.ClassFile.Encoding
import ApiSurface.Proofs.Outcome
import Mathlib.Data.List.Basic

/-!
# Decoding undoes assembly

Whatever encoding of an instruction is chosen, decoding gives the payload that it stands for and
goes on right after it. So the code of a method decodes to one instruction for each that was
encoded, at the offset where it begins.

Main statements: `decodeOne_encodes`, `decodeAll_encodesAll`, `decodeCode_encodesAll`.
-/
namespace ApiSurface.ClassFile

/-! ## Forms of operation codes -/

theorem operandForm_plain {opcode : Opcode} (h : IsPlain opcode) : operandForm opcode = .none := by
  revert h
  exact forall_opcode (p := fun c => IsPlain c → operandForm c = .none) (by decide +kernel) opcode

theorem operandForm_branch {opcode : Opcode} (h : IsBranch opcode) :
    operandForm opcode = .branch16 := by
  revert h
  exact forall_opcode (p := fun c => IsBranch c → operandForm c = .branch16) (by decide +kernel)
    opcode

theorem operandForm_farBranch {opcode : Opcode} (h : IsFarBranch opcode) :
    operandForm opcode = .branch32 := by
  rcases h with rfl | rfl <;> rfl

theorem operandForm_fieldAccess {opcode : Opcode} (h : IsFieldAccess opcode) :
    operandForm opcode = .field := by
  revert h
  exact forall_opcode (p := fun c => IsFieldAccess c → operandForm c = .field) (by decide +kernel)
    opcode

theorem operandForm_typed {opcode : Opcode} (h : IsTyped opcode) : operandForm opcode = .type := by
  rcases h with rfl | rfl | rfl | rfl <;> rfl

theorem operandForm_call (kind : CallKind) : operandForm kind.opcode = .call kind := by
  cases kind <;> rfl

theorem operandForm_local (access : LocalAccess) : operandForm access.opcode = .slot8 := by
  rcases access with (_ | _ | _ | _ | _) | (_ | _ | _ | _ | _) | _ <;> rfl

/-- A code that implies a slot is brought to the one with a slot operand. -/
theorem operandForm_implied {access : LocalAccess} {slot : Fin 4} {opcode : Opcode}
    (h : access.implied? slot = some opcode) :
    operandForm opcode = .slotImplied access.opcode slot := by
  revert slot
  rcases access with (_ | _ | _ | _ | _) | (_ | _ | _ | _ | _) | _ <;>
    intro slot h <;> cases h <;> revert slot <;> decide +kernel

/-! ## Operands -/

variable {pc : Nat}

/-- The bytes of a number are read where they stand. -/
theorem operand_append {front tail : List UInt8} {skipped width n : Nat}
    (hs : front.length = skipped) (hn : n < 256 ^ width) :
    operand pc (front ++ (bigEndian width n ++ tail)) skipped width = .ok n := by
  subst hs
  simp [operand, unsigned_bigEndian hn]

theorem signedOperand_append {front tail : List UInt8} {skipped width : Nat} {n : Int}
    (hs : front.length = skipped) (hw : 0 < width) (hn : Fits (8 * width) n) :
    signedOperand pc (front ++ (twosComplement width n ++ tail)) skipped width = .ok n := by
  subst hs
  simp [signedOperand, operand, signed_twosComplement hw hn]

/-- An operand right after the operation code. -/
theorem operand_front {tail : List UInt8} {width n : Nat} (hn : n < 256 ^ width) :
    operand pc (bigEndian width n ++ tail) 0 width = .ok n :=
  @operand_append pc [] tail 0 width n rfl hn

theorem signedOperand_front {tail : List UInt8} {width : Nat} {n : Int} (hw : 0 < width)
    (hn : Fits (8 * width) n) :
    signedOperand pc (twosComplement width n ++ tail) 0 width = .ok n :=
  @signedOperand_append pc [] tail 0 width n rfl hw hn

/-! ## Branches and jump tables -/

variable {length : Nat}

/-- A branch leads to the offset that is its distance away. -/
theorem branchTarget_of_leads {distance : Int} {target : Nat} (hlength : length < 2 ^ 16)
    (h : Leads length pc distance target) : branchTarget pc distance = target := by
  obtain ⟨heq, hlt⟩ := h
  rw [branchTarget, heq]
  omega

/-- The padding that the decoder expects is the one that aligns the operands. -/
theorem padding_of_aligns {fill : List UInt8} (h : Aligns pc fill) : padding pc = fill.length := by
  obtain ⟨hlt, hdvd⟩ := h
  unfold padding
  omega

/-- A number is read behind padding and other numbers. -/
theorem signedOperand_word {fill tail : List UInt8} {ns ms : List Int} {n : Int}
    (h : Fits 32 n) :
    signedOperand pc (fill ++ (words (ns ++ n :: ms) ++ tail)) (fill.length + 4 * ns.length) 4 =
      .ok n := by
  have hfront : (fill ++ words ns).length = fill.length + 4 * ns.length := by simp
  have hread := @signedOperand_append pc (fill ++ words ns) (words ms ++ tail) _ 4 n hfront
    (by decide) h
  simpa [words_append, words_cons] using hread

/-- What stands behind padding and some numbers. -/
theorem drop_words {fill tail : List UInt8} {ns ms : List Int} :
    (fill ++ (words (ns ++ ms) ++ tail)).drop (fill.length + 4 * ns.length) = words ms ++ tail := by
  rw [← List.drop_drop, List.drop_left, words_append, List.append_assoc,
    List.drop_left' (length_words ns)]

/-- A number of a table is read as a target. -/
theorem tableTargets_words {step count skipped : Nat} {distance : Int} {target : Nat}
    {ns : List Int} {tail : List UInt8} (hlength : length < 2 ^ 16) (hfits : Fits 32 distance)
    (hleads : Leads length pc distance target) :
    tableTargets pc step (count + 1) skipped (words (distance :: ns) ++ tail) = (do
      let targets ← tableTargets pc step count (skipped + step)
        ((words (distance :: ns) ++ tail).drop step)
      .ok (target :: targets)) := by
  have htake : (words (distance :: ns) ++ tail).take 4 = twosComplement 4 distance := by
    rw [words_cons, List.append_assoc, List.take_left' (length_twosComplement 4 distance)]
  have hsigned : signed 32 (unsigned (twosComplement 4 distance)) = distance :=
    signed_twosComplement (by decide) hfits
  rw [tableTargets, htake, if_pos (length_twosComplement 4 distance), hsigned,
    branchTarget_of_leads hlength hleads]

/-- Targets that stand one after the other. -/
theorem tableTargets_distances {cases : List (Int × Nat)} {skipped : Nat} {tail : List UInt8}
    (hlength : length < 2 ^ 16) (h : ∀ c ∈ cases, Fits 32 c.1 ∧ Leads length pc c.1 c.2) :
    tableTargets pc 4 cases.length skipped (words (cases.map (·.1)) ++ tail) =
      .ok (cases.map (·.2)) := by
  induction cases generalizing skipped with
  | nil => rfl
  | cons c cases ih =>
    obtain ⟨hc, hcases⟩ := List.forall_mem_cons.mp h
    rw [List.length_cons, List.map_cons, tableTargets_words hlength hc.1 hc.2, words_cons,
      List.append_assoc, List.drop_left' (length_twosComplement 4 c.1), ih hcases, ok_bind,
      List.map_cons]

/-- Each case takes two numbers. -/
theorem length_pairs (cases : List (Int × Int × Nat)) :
    (cases.flatMap fun c => [c.1, c.2.1]).length = 2 * cases.length := by
  induction cases with
  | nil => rfl
  | cons c cases ih =>
    rw [List.flatMap_cons, List.length_append, ih]
    simp only [List.length_cons, List.length_nil]
    omega

/-- Targets that stand behind the values of their cases. -/
theorem tableTargets_pairs {cases : List (Int × Int × Nat)} {skipped : Nat} {tail : List UInt8}
    (hlength : length < 2 ^ 16)
    (h : ∀ c ∈ cases, Fits 32 c.1 ∧ Fits 32 c.2.1 ∧ Leads length pc c.2.1 c.2.2) :
    tableTargets pc 8 cases.length skipped
      ((words (cases.flatMap fun c => [c.1, c.2.1]) ++ tail).drop 4) =
      .ok (cases.map (·.2.2)) := by
  induction cases generalizing skipped with
  | nil => rfl
  | cons c cases ih =>
    obtain ⟨hc, hcases⟩ := List.forall_mem_cons.mp h
    -- The value of the first case comes first, so its distance is where the table begins.
    change tableTargets pc 8 (cases.length + 1) skipped
      ((words (c.1 :: c.2.1 :: cases.flatMap fun c => [c.1, c.2.1]) ++ tail).drop 4) = _
    rw [words_cons, List.append_assoc, List.drop_left' (length_twosComplement 4 c.1),
      tableTargets_words hlength hc.2.1 hc.2.2, words_cons, List.append_assoc,
      show 8 = 4 + 4 from rfl, ← List.drop_drop, List.drop_left' (length_twosComplement 4 c.2.1),
      ih hcases, ok_bind, List.map_cons]

/-! ## One instruction -/

variable {pool : Pool} {bootstraps : List (List Nat)}

theorem operand_byte {b : UInt8} {tail : List UInt8} :
    operand pc (b :: tail) 0 1 = .ok b.toNat := by
  simp [operand, unsigned]

theorem opcode_ne_iinc (access : LocalAccess) : access.opcode.toNat ≠ Opcode.iinc.toNat := by
  rcases access with (_ | _ | _ | _ | _) | (_ | _ | _ | _ | _) | _ <;> decide

/-- A prefix widens the slot, whatever is done with the variable. -/
theorem decodeWide_local {access : LocalAccess} {slot : Nat} {tail : List UInt8}
    (fits : slot < 256 ^ 2) :
    decodeWide pc (access.opcode :: (bigEndian 2 slot ++ tail)) =
      .ok (.localSlot access.opcode slot, 4) := by
  have hslot : operand pc (access.opcode :: (bigEndian 2 slot ++ tail)) 1 2 = .ok slot :=
    @operand_append pc [access.opcode] tail 1 2 slot rfl fits
  simp [decodeWide, operand_byte, hslot, opcode_ne_iinc]

/-- The same prefix widens the slot and the number of an increment. -/
theorem decodeWide_iinc {slot : Nat} {delta : Int} {tail : List UInt8} (fits : slot < 256 ^ 2)
    (fits' : Fits 16 delta) :
    decodeWide pc (Opcode.iinc :: (bigEndian 2 slot ++ (twosComplement 2 delta ++ tail))) =
      .ok (.increment slot delta, 6) := by
  have hslot : operand pc (Opcode.iinc :: (bigEndian 2 slot ++ (twosComplement 2 delta ++ tail)))
      1 2 = .ok slot :=
    @operand_append pc [Opcode.iinc] _ 1 2 slot rfl fits
  have hdelta : signedOperand pc
      (Opcode.iinc :: (bigEndian 2 slot ++ (twosComplement 2 delta ++ tail))) 3 2 = .ok delta :=
    @signedOperand_append pc (Opcode.iinc :: bigEndian 2 slot) tail 3 2 delta (by simp)
      Nat.two_pos fits'
  simp [decodeWide, operand_byte, hslot, hdelta]

/-- A jump table over a range: its padding, three numbers, and the targets. -/
theorem decodeTableSwitch_encodes {name : String} {fill tail : List UInt8} {low fallback : Int}
    {target : Nat} {cases : List (Int × Nat)} (hlength : length < 2 ^ 16)
    (hcount : cases.length < 2 ^ 16) (aligns : Aligns pc fill) (fits : Fits 32 fallback)
    (leads : Leads length pc fallback target) (fitsLow : Fits 32 low)
    (fitsHigh : Fits 32 (low + cases.length - 1))
    (each : ∀ c ∈ cases, Fits 32 c.1 ∧ Leads length pc c.1 c.2) :
    decodeTableSwitch name pc Opcode.tableswitch
      (fill ++ (words ([fallback, low, low + cases.length - 1] ++ cases.map (·.1)) ++ tail)) =
      .ok (.switch Opcode.tableswitch target (cases.map (·.2)),
        fill.length + 12 + 4 * cases.length + 1) := by
  generalize hhigh : low + cases.length - 1 = high at fitsHigh ⊢
  have hcases : (high - low + 1).toNat = cases.length := by omega
  have hfallback := @signedOperand_word pc fill tail [] ([low, high] ++ cases.map (·.1)) _ fits
  have hlow := @signedOperand_word pc fill tail [fallback] ([high] ++ cases.map (·.1)) _ fitsLow
  have hhigh' := @signedOperand_word pc fill tail [fallback, low] (cases.map (·.1)) _ fitsHigh
  have htable := @drop_words fill tail [fallback, low, high] (cases.map (·.1))
  have htargets := @tableTargets_distances pc length cases (fill.length + 12) tail hlength each
  simp only [List.nil_append, List.cons_append, List.length_nil, List.length_cons, Nat.mul_zero,
    Nat.add_zero] at *
  unfold decodeTableSwitch
  simp only [padding_of_aligns aligns, hfallback, hlow, hhigh', ok_bind, htable, hcases, htargets,
    branchTarget_of_leads hlength leads]
  rw [if_neg (by omega)]
  congr 2
  omega

/-- A jump table with values: its padding, two numbers, and pairs of a value and a target. -/
theorem decodeLookupSwitch_encodes {name : String} {fill tail : List UInt8} {fallback : Int}
    {target : Nat} {cases : List (Int × Int × Nat)} (hlength : length < 2 ^ 16)
    (hcount : cases.length < 2 ^ 16) (aligns : Aligns pc fill) (fits : Fits 32 fallback)
    (leads : Leads length pc fallback target)
    (each : ∀ c ∈ cases, Fits 32 c.1 ∧ Fits 32 c.2.1 ∧ Leads length pc c.2.1 c.2.2) :
    decodeLookupSwitch name pc Opcode.lookupswitch
      (fill ++ (words ([fallback, (cases.length : Int)] ++ cases.flatMap fun c => [c.1, c.2.1]) ++
        tail)) =
      .ok (.switch Opcode.lookupswitch target (cases.map (·.2.2)),
        fill.length + 8 + 8 * cases.length + 1) := by
  have hfits : Fits 32 (cases.length : Int) := by
    unfold Fits
    omega
  have hfallback := @signedOperand_word pc fill tail []
    ([(cases.length : Int)] ++ cases.flatMap fun c => [c.1, c.2.1]) _ fits
  have hlength' := @signedOperand_word pc fill tail [fallback]
    (cases.flatMap fun c => [c.1, c.2.1]) _ hfits
  have htable := @drop_words fill tail [fallback, (cases.length : Int)]
    (cases.flatMap fun c => [c.1, c.2.1])
  have htargets := @tableTargets_pairs pc length cases (fill.length + 12) tail hlength each
  simp only [List.nil_append, List.cons_append, List.length_nil, List.length_cons, Nat.mul_zero,
    Nat.add_zero] at *
  -- The first value belongs to the first case, but the decoder skips it.
  rw [← htable, List.drop_drop] at htargets
  unfold decodeLookupSwitch
  simp only [padding_of_aligns aligns, hfallback, hlength', ok_bind, Int.toNat_natCast, htargets,
    branchTarget_of_leads hlength leads]
  rw [if_neg (by omega)]
  congr 2
  omega

/-- **An encoding decodes to the payload that it stands for**, and to as many bytes as it has. -/
theorem decodeOne_encodes {opcode : Opcode} {operands tail : List UInt8} {payload : Payload}
    (hlength : length < 2 ^ 16) (hoperands : operands.length < 2 ^ 16)
    (h : Encodes pool bootstraps length pc (opcode :: operands) payload) :
    decodeOne pool bootstraps pc opcode (operands ++ tail) =
      .ok (payload, operands.length + 1) := by
  cases h with
  | plain plain => simp [decodeOne, operandForm_plain plain]
  | bipush fits =>
    simp [decodeOne, show operandForm Opcode.bipush = .push8 from rfl,
      signedOperand_front Nat.one_pos fits]
  | sipush fits =>
    simp [decodeOne, show operandForm Opcode.sipush = .push16 from rfl,
      signedOperand_front Nat.two_pos fits]
  | ldc fits resolves =>
    have hindex : operand pc (bigEndian 1 _ ++ tail) 0 1 = .ok _ := operand_front fits
    simp [decodeOne, show operandForm Opcode.ldc = .constant8 from rfl, hindex, resolves]
  | ldcW loads fits resolves =>
    have hform : operandForm opcode = .constant16 := by rcases loads with rfl | rfl <;> rfl
    simp [decodeOne, hform, operand_front fits, resolves]
  | localImplied implied => simp [decodeOne, operandForm_implied implied]
  | localPlain fits =>
    have hslot : operand pc (bigEndian 1 _ ++ tail) 0 1 = .ok _ := operand_front fits
    simp [decodeOne, operandForm_local, hslot]
  | localWide fits =>
    simp [decodeOne, show operandForm Opcode.wide = .wide from rfl, decodeWide_local fits]
  | @iinc slot delta fits fits' =>
    have hslot : operand pc (bigEndian 1 slot ++ (twosComplement 1 delta ++ tail)) 0 1 =
        .ok slot := operand_front fits
    have hdelta : signedOperand pc (bigEndian 1 slot ++ (twosComplement 1 delta ++ tail)) 1 1 =
        .ok delta := signedOperand_append (length_bigEndian 1 slot) Nat.one_pos fits'
    simp [decodeOne, show operandForm Opcode.iinc = .increment from rfl, hslot, hdelta]
  | iincWide fits fits' =>
    simp [decodeOne, show operandForm Opcode.wide = .wide from rfl, decodeWide_iinc fits fits']
  | branch branches fits leads =>
    simp [decodeOne, operandForm_branch branches, signedOperand_front Nat.two_pos fits,
      branchTarget_of_leads hlength leads]
  | farBranch branches fits leads =>
    simp [decodeOne, operandForm_farBranch branches,
      signedOperand_front (show 0 < 4 by decide) fits, branchTarget_of_leads hlength leads]
  | @tableswitch fill low fallback _ cases aligns fits leads fitsLow fitsHigh each =>
    have htable : (fill ++ words ([fallback, low, low + cases.length - 1] ++
        cases.map (·.1))).length = fill.length + 12 + 4 * cases.length := by
      simp only [List.length_append, length_words, List.length_cons, List.length_nil,
        List.length_map]
      omega
    rw [htable] at hoperands ⊢
    rw [List.append_assoc, decodeOne, show operandForm Opcode.tableswitch = .tableSwitch from rfl]
    exact decodeTableSwitch_encodes hlength (by omega) aligns fits leads fitsLow fitsHigh each
  | @lookupswitch fill fallback _ cases aligns fits leads each =>
    have htable : (fill ++ words ([fallback, (cases.length : Int)] ++
        cases.flatMap fun c => [c.1, c.2.1])).length = fill.length + 8 + 8 * cases.length := by
      simp only [List.length_append, length_words, List.length_cons, List.length_nil, length_pairs]
      omega
    rw [htable] at hoperands ⊢
    rw [List.append_assoc, decodeOne,
      show operandForm Opcode.lookupswitch = .lookupSwitch from rfl]
    exact decodeLookupSwitch_encodes hlength (by omega) aligns fits leads each
  | field accesses fits resolves =>
    simp [decodeOne, operandForm_fieldAccess accesses, operand_front fits, resolves]
  | call kind_ne fits resolves =>
    simp [decodeOne, operandForm_call, operand_front fits, resolves, kind_ne]
  | interfaceCall fits resolves =>
    simp [decodeOne, show operandForm Opcode.invokeinterface = .call .interface from rfl,
      operand_front fits, resolves]
  | dynamicCall fits resolves recorded loadable =>
    simp [decodeOne, show operandForm Opcode.invokedynamic = .dynamicCall from rfl,
      decodeDynamicCall, operand_front fits, resolves, recorded, loadable]
  | type typed fits resolves =>
    simp [decodeOne, operandForm_typed typed, operand_front fits, resolves]
  | multianewarray fits resolves =>
    simp [decodeOne, show operandForm Opcode.multianewarray = .arrayType from rfl,
      operand_front fits, resolves]
  | newarray => simp [decodeOne, show operandForm Opcode.newarray = .primitiveType from rfl]

/-! ## The code of a method -/

theorem Encodes.exists_cons {bytes : List UInt8} {payload : Payload}
    (h : Encodes pool bootstraps length pc bytes payload) :
    ∃ opcode operands, bytes = opcode :: operands := by
  cases h <;> exact ⟨_, _, rfl⟩

/-- No encoding stands for a marker. -/
theorem Encodes.not_isMarker {bytes : List UInt8} {payload : Payload}
    (h : Encodes pool bootstraps length pc bytes payload) : payload.isMarker = false := by
  cases h <;> rfl

theorem EncodesAll.not_isMarker {code : List UInt8} {listing : List Instruction}
    (h : EncodesAll pool bootstraps length pc code listing) :
    ∀ i ∈ listing, i.isMarker = false := by
  induction h with
  | nil => simp
  | cons first _ ih => exact List.forall_mem_cons.mpr ⟨first.not_isMarker, ih⟩

/-- Each decoded instruction leaves the bytes of the others to be decoded at their own offset. -/
theorem decodeFrom_encodesAll {count : Nat} {code : List UInt8} {listing : List Instruction}
    (hlength : length < 2 ^ 16) (h : EncodesAll pool bootstraps length pc code listing)
    (hend : pc + code.length ≤ length) (hcount : code.length ≤ count) :
    decodeFrom pool bootstraps count pc code = .ok listing := by
  induction h generalizing count with
  | nil => cases count <;> rfl
  | @cons pc bytes rest payload others first more ih =>
    obtain ⟨opcode, operands, rfl⟩ := first.exists_cons
    simp only [List.length_append, List.length_cons] at hend hcount
    cases count with
    | zero => omega
    | succ count =>
      have hfirst : decodeOne pool bootstraps pc opcode (operands ++ rest) =
          .ok (payload, operands.length + 1) := decodeOne_encodes hlength (by omega) first
      have hothers : decodeFrom pool bootstraps count (pc + (operands.length + 1)) rest =
          .ok others := ih (by simp only [List.length_cons]; omega) (by omega)
      simp only [List.cons_append, decodeFrom, hfirst, ok_bind, Nat.add_sub_cancel, List.drop_left,
        hothers]

theorem decodeAll_encodesAll {code : List UInt8} {listing : List Instruction}
    (hlength : code.length < 2 ^ 16)
    (h : EncodesAll pool bootstraps code.length 0 code listing) :
    decodeAll pool bootstraps code = .ok listing :=
  decodeFrom_encodesAll hlength h (by omega) (Nat.le_refl _)

/-- Of what stands at an offset, only the instruction is no marker. -/
theorem filter_marked (labels : Std.ExtTreeMap Nat Unit) (firsts : Std.ExtTreeMap Nat Nat)
    {i : Instruction} (h : i.isMarker = false) :
    (marked labels firsts i).filter (! ·.isMarker) = [i] := by
  have hlabel : (⟨i.offset, .label⟩ : Instruction).isMarker = true := rfl
  have hline (line : Nat) : (⟨i.offset, .lineNumber line⟩ : Instruction).isMarker = true := rfl
  unfold marked
  cases firsts[i.offset]? <;> split <;> simp [hlabel, hline, h]

/-- Markers stand beside the instructions and do not replace any. -/
theorem filter_withMarkers (handlers : List Nat) (lines : List (Nat × Nat))
    {listing : List Instruction} (h : ∀ i ∈ listing, i.isMarker = false) :
    (withMarkers handlers lines listing).filter (! ·.isMarker) = listing := by
  simp only [withMarkers, List.filter_flatMap]
  exact (List.flatMap_congr fun i hi => filter_marked _ _ (h i hi)).trans
    (List.flatMap_singleton' listing)

/-- **Decoding undoes assembly.** However the instructions of a method are encoded, decoding
succeeds, and apart from markers it gives each of them, in order and at its own offset. -/
theorem decodeCode_encodesAll {code : List UInt8} {listing : List Instruction}
    (handlers : List Nat) (lines : List (Nat × Nat)) (hlength : code.length < 2 ^ 16)
    (h : EncodesAll pool bootstraps code.length 0 code listing) :
    ∃ instructions, decodeCode pool bootstraps code handlers lines = .ok instructions ∧
      instructions.filter (! ·.isMarker) = listing := by
  refine ⟨withMarkers handlers lines listing, ?_, filter_withMarkers handlers lines h.not_isMarker⟩
  rw [decodeCode, decodeAll_encodesAll hlength h, ok_bind]

/-! ## A jump table between other instructions -/

/-- The constant pool of the sample. -/
def samplePool : Pool := ⟨"p/A", #[.unused, .int 7]⟩

/-- A variable is loaded in two ways, and a table whose operands are padded leads to a constant or
past it. -/
def sampleCode : List UInt8 :=
  [0x1b] ++ ((Opcode.wide :: (LocalAccess.load .int).opcode :: bigEndian 2 1) ++
    ((Opcode.tableswitch :: ([0, 0] ++ words ([19, 3, 3] ++ [21]))) ++
      ((Opcode.ldc :: bigEndian 1 1) ++ ([0xac] ++ []))))

/-- What the sample does. -/
def sampleListing : List Instruction :=
  [⟨0, .localSlot Opcode.iload 1⟩, ⟨1, .localSlot Opcode.iload 1⟩,
    ⟨5, .switch Opcode.tableswitch 24 [26]⟩, ⟨24, .constant (.int 7)⟩, ⟨26, .op 0xac⟩]

theorem sample_encodesAll :
    EncodesAll samplePool [] sampleCode.length 0 sampleCode sampleListing := by
  have hlength : sampleCode.length = 27 := by decide
  rw [hlength]
  refine .cons (@Encodes.localImplied _ _ _ _ (.load .int) 1 _ rfl) ?_
  refine .cons (@Encodes.localWide _ _ _ _ (.load .int) 1 (by decide)) ?_
  refine .cons (@Encodes.tableswitch _ _ _ _ [0, 0] 3 19 24 [(21, 26)] ?_ ?_ ?_ ?_ ?_ ?_) ?_
  · exact ⟨by decide, by decide⟩
  · exact ⟨by decide, by decide⟩
  · exact ⟨by decide, by decide⟩
  · exact ⟨by decide, by decide⟩
  · exact ⟨by decide, by decide⟩
  · exact List.forall_mem_singleton.mpr ⟨⟨by decide, by decide⟩, by decide, by decide⟩
  refine .cons (@Encodes.ldc _ _ _ _ 1 (.int 7) (by decide) rfl) ?_
  exact .cons (.plain (by decide)) .nil

/-- Decoding the sample gives back what it does, whatever is marked in it. -/
theorem decodeCode_sample : ∃ instructions,
    decodeCode samplePool [] sampleCode [24] [(0, 1), (24, 2)] = .ok instructions ∧
      instructions.filter (! ·.isMarker) = sampleListing :=
  decodeCode_encodesAll [24] [(0, 1), (24, 2)] (by decide) sample_encodesAll

end ApiSurface.ClassFile
