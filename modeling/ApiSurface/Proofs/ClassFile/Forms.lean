import ApiSurface.Proofs.ClassFile.Encoding
import ApiSurface.Proofs.Outcome

/-!
# The form of decoded instructions

Each kind of payload that decoding gives carries only the operation codes of that kind. The prefix
for a wide slot may stand before any code, so nothing is known of the code of a local variable.

Main definition: `InForm`. Main statement: `decodeCode_inForm`.
-/
namespace ApiSurface.ClassFile

/-- The payload carries an operation code of its kind. -/
def InForm : Payload → Prop
  | .op opcode => IsPlain opcode
  | .push opcode _ => opcode = Opcode.bipush ∨ opcode = Opcode.sipush
  | .type opcode _ => IsTyped opcode ∨ opcode = Opcode.multianewarray
  | .field a => IsFieldAccess a.opcode
  | .jump opcode _ => IsBranch opcode ∨ IsFarBranch opcode
  | .switch opcode _ _ => opcode = Opcode.tableswitch ∨ opcode = Opcode.lookupswitch
  | .other opcode => opcode = Opcode.newarray
  | _ => True

instance : DecidablePred InForm
  | .op opcode => inferInstanceAs (Decidable (IsPlain opcode))
  | .push opcode _ =>
    inferInstanceAs (Decidable (opcode = Opcode.bipush ∨ opcode = Opcode.sipush))
  | .type opcode _ =>
    inferInstanceAs (Decidable (IsTyped opcode ∨ opcode = Opcode.multianewarray))
  | .field a => inferInstanceAs (Decidable (IsFieldAccess a.opcode))
  | .jump opcode _ => inferInstanceAs (Decidable (IsBranch opcode ∨ IsFarBranch opcode))
  | .switch opcode _ _ =>
    inferInstanceAs (Decidable (opcode = Opcode.tableswitch ∨ opcode = Opcode.lookupswitch))
  | .other opcode => inferInstanceAs (Decidable (opcode = Opcode.newarray))
  | .label => isTrue trivial
  | .lineNumber _ => isTrue trivial
  | .constant _ => isTrue trivial
  | .localSlot _ _ => isTrue trivial
  | .increment _ _ => isTrue trivial
  | .call _ => isTrue trivial
  | .dynamicCall _ => isTrue trivial

/-! ## Decoding -/

/-- The operation code is of the kind that has operands of the form. It may be any code for forms
whose payloads do not carry it. -/
def OperandForm.follows (opcode : Opcode) : OperandForm → Bool
  | none => IsPlain opcode
  | push8 => opcode = Opcode.bipush
  | push16 => opcode = Opcode.sipush
  | branch16 => IsBranch opcode
  | branch32 => IsFarBranch opcode
  | tableSwitch => opcode = Opcode.tableswitch
  | lookupSwitch => opcode = Opcode.lookupswitch
  | field => IsFieldAccess opcode
  | type => IsTyped opcode
  | arrayType => opcode = Opcode.multianewarray
  | primitiveType => opcode = Opcode.newarray
  | _ => true

theorem follows_operandForm (opcode : Opcode) : (operandForm opcode).follows opcode = true :=
  forall_opcode (p := fun c => (operandForm c).follows c = true) (by decide +kernel) opcode

variable {pool : Pool} {bootstraps : List (List Nat)} {pc length : Nat} {rest : List UInt8}
  {opcode : Opcode} {payload : Payload} {listing : List Instruction}

/-- A decoded instruction carries an operation code of its kind. -/
theorem decodeOne_inForm
    (h : decodeOne pool bootstraps pc opcode rest = .ok (payload, length)) : InForm payload := by
  have follows := follows_operandForm opcode
  unfold decodeOne at h
  cases form : operandForm opcode <;> rw [form] at h follows <;> dsimp only at h <;>
    simp only [OperandForm.follows, decide_eq_true_eq] at follows
  case none | primitiveType =>
    cases h
    exact follows
  case push8 | branch16 =>
    obtain ⟨_, -, h⟩ := bind_eq_ok.mp h
    cases h
    exact .inl follows
  case push16 | branch32 =>
    obtain ⟨_, -, h⟩ := bind_eq_ok.mp h
    cases h
    exact .inr follows
  case field =>
    obtain ⟨index, -, h⟩ := bind_eq_ok.mp h
    obtain ⟨member, -, h⟩ := bind_eq_ok.mp h
    cases h
    exact follows
  case type =>
    obtain ⟨index, -, h⟩ := bind_eq_ok.mp h
    obtain ⟨name, -, h⟩ := bind_eq_ok.mp h
    cases h
    exact .inl follows
  case arrayType =>
    obtain ⟨index, -, h⟩ := bind_eq_ok.mp h
    obtain ⟨name, -, h⟩ := bind_eq_ok.mp h
    cases h
    exact .inr follows
  case tableSwitch =>
    obtain ⟨fallback, -, h⟩ := bind_eq_ok.mp h
    obtain ⟨low, -, h⟩ := bind_eq_ok.mp h
    obtain ⟨high, -, h⟩ := bind_eq_ok.mp h
    dsimp only at h
    split at h
    · cases h
    · obtain ⟨targets, -, h⟩ := bind_eq_ok.mp h
      cases h
      exact .inl follows
  case lookupSwitch =>
    obtain ⟨fallback, -, h⟩ := bind_eq_ok.mp h
    obtain ⟨count, -, h⟩ := bind_eq_ok.mp h
    split at h
    · cases h
    · obtain ⟨targets, -, h⟩ := bind_eq_ok.mp h
      cases h
      exact .inr follows
  case slotImplied =>
    cases h
    trivial
  case slot8 =>
    obtain ⟨slot, -, h⟩ := bind_eq_ok.mp h
    cases h
    trivial
  case constant8 | constant16 | call | increment =>
    obtain ⟨_, -, h⟩ := bind_eq_ok.mp h
    obtain ⟨_, -, h⟩ := bind_eq_ok.mp h
    cases h
    trivial
  case dynamicCall =>
    obtain ⟨index, -, h⟩ := bind_eq_ok.mp h
    obtain ⟨member, -, h⟩ := bind_eq_ok.mp h
    dsimp only at h
    split at h
    · cases h
    · obtain ⟨arguments, -, h⟩ := bind_eq_ok.mp h
      cases h
      trivial
  case wide =>
    obtain ⟨widened, -, h⟩ := bind_eq_ok.mp h
    obtain ⟨slot, -, h⟩ := bind_eq_ok.mp h
    split at h
    · obtain ⟨delta, -, h⟩ := bind_eq_ok.mp h
      cases h
      trivial
    · cases h
      trivial
  case unassigned => cases h

theorem decodeFrom_inForm {count : Nat} {code : List UInt8}
    (h : decodeFrom pool bootstraps count pc code = .ok listing) :
    ∀ i ∈ listing, InForm i.payload := by
  induction count generalizing pc code listing with
  | zero => cases code <;> cases h <;> simp
  | succ count ih =>
    cases code with
    | nil =>
      cases h
      simp
    | cons opcode rest =>
      obtain ⟨⟨payload, length⟩, hone, h⟩ := bind_eq_ok.mp h
      obtain ⟨others, hothers, h⟩ := bind_eq_ok.mp h
      cases h
      exact List.forall_mem_cons.mpr ⟨decodeOne_inForm hone, ih hothers⟩

/-- **The decoded code of a method has the form**, and so do the markers in it. -/
theorem decodeCode_inForm {code : List UInt8} {handlers : List Nat} {lines : List (Nat × Nat)}
    (h : decodeCode pool bootstraps code handlers lines = .ok listing) :
    ∀ i ∈ listing, InForm i.payload := by
  obtain ⟨instructions, hall, h⟩ := bind_eq_ok.mp h
  cases h
  intro i hi
  obtain ⟨real, hreal, hi⟩ := List.mem_flatMap.mp hi
  unfold marked at hi
  rcases List.mem_append.mp hi with hi | hi
  · rcases List.mem_append.mp hi with hi | hi
    · split at hi
      · obtain rfl := List.mem_singleton.mp hi
        trivial
      · cases hi
    · obtain ⟨line, -, rfl⟩ := Option.map_eq_some_iff.mp (Option.mem_toList.mp hi)
      trivial
  · obtain rfl := List.mem_singleton.mp hi
    exact decodeFrom_inForm hall i hreal

end ApiSurface.ClassFile
