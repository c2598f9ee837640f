import ApiSurface.Proofs.ClassFile.Forms
import ApiSurface.Proofs.Idiom.Matching

/-!
# Idioms that exclude each other

A test passes only on some operation codes, as long as each instruction carries a code of its kind.
Two idioms cannot match at one place if somewhere on the way the codes that they may find there have
nothing in common; this can be computed. A family of idioms of which no two can match at one place,
and each only in one way, stays so when idioms of another such family follow.

Main definitions: `Test.opcodes`, `Clash`, `Exclusive`. Main statements: `exclusive_of_clash`,
`Exclusive.append`, `Exclusive.matchAt_eq`.
-/
namespace ApiSurface

open ClassFile (InForm forall_opcode)

/-! ## Operation codes on which tests pass -/

/-- All operation codes. -/
def Opcode.all : List Opcode := (List.range 256).map UInt8.ofNat

theorem Opcode.mem_all (opcode : Opcode) : opcode ∈ Opcode.all :=
  List.mem_map.mpr ⟨opcode.toNat, List.mem_range.mpr opcode.toNat_lt, UInt8.ofNat_toNat⟩

namespace Test

/-- The codes of instructions that push a literal. -/
def literalOpcodes : List Opcode :=
  [0x02, 0x03, 0x04, 0x05, 0x06, 0x07, 0x08, 0x09, 0x0a, 0x0b, 0x0c, 0x0d, 0x0e, 0x0f,
    Opcode.bipush, Opcode.sipush, Opcode.ldc, Opcode.ldc2W]

/-- The codes of instructions that access a field of a class, or one of an object. -/
def fieldOpcodes (isStatic : Bool) : List Opcode :=
  -- Reading a field of an object has the code 0xb4.
  if isStatic then [Opcode.getstatic, Opcode.putstatic] else [0xb4, Opcode.putfield]

mutual

/-- The operation codes of instructions on which the test may pass. -/
def opcodes : Test → List Opcode
  | opcode o => [o]
  | kind _ => Opcode.all
  | field _ _ _ isStatic =>
    isStatic.elim (fieldOpcodes true ++ fieldOpcodes false) fieldOpcodes
  | call _ _ _ => [Opcode.invokevirtual, Opcode.invokespecial, Opcode.invokestatic,
      Opcode.invokeinterface]
  | literal => literalOpcodes
  | anyOf alternatives => opcodesOfAny alternatives

/-- The operation codes of instructions on which one of the tests may pass. -/
def opcodesOfAny : List Test → List Opcode
  | [] => []
  | t :: ts => opcodes t ++ opcodesOfAny ts

end

variable {u : Universe} {p : Payload} {o : Opcode}

theorem mem_literalOpcodes (literal : p.literal?.isSome = true) (inForm : InForm p)
    (code : p.opcode? = some o) : o ∈ literalOpcodes := by
  cases p with
  | op c =>
    obtain rfl := Option.some.inj code
    revert literal
    exact forall_opcode (p := fun c => (Payload.op c).literal?.isSome = true → c ∈ literalOpcodes)
      (by decide +kernel) _
  | push c value =>
    obtain rfl := Option.some.inj code
    rcases inForm with rfl | rfl <;> decide
  | constant value =>
    have : o = Opcode.ldc ∨ o = Opcode.ldc2W := by
      cases value <;> simp_all [Payload.opcode?]
    rcases this with rfl | rfl <;> decide
  | _ => simp [Payload.literal?] at literal

theorem mem_fieldOpcodes {a : FieldAccess} (inForm : InForm (.field a)) :
    a.opcode ∈ fieldOpcodes a.isStatic := by
  obtain ⟨opcode, owner, name, descriptor⟩ := a
  revert inForm
  exact forall_opcode (p := fun c => ClassFile.IsFieldAccess c →
    c ∈ fieldOpcodes (c = Opcode.getstatic || c = Opcode.putstatic)) (by decide +kernel) opcode

mutual

/-- A test passes only on its operation codes. -/
theorem mem_opcodes {t : Test} (passes : t.holds u p = .ok true) (inForm : InForm p)
    (code : p.opcode? = some o) : o ∈ t.opcodes := by
  match t with
  | opcode o' =>
    have : p.opcode? = some o' := by simpa [holds] using passes
    obtain rfl := Option.some.inj (code.symm.trans this)
    exact List.mem_singleton_self _
  | kind _ => exact Opcode.mem_all o
  | field owner name descriptor isStatic =>
    cases p with
    | field a =>
      obtain rfl := Option.some.inj code
      have access := mem_fieldOpcodes inForm
      cases isStatic with
      | none => cases hstatic : a.isStatic <;> rw [hstatic] at access <;> simp [opcodes, access]
      | some isStatic =>
        have : isStatic = a.isStatic := by simp_all [holds, holdsField]
        exact this ▸ access
    | _ => cases passes
  | call owner name descriptor =>
    cases p with
    | call c =>
      obtain rfl := Option.some.inj code
      cases c.kind <;> simp [CallKind.opcode, opcodes]
    | _ => cases passes
  | literal => exact mem_literalOpcodes (by simpa [holds] using passes) inForm code
  | anyOf ts => exact mem_opcodesOfAny passes inForm code

theorem mem_opcodesOfAny {ts : List Test} (passes : holdsAny u p ts = .ok true)
    (inForm : InForm p) (code : p.opcode? = some o) : o ∈ opcodesOfAny ts := by
  match ts with
  | [] => cases passes
  | t :: ts =>
    obtain ⟨first, hfirst, passes⟩ := bind_eq_ok.mp passes
    cases first with
    | true => exact List.mem_append_left _ (mem_opcodes hfirst inForm code)
    | false => exact List.mem_append_right _ (mem_opcodesOfAny passes inForm code)

end

end Test

/-- The instruction is one that decoding gives, and no marker. -/
def Instruction.IsDecoded (i : Instruction) : Prop := i.isMarker = false ∧ InForm i.payload

namespace Idiom

variable {u : Universe} {p : Pattern} {ps idiom : Idiom} {window window' : List Instruction}
  {choice : List Bool} {captures captures' : Captures} {ι κ : Type}

/-- A pattern passes only on the operation codes of its test. -/
theorem exists_mem_opcodes {i : Instruction} (passes : p.Passes u i) (decoded : i.IsDecoded) :
    ∃ o, i.payload.opcode? = some o ∧ o ∈ p.test.opcodes := by
  cases code : i.payload.opcode? with
  | none =>
    have marker : i.isMarker = true := (Payload.opcode?_eq_none_iff _).mp code
    rw [decoded.1] at marker
    cases marker
  | some o => exact ⟨o, rfl, Test.mem_opcodes passes decoded.2 code⟩

/-! ## Choices that clash -/

/-- The choices of an idiom: its optional patterns are taken or left out. -/
def choices : Idiom → List (List Bool)
  | [] => [[]]
  | p :: ps =>
    (choices ps).map (true :: ·) ++ if p.isOptional then (choices ps).map (false :: ·) else []

/-- A choice that matches is one of the choices. -/
theorem Fits.mem_choices (h : Fits u idiom choice window) : choice ∈ choices idiom := by
  induction idiom generalizing choice window with
  | nil => exact List.mem_singleton.mpr (fits_nil.mp h)
  | cons p ps ih =>
    rcases h.cases with ⟨rest, rfl⟩ | ⟨rest, rfl⟩
    · obtain ⟨_, _, -, -, hrest⟩ := fits_take.mp h
      exact List.mem_append_left _ (List.mem_map_of_mem (ih hrest))
    · obtain ⟨hp, hrest⟩ := fits_leave.mp h
      rw [choices, if_pos hp]
      exact List.mem_append_right _ (List.mem_map_of_mem (ih hrest))

/-- Two lists of patterns cannot pass on the same instructions: somewhere the operation codes of the
one are not those of the other. -/
def Clash : Idiom → Idiom → Bool
  | p :: ps, q :: qs => (! p.test.opcodes.any (· ∈ q.test.opcodes)) || Clash ps qs
  | _, _ => false

/-- Patterns that pass on the same instructions do not clash. -/
theorem not_clash {ps qs : Idiom} (hps : List.Forall₂ (Pattern.Passes u) ps (window.take ps.length))
    (hqs : List.Forall₂ (Pattern.Passes u) qs (window.take qs.length))
    (decoded : ∀ i ∈ window.take ps.length, i.IsDecoded) : Clash ps qs = false := by
  induction ps generalizing qs window with
  | nil => rfl
  | cons p ps ih =>
    cases qs with
    | nil => rfl
    | cons q qs =>
      cases window with
      | nil => cases hps
      | cons i window =>
        obtain ⟨hp, hps⟩ := List.forall₂_cons.mp hps
        obtain ⟨hq, hqs⟩ := List.forall₂_cons.mp hqs
        obtain ⟨hi, decoded⟩ := List.forall_mem_cons.mp decoded
        obtain ⟨o, code, mem⟩ := exists_mem_opcodes hp hi
        obtain ⟨o', code', mem'⟩ := exists_mem_opcodes hq hi
        obtain rfl := Option.some.inj (code.symm.trans code')
        have hany : p.test.opcodes.any (· ∈ q.test.opcodes) = true :=
          List.any_eq_true.mpr ⟨o, mem, by simpa using mem'⟩
        rw [Clash, hany, ih hps hqs decoded]
        rfl

/-! ## Families of idioms -/

/-- Of a family of idioms at most one matches at a place, with one choice, if decoding gives the
instructions that it takes. -/
def Exclusive (u : Universe) (idioms : ι → Idiom) : Prop :=
  ∀ ⦃a b c d window⦄, Fits u (idioms a) c window →
    (∀ i ∈ window.take (taken (idioms a) c).length, i.IsDecoded) →
      Fits u (idioms b) d window → a = b ∧ c = d

/-- Idioms exclude each other if all their choices clash. -/
theorem exclusive_of_clash {idioms : ι → Idiom}
    (h : ∀ a b, ∀ c ∈ choices (idioms a), ∀ d ∈ choices (idioms b),
      Clash (taken (idioms a) c) (taken (idioms b) d) = false → a = b ∧ c = d) :
    Exclusive u idioms := by
  intro a b c d window ha decoded hb
  exact h a b c ha.mem_choices d hb.mem_choices (not_clash ha.passes hb.passes decoded)

theorem taken_take : taken (p :: ps) (true :: choice) = p :: taken ps choice := by simp [taken]

theorem taken_leave : taken (p :: ps) (false :: choice) = taken ps choice := by simp [taken]

theorem taken_append {qs : Idiom} {c d : List Bool} (decides : c.length = ps.length) :
    taken (ps ++ qs) (c ++ d) = taken ps c ++ taken qs d := by
  simp [taken, List.zip_append decides.symm]

/-- Idioms that follow one another match one after the other. -/
theorem Fits.append {qs : Idiom} (h : Fits u (ps ++ qs) choice window) :
    ∃ c d, choice = c ++ d ∧ Fits u ps c window ∧
      Fits u qs d (window.drop (taken ps c).length) := by
  induction ps generalizing choice window with
  | nil => exact ⟨[], choice, rfl, fits_nil.mpr rfl, h⟩
  | cons p ps ih =>
    rcases h.cases with ⟨rest, rfl⟩ | ⟨rest, rfl⟩
    · obtain ⟨i, further, rfl, hp, hrest⟩ := fits_take.mp h
      obtain ⟨c, d, rfl, hfirst, hsecond⟩ := ih hrest
      refine ⟨true :: c, d, rfl, fits_take.mpr ⟨i, further, rfl, hp, hfirst⟩, ?_⟩
      rwa [taken_take, List.length_cons, List.drop_succ_cons]
    · obtain ⟨hp, hrest⟩ := fits_leave.mp h
      obtain ⟨c, d, rfl, hfirst, hsecond⟩ := ih hrest
      refine ⟨false :: c, d, rfl, fits_leave.mpr ⟨hp, hfirst⟩, ?_⟩
      rwa [taken_leave]

/-- **Exclusive idioms stay so when exclusive idioms follow.** -/
theorem Exclusive.append {first : ι → Idiom} {second : κ → Idiom} (hf : Exclusive u first)
    (hs : Exclusive u second) : Exclusive u fun n : ι × κ => first n.1 ++ second n.2 := by
  rintro ⟨a, a'⟩ ⟨b, b'⟩ c d window ha decoded hb
  obtain ⟨c₁, c₂, rfl, ha, ha'⟩ := ha.append
  obtain ⟨d₁, d₂, rfl, hb, hb'⟩ := hb.append
  rw [taken_append ha.decides, List.length_append, List.take_add] at decoded
  -- The first idioms are the same, so the second ones match at the same place.
  obtain ⟨rfl, rfl⟩ := hf ha (fun i hi => decoded i (List.mem_append_left _ hi)) hb
  obtain ⟨rfl, rfl⟩ := hs ha' (fun i hi => decoded i (List.mem_append_right _ hi)) hb'
  exact ⟨rfl, rfl⟩

theorem Exclusive.mono {idioms : ι → Idiom} (h : Exclusive u idioms) {f : κ → ι}
    (injective : Function.Injective f) : Exclusive u fun n => idioms (f n) := by
  intro a b c d window ha decoded hb
  obtain ⟨hab, hcd⟩ := h ha decoded hb
  exact ⟨injective hab, hcd⟩

/-! ## What exclusive idioms take -/

/-- Captures are known by which patterns have an instruction and by these instructions. -/
theorem captures_eq (same : captures.map Option.isSome = captures'.map Option.isSome)
    (instructions : captures.reduceOption = captures'.reduceOption) : captures = captures' := by
  induction captures generalizing captures' with
  | nil => exact (List.map_eq_nil_iff.mp same.symm).symm
  | cons entry captures ih =>
    cases captures' with
    | nil => cases same
    | cons entry' captures' =>
      obtain ⟨hentry, hrest⟩ := List.cons.inj same
      cases entry with
      | none =>
        cases entry' with
        | none => rw [ih hrest instructions]
        | some _ => cases hentry
      | some i =>
        cases entry' with
        | none => cases hentry
        | some i' =>
          obtain ⟨rfl, hinstructions⟩ := List.cons.inj instructions
          rw [ih hrest hinstructions]

/-- The captured instructions are as many as the patterns that are taken. -/
theorem length_reduceOption (decides : captures.length = idiom.length) :
    (taken idiom (captures.map Option.isSome)).length = captures.reduceOption.length := by
  induction captures generalizing idiom with
  | nil => simp [taken]
  | cons entry captures ih =>
    cases idiom with
    | nil => cases decides
    | cons p ps =>
      have hrest := ih (Nat.succ.inj decides)
      cases entry with
      | none =>
        rw [List.map_cons, Option.isSome_none, taken_leave, hrest]
        rfl
      | some i =>
        rw [List.map_cons, Option.isSome_some, taken_take, List.length_cons, hrest]
        rfl

theorem IsFirstChoice.length_taken (first : IsFirstChoice u idiom window captures) :
    (taken idiom (captures.map Option.isSome)).length = captures.reduceOption.length :=
  length_reduceOption (by simpa using first.fits.decides)

/-- **What one of some exclusive idioms takes, it takes wherever the same instructions come first**,
and no other of the idioms matches there. -/
theorem Exclusive.matchAt_eq {idioms : ι → Idiom} (h : Exclusive u idioms)
    (asks : ∀ a, ∀ p ∈ idioms a, ∀ base, ¬ p.test.Asks base) {a : ι}
    (found : matchAt u (idioms a) window = .ok (some captures))
    (decoded : ∀ i ∈ captures.reduceOption, i.IsDecoded)
    (same : captures.reduceOption <+: window') :
    matchAt u (idioms a) window' = .ok (some captures) ∧
      ∀ b, b ≠ a → matchAt u (idioms b) window' = .ok none := by
  have first := matchAt_some found
  have taken' : window'.take (taken (idioms a) (captures.map Option.isSome)).length =
      captures.reduceOption := by
    rw [first.length_taken]
    exact (List.prefix_iff_eq_take.mp same).symm
  have fits : Fits u (idioms a) (captures.map Option.isSome) window' := by
    refine ⟨first.fits.decides, first.fits.optional, ?_⟩
    have passes := first.fits.passes
    rwa [first.length_taken, ← List.prefix_iff_eq_take.mp first.consecutive, ← taken'] at passes
  have only {b : ι} {d : List Bool} (hd : Fits u (idioms b) d window') :
      a = b ∧ captures.map Option.isSome = d :=
    h fits (by rwa [taken']) hd
  constructor
  · obtain ⟨_ | captures', hresult⟩ := exists_matchAt (u := u) (asks a) window'
    · exact absurd fits (matchAt_none hresult)
    · have first' := matchAt_some hresult
      obtain ⟨-, hchoice⟩ := only first'.fits
      have hsame : captures.reduceOption = captures'.reduceOption := by
        rw [List.prefix_iff_eq_take.mp first'.consecutive, ← first'.length_taken, ← hchoice, taken']
      rw [hresult, captures_eq hchoice hsame]
  · intro b different
    obtain ⟨_ | captures', hresult⟩ := exists_matchAt (u := u) (asks b) window'
    · exact hresult
    · exact absurd (only (matchAt_some hresult).fits).1.symm different

end Idiom

end ApiSurface
