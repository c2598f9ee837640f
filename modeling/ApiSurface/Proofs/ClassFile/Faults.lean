import ApiSurface.ClassFile.Decoding
import ApiSurface.Proofs.ClassFile.Tiling
import ApiSurface.Proofs.Faults

/-!
# What a refused class file is named by

A class file is refused where it is first found to be malformed: in its container, at an entry of
its constant pool, or in the code of a method. All of these know the name under which the class was
loaded, but for the operands of instructions: an operand is taken from the code alone, and if it is
cut off, the fault has a name that stands for any code.

This holds for every library that finds the container in the bytes.

Main definitions: `LoadFault`, `LoadsAs`, `Container.CutAt`. Main statements: `loads_decodeOne`,
`loads_resolve`, `decode_faults`, `decode_operand_cut`.
-/
namespace ApiSurface

namespace ClassFile

/-- The fault of a unit that is refused. It names the unit, unless an operand is cut off; then it
has an offset for which `cut` holds. -/
inductive LoadFault (unit : String) (cut : Nat → Prop) : Fault → Prop
  | named {reason : Refusal} (whole : ∀ offset, reason ≠ .operandBounds offset) :
      LoadFault unit cut (.decode unit reason)
  | operand {offset : Nat} (short : cut offset) :
      LoadFault unit cut (.decode codeName (.operandBounds offset))

/-- The part of a class file is refused, if it is, with a fault of its unit. -/
def LoadsAs {α : Type} (unit : String) (cut : Nat → Prop) (x : Except Undecodable α) : Prop :=
  FailsWith (LoadFault unit cut) (Fault.ofDecoding x)

namespace LoadsAs

variable {α β : Type} {unit : String} {cut : Nat → Prop}

theorem ok (a : α) : LoadsAs unit cut (.ok a) := FailsWith.ok a

theorem refused {reason : Refusal} (whole : ∀ offset, reason ≠ .operandBounds offset) :
    LoadsAs unit cut (.error ⟨unit, reason⟩ : Except Undecodable α) :=
  FailsWith.error (.named whole)

/-- What follows a part starts from what the part gave. -/
theorem bind_of_ok {x : Except Undecodable α} {f : α → Except Undecodable β}
    (hx : LoadsAs unit cut x) (hf : ∀ a, x = .ok a → LoadsAs unit cut (f a)) :
    LoadsAs unit cut (x >>= f) := by
  cases x with
  | ok a => exact hf a rfl
  | error refused => exact FailsWith.error (hx _ rfl)

theorem bind {x : Except Undecodable α} {f : α → Except Undecodable β} (hx : LoadsAs unit cut x)
    (hf : ∀ a, LoadsAs unit cut (f a)) : LoadsAs unit cut (x >>= f) :=
  bind_of_ok hx fun a _ => hf a

theorem mono {x : Except Undecodable α} {more : Nat → Prop} (hx : LoadsAs unit cut x)
    (h : ∀ offset, cut offset → more offset) : LoadsAs unit more x := by
  refine FailsWith.mono hx ?_
  rintro _ (whole | short)
  · exact .named whole
  · exact .operand (h _ short)

theorem mapAll {f : α → Except Undecodable β} {l : List α} (h : ∀ a ∈ l, LoadsAs unit cut (f a)) :
    LoadsAs unit cut (mapAll f l) := by
  induction l with
  | nil => exact ok []
  | cons a l ih =>
    obtain ⟨ha, hl⟩ := List.forall_mem_cons.mp h
    exact bind ha fun _ => bind (ih hl) fun _ => ok _

end LoadsAs

open LoadsAs

variable (pool : Pool) {cut : Nat → Prop}

/-! ## The constant pool -/

theorem loads_misused {α : Type} (index : Nat) (use : EntryUse) :
    LoadsAs pool.name cut (pool.misused index use : Except Undecodable α) :=
  refused fun _ => by simp

theorem loads_utf8 (index : Nat) : LoadsAs pool.name cut (pool.utf8 index) := by
  unfold Pool.utf8
  split
  · exact ok _
  · exact loads_misused pool _ _

theorem loads_className (index : Nat) : LoadsAs pool.name cut (pool.className index) := by
  unfold Pool.className
  split
  · exact loads_utf8 pool _
  · exact loads_misused pool _ _

theorem loads_nameAndType (index : Nat) : LoadsAs pool.name cut (pool.nameAndType index) := by
  unfold Pool.nameAndType
  split
  · exact bind (loads_utf8 pool _) fun _ => bind (loads_utf8 pool _) fun _ => ok _
  · exact loads_misused pool _ _

theorem loads_member (index : Nat) : LoadsAs pool.name cut (pool.member index) := by
  unfold Pool.member
  split
  · exact bind (loads_nameAndType pool _) fun _ => bind (loads_className pool _) fun _ => ok _
  · exact loads_misused pool _ _

theorem loads_methodHandle (index : Nat) : LoadsAs pool.name cut (pool.methodHandle index) := by
  unfold Pool.methodHandle
  split
  · exact bind (loads_member pool _) fun _ => ok _
  · exact loads_misused pool _ _

theorem loads_constant (index : Nat) : LoadsAs pool.name cut (pool.constant index) := by
  unfold Pool.constant
  split
  case h_1 | h_2 | h_3 | h_4 => exact ok _
  case h_5 | h_6 | h_7 => exact bind (loads_utf8 pool _) fun _ => ok _
  case h_8 => exact bind (loads_methodHandle pool _) fun _ => ok _
  case h_9 => exact loads_misused pool _ _

theorem loads_constants (indexes : List Nat) : LoadsAs pool.name cut (pool.constants indexes) := by
  induction indexes with
  | nil => exact ok []
  | cons index indexes ih => exact bind (loads_constant pool _) fun _ => bind ih fun _ => ok _

theorem loads_dynamicCall (index : Nat) : LoadsAs pool.name cut (pool.dynamicCall index) := by
  unfold Pool.dynamicCall
  split
  · exact bind (loads_nameAndType pool _) fun _ => ok _
  · exact loads_misused pool _ _

/-! ## Code -/

/-- An operand that starts at the offset may be cut off: fewer than four bytes are left. -/
def IsCut (length offset : Nat) : Prop := length < offset + 4

section Operands

variable {unit : String} {length pc skipped width : Nat} {rest : List UInt8}

theorem loads_operand (hlength : length ≤ pc + 1 + rest.length) (hwidth : width ≤ 4) :
    LoadsAs unit (IsCut length) (operand pc rest skipped width) := by
  unfold operand
  dsimp only
  split
  · exact ok _
  next hshort =>
    refine FailsWith.error (.operand ?_)
    rw [List.length_take, List.length_drop] at hshort
    unfold IsCut
    omega

theorem loads_signedOperand (hlength : length ≤ pc + 1 + rest.length) (hwidth : width ≤ 4) :
    LoadsAs unit (IsCut length) (signedOperand pc rest skipped width) :=
  bind (loads_operand hlength hwidth) fun _ => ok _

theorem loads_tableTargets {step count : Nat} {table : List UInt8}
    (hlength : length ≤ pc + 1 + skipped + table.length) :
    LoadsAs unit (IsCut length) (tableTargets pc step count skipped table) := by
  induction count generalizing skipped table with
  | zero => exact ok []
  | succ count ih =>
    unfold tableTargets
    dsimp only
    split
    · refine bind (ih ?_) fun _ => ok _
      rw [List.length_drop]
      omega
    next hshort =>
      refine FailsWith.error (.operand ?_)
      rw [List.length_take] at hshort
      unfold IsCut
      omega

end Operands

section Instructions

variable {length pc : Nat} {opcode : Opcode} {rest : List UInt8}

theorem loads_decodeTableSwitch (hlength : length ≤ pc + 1 + rest.length) :
    LoadsAs pool.name (IsCut length) (decodeTableSwitch pool.name pc opcode rest) := by
  refine bind (loads_signedOperand hlength (by decide)) fun fallback => ?_
  refine bind (loads_signedOperand hlength (by decide)) fun low => ?_
  refine bind (loads_signedOperand hlength (by decide)) fun high => ?_
  dsimp only
  split
  · exact refused fun _ => by simp
  · refine bind (loads_tableTargets ?_) fun _ => ok _
    rw [List.length_drop]
    omega

theorem loads_decodeLookupSwitch (hlength : length ≤ pc + 1 + rest.length) :
    LoadsAs pool.name (IsCut length) (decodeLookupSwitch pool.name pc opcode rest) := by
  refine bind (loads_signedOperand hlength (by decide)) fun fallback => ?_
  refine bind (loads_signedOperand hlength (by decide)) fun count => ?_
  split
  · exact refused fun _ => by simp
  · refine bind (loads_tableTargets ?_) fun _ => ok _
    rw [List.length_drop]
    omega

theorem loads_decodeDynamicCall (bootstraps : List (List Nat))
    (hlength : length ≤ pc + 1 + rest.length) :
    LoadsAs pool.name (IsCut length) (decodeDynamicCall pool bootstraps pc rest) := by
  refine bind (loads_operand hlength (by decide)) fun index => ?_
  refine bind (loads_dynamicCall pool index) fun _ => ?_
  dsimp only
  split
  · exact refused fun _ => by simp
  · exact bind (loads_constants pool _) fun _ => ok _

theorem loads_decodeWide {unit : String} (hlength : length ≤ pc + 1 + rest.length) :
    LoadsAs unit (IsCut length) (decodeWide pc rest) := by
  refine bind (loads_operand hlength (by decide)) fun widened => ?_
  refine bind (loads_operand hlength (by decide)) fun slot => ?_
  split
  · exact bind (loads_signedOperand hlength (by decide)) fun _ => ok _
  · exact ok _

/-- **A refused instruction names the unit**, unless one of its operands is cut off. -/
theorem loads_decodeOne (bootstraps : List (List Nat)) (hlength : length ≤ pc + 1 + rest.length) :
    LoadsAs pool.name (IsCut length) (decodeOne pool bootstraps pc opcode rest) := by
  unfold decodeOne
  cases operandForm opcode <;> dsimp only
  case none | slotImplied | primitiveType => exact ok _
  case push8 | push16 | branch16 | branch32 =>
    exact bind (loads_signedOperand hlength (by decide)) fun _ => ok _
  case slot8 => exact bind (loads_operand hlength (by decide)) fun _ => ok _
  case constant8 | constant16 =>
    refine bind (loads_operand hlength (by decide)) fun index => ?_
    exact bind (loads_constant pool index) fun _ => ok _
  case increment =>
    refine bind (loads_operand hlength (by decide)) fun slot => ?_
    exact bind (loads_signedOperand hlength (by decide)) fun _ => ok _
  case field | call =>
    refine bind (loads_operand hlength (by decide)) fun index => ?_
    exact bind (loads_member pool index) fun _ => ok _
  case type | arrayType =>
    refine bind (loads_operand hlength (by decide)) fun index => ?_
    exact bind (loads_className pool index) fun _ => ok _
  case tableSwitch => exact loads_decodeTableSwitch pool hlength
  case lookupSwitch => exact loads_decodeLookupSwitch pool hlength
  case dynamicCall => exact loads_decodeDynamicCall pool bootstraps hlength
  case wide => exact loads_decodeWide hlength
  case unassigned => exact refused fun _ => by simp

/-- As long as letters are left, they reach to the end of the code. -/
theorem loads_decodeFrom (bootstraps : List (List Nat)) {count : Nat} {letters : List UInt8}
    (hlength : letters ≠ [] → length ≤ pc + letters.length) :
    LoadsAs pool.name (IsCut length) (decodeFrom pool bootstraps count pc letters) := by
  induction count generalizing pc letters with
  | zero => cases letters <;> exact ok []
  | succ count ih =>
    cases letters with
    | nil => exact ok []
    | cons opcode rest =>
      have hrest := hlength (List.cons_ne_nil _ _)
      rw [List.length_cons] at hrest
      refine bind_of_ok (loads_decodeOne pool bootstraps (by omega)) fun decoded hdecoded => ?_
      have hpos := (decodeOne_spans hdecoded).pos
      refine bind (ih fun hne => ?_) fun _ => ok _
      have hleft := List.length_pos_iff.mpr hne
      rw [List.length_drop] at hleft ⊢
      omega

theorem loads_decodeCode (bootstraps : List (List Nat)) (code : List UInt8) (handlers : List Nat)
    (lines : List (Nat × Nat)) :
    LoadsAs pool.name (IsCut code.length) (decodeCode pool bootstraps code handlers lines) :=
  bind (loads_decodeFrom pool bootstraps fun _ => by omega) fun _ => ok _

end Instructions

/-! ## Annotations and members -/

mutual

theorem loads_resolveElement (raw : RawElement) :
    LoadsAs pool.name cut (resolveElement pool raw) := by
  match raw with
  | .string text | .classRef descriptor =>
    rw [resolveElement]
    exact bind (loads_utf8 pool _) fun _ => ok _
  | .constant index =>
    rw [resolveElement]
    exact bind (loads_constant pool _) fun _ => ok _
  | .enumConstant type name =>
    rw [resolveElement]
    exact bind (loads_utf8 pool _) fun _ => bind (loads_utf8 pool _) fun _ => ok _
  | .nested type values =>
    rw [resolveElement]
    exact bind (loads_resolvePairs values) fun _ => bind (loads_utf8 pool _) fun _ => ok _
  | .array values =>
    rw [resolveElement]
    exact bind (loads_resolveElements values) fun _ => ok _

theorem loads_resolveElements (values : List RawElement) :
    LoadsAs pool.name cut (resolveElements pool values) := by
  match values with
  | [] =>
    rw [resolveElements]
    exact ok []
  | value :: values =>
    rw [resolveElements]
    refine bind (loads_resolveElement value) fun _ => ?_
    exact bind (loads_resolveElements values) fun _ => ok _

theorem loads_resolvePairs (pairs : List (Nat × RawElement)) :
    LoadsAs pool.name cut (resolvePairs pool pairs) := by
  match pairs with
  | [] =>
    rw [resolvePairs]
    exact ok []
  | (name, value) :: pairs =>
    rw [resolvePairs]
    exact bind (loads_utf8 pool _) fun _ => bind (loads_resolveElement value) fun _ =>
      bind (loads_resolvePairs pairs) fun _ => ok _

end

theorem loads_annotations (raw : List RawAnnotation) :
    LoadsAs pool.name cut (mapAll (annotationOf pool) raw) :=
  LoadsAs.mapAll fun a _ =>
    bind (loads_resolvePairs pool a.values) fun _ => bind (loads_utf8 pool _) fun _ => ok _

theorem loads_describe (attributes : List Attribute) (d : Description) :
    LoadsAs pool.name cut (describe pool d attributes) := by
  induction attributes generalizing d with
  | nil => exact ok d
  | cons a attributes ih =>
    cases a
    case signature text => exact bind (loads_utf8 pool _) fun _ => ih _
    case annotations raw => exact bind (loads_annotations pool _) fun _ => ih _
    all_goals exact ih _

theorem loads_resolveField (raw : RawMember) : LoadsAs pool.name cut (resolveField pool raw) :=
  bind (loads_describe pool _ _) fun _ => bind (loads_utf8 pool _) fun _ =>
    bind (loads_utf8 pool _) fun _ => ok _

theorem loads_resolveLocals (attributes : List Attribute) :
    LoadsAs pool.name cut (resolveLocals pool attributes) := by
  induction attributes with
  | nil => exact ok []
  | cons a attributes ih =>
    cases a
    case locals entries =>
      refine bind (LoadsAs.mapAll fun entry _ => ?_) fun _ => bind ih fun _ => ok _
      exact bind (loads_utf8 pool _) fun _ => bind (loads_utf8 pool _) fun _ => ok _
    all_goals exact ih

theorem loads_resolveParameterName (index : Nat) :
    LoadsAs pool.name cut (resolveParameterName pool index) := by
  unfold resolveParameterName
  split
  · exact ok none
  · exact bind (loads_utf8 pool _) fun _ => ok _

/-- The only parts of a method that operands are read from are the codes among its attributes. -/
theorem loads_resolveAttributes (bootstraps : List (List Nat)) (attributes : List Attribute)
    (m : Method)
    (hcut : ∀ code handlers nested, Attribute.code code handlers nested ∈ attributes →
      ∀ offset, IsCut code.length offset → cut offset) :
    LoadsAs pool.name cut (resolveAttributes pool bootstraps m attributes) := by
  induction attributes generalizing m with
  | nil => exact ok m
  | cons a attributes ih =>
    have hrest := fun m => ih m fun code handlers nested h =>
      hcut code handlers nested (List.mem_cons_of_mem _ h)
    cases a
    case code code handlers nested =>
      refine bind (loads_resolveLocals pool _) fun _ => bind ?_ fun _ => hrest _
      exact (loads_decodeCode pool _ _ _ _).mono (hcut code handlers nested List.mem_cons_self)
    case signature text => exact bind (loads_utf8 pool _) fun _ => hrest _
    case annotations raw => exact bind (loads_annotations pool _) fun _ => hrest _
    case parameterAnnotations raw =>
      exact bind (LoadsAs.mapAll fun _ _ => loads_annotations pool _) fun _ => hrest _
    case parameterNames indexes =>
      exact bind (LoadsAs.mapAll fun _ _ => loads_resolveParameterName pool _) fun _ => hrest _
    all_goals exact hrest _

/-! ## Class files -/

/-- In the code of a method of the container an operand at the offset is cut off: fewer than four
bytes are left there. -/
def Container.CutAt (c : Container) (offset : Nat) : Prop :=
  ∃ m ∈ c.methods, ∃ code handlers nested, Attribute.code code handlers nested ∈ m.attributes ∧
    IsCut code.length offset

theorem loads_resolveSuperclass (index : Nat) :
    LoadsAs pool.name cut (resolveSuperclass pool index) := by
  unfold resolveSuperclass
  split
  · exact ok none
  · exact bind (loads_className pool _) fun _ => ok _

/-- A container that is refused names the unit, unless code in it is cut off at an operand. -/
theorem loads_resolve (c : Container) (name : String) : LoadsAs name c.CutAt (c.resolve name) := by
  let pool : Pool := { name, entries := c.entries }
  refine bind (loads_resolveSuperclass pool _) fun superclass => ?_
  refine bind (LoadsAs.mapAll fun _ _ => loads_className pool _) fun interfaces => ?_
  refine bind (loads_describe pool _ _) fun d => ?_
  refine bind (LoadsAs.mapAll fun _ _ => loads_resolveField pool _) fun fields => ?_
  refine bind (LoadsAs.mapAll fun m hm => ?_) fun methods => ?_
  · refine bind (loads_utf8 pool _) fun _ => bind (loads_utf8 pool _) fun _ => ?_
    exact loads_resolveAttributes pool _ _ _ fun code handlers nested h offset short =>
      ⟨m, hm, code, handlers, nested, h, short⟩
  · exact bind (loads_className pool _) fun _ => ok _

/-- **A fault of loading names the unit, unless an operand is cut off.** Whichever library reads the
container, a class file that cannot be decoded is refused with its own name and any reason but this
one, wherever it is malformed; or with the name that stands for code, and then an operand in the
code of one of the methods of its container is cut off. -/
theorem decode_faults [ContainerParser] {name : String} {bytes : List UInt8} {fault : Fault}
    (h : decode name bytes = .error fault) :
    (∃ reason, fault = .decode name reason ∧ ∀ offset, reason ≠ .operandBounds offset) ∨
      ∃ container offset, ContainerParser.parse bytes = .ok container ∧ container.CutAt offset ∧
        fault = .decode codeName (.operandBounds offset) := by
  unfold decode classOf at h
  split at h
  next container hparse =>
    cases loads_resolve container name fault h with
    | named whole => exact .inl ⟨_, rfl, whole⟩
    | operand short => exact .inr ⟨container, _, hparse, short, rfl⟩
  next text _ =>
    cases h
    exact .inl ⟨.unparsed text, rfl, fun _ => by simp⟩

/-- The class `com/acme/A` with one method, whose code is one byte: an instruction that pushes a
number, without the number. -/
def cutClass : List UInt8 :=
  [0xca, 0xfe, 0xba, 0xbe, 0, 0, 0, 52,
    -- The constant pool: the class and its superclass, and three texts for the method.
    0, 8,
    1, 0, 10, 99, 111, 109, 47, 97, 99, 109, 101, 47, 65,
    7, 0, 1,
    1, 0, 16, 106, 97, 118, 97, 47, 108, 97, 110, 103, 47, 79, 98, 106, 101, 99, 116,
    7, 0, 3,
    1, 0, 4, 67, 111, 100, 101,
    1, 0, 1, 109,
    1, 0, 3, 40, 41, 86,
    -- The class has neither interfaces nor fields, and one method.
    0, 0x21, 0, 2, 0, 4, 0, 0, 0, 0, 0, 1,
    0, 1, 0, 6, 0, 7, 0, 1,
    0, 5, 0, 0, 0, 13, 0, 9, 0, 9, 0, 0, 0, 1, Opcode.bipush, 0, 0, 0, 0,
    0, 0]

/-- The container of `cutClass`. -/
def cutContainer : Container where
  entries := #[.unused, .utf8 "com/acme/A", .classRef 1, .utf8 "java/lang/Object", .classRef 3,
    .utf8 "Code", .utf8 "m", .utf8 "()V"]
  flags := 0x21
  thisClass := 2
  superclass := 4
  interfaces := []
  fields := []
  methods := [{ flags := 1, name := 6, descriptor := 7,
                attributes := [.code [Opcode.bipush] [] []] }]
  attributes := []

/-- The library of the sample, which knows the bytes of `cutClass` alone. -/
abbrev cutParser : ContainerParser where
  parse bytes := if bytes = cutClass then .ok cutContainer else .error "unknown bytes"

theorem parse_cutClass : cutParser.parse cutClass = .ok cutContainer := if_pos rfl

theorem decode_cutClass :
    @decode cutParser "com/acme/A" cutClass = .error (.decode codeName (.operandBounds 1)) := by
  have hrefused : cutContainer.resolve "com/acme/A" = .error ⟨codeName, .operandBounds 1⟩ := by rfl
  simp only [decode, classOf, parse_cutClass, hrefused]
  rfl

/-- The code of the class that is cut has no four bytes left at the offset in the fault. -/
theorem decode_faults_cut :
    @decode cutParser "com/acme/A" cutClass = .error (.decode codeName (.operandBounds 1)) ∧
      cutContainer.CutAt 1 := by
  refine ⟨decode_cutClass, ?_⟩
  rcases @decode_faults cutParser _ _ _ decode_cutClass with
    ⟨reason, heq, whole⟩ | ⟨container, offset, hparse, hcut, heq⟩
  · exact absurd (Fault.decode.inj heq).2.symm (whole 1)
  · obtain rfl : 1 = offset := Refusal.operandBounds.inj (Fault.decode.inj heq).2
    obtain rfl : cutContainer = container := Except.ok.inj (parse_cutClass.symm.trans hparse)
    exact hcut

/-- **A cut operand is refused without the name of its unit.** -/
theorem decode_operand_cut :
    ∃ fault, @decode cutParser "com/acme/A" cutClass = .error fault ∧
      ∀ reason, fault ≠ .decode "com/acme/A" reason := by
  refine ⟨_, decode_cutClass, fun reason heq => ?_⟩
  have hname : codeName ≠ "com/acme/A" := by decide
  exact hname (Fault.decode.inj heq).1

end ClassFile

end ApiSurface
