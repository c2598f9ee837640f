import ApiSurface.Proofs.Idiom.Matching
import ApiSurface.Proofs.Validation.Construction

/-!
# Recovery inverts construction

The rule that is read off the pushes before a validator is constructed is the rule that they stand
for. The idiom of a field form takes the pushes of that form with their field, and refuses those of
the other two, so only the layout is found that was compiled.

Main statements: `PushesField.reads`, `PushesField.refuses`, `recoverRule_inverts`.
-/
namespace ApiSurface.Validation

open Idiom

variable {u : Universe}

/-! ## Properties of classes -/

section Search

variable {α : Type} {p : List Instruction → α → Prop} {reads : Captures → α → Prop} {idiom : Idiom}
  {window : List Instruction} {a : α}

/-- A search finds the first place where there is a value, if the idiom matches exactly where there
is one. -/
theorem First.search (first : First p window a)
    (hits : ∀ w a, p w a → ∃ captures, matchAt u idiom w = .ok (some captures) ∧
      reads captures a)
    (fails : ∀ w, (∀ a, ¬ p w a) → matchAt u idiom w = .ok none) :
    ∃ captures, search u idiom false window = .ok (some captures) ∧ reads captures a := by
  induction first with
  | @here window a h =>
    obtain ⟨captures, hmatch, hreads⟩ := hits window a h
    refine ⟨captures, ?_, hreads⟩
    cases window with
    | nil => exact hmatch
    | cons i rest => rw [search_cons, hmatch, ok_bind]
  | @later i window a none _ ih =>
    obtain ⟨captures, hsearch, hreads⟩ := ih
    refine ⟨captures, ?_, hreads⟩
    rw [search_cons, fails _ none]
    exact hsearch

/-- A search finds nothing where there is no value. -/
theorem Nowhere.search (nowhere : Nowhere p window)
    (fails : ∀ w, (∀ a, ¬ p w a) → matchAt u idiom w = .ok none) :
    search u idiom false window = .ok none := by
  induction window with
  | nil => exact fails [] fun a => nowhere [] [] a rfl
  | cons i rest ih =>
    rw [search_cons, fails _ fun a => nowhere [] _ a rfl]
    exact ih fun front back a h => nowhere (i :: front) back a (by rw [h, List.cons_append])

end Search

theorem holds_literal {p : Payload} :
    Test.literal.holds u p = .ok true ↔ p.literal?.isSome = true := by
  simp [Test.holds]

theorem holds_referenceCall {p : Payload} :
    (Test.call none (some "<init>") (some referenceInit)).holds u p = .ok true ↔
      ∃ call, p = .call call ∧ call.name = "<init>" ∧ call.descriptor = referenceInit := by
  cases p with
  | call c => simp [Test.holds, Test.holdsCall, eq_comm (b := c.name), eq_comm (b := c.descriptor)]
  | _ => simp [Test.holds]

theorem holds_use {p : Payload} :
    (Test.anyOf [.kind .call, .opcode Opcode.areturn]).holds u p = .ok true ↔
      (∃ call, p = .call call) ∨ p.opcode? = some Opcode.areturn := by
  cases p with
  | call c => simp [Test.holds, Test.holdsAny, Payload.kind]
  | _ => simp [Test.holds, Test.holdsAny, Payload.kind]

theorem matchAt_singletonInit {window : List Instruction} {owner name : Constant}
    (h : HandsOn window (owner, name)) :
    ∃ captures, matchAt u singletonInit window = .ok (some captures) ∧
      capturedLiteral captures 0 = some owner ∧ capturedLiteral captures 1 = some name := by
  cases h with
  | @intro i j k l init rest _ _ call first second third fourth calls constructor descriptor =>
    refine ⟨[some i, some j, some k, some l, some init], ?_, ?_, ?_⟩
    · unfold singletonInit literalPush referenceCall
      rw [matchAt_required (holds_literal.mpr (by simp [first])),
        matchAt_required (holds_literal.mpr (by simp [second])),
        matchAt_required (holds_literal.mpr third), matchAt_required (holds_literal.mpr fourth),
        matchAt_required (holds_referenceCall.mpr ⟨call, calls, constructor, descriptor⟩)]
      rfl
    · simpa [capturedLiteral, captured] using first
    · simpa [capturedLiteral, captured] using second

theorem matchAt_singletonInit_none {window : List Instruction} (h : ∀ a, ¬ HandsOn window a) :
    matchAt u singletonInit window = .ok none := by
  have asks : ∀ p ∈ singletonInit, ∀ base, ¬ p.test.Asks base := by
    intro p hp base hasks
    simp only [singletonInit, List.mem_cons, List.not_mem_nil, or_false] at hp
    rcases hp with rfl | rfl | rfl | rfl | rfl <;> cases hasks
  obtain ⟨result, hresult⟩ := exists_matchAt (u := u) asks window
  cases result with
  | none => exact hresult
  | some captures =>
    obtain ⟨i, _, _, rfl, -, hi, hresult⟩ := matchAt_required_eq_some hresult
    obtain ⟨j, _, _, rfl, -, hj, hresult⟩ := matchAt_required_eq_some hresult
    obtain ⟨k, _, _, rfl, -, hk, hresult⟩ := matchAt_required_eq_some hresult
    obtain ⟨l, _, _, rfl, -, hl, hresult⟩ := matchAt_required_eq_some hresult
    obtain ⟨init, _, _, rfl, -, hinit, -⟩ := matchAt_required_eq_some hresult
    obtain ⟨owner, howner⟩ := Option.isSome_iff_exists.mp (holds_literal.mp hi)
    obtain ⟨name, hname⟩ := Option.isSome_iff_exists.mp (holds_literal.mp hj)
    obtain ⟨call, hcall, hconstructor, hdescriptor⟩ := holds_referenceCall.mp hinit
    exact absurd (HandsOn.intro howner hname (holds_literal.mp hk) (holds_literal.mp hl) hcall
      hconstructor hdescriptor) (h (owner, name))

theorem matchAt_returnedLiteral {window : List Instruction} {value : Constant}
    (h : Returned window value) :
    ∃ captures, matchAt u returnedLiteral window = .ok (some captures) ∧
      capturedLiteral captures 0 = some value := by
  cases h with
  | @intro i next rest _ literal uses =>
    refine ⟨[some i, some next], ?_, by simpa [capturedLiteral, captured] using literal⟩
    unfold returnedLiteral literalPush
    rw [matchAt_required (holds_literal.mpr (by simp [literal])),
      matchAt_required (holds_use.mpr uses)]
    rfl

theorem matchAt_returnedLiteral_none {window : List Instruction} (h : ∀ a, ¬ Returned window a) :
    matchAt u returnedLiteral window = .ok none := by
  have asks : ∀ p ∈ returnedLiteral, ∀ base, ¬ p.test.Asks base := by
    intro p hp base hasks
    simp only [returnedLiteral, List.mem_cons, List.not_mem_nil, or_false] at hp
    rcases hp with rfl | rfl
    · cases hasks
    · cases hasks with
      | anyOf mem hasks =>
        simp only [List.mem_cons, List.not_mem_nil, or_false] at mem
        rcases mem with rfl | rfl <;> cases hasks
  obtain ⟨result, hresult⟩ := exists_matchAt (u := u) asks window
  cases result with
  | none => exact hresult
  | some captures =>
    obtain ⟨i, _, _, rfl, -, hi, hresult⟩ := matchAt_required_eq_some hresult
    obtain ⟨next, _, _, rfl, -, hnext, -⟩ := matchAt_required_eq_some hresult
    obtain ⟨value, hvalue⟩ := Option.isSome_iff_exists.mp (holds_literal.mp hi)
    exact absurd (Returned.intro hvalue (holds_use.mp hnext)) (h value)

/-- The literal that a method returns is read. -/
theorem literalOf_eq {c : Class} {name : String} {value : Constant} (h : Returns c name value)
    (location : String) : literalOf u location c name = .ok (some value) := by
  obtain ⟨m, hm, first⟩ := h
  obtain ⟨captures, hsearch, hvalue⟩ := first.search
    (fun _ _ => matchAt_returnedLiteral (u := u)) fun _ => matchAt_returnedLiteral_none
  have hfind : (Scan.forward location m.body).find u returnedLiteral = .ok (some captures) :=
    hsearch
  simp [literalOf, hm, hfind, hvalue]

/-- **The property that a class stands for is read off the class.** -/
theorem singletonTarget_eq {path : String} {target : FieldTarget} (h : NamesProperty u path target)
    (location : String) : singletonTarget u location path = .ok target := by
  cases h with
  | @constructed record c init owner name found info method hands =>
    obtain ⟨captures, hsearch, howner, hname⟩ := hands.search
      (fun _ a => matchAt_singletonInit (u := u)) fun _ => matchAt_singletonInit_none
    have hfind : (Scan.forward location init.body).find u singletonInit = .ok (some captures) :=
      hsearch
    simp [singletonTarget, found, info, method, hfind, howner, hname, literalTarget, located]
  | @overridden record c owner name found info hands getOwner getName =>
    have htarget : overriddenTarget u location c path = .ok ⟨owner, name⟩ := by
      simp [overriddenTarget, literalOf_eq getOwner, literalOf_eq getName]
    cases method : c.method? "<init>" none with
    | none => simp [singletonTarget, found, info, method, htarget]
    | some init =>
      have hfind : (Scan.forward location init.body).find u singletonInit = .ok none :=
        (hands init method).search fun _ => matchAt_singletonInit_none
      simp [singletonTarget, found, info, method, hfind, htarget]

/-! ## The forms of a field -/

variable {form : FieldForm} {pushes casts : List Instruction} {target : FieldTarget}

theorem propertyName?_eq {getter property : String} (h : NamesGetter getter property) :
    propertyName? getter = some property := by
  cases h with
  | get upper => simp [propertyName?, upper]
  | is upper => simp [propertyName?, upper]

/-- A cast is what an optional cast takes, after a pattern that does not take casts. -/
theorem Casts.optionally {test : Test} (h : Casts casts)
    (refuses : ∀ type, test.holds u (.type Opcode.checkcast type) = .ok false) :
    Optionally u test (.opcode Opcode.checkcast) casts := by
  cases h with
  | none => exact .absent
  | cast => exact .present rfl (refuses _)

/-- The object that an accessor is for is taken with its cast. -/
theorem takes_object (h : Casts casts) (offset slot : Nat) :
    Takes u [.required (.opcode .aload), cast] (⟨offset, .localSlot Opcode.aload slot⟩ :: casts)
      [some ⟨offset, .localSlot Opcode.aload slot⟩, casts.head?] :=
  takes_optional rfl rfl (h.optionally fun _ => rfl)

/-- What a field argument is read from. -/
structure Reads (u : Universe) (form : FieldForm) (pushes : List Instruction) (target : FieldTarget)
    (captures : Captures) : Prop where
  takes : Takes u form.idiom pushes captures
  length : captures.length = form.idiom.length
  target : ∀ location, form.target u location captures = .ok target

/-- **The idiom of a form takes the pushes of the form, and the field is read off them.** -/
theorem PushesField.reads (h : PushesField u form pushes target) :
    ∃ captures, Reads u form pushes target captures := by
  cases h with
  | @read at₀ at₁ slot casts owner name descriptor hcasts =>
    exact ⟨_, (takes_object hcasts _ _).append (takes_required rfl), rfl, fun _ => rfl⟩
  | @getter at₀ at₁ slot casts kind owner name property descriptor hcasts dynamic named bare =>
    refine ⟨_, (takes_object hcasts _ _).append (takes_required (i := ⟨at₁, .call _⟩) ?_), rfl,
      fun _ => ?_⟩
    · rcases dynamic with rfl | rfl <;> rfl
    · simp [FieldForm.target, captured, accessorTarget, bare, propertyName?_eq named, located]
  | @singleton at₀ casts owner descriptor target hcasts names =>
    exact ⟨_, takes_optional rfl rfl (hcasts.optionally fun _ => rfl), rfl,
      fun location => singletonTarget_eq names location⟩
  | @reference at₀ at₁ at₂ casts i j k l type referenced owner name hcasts first second third
      fourth =>
    have literal {i : Instruction} (h : i.payload.literal?.isSome = true) :
        Takes u [literalPush] [i] [some i] := takes_required (holds_literal.mpr h)
    have init : Takes u [referenceCall, cast]
        (⟨at₂, .call ⟨.special, referenced, "<init>", referenceInit⟩⟩ :: casts) _ :=
      takes_optional rfl rfl (hcasts.optionally fun _ => rfl)
    have hfirst : i.payload.literal?.isSome = true := by simp [first]
    have hsecond : j.payload.literal?.isSome = true := by simp [second]
    have literals := ((literal hfirst).append (literal hsecond)).append
      ((literal third).append (literal fourth))
    have object : Takes u [.required (.opcode .newObject), .required (.opcode .dup)]
        [⟨at₀, .type Opcode.newObject type⟩, ⟨at₁, .op Opcode.dup⟩] _ :=
      (takes_required rfl).append (takes_required rfl)
    refine ⟨_, (object.append literals).append init, rfl, fun location => ?_⟩
    simp [FieldForm.target, capturedLiteral, captured, first, second, literalTarget, located]

/-- The test of the instruction that ends the pushes of a form, but for a cast. -/
def FieldForm.lastTest : FieldForm → Test
  | accessor =>
    .anyOf [.field none none none (some false), .opcode .invokevirtual, .opcode .invokeinterface]
  | singleton => .field none (some "INSTANCE") none (some true)
  | reference => .call none (some "<init>") (some referenceInit)

/-- An idiom refuses pushes that end in an instruction of another form. -/
theorem refuses_of_lastTest {i : Instruction} (form : FieldForm) (first : List Instruction)
    (hcasts : Casts casts) (hi : form.lastTest.holds u i.payload = .ok false)
    (hcast : (Test.opcode Opcode.checkcast).holds u i.payload = .ok false) :
    Refuses u form.idiom (first ++ i :: casts) := by
  have refused (front : Idiom) (hoptionally) :
      Refuses u (front ++ [.required form.lastTest, cast]) (first ++ i :: casts) :=
    (refuses_optional hi hcast hoptionally).append front first
  cases form with
  | accessor =>
    have last {j : Instruction} (first : List Instruction)
        (hj : FieldForm.accessor.lastTest.holds u j.payload = .ok false) :
        Refuses u FieldForm.accessor.idiom (first ++ [j]) :=
      (refuses_required hj).append [.required (.opcode .aload), cast] first
    cases hcasts with
    | none => exact last first hi
    | @cast offset type =>
      have htype := last (j := ⟨offset, .type Opcode.checkcast type⟩) (first ++ [i]) rfl
      simpa using htype
  | singleton => exact refused [] (hcasts.optionally fun _ => rfl)
  | reference =>
    exact refused
      [.required (.opcode .newObject), .required (.opcode .dup), literalPush, literalPush,
        literalPush, literalPush]
      (hcasts.optionally fun _ => rfl)

/-- A getter is not a constructor. -/
theorem NamesGetter.ne_init {getter property : String} (h : NamesGetter getter property) :
    "<init>" ≠ getter := by
  rintro rfl
  generalize hname : "<init>" = name at h
  cases h <;> simpa using congrArg String.toList hname

/-- **The idiom of another form does not match the pushes**: their last instruction but for a cast
does not pass. -/
theorem PushesField.refuses (h : PushesField u form pushes target) {other : FieldForm}
    (different : other ≠ form) : Refuses u other.idiom pushes := by
  cases h with
  | @read at₀ at₁ slot casts owner name descriptor hcasts =>
    refine refuses_of_lastTest other _ .none ?_ rfl
    cases other with
    | accessor => exact absurd rfl different
    | singleton =>
      simp [FieldForm.lastTest, Test.holds, Test.holdsField, FieldAccess.isStatic, Opcode.getfield,
        Opcode.getstatic, Opcode.putstatic]
    | reference => rfl
  | @getter at₀ at₁ slot casts kind owner name property descriptor hcasts dynamic named bare =>
    refine refuses_of_lastTest (i := ⟨at₁, .call _⟩) other _ .none ?_ ?_
    · cases other with
      | accessor => exact absurd rfl different
      | singleton => rfl
      | reference => simp [FieldForm.lastTest, Test.holds, Test.holdsCall, named.ne_init]
    · rcases dynamic with rfl | rfl <;> rfl
  | @singleton at₀ casts owner descriptor target hcasts names =>
    refine refuses_of_lastTest other [] hcasts ?_ rfl
    cases other with
    | singleton => exact absurd rfl different
    | _ => rfl
  | @reference at₀ at₁ at₂ casts i j k l type referenced owner name hcasts first second third
      fourth =>
    refine refuses_of_lastTest other [_, _, _, _, _, _] hcasts ?_ rfl
    cases other with
    | reference => exact absurd rfl different
    | _ => rfl

/-! ## Modes and literals -/

theorem PushesMode.reads {modes : List Instruction} {mode : String} (h : PushesMode modes mode) :
    ∃ captures, Takes u modeIdiom modes captures ∧ captures.length = modeIdiom.length ∧
      ∀ more, modeName (captures ++ more) = .ok mode := by
  cases h with
  | read => exact ⟨_, takes_required rfl, rfl, fun _ => rfl⟩

theorem PushesLiteral.reads {literals : List Instruction} {value : Constant}
    (h : PushesLiteral literals value) :
    ∃ captures, Takes u literalIdiom literals captures ∧ captures.length = literalIdiom.length ∧
      ∀ more, literalValue (captures ++ more) = .ok value := by
  -- What is pushed is no call, so boxing is left out unless it is there.
  have reads {i : Instruction} {boxing : List Instruction}
      (literal : i.payload.literal? = some value)
      (hboxing : Optionally u .literal
        (.anyOf (wrappers.map fun w => .call (some (.exact w)) (some "valueOf") none)) boxing) :
      ∃ captures, Takes u literalIdiom (i :: boxing) captures ∧
        captures.length = literalIdiom.length ∧
        ∀ more, literalValue (captures ++ more) = .ok value := by
    refine ⟨_, takes_optional (holds_literal.mpr (by simp [literal])) ?_ hboxing, rfl, fun _ => ?_⟩
    · cases hpayload : i.payload with
      | call call => simp [hpayload, Payload.literal?] at literal
      | _ => rfl
    · simp [literalValue, capturedLiteral, captured, literal]
  cases h with
  | plain literal => exact reads literal .absent
  | @boxed i _ offset wrapper descriptor literal mem =>
    refine reads literal (.present ?_ rfl)
    simp only [wrappers, List.mem_cons, List.not_mem_nil, or_false] at mem
    rcases mem with rfl | rfl | rfl | rfl | rfl <;> rfl

/-! ## Layouts -/

theorem mem_fieldForms (form : FieldForm) : form ∈ fieldForms := by
  cases form <;> decide

/-- The pushes of arguments are those of one layout. -/
structure LaidOut (u : Universe) (shape : ValidatorShape) (pushes : List Instruction)
    (field : FieldTarget) (constraint : Constraint) (layout : Layout) (captures : Captures) :
    Prop where
  mem : layout ∈ layouts shape
  takes : Takes u layout.idiom pushes captures
  read : ∀ location, layout.read u location captures = .ok (field, constraint)
  others : ∀ other ∈ layouts shape, other ≠ layout → Refuses u other.idiom pushes

/-- A field alone. -/
theorem laidOut_single {shape : ValidatorShape} {demand : Constraint} {field : FieldTarget}
    (hshape : layouts shape = fieldForms.map (.single · demand))
    (h : PushesField u form pushes field) :
    ∃ layout captures, LaidOut u shape pushes field demand layout captures := by
  obtain ⟨captures, reads⟩ := h.reads
  refine ⟨.single form demand, captures, ?_, reads.takes, fun location => ?_, ?_⟩
  · rw [hshape]
    exact List.mem_map_of_mem (mem_fieldForms form)
  · simp [Layout.read, reads.target]
  · intro other hother different
    rw [hshape] at hother
    obtain ⟨otherForm, -, rfl⟩ := List.mem_map.mp hother
    exact h.refuses fun hform => different (by rw [hform])

/-- The arguments of a validator are laid out in one way. -/
theorem PushesArguments.laidOut {shape : ValidatorShape} {field : FieldTarget}
    {constraint : Constraint} (h : PushesArguments u shape pushes field constraint) :
    ∃ layout captures, LaidOut u shape pushes field constraint layout captures := by
  cases h with
  | notNull h => exact laidOut_single rfl h
  | notBlank h => exact laidOut_single rfl h
  | nullOrNotBlank h => exact laidOut_single rfl h
  | @compareToConstant form pushes modes literals field mode value h hmode hvalue =>
    obtain ⟨captures, reads⟩ := h.reads
    obtain ⟨modeCaptures, takesMode, lengthMode, readMode⟩ := hmode.reads (u := u)
    obtain ⟨valueCaptures, takesValue, -, readValue⟩ := hvalue.reads (u := u)
    refine ⟨.withConstant form, _, List.mem_map_of_mem (mem_fieldForms form),
      (reads.takes.append takesMode).append takesValue, fun location => ?_, ?_⟩
    · have hvalue := readValue []
      rw [List.append_nil] at hvalue
      simp [Layout.read, ← reads.length, ← lengthMode, reads.target, readMode, hvalue, located]
    · intro other hother different
      obtain ⟨otherForm, -, rfl⟩ := List.mem_map.mp hother
      have refuses := h.refuses fun hform : otherForm = form => different (by rw [hform])
      exact (refuses.append_takes takesMode).append_takes takesValue
  | @compareToField form otherForm pushes modes others field other mode h hmode hother =>
    obtain ⟨captures, reads⟩ := h.reads
    obtain ⟨modeCaptures, takesMode, lengthMode, readMode⟩ := hmode.reads (u := u)
    obtain ⟨otherCaptures, otherReads⟩ := hother.reads
    refine ⟨.withField form otherForm, _, ?_,
      (reads.takes.append takesMode).append otherReads.takes, fun location => ?_, ?_⟩
    · exact List.mem_flatMap.mpr
        ⟨form, mem_fieldForms form, List.mem_map_of_mem (mem_fieldForms otherForm)⟩
    · simp [Layout.read, ← reads.length, ← lengthMode, reads.target, readMode, otherReads.target,
        located]
    · intro layout hlayout different
      obtain ⟨form', -, hlayout⟩ := List.mem_flatMap.mp hlayout
      obtain ⟨otherForm', -, rfl⟩ := List.mem_map.mp hlayout
      by_cases hform : otherForm' = otherForm
      · subst hform
        have refuses := h.refuses fun hform : form' = form => different (by rw [hform])
        exact (refuses.append_takes takesMode).append_takes otherReads.takes
      · exact (hother.refuses hform).append _ _
  | @between form pushes mins maxs field min max h hmin hmax =>
    obtain ⟨captures, reads⟩ := h.reads
    obtain ⟨minCaptures, takesMin, lengthMin, readMin⟩ := hmin.reads (u := u)
    obtain ⟨maxCaptures, takesMax, -, readMax⟩ := hmax.reads (u := u)
    refine ⟨.range form, _, List.mem_map_of_mem (mem_fieldForms form),
      (reads.takes.append takesMin).append takesMax, fun location => ?_, ?_⟩
    · have hmax := readMax []
      rw [List.append_nil] at hmax
      simp [Layout.read, ← reads.length, ← lengthMin, reads.target, readMin, hmax, located]
    · intro other hother different
      obtain ⟨otherForm, -, rfl⟩ := List.mem_map.mp hother
      have refuses := h.refuses fun hform : otherForm = form => different (by rw [hform])
      exact (refuses.append_takes takesMin).append_takes takesMax

/-- The first layout that is found is the only one. -/
theorem readFirst_eq {scan : Scan} {layout : Layout} {captures : Captures} {all : List Layout}
    (mem : layout ∈ all) (found : scan.find u layout.idiom = .ok (some captures))
    (others : ∀ other ∈ all, other ≠ layout → scan.find u other.idiom = .ok none) :
    readFirst u scan all = layout.read u scan.location captures := by
  induction all with
  | nil => cases mem
  | cons first rest ih =>
    by_cases hfirst : first = layout
    · subst hfirst
      rw [readFirst, found, ok_bind]
    · rw [readFirst, others first List.mem_cons_self hfirst, ok_bind]
      exact ih ((List.mem_cons.mp mem).resolve_left (Ne.symm hfirst)) fun other hother =>
        others other (List.mem_cons_of_mem _ hother)

/-- **The rule that a validator construction stands for is recovered.** It does not matter what
stands before the pushes of the arguments, which markers are between them, and what follows. -/
theorem recoverRule_inverts {markers : Markers} {location validator : String}
    {shape : ValidatorShape} {pushes code : List Instruction} {field : FieldTarget}
    {constraint : Constraint} (hshape : shapeOf u markers validator location = .ok shape)
    (arguments : PushesArguments u shape pushes field constraint)
    (marked : code.filter (! ·.isMarker) = pushes) (front back : List Instruction) :
    recoverRule u markers location (front ++ code ++ back) (front ++ code).length validator =
      .ok ⟨validator, field, constraint⟩ := by
  obtain ⟨layout, captures, laidOut⟩ := arguments.laidOut
  have hbody : (((front ++ code ++ back).take (front ++ code).length).filter (! ·.isMarker)) =
      front.filter (! ·.isMarker) ++ pushes := by
    rw [List.take_left, List.filter_append, marked]
  have hread := readFirst_eq laidOut.mem (laidOut.takes.find location hbody)
    fun other hother different => (laidOut.others other hother different).find location hbody
  have hlocation : (Scan.before location (front ++ code ++ back)
    (front ++ code).length).anchor.location = location := rfl
  rw [hlocation, laidOut.read] at hread
  rw [recoverRule, hshape, ok_bind]
  simp only [hread, ok_bind]

/-! ## A period that has to start before it ends -/

/-- The constructor of the class that stands for the start of a period. -/
def startInit : Method where
  name := "<init>"
  descriptor := "()V"
  body := [
    ⟨0, .lineNumber 3⟩, ⟨0, .localSlot Opcode.aload 0⟩, ⟨1, .constant (.classRef "p/Period")⟩,
    ⟨3, .constant (.string "start")⟩, ⟨5, .label⟩, ⟨5, .constant (.string "getStart()I")⟩,
    ⟨7, .op Opcode.iconst0⟩, ⟨8, .call ⟨.special, "p/Reference", "<init>", referenceInit⟩⟩,
    ⟨11, .op 0xb1⟩]

/-- The class that stands for the start of a period. -/
def startReference : Class := { name := "p/Start", methods := [startInit] }

/-- The universe of the sample. -/
def periods : Universe :=
  (Universe.ofRecords [.ofClass startReference] {}).toOption.get (by decide +kernel)

/-- The markers of the sample. -/
def periodMarkers : Markers :=
  { validators := ({} : Validators).insert "p/Before" .compareToField }

theorem startReference_names : NamesProperty periods "p/Start" ⟨"p/Period", "start"⟩ := by
  have found : periods.find? "p/Start" = some (.ofClass startReference) := by rfl
  refine .constructed found rfl rfl (.later ?_ (.here (.intro rfl rfl rfl rfl rfl rfl rfl)))
  rintro b ⟨first⟩
  cases first

theorem getEnd_names : NamesGetter "getEnd" "end" := @NamesGetter.get 'E' ['n', 'd'] (by decide)

/-- The start is read from the class that stands for it. -/
def startPushes : List Instruction :=
  [⟨4, .field ⟨Opcode.getstatic, "p/Start", "INSTANCE", "Lp/Start;"⟩⟩,
    ⟨7, .type Opcode.checkcast "p/Property"⟩]

/-- The mode. -/
def modePushes : List Instruction :=
  [⟨10, .field ⟨Opcode.getstatic, "p/Mode", "LESS", "Lp/Mode;"⟩⟩]

/-- The end is read by its getter. -/
def endPushes : List Instruction :=
  [⟨13, .localSlot Opcode.aload 1⟩] ++
    [⟨14, .call ⟨.virtual, "p/Period", "getEnd", "()I"⟩⟩]

theorem period_pushes : PushesArguments periods .compareToField
    (startPushes ++ modePushes ++ endPushes) ⟨"p/Period", "start"⟩
    (.compareToField "LESS" ⟨"p/Period", "end"⟩) := by
  have hstart : PushesField periods .singleton startPushes ⟨"p/Period", "start"⟩ :=
    .singleton .cast startReference_names
  have hend : PushesField periods .accessor endPushes ⟨"p/Period", "end"⟩ :=
    .getter .none (.inl rfl) getEnd_names (by decide)
  exact .compareToField hstart .read hend

/-- The pushes with markers between them. -/
def periodCode : List Instruction :=
  ⟨4, .lineNumber 7⟩ :: startPushes ++ ⟨10, .label⟩ :: modePushes ++
    ⟨13, .lineNumber 8⟩ :: endPushes

/-- The instructions that make the validator. -/
def periodFront : List Instruction :=
  [⟨0, .type Opcode.newObject "p/Before"⟩, ⟨3, .op Opcode.dup⟩]

/-- The call of its constructor. -/
def periodBack : List Instruction := [⟨17, .call ⟨.special, "p/Before", "<init>", "()V"⟩⟩]

/-- The rule of the sample is recovered. -/
theorem recoverRule_inverts_period :
    shapeOf periods periodMarkers "p/Before" "m" = .ok .compareToField ∧
      PushesArguments periods .compareToField (startPushes ++ modePushes ++ endPushes)
        ⟨"p/Period", "start"⟩ (.compareToField "LESS" ⟨"p/Period", "end"⟩) ∧
      periodCode.filter (! ·.isMarker) = startPushes ++ modePushes ++ endPushes ∧
      recoverRule periods periodMarkers "m" (periodFront ++ periodCode ++ periodBack) 10
          "p/Before" =
        .ok ⟨"p/Before", ⟨"p/Period", "start"⟩,
          .compareToField "LESS" ⟨"p/Period", "end"⟩⟩ := by
  have hshape : shapeOf periods periodMarkers "p/Before" "m" = .ok .compareToField := by rfl
  have marked : periodCode.filter (! ·.isMarker) = startPushes ++ modePushes ++ endPushes := by
    decide
  exact ⟨hshape, period_pushes, marked,
    recoverRule_inverts hshape period_pushes marked periodFront periodBack⟩

end ApiSurface.Validation
