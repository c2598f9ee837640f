import ApiSurface.Proofs.Idiom.Exclusion
import ApiSurface.Proofs.Validation.Inversion

/-!
# At most one layout fits

The layouts of a shape are tried one after the other, but it does not matter in which order: of the
layouts of a shape at most one is found before an anchor in decoded code, and there is one way to
match it. What it takes alone decides the rule, whatever stands before.

Main definitions: `recoverRuleIn`, `DecidedBy`, `Unambiguous`. Main statements:
`exclusive_layouts`, `at_most_one_layout`.
-/
namespace ApiSurface.Validation

open ClassFile (InForm)
open Idiom

variable {u : Universe} {shape : ValidatorShape} {layout : Layout}

/-! ## The parts of layouts -/

/-- The forms of a field exclude each other, matched from their last instruction on. -/
theorem exclusive_fieldForm : Exclusive u fun form : FieldForm => form.idiom.reverse := by
  refine exclusive_of_clash fun form other => ?_
  cases form <;> cases other <;> decide +kernel

theorem exclusive_mode : Exclusive u fun _ : Unit => modeIdiom.reverse :=
  exclusive_of_clash fun | (), () => by decide +kernel

/-- A literal is boxed or not, and this is told by its last instruction. -/
theorem exclusive_literal : Exclusive u fun _ : Unit => literalIdiom.reverse :=
  exclusive_of_clash fun | (), () => by decide +kernel

theorem exclusive_single (demand : Constraint) :
    Exclusive u fun form => (Layout.single form demand).idiom.reverse :=
  exclusive_fieldForm

theorem exclusive_withConstant :
    Exclusive u fun form => (Layout.withConstant form).idiom.reverse := by
  have parts : Exclusive u fun form : FieldForm =>
      literalIdiom.reverse ++ (modeIdiom.reverse ++ form.idiom.reverse) :=
    (exclusive_literal.append (exclusive_mode.append exclusive_fieldForm)).mono
      (f := fun form => ((), (), form)) fun _ _ h => (Prod.mk.inj (Prod.mk.inj h).2).2
  simpa only [Layout.idiom, List.reverse_append] using parts

theorem exclusive_withField :
    Exclusive u fun n : FieldForm × FieldForm => (Layout.withField n.1 n.2).idiom.reverse := by
  have parts : Exclusive u fun n : FieldForm × FieldForm =>
      n.2.idiom.reverse ++ (modeIdiom.reverse ++ n.1.idiom.reverse) :=
    (exclusive_fieldForm.append (exclusive_mode.append exclusive_fieldForm)).mono
      (f := fun n : FieldForm × FieldForm => (n.2, (), n.1)) fun _ _ h => by
        obtain ⟨other, h⟩ := Prod.mk.inj h
        exact Prod.ext (Prod.mk.inj h).2 other
  simpa only [Layout.idiom, List.reverse_append] using parts

theorem exclusive_range : Exclusive u fun form => (Layout.range form).idiom.reverse := by
  have parts : Exclusive u fun form : FieldForm =>
      literalIdiom.reverse ++ (literalIdiom.reverse ++ form.idiom.reverse) :=
    (exclusive_literal.append (exclusive_literal.append exclusive_fieldForm)).mono
      (f := fun form => ((), (), form)) fun _ _ h => (Prod.mk.inj (Prod.mk.inj h).2).2
  simpa only [Layout.idiom, List.reverse_append] using parts

/-- **The layouts of a shape exclude each other.** -/
theorem exclusive_layouts (shape : ValidatorShape) :
    Exclusive u fun layout : { layout // layout ∈ layouts shape } => layout.1.idiom.reverse := by
  rintro ⟨layout, mem⟩ ⟨other, mem'⟩ c d window fits decoded fits'
  suffices h : layout = other ∧ c = d from ⟨Subtype.ext h.1, h.2⟩
  cases shape with
  | notNull | notBlank | nullOrNotBlank =>
    obtain ⟨form, -, rfl⟩ := List.mem_map.mp mem
    obtain ⟨form', -, rfl⟩ := List.mem_map.mp mem'
    obtain ⟨rfl, rfl⟩ := exclusive_single _ fits decoded fits'
    exact ⟨rfl, rfl⟩
  | compareToConstant =>
    obtain ⟨form, -, rfl⟩ := List.mem_map.mp mem
    obtain ⟨form', -, rfl⟩ := List.mem_map.mp mem'
    obtain ⟨rfl, rfl⟩ := exclusive_withConstant fits decoded fits'
    exact ⟨rfl, rfl⟩
  | compareToField =>
    obtain ⟨form, -, mem⟩ := List.mem_flatMap.mp mem
    obtain ⟨second, -, rfl⟩ := List.mem_map.mp mem
    obtain ⟨form', -, mem'⟩ := List.mem_flatMap.mp mem'
    obtain ⟨second', -, rfl⟩ := List.mem_map.mp mem'
    obtain ⟨same, rfl⟩ := exclusive_withField (a := (form, second)) (b := (form', second')) fits
      decoded fits'
    cases same
    exact ⟨rfl, rfl⟩
  | between =>
    obtain ⟨form, -, rfl⟩ := List.mem_map.mp mem
    obtain ⟨form', -, rfl⟩ := List.mem_map.mp mem'
    obtain ⟨rfl, rfl⟩ := exclusive_range fits decoded fits'
    exact ⟨rfl, rfl⟩

/-! ## Searching for a layout -/

theorem FieldForm.asks_nothing (form : FieldForm) :
    ∀ p ∈ form.idiom, ∀ base, ¬ p.test.Asks base := by
  intro p hp base asks
  cases form with
  | accessor =>
    simp only [FieldForm.idiom, cast, List.mem_cons, List.not_mem_nil, or_false] at hp
    rcases hp with rfl | rfl | rfl
    · cases asks
    · cases asks
    · cases asks with
      | anyOf mem asks =>
        simp only [List.mem_cons, List.not_mem_nil, or_false] at mem
        rcases mem with rfl | rfl | rfl <;> cases asks
  | singleton =>
    simp only [FieldForm.idiom, List.mem_cons, List.not_mem_nil, or_false] at hp
    rcases hp with rfl | rfl <;> cases asks
  | reference =>
    simp only [FieldForm.idiom, List.mem_cons, List.not_mem_nil, or_false] at hp
    rcases hp with rfl | rfl | rfl | rfl | rfl | rfl | rfl | rfl <;> cases asks

theorem modeIdiom_asks_nothing : ∀ p ∈ modeIdiom, ∀ base, ¬ p.test.Asks base := by
  intro p hp base asks
  obtain rfl := List.mem_singleton.mp hp
  cases asks

theorem literalIdiom_asks_nothing : ∀ p ∈ literalIdiom, ∀ base, ¬ p.test.Asks base := by
  intro p hp base asks
  simp only [literalIdiom, List.mem_cons, List.not_mem_nil, or_false] at hp
  rcases hp with rfl | rfl
  · cases asks
  · cases asks with
    | anyOf mem asks =>
      obtain ⟨w, -, rfl⟩ := List.mem_map.mp mem
      cases asks

/-- No test of a layout asks about the hierarchy. -/
theorem Layout.asks_nothing (layout : Layout) :
    ∀ p ∈ layout.idiom.reverse, ∀ base, ¬ p.test.Asks base := by
  suffices h : ∀ p ∈ layout.idiom, ∀ base, ¬ p.test.Asks base from
    fun p hp => h p (List.mem_reverse.mp hp)
  cases layout with
  | single form _ => exact form.asks_nothing
  | withConstant form =>
    refine List.forall_mem_append.mpr ⟨List.forall_mem_append.mpr ⟨?_, ?_⟩, ?_⟩
    · exact form.asks_nothing
    · exact modeIdiom_asks_nothing
    · exact literalIdiom_asks_nothing
  | withField form other =>
    refine List.forall_mem_append.mpr ⟨List.forall_mem_append.mpr ⟨?_, ?_⟩, ?_⟩
    · exact form.asks_nothing
    · exact modeIdiom_asks_nothing
    · exact other.asks_nothing
  | range form =>
    refine List.forall_mem_append.mpr ⟨List.forall_mem_append.mpr ⟨?_, ?_⟩, ?_⟩
    · exact form.asks_nothing
    · exact literalIdiom_asks_nothing
    · exact literalIdiom_asks_nothing

/-- The instructions before an anchor that are no markers. -/
def realBefore (body : List Instruction) (anchor : Nat) : List Instruction :=
  (body.take anchor).filter (! ·.isMarker)

/-- The search for the arguments of the call at an anchor. -/
abbrev argumentScan (location : String) (body : List Instruction) (anchor : Nat) : Scan :=
  (Scan.before location body anchor).anchor

variable {location : String} {body body' front : List Instruction}
  {anchor anchor' : Nat} {captures : Captures}

/-- The search for a layout does not fail, and it finds nothing only if there is no match. -/
theorem find_cases (u : Universe) (location : String) (body : List Instruction) (anchor : Nat)
    (layout : Layout) :
    (∃ captures, (argumentScan location body anchor).find u layout.idiom = .ok (some captures)) ∨
      (argumentScan location body anchor).find u layout.idiom = .ok none ∧
        ∀ choice, ¬ Fits u layout.idiom.reverse choice (realBefore body anchor).reverse := by
  obtain ⟨_ | taken, hresult⟩ :=
    exists_matchAt (u := u) layout.asks_nothing (realBefore body anchor).reverse
  · exact .inr ⟨find_anchored_eq_none.mpr hresult, fun choice => matchAt_none hresult⟩
  · exact .inl ⟨taken.reverse, find_anchored_eq_some.mpr (by rwa [List.reverse_reverse])⟩

theorem reduceOption_reverse (captures : Captures) :
    captures.reverse.reduceOption = captures.reduceOption.reverse :=
  List.filterMap_reverse

/-- What a layout takes stands right before the anchor. -/
theorem exists_front
    (found : (argumentScan location body anchor).find u layout.idiom = .ok (some captures)) :
    ∃ front, realBefore body anchor = front ++ captures.reduceOption := by
  obtain ⟨rest, hrest⟩ := (matchAt_some (find_anchored_eq_some.mp found)).consecutive
  refine ⟨rest.reverse, ?_⟩
  rw [reduceOption_reverse] at hrest
  have hreal := congrArg List.reverse hrest
  rw [List.reverse_append, List.reverse_reverse, List.reverse_reverse] at hreal
  exact hreal.symm

theorem isDecoded_realBefore (inForm : ∀ i ∈ body, InForm i.payload) (anchor : Nat) :
    ∀ i ∈ realBefore body anchor, i.IsDecoded := by
  intro i hi
  obtain ⟨hi, real⟩ := List.mem_filter.mp hi
  exact ⟨by simpa using real, inForm i (List.mem_of_mem_take hi)⟩

/-- **A layout that is found is found wherever the instructions that it takes stand before an
anchor**, and no other layout of the shape is. -/
theorem found_elsewhere (mem : layout ∈ layouts shape)
    (found : (argumentScan location body anchor).find u layout.idiom = .ok (some captures))
    (inForm : ∀ i ∈ body, InForm i.payload)
    (same : realBefore body' anchor' = front ++ captures.reduceOption) (location' : String) :
    (argumentScan location' body' anchor').find u layout.idiom = .ok (some captures) ∧
      ∀ other ∈ layouts shape, other ≠ layout →
        (argumentScan location' body' anchor').find u other.idiom = .ok none := by
  have decoded : ∀ i ∈ captures.reverse.reduceOption, i.IsDecoded := by
    intro i hi
    obtain ⟨before, hbefore⟩ := exists_front found
    refine isDecoded_realBefore inForm anchor i ?_
    rw [hbefore]
    exact List.mem_append_right _ (List.mem_reverse.mp (reduceOption_reverse captures ▸ hi))
  have starts : captures.reverse.reduceOption <+: (realBefore body' anchor').reverse :=
    ⟨front.reverse, by rw [same, reduceOption_reverse, List.reverse_append]⟩
  obtain ⟨here, others⟩ := (exclusive_layouts shape).matchAt_eq (fun l => l.1.asks_nothing)
    (a := ⟨layout, mem⟩) (find_anchored_eq_some.mp found) decoded starts
  refine ⟨find_anchored_eq_some.mpr here, fun other hother different => ?_⟩
  have none := others ⟨other, hother⟩ fun h => different (congrArg Subtype.val h)
  exact find_anchored_eq_none.mpr none

/-- No other layout of the shape is found where one is. -/
theorem found_alone (mem : layout ∈ layouts shape)
    (found : (argumentScan location body anchor).find u layout.idiom = .ok (some captures))
    (inForm : ∀ i ∈ body, InForm i.payload) :
    ∀ other ∈ layouts shape, other ≠ layout →
      (argumentScan location body anchor).find u other.idiom = .ok none := by
  obtain ⟨front, same⟩ := exists_front found
  exact (found_elsewhere mem found inForm same location).2

/-- A layout is found exactly if there is one way to match it. -/
theorem found_iff (mem : layout ∈ layouts shape) (inForm : ∀ i ∈ body, InForm i.payload) :
    (∃ captures, (argumentScan location body anchor).find u layout.idiom = .ok (some captures)) ↔
      ∃! choice, Fits u layout.idiom.reverse choice (realBefore body anchor).reverse := by
  constructor
  · rintro ⟨captures, found⟩
    have first := matchAt_some (find_anchored_eq_some.mp found)
    refine ⟨_, first.fits, fun choice fits => ?_⟩
    refine (exclusive_layouts shape (a := ⟨layout, mem⟩) (b := ⟨layout, mem⟩) fits ?_ first.fits).2
    intro i hi
    exact isDecoded_realBefore inForm anchor i (List.mem_reverse.mp (List.mem_of_mem_take hi))
  · rintro ⟨choice, fits, -⟩
    rcases find_cases u location body anchor layout with found | ⟨-, none⟩
    · exact found
    · exact absurd fits (none choice)

/-! ## The rule -/

/-- Where no layout is found, the arguments are not recognized. -/
theorem readFirst_none {scan : Scan} {all : List Layout}
    (none : ∀ layout ∈ all, scan.find u layout.idiom = .ok none) : readFirst u scan all =
      .error (.idiomNotMatched "validator arguments" scan.location scan.dump) := by
  induction all with
  | nil => rfl
  | cons first rest ih =>
    rw [readFirst, none first List.mem_cons_self, ok_bind]
    exact ih fun layout hlayout => none layout (List.mem_cons_of_mem _ hlayout)

/-- Either a layout is found, or none is. -/
theorem found_or_none (u : Universe) (location : String) (body : List Instruction) (anchor : Nat)
    (shape : ValidatorShape) :
    (∃ layout ∈ layouts shape, ∃ captures,
      (argumentScan location body anchor).find u layout.idiom = .ok (some captures)) ∨
    ∀ layout ∈ layouts shape,
      (argumentScan location body anchor).find u layout.idiom = .ok none := by
  by_cases h : ∃ layout ∈ layouts shape, ∃ captures,
      (argumentScan location body anchor).find u layout.idiom = .ok (some captures)
  · exact .inl h
  · refine .inr fun layout mem => ?_
    rcases find_cases u location body anchor layout with found | ⟨none, -⟩
    · exact absurd ⟨layout, mem, found⟩ h
    · exact none

/-- Recover a rule with the layouts of each shape tried in some order. -/
def recoverRuleIn (order : ValidatorShape → List Layout) (u : Universe) (markers : Markers)
    (location : String) (body : List Instruction) (anchor : Nat) (validator : String) :
    Except Fault ValidationRule := do
  let shape ← shapeOf u markers validator location
  let (field, constraint) ← readFirst u (argumentScan location body anchor) (order shape)
  .ok { validator, field, constraint }

theorem recoverRuleIn_layouts : recoverRuleIn layouts = recoverRule := rfl

/-- It does not matter in which order the layouts of a shape are tried. -/
theorem readFirst_perm {all : List Layout} (perm : all.Perm (layouts shape))
    (inForm : ∀ i ∈ body, InForm i.payload) :
    readFirst u (argumentScan location body anchor) all =
      readFirst u (argumentScan location body anchor) (layouts shape) := by
  rcases found_or_none u location body anchor shape with ⟨layout, mem, captures, found⟩ | none
  · have others := found_alone mem found inForm
    rw [readFirst_eq mem found others, readFirst_eq (perm.mem_iff.mpr mem) found
      fun other hother => others other (perm.mem_iff.mp hother)]
  · rw [readFirst_none none,
      readFirst_none fun layout hlayout => none layout (perm.mem_iff.mp hlayout)]

/-- The rule is recovered wherever the arguments stand right before the anchor. -/
def DecidedBy (u : Universe) (markers : Markers) (location validator : String)
    (arguments : List Instruction) (rule : ValidationRule) : Prop :=
  ∀ body anchor front, realBefore body anchor = front ++ arguments →
    recoverRule u markers location body anchor validator = .ok rule

/-- The arguments before an anchor can be read in one way. -/
structure Unambiguous (u : Universe) (location : String) (body : List Instruction) (anchor : Nat) :
    Prop where
  /-- At most one layout of a shape is found. -/
  sole : ∀ shape, ∀ layout ∈ layouts shape, ∀ other ∈ layouts shape, ∀ captures captures',
    (argumentScan location body anchor).find u layout.idiom = .ok (some captures) →
      (argumentScan location body anchor).find u other.idiom = .ok (some captures') →
        layout = other
  /-- A layout is found exactly if there is one choice of its optional patterns that matches. -/
  once : ∀ shape, ∀ layout ∈ layouts shape,
    (∃ captures, (argumentScan location body anchor).find u layout.idiom = .ok (some captures)) ↔
      ∃! choice, Fits u layout.idiom.reverse choice (realBefore body anchor).reverse
  /-- Layouts may be tried in any order. -/
  order : ∀ markers validator order, (∀ shape, (order shape).Perm (layouts shape)) →
    recoverRuleIn order u markers location body anchor validator =
      recoverRule u markers location body anchor validator
  /-- A rule that is recovered depends on nothing but what a layout takes. -/
  decided : ∀ markers validator rule,
    recoverRule u markers location body anchor validator = .ok rule →
      ∃ shape layout captures front, shapeOf u markers validator location = .ok shape ∧
        layout ∈ layouts shape ∧
        (argumentScan location body anchor).find u layout.idiom = .ok (some captures) ∧
        realBefore body anchor = front ++ captures.reduceOption ∧
        DecidedBy u markers location validator captures.reduceOption rule

/-- **In decoded code at most one layout of a shape fits before an anchor, and in one way.** So a
rule depends neither on the order of the layouts nor on what stands before the arguments. -/
theorem at_most_one_layout (u : Universe) (location : String) {body : List Instruction}
    (inForm : ∀ i ∈ body, InForm i.payload) (anchor : Nat) :
    Unambiguous u location body anchor where
  sole shape layout mem other mem' captures captures' found found' := by
    by_contra different
    have none := found_alone mem found inForm other mem' (Ne.symm different)
    cases none.symm.trans found'
  once shape layout mem := found_iff mem inForm
  order markers validator order perm := by
    rw [← recoverRuleIn_layouts, recoverRuleIn, recoverRuleIn]
    cases shapeOf u markers validator location with
    | error fault => rfl
    | ok shape => rw [ok_bind, ok_bind, readFirst_perm (perm shape) inForm]
  decided markers validator rule h := by
    obtain ⟨shape, hshape, h⟩ := bind_eq_ok.mp h
    obtain ⟨⟨field, constraint⟩, hread, h⟩ := bind_eq_ok.mp h
    cases h
    rcases found_or_none u location body anchor shape with ⟨layout, mem, captures, found⟩ | none
    · obtain ⟨front, same⟩ := exists_front found
      refine ⟨shape, layout, captures, front, hshape, mem, found, same, ?_⟩
      intro body' anchor' front' same'
      obtain ⟨found', others'⟩ := found_elsewhere mem found inForm same' location
      rw [readFirst_eq mem found (found_alone mem found inForm)] at hread
      have hread' := readFirst_eq mem found' others'
      have hsame : (argumentScan location body' anchor').location =
        (argumentScan location body anchor).location := rfl
      rw [hsame, hread] at hread'
      rw [recoverRule, hshape, ok_bind]
      simp only [hread', ok_bind]
    · cases (readFirst_none none).symm.trans hread

/-- The code that constructs the validator of a period, with markers in it. -/
def periodBody : List Instruction := periodFront ++ periodCode ++ periodBack

/-- The rule of a period is the same if the layouts are tried from the last one on. -/
theorem at_most_one_layout_period :
    (∀ i ∈ periodBody, InForm i.payload) ∧ Unambiguous periods "m" periodBody 10 ∧
      recoverRuleIn (fun shape => (layouts shape).reverse) periods periodMarkers "m" periodBody 10
        "p/Before" = .ok ⟨"p/Before", ⟨"p/Period", "start"⟩,
          .compareToField "LESS" ⟨"p/Period", "end"⟩⟩ := by
  have inForm : ∀ i ∈ periodBody, InForm i.payload := by decide +kernel
  have unambiguous := at_most_one_layout periods "m" inForm 10
  refine ⟨inForm, unambiguous, ?_⟩
  rw [unambiguous.order _ _ _ fun shape => List.reverse_perm _]
  rfl

end ApiSurface.Validation
