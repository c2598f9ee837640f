import ApiSurface.Calls.Step
import ApiSurface.Proofs.Markers.Alike
import ApiSurface.Proofs.Universe.Followed

/-!
# Steps without markers

In two universes that are the same without markers, a method does the same things: it enters the
same methods but for their markers, and its faults are alike. An instruction finds the same
instructions before it at whatever index it stands, and markers do nothing.

Main definition: `Step.Alike`. Main statement: `methodSteps_alike`.
-/
namespace ApiSurface.Calls
open List (Forall₂)

/-- The steps are the same but for markers in methods and indices in faults. -/
inductive Step.Alike : Step → Step → Prop
  | same (step : Step) : Alike step step
  | enter {record record' : ClassRecord} {m m' : Method} (hr : record.unmarked = record'.unmarked)
      (hm : m.unmarked = m'.unmarked) : Alike (.enter record m) (.enter record' m')
  | fail {fault fault' : Fault} (h : fault.Alike fault') : Alike (.fail fault) (.fail fault')

/-- Steps that are alike, one by one. -/
abbrev StepsAlike : List Step → List Step → Prop := Forall₂ Step.Alike

theorem StepsAlike.refl (steps : List Step) : StepsAlike steps steps :=
  List.forall₂_same.mpr fun step _ => .same step

theorem StepsAlike.append {steps steps' more more' : List Step} (h : StepsAlike steps steps')
    (hmore : StepsAlike more more') : StepsAlike (steps ++ more) (steps' ++ more') :=
  List.rel_append h hmore

theorem stepsOrFail_alike {x y : Except Fault (List Step)} (h : OutcomesAlike StepsAlike x y) :
    StepsAlike (stepsOrFail x) (stepsOrFail y) := by
  cases h with
  | ok h => exact h
  | error h => exact .cons (.fail h) .nil

/-! ## Lambdas -/

theorem isLambdaBody_unmarked {m : Method} (real : m.body ≠ [] → realPart m.body ≠ []) :
    isLambdaBody m.unmarked = isLambdaBody m := by
  -- The one place where a walk asks whether there is a body, and so where real bodies matter.
  have hbody : (realPart m.body).isEmpty = m.body.isEmpty := by
    cases hm : m.body with
    | nil => rfl
    | cons i body =>
      have hreal := real (by rw [hm]; exact List.cons_ne_nil i body)
      rw [hm] at hreal
      simpa using hreal
  rw [isLambdaBody, isLambdaBody, Method.unmarked_flags, Method.unmarked_name,
    Method.unmarked_body, hbody]

/-- The bodies of a lambda are told without markers. -/
theorem filter_isLambdaBody {methods : List Method}
    (real : ∀ m ∈ methods, m.body ≠ [] → realPart m.body ≠ []) :
    (methods.filter isLambdaBody).map Method.unmarked =
      (methods.map Method.unmarked).filter isLambdaBody := by
  rw [List.filter_map]
  refine congrArg _ (List.filter_congr fun m hm => ?_)
  exact (isLambdaBody_unmarked (real m hm)).symm

theorem lambdaSteps_alike {markers : Markers} {record record' : ClassRecord}
    (h : record.unmarked = record'.unmarked) (real : record.BodiesReal)
    (real' : record'.BodiesReal) :
    StepsAlike (lambdaSteps markers record) (lambdaSteps markers record') := by
  refine stepsOrFail_alike ((ClassRecord.info_alike h).with_eq.bind fun c c' hc => ?_)
  obtain ⟨hc, hinfo, hinfo'⟩ := hc
  have hlambda : isLambda markers c = isLambda markers c' := by
    change isLambda markers c.unmarked = isLambda markers c'.unmarked
    rw [hc]
  have hbodies : Forall₂ (fun m m' => m.unmarked = m'.unmarked)
      (c.methods.filter isLambdaBody) (c'.methods.filter isLambdaBody) := by
    refine forall₂_of_map_eq ?_
    have hmethods : c.methods.map Method.unmarked = c'.methods.map Method.unmarked :=
      congrArg Class.methods hc
    rw [filter_isLambdaBody (real c hinfo), filter_isLambdaBody (real' c' hinfo'), hmethods]
  rw [hlambda]
  by_cases hl : isLambda markers c'
  · rw [if_pos hl, if_pos hl, ClassRecord.path_eq h]
    generalize c.methods.filter isLambdaBody = bodies at hbodies ⊢
    generalize c'.methods.filter isLambdaBody = bodies' at hbodies ⊢
    cases hbodies with
    | nil => exact .ok (.refl _)
    | cons hm hrest =>
      cases hrest with
      | nil => exact .ok (.cons (.enter h hm) .nil)
      | cons hm' hrest' =>
        simp only [List.length_cons, hrest'.length_eq]
        exact .ok (.refl _)
  · rw [if_neg hl, if_neg hl]
    exact .ok .nil

/-! ## Calls -/

section

variable {u u' : Universe} (hu : u.unmarked = u'.unmarked) {markers : Markers}

include hu

theorem contains_eq (subset : Subset) (path : String) :
    u.contains subset path = u'.contains subset path := by
  rw [← u.contains_unmarked, hu, u'.contains_unmarked]

theorem lookup_alike (path : String) :
    OutcomesAlike (fun r r' => r.unmarked = r'.unmarked) (u.lookup path) (u'.lookup path) := by
  refine .of_map ?_
  rw [← u.lookup_unmarked, hu, u'.lookup_unmarked]

theorem resolveMethod_alike {record record' : ClassRecord}
    (h : record.unmarked = record'.unmarked) (name : String) (descriptor : Option String) :
    OutcomesAlike (fun f f' => Universe.unmarkedResult f = Universe.unmarkedResult f')
      (u.resolveMethod record name descriptor) (u'.resolveMethod record' name descriptor) := by
  refine .of_map ?_
  rw [← u.resolveMethod_unmarked, hu, h, u'.resolveMethod_unmarked]

theorem resolveDefaultMethod_alike {record record' : ClassRecord}
    (h : record.unmarked = record'.unmarked) (name descriptor : String) :
    OutcomesAlike (fun f f' => Universe.unmarkedResult f = Universe.unmarkedResult f')
      (u.resolveDefaultMethod record name descriptor)
      (u'.resolveDefaultMethod record' name descriptor) := by
  refine .of_map ?_
  rw [← u.resolveDefaultMethod_unmarked, hu, h, u'.resolveDefaultMethod_unmarked]

omit hu in
/-- What two searches find is nothing, or the same method but for its markers. -/
theorem unmarkedResult_cases {found found' : Option (ClassRecord × Method)}
    (h : Universe.unmarkedResult found = Universe.unmarkedResult found') :
    (found = none ∧ found' = none) ∨
      ∃ record m record' m', found = some (record, m) ∧ found' = some (record', m') ∧
        record.unmarked = record'.unmarked ∧ m.unmarked = m'.unmarked := by
  cases found with
  | none =>
    cases found' with
    | none => exact .inl ⟨rfl, rfl⟩
    | some p => cases h
  | some p =>
    cases found' with
    | none => cases h
    | some p' =>
      obtain ⟨hr, hm⟩ := Prod.mk.inj (Option.some.inj h)
      exact .inr ⟨p.1, p.2, p'.1, p'.2, rfl, rfl, hr, hm⟩

theorem implementationSteps_alike (call : Call) {record record' : ClassRecord}
    (h : record.unmarked = record'.unmarked) :
    StepsAlike (implementationSteps u call record) (implementationSteps u' call record') := by
  refine stepsOrFail_alike ((resolveMethod_alike hu h _ _).bind fun found found' hf => ?_)
  rcases unmarkedResult_cases hf with ⟨rfl, rfl⟩ | ⟨r, m, r', m', rfl, rfl, hr, hm⟩
  · refine (resolveDefaultMethod_alike hu h _ _).bind fun found found' hf => ?_
    rcases unmarkedResult_cases hf with ⟨rfl, rfl⟩ | ⟨r, m, r', m', rfl, rfl, hr, hm⟩
    · rw [ClassRecord.path_eq h]
      exact .ok (.refl _)
    · exact .ok (.cons (.enter hr hm) .nil)
  · exact .ok (.cons (.enter hr hm) .nil)

theorem implementations_alike (subset : Subset) (path : String) :
    OutcomesAlike (Forall₂ fun r r' => r.unmarked = r'.unmarked)
      (u.implementations subset path) (u'.implementations subset path) := by
  refine .imp (.of_map ?_) fun _ _ => forall₂_of_map_eq
  rw [← u.implementations_unmarked, hu, u'.implementations_unmarked]

theorem dispatchSteps_alike {owner owner' : ClassRecord} (h : owner.unmarked = owner'.unmarked)
    {c c' : Class} (hc : c.unmarked = c'.unmarked) (call : Call) :
    StepsAlike (dispatchSteps u markers owner c call)
      (dispatchSteps u' markers owner' c' call) := by
  have halike := implementations_alike hu .traversal owner'.path
  have hannotations : c.annotations = c'.annotations := by
    rw [← c.unmarked_annotations, hc, c'.unmarked_annotations]
  unfold dispatchSteps
  rw [ClassRecord.path_eq h, hannotations]
  generalize u.implementations .traversal owner'.path = found at halike ⊢
  generalize u'.implementations .traversal owner'.path = found' at halike ⊢
  cases halike with
  | error hfault => exact .cons (.fail hfault) .nil
  | ok hrecords =>
    have hsteps {records records' : List ClassRecord}
        (h : Forall₂ (fun r r' => r.unmarked = r'.unmarked) records records') :
        StepsAlike (records.flatMap (implementationSteps u call))
          (records'.flatMap (implementationSteps u' call)) :=
      List.rel_flatMap h fun _ _ hr => implementationSteps_alike hu call hr
    cases hrecords with
    | nil => exact .refl _
    | cons hr hrest => exact hsteps (.cons hr hrest)

theorem targetSteps_alike {owner owner' : ClassRecord} (h : owner.unmarked = owner'.unmarked)
    (call : Call) :
    StepsAlike (targetSteps u markers owner call) (targetSteps u' markers owner' call) := by
  refine stepsOrFail_alike ((ClassRecord.info_alike h).bind fun c c' hc => ?_)
  have hconcrete : c.isConcrete = c'.isConcrete := by
    rw [← c.isConcrete_unmarked, hc, c'.isConcrete_unmarked]
  rw [hconcrete]
  split
  · exact .ok (dispatchSteps_alike hu h hc call)
  · refine (resolveMethod_alike hu h _ _).bind fun found found' hf => ?_
    rcases unmarkedResult_cases hf with ⟨rfl, rfl⟩ | ⟨r, m, r', m', rfl, rfl, hr, hm⟩
    · exact .ok (.refl _)
    · exact .ok (.cons (.enter hr hm) .nil)

variable (real : u.BodiesReal) (real' : u'.BodiesReal)

include real real'

omit hu in
/-- A class that is looked up has real bodies. -/
theorem lookup_alike_real (hu : u.unmarked = u'.unmarked) (path : String) :
    OutcomesAlike (fun r r' => r.unmarked = r'.unmarked ∧ r.BodiesReal ∧ r'.BodiesReal)
      (u.lookup path) (u'.lookup path) := by
  refine (lookup_alike hu path).with_eq.imp fun r r' h => ?_
  obtain ⟨h, hr, hr'⟩ := h
  exact ⟨h, real path r (Universe.lookup_eq_ok.mp hr), real' path r' (Universe.lookup_eq_ok.mp hr')⟩

/-- What a followed class means for a walk is alike if it is for the class with other markers. -/
theorem followedSteps_alike (path : String) {f f' : ClassRecord → List Step}
    (hf : ∀ r r', r.unmarked = r'.unmarked → r.BodiesReal → r'.BodiesReal →
      StepsAlike (f r) (f' r')) :
    StepsAlike
      (if u.contains .traversal path then
        match u.lookup path with
        | .error fault => [.fail fault]
        | .ok record => f record
      else [])
      (if u'.contains .traversal path then
        match u'.lookup path with
        | .error fault => [.fail fault]
        | .ok record => f' record
      else []) := by
  have halike := lookup_alike_real real real' hu path
  rw [contains_eq hu]
  by_cases hcontains : u'.contains .traversal path
  · rw [if_pos hcontains, if_pos hcontains]
    generalize u.lookup path = found at halike ⊢
    generalize u'.lookup path = found' at halike ⊢
    cases halike with
    | error hfault => exact .cons (.fail hfault) .nil
    | ok h => exact hf _ _ h.1 h.2.1 h.2.2
  · rw [if_neg hcontains, if_neg hcontains]
    exact .nil

theorem callSteps_alike (call : Call) :
    StepsAlike (callSteps u markers call) (callSteps u' markers call) :=
  followedSteps_alike hu real real' call.owner fun _ _ h hr hr' =>
    (lambdaSteps_alike h hr hr').append (targetSteps_alike hu h call)

theorem staticReadSteps_alike (owner : String) :
    StepsAlike (staticReadSteps u markers owner) (staticReadSteps u' markers owner) :=
  followedSteps_alike hu real real' owner fun _ _ h hr hr' => lambdaSteps_alike h hr hr'

omit hu real real' in
/-- The scans before two indices see the same instructions if the bodies agree up to there. -/
theorem before_unmarked_eq (location : String) {body body' : List Instruction}
    {index index' : Nat} (h : realPart (body.take index) = realPart (body'.take index')) :
    (Scan.before location body index).anchor.unmarked =
      (Scan.before location body' index').anchor.unmarked := by
  change Scan.mk location (realPart (body.take index)) true true =
    Scan.mk location (realPart (body'.take index')) true true
  rw [h]

omit real real' in
theorem readFirst_alike {scan scan' : Scan} (hs : scan.unmarked = scan'.unmarked)
    (layouts : List Validation.Layout) :
    OutcomesAlike Eq (Validation.readFirst u scan layouts)
      (Validation.readFirst u' scan' layouts) := by
  have hlocation : scan.location = scan'.location := (Scan.mk.inj hs).1
  induction layouts with
  | nil => exact .error (.dumps "validator arguments" hs)
  | cons layout others ih =>
    rw [Validation.readFirst, Validation.readFirst, Scan.find_eq hu hs, hlocation]
    refine (OutcomesAlike.refl _).bind fun captures captures' h => ?_
    subst h
    cases captures with
    | none => exact ih
    | some captures =>
      dsimp only
      rw [← Validation.read_unmarked u, hu, Validation.read_unmarked]
      exact .refl _

omit real real' in
/-- The rule of a call is recovered from the instructions before it. -/
theorem recoverRule_alike (location : String) {body body' : List Instruction}
    {index index' : Nat} (h : realPart (body.take index) = realPart (body'.take index'))
    (validator : String) :
    OutcomesAlike Eq (Validation.recoverRule u markers location body index validator)
      (Validation.recoverRule u' markers location body' index' validator) := by
  unfold Validation.recoverRule
  rw [← Validation.shapeOf_unmarked u, hu, Validation.shapeOf_unmarked]
  refine (OutcomesAlike.refl _).bind fun shape shape' hshape => ?_
  subst hshape
  refine (readFirst_alike hu (before_unmarked_eq location h) _).bind fun rule rule' hrule => ?_
  subst hrule
  exact .refl _

omit hu real real' in
theorem thrownType_eq {m m' : Method} (hm : m.unmarked = m'.unmarked) (location : String)
    (source : Instruction) : thrownType m location source = thrownType m' location source := by
  change thrownType m.unmarked location source = thrownType m'.unmarked location source
  rw [hm]

omit real real' in
/-- What is thrown is read off the instructions before the throw. -/
theorem thrownSteps_alike {m m' : Method} (hm : m.unmarked = m'.unmarked) (location : String)
    {index index' : Nat} (h : realPart (m.body.take index) = realPart (m'.body.take index')) :
    StepsAlike (thrownSteps u m location index) (thrownSteps u' m' location index') := by
  have hrequire := Scan.require_alike hu (before_unmarked_eq location h) "thrown value" thrownIdiom
  refine stepsOrFail_alike (hrequire.bind fun captures captures' hcaptures => ?_)
  subst hcaptures
  cases (captures[0]?).join with
  | none => exact .ok (.refl _)
  | some source =>
    dsimp only
    rw [thrownType_eq hm]
    refine (OutcomesAlike.refl _).bind fun type type' htype => ?_
    subst htype
    cases type with
    | none => exact .ok (.refl _)
    | some type =>
      dsimp only
      rw [contains_eq hu]
      split
      · exact .ok (.refl _)
      · exact .ok (.refl _)

/-! ## Instructions -/

omit real real' in
theorem constructsValidator_eq (call : Call) :
    constructsValidator u markers call = constructsValidator u' markers call := by
  unfold constructsValidator
  cases markers.validatorBase with
  | none => rfl
  | some base =>
    dsimp only
    rw [← Test.holdsCall_unmarked u, hu, Test.holdsCall_unmarked]

/-- An instruction does the same at two indices before which the bodies agree. -/
theorem instructionSteps_alike {m m' : Method} (hm : m.unmarked = m'.unmarked)
    (location : String) (i : Instruction) {index index' : Nat}
    (h : realPart (m.body.take index) = realPart (m'.body.take index')) :
    StepsAlike (instructionSteps u markers m location i index)
      (instructionSteps u' markers m' location i index') := by
  unfold instructionSteps
  cases i.payload with
  | op opcode =>
    dsimp only
    by_cases hthrow : opcode = Opcode.athrow
    · rw [if_pos hthrow, if_pos hthrow]
      exact thrownSteps_alike hu hm location h
    · rw [if_neg hthrow, if_neg hthrow]
      exact .nil
  | call call =>
    dsimp only
    rw [constructsValidator_eq hu]
    refine stepsOrFail_alike ((OutcomesAlike.refl _).bind fun constructs constructs' hc => ?_)
    subst hc
    cases constructs with
    | true =>
      refine (recoverRule_alike hu location h call.owner).bind fun rule rule' hrule => ?_
      subst hrule
      exact .ok (.refl _)
    | false => exact .ok (callSteps_alike hu real real' call)
  | dynamicCall call =>
    dsimp only
    cases call.target? with
    | none => exact .nil
    | some handle => exact callSteps_alike hu real real' (handleCall handle)
  | field a =>
    dsimp only
    split
    · exact staticReadSteps_alike hu real real' a.owner
    · exact .nil
  | _ => exact .nil

end

/-! ## Bodies -/

/-- A marker does nothing. -/
theorem instructionSteps_marker {u : Universe} {markers : Markers} {m : Method}
    {location : String} {i : Instruction} (h : i.isMarker = true) (index : Nat) :
    instructionSteps u markers m location i index = [] := by
  unfold instructionSteps
  unfold Instruction.isMarker at h
  cases hp : i.payload <;> rw [hp] at h <;> first | rfl | cases h

/-- What stands before an instruction that is not a marker, without the markers, is what stands
before it in the body without markers. `before` is the part of the body that has been passed. -/
theorem map_real_positions (before body : List Instruction) :
    ((body.zipIdx before.length).filter fun p => ! p.1.isMarker).map
        (fun p => (p.1, realPart ((before ++ body).take p.2))) =
      ((realPart body).zipIdx (realPart before).length).map
        fun p => (p.1, (realPart (before ++ body)).take p.2) := by
  induction body generalizing before with
  | nil => rfl
  | cons i body ih =>
    have hrest := ih (before ++ [i])
    rw [List.append_assoc, List.singleton_append, List.length_append, List.length_singleton]
      at hrest
    rw [List.zipIdx_cons, List.filter_cons]
    by_cases hmarker : i.isMarker
    · have hpart : realPart (i :: body) = realPart body := by simp [realPart, hmarker]
      have hbefore : realPart (before ++ [i]) = realPart before := by simp [realPart, hmarker]
      rw [hbefore] at hrest
      rw [hpart, ← hrest]
      simp [hmarker]
    · have hpart : realPart (i :: body) = i :: realPart body := by simp [realPart, hmarker]
      have hbefore : (realPart (before ++ [i])).length = (realPart before).length + 1 := by
        simp [realPart, hmarker]
      rw [hbefore] at hrest
      rw [hpart, List.zipIdx_cons, List.map_cons, ← hrest]
      simp [hmarker, realPart]

/-- Steps of markers may be left out. -/
theorem flatMap_real_positions {f : Instruction × Nat → List Step}
    (marker : ∀ p : Instruction × Nat, p.1.isMarker = true → f p = [])
    (positions : List (Instruction × Nat)) :
    positions.flatMap f = (positions.filter fun p => ! p.1.isMarker).flatMap f := by
  induction positions with
  | nil => rfl
  | cons p positions ih =>
    rw [List.flatMap_cons, List.filter_cons, ih]
    by_cases hmarker : p.1.isMarker
    · simp [hmarker, marker p hmarker]
    · simp [hmarker]

theorem methodSteps_eq (u : Universe) (markers : Markers) (record : ClassRecord) (m : Method) :
    methodSteps u markers record m =
      (m.body.zipIdx.filter fun p => ! p.1.isMarker).flatMap fun p =>
        instructionSteps u markers m (Frame.ofMethod record m).location p.1 p.2 :=
  flatMap_real_positions (fun p hp => instructionSteps_marker hp p.2) m.body.zipIdx

theorem frame_eq {record record' : ClassRecord} {m m' : Method}
    (h : record.unmarked = record'.unmarked) (hm : m.unmarked = m'.unmarked) :
    Frame.ofMethod record m = Frame.ofMethod record' m' := by
  obtain ⟨hname, hdescriptor, -⟩ := Method.mk.inj hm
  rw [Frame.ofMethod, Frame.ofMethod, ClassRecord.path_eq h, hname, hdescriptor]

/-- **The steps of a method are the same whether there are markers or not**, but for markers in
the methods that are entered and for indices in faults. -/
theorem methodSteps_alike {u u' : Universe} (hu : u.unmarked = u'.unmarked)
    (real : u.BodiesReal) (real' : u'.BodiesReal) {markers : Markers}
    {record record' : ClassRecord} (h : record.unmarked = record'.unmarked) {m m' : Method}
    (hm : m.unmarked = m'.unmarked) :
    StepsAlike (methodSteps u markers record m) (methodSteps u' markers record' m') := by
  have hbody : realPart m.body = realPart m'.body := congrArg Method.body hm
  have hpositions := map_real_positions [] m.body
  have hpositions' := map_real_positions [] m'.body
  rw [List.nil_append, hbody] at hpositions
  rw [List.nil_append, ← hpositions] at hpositions'
  rw [methodSteps_eq, methodSteps_eq, frame_eq h hm]
  -- The instructions that are not markers correspond in order, each after the same ones.
  refine List.rel_flatMap (forall₂_of_map_eq hpositions'.symm) fun p p' hp => ?_
  obtain ⟨hinstruction, hbefore⟩ := Prod.mk.inj hp
  rw [hinstruction]
  exact instructionSteps_alike hu real real' hm _ _ hbefore

end ApiSurface.Calls
