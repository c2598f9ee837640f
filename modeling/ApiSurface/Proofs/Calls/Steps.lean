import ApiSurface.Proofs.Calls.Pathless

/-!
# What the steps of a method can be

The steps of a call enter methods, report something, or fail with a fault that is not about a call
path; the steps of a method may also record what the method throws and demands.

Main statements: `forall_mem_callSteps`, `methodSteps_pathless`.
-/
namespace ApiSurface.Calls

/-! ## Steps of a call

What holds of every step that enters a method or reports something, and of every fault that is not
about a call path, holds of all steps of a call. -/

section

variable {P : Step → Prop} (henter : ∀ record m, P (.enter record m)) (hnote : ∀ e, P (.note e))
  (hunimplemented : ∀ callee, P (.unimplemented callee))
  (hfail : ∀ fault, fault.isAboutPath = false → P (.fail fault))
include henter hnote hunimplemented hfail

omit henter hnote hunimplemented in
theorem forall_mem_stepsOrFail {x : Except Fault (List Step)} (hx : Pathless x)
    (h : ∀ steps, x = .ok steps → ∀ s ∈ steps, P s) : ∀ s ∈ stepsOrFail x, P s := by
  cases x with
  | ok steps => exact h steps rfl
  | error fault => simpa [stepsOrFail] using hfail fault (hx fault rfl)

omit hnote hunimplemented in
theorem forall_mem_lambdaSteps (markers : Markers) (record : ClassRecord) :
    ∀ s ∈ lambdaSteps markers record, P s := by
  refine forall_mem_stepsOrFail hfail (.bind (.info _) fun c => ?_) fun steps h => ?_
  · split
    · split <;> exact .ok _
    · exact .ok _
  · obtain ⟨c, -, h⟩ := bind_eq_ok.mp h
    split at h
    · split at h <;> cases h
      · simpa using henter _ _
      · simpa using hfail _ rfl
    · cases h
      simp

omit hunimplemented in
theorem forall_mem_implementationSteps (u : Universe) (call : Call) (record : ClassRecord) :
    ∀ s ∈ implementationSteps u call record, P s := by
  refine forall_mem_stepsOrFail hfail (.bind (.resolveFrom _ _ _ _ _ _) fun found => ?_)
    fun steps h => ?_
  · split
    · exact .ok _
    · refine .bind (.defaultFrom _ _ _ _ _ _) fun found => ?_
      split <;> exact .ok _
  · obtain ⟨found, -, h⟩ := bind_eq_ok.mp h
    split at h
    · cases h
      simpa using henter _ _
    · obtain ⟨inherited, -, h⟩ := bind_eq_ok.mp h
      split at h <;> cases h
      · simpa using henter _ _
      · simpa using hnote _

theorem forall_mem_dispatchSteps (u : Universe) (markers : Markers) (owner : ClassRecord)
    (c : Class) (call : Call) : ∀ s ∈ dispatchSteps u markers owner c call, P s := by
  unfold dispatchSteps
  split
  · rename_i fault h
    simpa using hfail _ (Pathless.implementations u _ _ fault h)
  · split
    · simpa using hnote _
    · simpa using hunimplemented _
  · intro s hs
    obtain ⟨record, -, hs⟩ := List.mem_flatMap.mp hs
    exact forall_mem_implementationSteps henter hnote hfail u call record s hs

theorem forall_mem_targetSteps (u : Universe) (markers : Markers) (owner : ClassRecord)
    (call : Call) : ∀ s ∈ targetSteps u markers owner call, P s := by
  refine forall_mem_stepsOrFail hfail (.bind (.info _) fun c => ?_) fun steps h => ?_
  · split
    · exact .ok _
    · refine .bind (.resolveFrom _ _ _ _ _ _) fun found => ?_
      split <;> exact .ok _
  · obtain ⟨c, -, h⟩ := bind_eq_ok.mp h
    split at h
    · cases h
      exact forall_mem_dispatchSteps henter hnote hunimplemented hfail u markers owner c call
    · obtain ⟨found, -, h⟩ := bind_eq_ok.mp h
      split at h <;> cases h
      · simpa using henter _ _
      · simpa using hnote _

theorem forall_mem_callSteps (u : Universe) (markers : Markers) (call : Call) :
    ∀ s ∈ callSteps u markers call, P s := by
  unfold callSteps
  split
  · split
    · rename_i fault h
      simpa using hfail _ (Pathless.lookup u _ fault h)
    · intro s hs
      rcases List.mem_append.mp hs with hs | hs
      · exact forall_mem_lambdaSteps henter hfail markers _ s hs
      · exact forall_mem_targetSteps henter hnote hunimplemented hfail u markers _ call s hs
  · simp

omit hnote hunimplemented in
theorem forall_mem_staticReadSteps (u : Universe) (markers : Markers) (owner : String) :
    ∀ s ∈ staticReadSteps u markers owner, P s := by
  unfold staticReadSteps
  split
  · split
    · rename_i fault h
      simpa using hfail _ (Pathless.lookup u _ fault h)
    · exact forall_mem_lambdaSteps henter hfail markers _
  · simp

end

/-! ## Steps of a method -/

/-- A throw records a type or reports something, or fails with a fault that is not about a call
path. -/
theorem forall_mem_thrownSteps {P : Step → Prop} (hthrows : ∀ type, P (.throws type))
    (hnote : ∀ e, P (.note e)) (hfail : ∀ fault, fault.isAboutPath = false → P (.fail fault))
    (u : Universe) (m : Method) (location : String) (index : Nat) :
    ∀ s ∈ thrownSteps u m location index, P s := by
  refine forall_mem_stepsOrFail hfail (.bind (.require _ _ _ _) fun captures => ?_)
    fun steps h => ?_
  · split
    · exact .ok _
    · refine .bind (.thrownType _ _ _) fun type => ?_
      split
      · exact .ok _
      split <;> exact .ok _
  · obtain ⟨captures, -, h⟩ := bind_eq_ok.mp h
    split at h
    · cases h
      simp
    · obtain ⟨type, -, h⟩ := bind_eq_ok.mp h
      split at h
      · cases h
        simpa using hnote _
      · split at h <;> cases h
        · simpa using hthrows _
        · simpa using hnote _

/-- The step does not fail with a fault about a call path. -/
def Step.IsPathless : Step → Prop
  | .fail fault => fault.isAboutPath = false
  | _ => True

theorem instructionSteps_pathless (u : Universe) (markers : Markers) (m : Method)
    (location : String) (i : Instruction) (index : Nat) :
    ∀ s ∈ instructionSteps u markers m location i index, s.IsPathless := by
  have hcall (call : Call) : ∀ s ∈ callSteps u markers call, s.IsPathless :=
    forall_mem_callSteps (fun _ _ => trivial) (fun _ => trivial) (fun _ => trivial)
      (fun _ h => h) u markers call
  unfold instructionSteps
  split
  · split
    · exact forall_mem_thrownSteps (fun _ => trivial) (fun _ => trivial) (fun _ h => h) u _ _ _
    · simp
  · refine forall_mem_stepsOrFail (fun _ h => h) (.bind (.constructsValidator _ _ _) fun b => ?_)
      fun steps h => ?_
    · split
      · exact .bind (.recoverRule _ _ _ _ _ _) fun rule => .ok _
      · exact .ok _
    · obtain ⟨b, -, h⟩ := bind_eq_ok.mp h
      split at h
      · obtain ⟨rule, -, h⟩ := bind_eq_ok.mp h
        cases h
        simp [Step.IsPathless]
      · cases h
        exact hcall _
  · split
    · exact hcall _
    · simp
  · split
    · exact forall_mem_staticReadSteps (fun _ _ => trivial) (fun _ h => h) u markers _
    · simp
  · simp

/-- No step of a method fails with a fault about a call path. -/
theorem methodSteps_pathless (u : Universe) (markers : Markers) (record : ClassRecord)
    (m : Method) : ∀ s ∈ methodSteps u markers record m, s.IsPathless := by
  intro s hs
  obtain ⟨⟨i, index⟩, -, hs⟩ := List.mem_flatMap.mp hs
  exact instructionSteps_pathless u markers _ _ i index s hs

end ApiSurface.Calls
