import ApiSurface.Calls.Walk
import ApiSurface.Proofs.Calls.Steps
import ApiSurface.Proofs.Universe.Followed
import Mathlib.Data.List.Nodup
import Mathlib.Logic.Relation

/-!
# The call graph

The nodes are methods with the classes that they are entered in. A method leads to another by a
call that is resolved, by a call that fans out to implementations, by the handle of a dynamic call,
or by touching a class that was compiled from a lambda. The relations here say so without steps;
the lemmas `entry_mem_steps`, `throws_mem_steps` and `rules_steps` tie them to the steps that a
walk performs.

Main definitions: `Node`, `Enters`, `Edge`, `Reaches`, `Throws`, `siteRules`.
-/
namespace ApiSurface.Calls

/-- A method with the class that it is entered in. -/
structure Node where
  record : ClassRecord
  method : Method

namespace Node

/-- The frame by which a walk knows the method. -/
def frame (n : Node) : Frame := .ofMethod n.record n.method

/-- The class of the node is in the universe and declares the method. -/
def Declared (u : Universe) (n : Node) : Prop := u.Declares n.record n.method

/-- What the method does. -/
def steps (u : Universe) (markers : Markers) (n : Node) : List Step :=
  methodSteps u markers n.record n.method

/-- The step that enters the method. -/
def entry (n : Node) : Step := .enter n.record n.method

@[simp] theorem entry_inj {a b : Node} : a.entry = b.entry ↔ a = b := by
  cases a
  cases b
  simp [entry]

/-- A method is known by its frame if no class declares two of one name and descriptor. -/
theorem eq_of_frame_eq {u : Universe} (hd : u.MethodsDistinct) {a b : Node}
    (ha : a.Declared u) (hb : b.Declared u) (h : a.frame = b.frame) : a = b := by
  obtain ⟨ra, ma⟩ := a
  obtain ⟨rb, mb⟩ := b
  obtain ⟨hra, c, hc, hma⟩ := ha
  obtain ⟨hrb, c', hc', hmb⟩ := hb
  obtain ⟨hpath, hname, hdescriptor⟩ := Frame.mk.inj h
  dsimp only at hra hrb hc hc' hma hmb hpath hname hdescriptor
  rw [hpath, hrb] at hra
  obtain rfl := Option.some.inj hra
  obtain rfl := Except.ok.inj (hc.symm.trans hc')
  have hm : ma = mb := by
    refine List.inj_on_of_nodup_map (hd _ _ hrb hc) hma hmb ?_
    rw [hname, hdescriptor]
  rw [hm]

end Node

variable (u : Universe) (markers : Markers)

/-! ## Edges -/

/-- The name stands for a followed class. -/
def Names (name : String) (record : ClassRecord) : Prop :=
  u.contains .traversal name = true ∧ u.find? name = some record

/-- The class was compiled from a lambda, and the method is its body. -/
def IsLambdaBodyOf (n : Node) : Prop :=
  ∃ c, n.record.info = .ok c ∧ isLambda markers c = true ∧
    c.methods.filter isLambdaBody = [n.method]

/-- The kind of a call and the class that it names leave the choice of the method to the class of
the object. -/
def FansOut (call : Call) (c : Class) : Prop := isDynamic call.kind ∧ ¬ c.isConcrete

/-- Following a call enters a method. -/
inductive Enters (call : Call) : Node → Prop where
  /-- The body of the lambda that the named class was compiled from. -/
  | lambda {n : Node} (owner : Names u call.owner n.record) (body : IsLambdaBodyOf markers n) :
      Enters call n
  /-- The method found on the named class. -/
  | resolved {owner : ClassRecord} {c : Class} {n : Node} (names : Names u call.owner owner)
      (info : owner.info = .ok c) (direct : ¬ FansOut call c)
      (found : u.resolveMethod owner call.name (some call.descriptor) =
        .ok (some (n.record, n.method))) :
      Enters call n
  /-- The method found on a concrete class below the named one. -/
  | implemented {owner implementation : ClassRecord} {c : Class} {below : List ClassRecord}
      {n : Node} (names : Names u call.owner owner) (info : owner.info = .ok c)
      (fans : FansOut call c) (all : u.implementations .traversal owner.path = .ok below)
      (mem : implementation ∈ below)
      (found : u.resolveMethod implementation call.name (some call.descriptor) =
        .ok (some (n.record, n.method))) :
      Enters call n
  /-- The default method that a concrete class below the named one inherits. -/
  | inherited {owner implementation : ClassRecord} {c : Class} {below : List ClassRecord}
      {n : Node} (names : Names u call.owner owner) (info : owner.info = .ok c)
      (fans : FansOut call c) (all : u.implementations .traversal owner.path = .ok below)
      (mem : implementation ∈ below)
      (absent : u.resolveMethod implementation call.name (some call.descriptor) = .ok none)
      (found : u.resolveDefaultMethod implementation call.name call.descriptor =
        .ok (some (n.record, n.method))) :
      Enters call n

/-- An instruction of a method leads to another method. -/
inductive Edge (a b : Node) : Prop where
  /-- A call that constructs no validator. -/
  | call {i : Instruction} {call : Call} (mem : i ∈ a.method.body)
      (payload : i.payload = .call call) (followed : constructsValidator u markers call = .ok false)
      (enters : Enters u markers call b)
  /-- The first method handle of a dynamic call. -/
  | handle {i : Instruction} {call : DynamicCall} {handle : MethodHandle} (mem : i ∈ a.method.body)
      (payload : i.payload = .dynamicCall call) (target : call.target? = some handle)
      (enters : Enters u markers (handleCall handle) b)
  /-- A static field of a class that was compiled from a lambda. -/
  | read {i : Instruction} {access : FieldAccess} (mem : i ∈ a.method.body)
      (payload : i.payload = .field access) (get : access.opcode = Opcode.getstatic)
      (owner : Names u access.owner b.record) (body : IsLambdaBodyOf markers b)

/-- The methods that a method leads to, itself included: the least set that has the method and
with each method all those that it has edges to. -/
def Reaches : Node → Node → Prop := Relation.ReflTransGen (Edge u markers)

/-! ## Throws and constructions -/

/-- The `athrow` at an index of the method throws a type. -/
def ThrowsAt (n : Node) (index : Nat) (type : String) : Prop :=
  ∃ i captures source, n.method.body[index]? = some i ∧ i.payload = .op Opcode.athrow ∧
    (Scan.before n.frame.location n.method.body index).anchor.require u "thrown value"
      thrownIdiom = .ok captures ∧
    (captures[0]?).join = some source ∧
    thrownType n.method n.frame.location source = .ok (some type)

/-- Some `athrow` of the method throws a type. -/
def Throws (n : Node) (type : String) : Prop := ∃ index, ThrowsAt u n index type

/-- What recovering the rule of an instruction gives, if it constructs a validator. -/
def siteRule? (n : Node) (i : Instruction) (index : Nat) : Option (Except Fault ValidationRule) :=
  match i.payload with
  | .call call =>
    match constructsValidator u markers call with
    | .ok true =>
      some (Validation.recoverRule u markers n.frame.location n.method.body index call.owner)
    | _ => none
  | _ => none

/-- The rules of the validator constructions of a method, one for each. -/
def siteRules (n : Node) : List (Except Fault ValidationRule) :=
  n.method.body.zipIdx.filterMap fun (i, index) => siteRule? u markers n i index

/-! ## Steps are edges -/

variable {u markers}

/-- The step records something about the method itself. -/
def Step.isRecord : Step → Bool
  | .throws _ => true
  | .validates _ => true
  | _ => false

/-- The step ends the walk. -/
def Step.isFault : Step → Bool
  | .unimplemented _ => true
  | .fail _ => true
  | _ => false

theorem mem_stepsOrFail {s : Step} (hs : s.isFault = false) {x : Except Fault (List Step)} :
    s ∈ stepsOrFail x ↔ ∃ steps, x = .ok steps ∧ s ∈ steps := by
  cases x with
  | ok steps => simp [stepsOrFail]
  | error fault =>
    simp only [stepsOrFail, List.mem_singleton, reduceCtorEq, false_and, exists_false, iff_false]
    rintro rfl
    cases hs

theorem entry_mem_lambdaSteps {record : ClassRecord} {n : Node} :
    n.entry ∈ lambdaSteps markers record ↔ n.record = record ∧ IsLambdaBodyOf markers n := by
  simp only [lambdaSteps, mem_stepsOrFail (s := n.entry) rfl, bind_eq_ok]
  constructor
  · rintro ⟨steps, ⟨c, hc, h⟩, hm⟩
    split at h
    · split at h
      · cases h
        cases List.mem_singleton.mp hm
        exact ⟨rfl, c, hc, ‹_›, ‹_›⟩
      · cases h
        simp [Node.entry] at hm
    · cases h
      cases hm
  · rintro ⟨rfl, c, hc, hl, hbody⟩
    exact ⟨[n.entry], ⟨c, hc, by simp [hl, hbody, Node.entry]⟩, by simp⟩

theorem entry_mem_implementationSteps {call : Call} {implementation : ClassRecord} {n : Node} :
    n.entry ∈ implementationSteps u call implementation ↔
      u.resolveMethod implementation call.name (some call.descriptor) =
          .ok (some (n.record, n.method)) ∨
        u.resolveMethod implementation call.name (some call.descriptor) = .ok none ∧
          u.resolveDefaultMethod implementation call.name call.descriptor =
            .ok (some (n.record, n.method)) := by
  simp only [implementationSteps, mem_stepsOrFail (s := n.entry) rfl, bind_eq_ok]
  constructor
  · rintro ⟨steps, ⟨found, hf, h⟩, hm⟩
    split at h
    · cases h
      cases List.mem_singleton.mp hm
      exact .inl hf
    · obtain ⟨inherited, hi, h⟩ := bind_eq_ok.mp h
      split at h
      · cases h
        cases List.mem_singleton.mp hm
        exact .inr ⟨hf, hi⟩
      · cases h
        simp [Node.entry] at hm
  · rintro (hf | ⟨hf, hi⟩)
    · exact ⟨[n.entry], ⟨_, hf, rfl⟩, by simp⟩
    · exact ⟨[n.entry], ⟨_, hf, by rw [hi]; rfl⟩, by simp⟩

theorem entry_mem_dispatchSteps {owner : ClassRecord} {c : Class} {call : Call} {n : Node} :
    n.entry ∈ dispatchSteps u markers owner c call ↔
      ∃ below, u.implementations .traversal owner.path = .ok below ∧
        ∃ implementation ∈ below, n.entry ∈ implementationSteps u call implementation := by
  unfold dispatchSteps
  split
  · simp [*, Node.entry]
  · split <;> simp [*, Node.entry]
  · simp [*, List.mem_flatMap]

theorem entry_mem_targetSteps {owner : ClassRecord} {call : Call} {n : Node} :
    n.entry ∈ targetSteps u markers owner call ↔
      ∃ c, owner.info = .ok c ∧
        (¬ FansOut call c ∧ u.resolveMethod owner call.name (some call.descriptor) =
            .ok (some (n.record, n.method)) ∨
          FansOut call c ∧ n.entry ∈ dispatchSteps u markers owner c call) := by
  simp only [targetSteps, mem_stepsOrFail (s := n.entry) rfl, bind_eq_ok]
  constructor
  · rintro ⟨steps, ⟨c, hc, h⟩, hm⟩
    refine ⟨c, hc, ?_⟩
    split at h
    · cases h
      exact .inr ⟨‹_›, hm⟩
    · refine .inl ⟨‹_›, ?_⟩
      obtain ⟨found, hf, h⟩ := bind_eq_ok.mp h
      split at h
      · cases h
        cases List.mem_singleton.mp hm
        exact hf
      · cases h
        simp [Node.entry] at hm
  · rintro ⟨c, hc, ⟨hd, hf⟩ | ⟨hd, hm⟩⟩
    · refine ⟨[n.entry], ⟨c, hc, ?_⟩, by simp⟩
      unfold FansOut at hd
      rw [if_neg hd, hf]
      rfl
    · exact ⟨_, ⟨c, hc, if_pos hd⟩, hm⟩

/-- A followed class is looked up to be entered. -/
theorem names_iff {name : String} {record : ClassRecord} :
    Names u name record ↔ u.contains .traversal name = true ∧ u.lookup name = .ok record := by
  rw [Names, Universe.lookup_eq_ok]

/-- Following a call enters the methods that it leads to. -/
theorem entry_mem_callSteps {call : Call} {n : Node} :
    n.entry ∈ callSteps u markers call ↔ Enters u markers call n := by
  have hsteps : n.entry ∈ callSteps u markers call ↔ ∃ owner, Names u call.owner owner ∧
      (n.entry ∈ lambdaSteps markers owner ∨ n.entry ∈ targetSteps u markers owner call) := by
    unfold callSteps
    split
    · split
      · simp [names_iff, *, Node.entry]
      · simp [names_iff, *]
    · simp [names_iff, *]
  rw [hsteps]
  constructor
  · rintro ⟨owner, hn, hl | ht⟩
    · obtain ⟨rfl, body⟩ := entry_mem_lambdaSteps.mp hl
      exact .lambda hn body
    · obtain ⟨c, hc, ⟨hd, hf⟩ | ⟨hd, hm⟩⟩ := entry_mem_targetSteps.mp ht
      · exact .resolved hn hc hd hf
      · obtain ⟨below, hb, implementation, hi, hm⟩ := entry_mem_dispatchSteps.mp hm
        rcases entry_mem_implementationSteps.mp hm with hf | ⟨ha, hf⟩
        · exact .implemented hn hc hd hb hi hf
        · exact .inherited hn hc hd hb hi ha hf
  · intro h
    cases h with
    | lambda owner body => exact ⟨_, owner, .inl (entry_mem_lambdaSteps.mpr ⟨rfl, body⟩)⟩
    | resolved names info direct found =>
      exact ⟨_, names, .inr (entry_mem_targetSteps.mpr ⟨_, info, .inl ⟨direct, found⟩⟩)⟩
    | implemented names info fans all mem found =>
      refine ⟨_, names, .inr (entry_mem_targetSteps.mpr ⟨_, info, .inr ⟨fans, ?_⟩⟩)⟩
      exact entry_mem_dispatchSteps.mpr
        ⟨_, all, _, mem, entry_mem_implementationSteps.mpr (.inl found)⟩
    | inherited names info fans all mem absent found =>
      refine ⟨_, names, .inr (entry_mem_targetSteps.mpr ⟨_, info, .inr ⟨fans, ?_⟩⟩)⟩
      exact entry_mem_dispatchSteps.mpr
        ⟨_, all, _, mem, entry_mem_implementationSteps.mpr (.inr ⟨absent, found⟩)⟩

/-- Reading a static field enters the body of the lambda that its class was compiled from. -/
theorem entry_mem_staticReadSteps {name : String} {n : Node} :
    n.entry ∈ staticReadSteps u markers name ↔
      Names u name n.record ∧ IsLambdaBodyOf markers n := by
  unfold staticReadSteps
  split
  · split
    · simp [names_iff, *, Node.entry]
    · rename_i record hr
      rw [entry_mem_lambdaSteps, names_iff]
      constructor
      · rintro ⟨rfl, body⟩
        exact ⟨⟨‹_›, hr⟩, body⟩
      · rintro ⟨⟨-, hn⟩, body⟩
        rw [hr] at hn
        exact ⟨(Except.ok.inj hn).symm, body⟩
  · simp [names_iff, *]

/-- Following a call records nothing about the method that makes it. -/
theorem isRecord_of_mem_callSteps {call : Call} {s : Step} (h : s ∈ callSteps u markers call) :
    s.isRecord = false :=
  forall_mem_callSteps (P := fun s => s.isRecord = false) (fun _ _ => rfl) (fun _ => rfl)
    (fun _ => rfl) (fun _ _ => rfl) u markers call s h

theorem isRecord_of_mem_staticReadSteps {name : String} {s : Step}
    (h : s ∈ staticReadSteps u markers name) : s.isRecord = false :=
  forall_mem_staticReadSteps (P := fun s => s.isRecord = false) (fun _ _ => rfl) (fun _ _ => rfl)
    u markers name s h

/-- A throw records a type exactly if its value has that type and the type is followed. -/
theorem throws_mem_thrownSteps {n : Node} {index : Nat} {type : String} :
    .throws type ∈ thrownSteps u n.method n.frame.location index ↔
      u.contains .traversal type = true ∧ ∃ captures source,
        (Scan.before n.frame.location n.method.body index).anchor.require u "thrown value"
          thrownIdiom = .ok captures ∧
        (captures[0]?).join = some source ∧
        thrownType n.method n.frame.location source = .ok (some type) := by
  rw [thrownSteps, mem_stepsOrFail rfl]
  simp only [bind_eq_ok]
  constructor
  · rintro ⟨steps, ⟨captures, hc, h⟩, hm⟩
    split at h
    · cases h
      cases hm
    · obtain ⟨thrown, ht, h⟩ := bind_eq_ok.mp h
      split at h
      · cases h
        simp at hm
      · split at h <;> cases h
        · cases List.mem_singleton.mp hm
          exact ⟨‹_›, captures, _, hc, ‹_›, ht⟩
        · simp at hm
  · rintro ⟨followed, captures, source, hc, hs, ht⟩
    exact ⟨[.throws type], ⟨captures, hc, by simp [hs, ht, followed]⟩, by simp⟩

theorem entry_mem_instructionSteps {a b : Node} {i : Instruction} {index : Nat}
    (hi : i ∈ a.method.body)
    (h : b.entry ∈ instructionSteps u markers a.method a.frame.location i index) :
    Edge u markers a b := by
  unfold instructionSteps at h
  split at h
  · split at h
    · exact absurd rfl (forall_mem_thrownSteps (P := (· ≠ b.entry)) (by simp [Node.entry])
        (by simp [Node.entry]) (by simp [Node.entry]) u _ _ _ _ h)
    · cases h
  · rename_i call hp
    rw [mem_stepsOrFail rfl] at h
    obtain ⟨steps, h, hm⟩ := h
    obtain ⟨constructs, hv, h⟩ := bind_eq_ok.mp h
    cases constructs with
    | true =>
      obtain ⟨rule, -, h⟩ := bind_eq_ok.mp h
      cases h
      simp [Node.entry] at hm
    | false =>
      cases h
      exact .call hi hp hv (entry_mem_callSteps.mp hm)
  · split at h
    · exact .handle hi ‹_› ‹_› (entry_mem_callSteps.mp h)
    · cases h
  · split at h
    · obtain ⟨owner, body⟩ := entry_mem_staticReadSteps.mp h
      exact .read hi ‹_› ‹_› owner body
    · cases h
  · cases h

/-- A method enters the methods that it has edges to. -/
theorem entry_mem_steps {a b : Node} : b.entry ∈ a.steps u markers ↔ Edge u markers a b := by
  have hmem {i : Instruction} (hi : i ∈ a.method.body) :
      ∃ index, (i, index) ∈ a.method.body.zipIdx := by
    obtain ⟨index, hindex⟩ := List.mem_iff_getElem?.mp hi
    exact ⟨index, List.mk_mem_zipIdx_iff_getElem?.mpr hindex⟩
  constructor
  · intro h
    obtain ⟨⟨i, index⟩, hi, h⟩ := List.mem_flatMap.mp h
    exact entry_mem_instructionSteps (List.fst_mem_of_mem_zipIdx hi) h
  · intro h
    cases h with
    | @call i call mem payload followed enters =>
      obtain ⟨index, hi⟩ := hmem mem
      refine List.mem_flatMap.mpr ⟨(i, index), hi, ?_⟩
      simp only [instructionSteps, payload]
      exact (mem_stepsOrFail rfl).mpr ⟨_, by rw [followed]; rfl, entry_mem_callSteps.mpr enters⟩
    | @handle i call handle mem payload target enters =>
      obtain ⟨index, hi⟩ := hmem mem
      refine List.mem_flatMap.mpr ⟨(i, index), hi, ?_⟩
      simpa only [instructionSteps, payload, target] using entry_mem_callSteps.mpr enters
    | @read i access mem payload get owner body =>
      obtain ⟨index, hi⟩ := hmem mem
      refine List.mem_flatMap.mpr ⟨(i, index), hi, ?_⟩
      simpa only [instructionSteps, payload, get, if_true] using
        entry_mem_staticReadSteps.mpr ⟨owner, body⟩

theorem throws_mem_instructionSteps {n : Node} {i : Instruction} {index : Nat} {type : String} :
    .throws type ∈ instructionSteps u markers n.method n.frame.location i index ↔
      i.payload = .op Opcode.athrow ∧
        .throws type ∈ thrownSteps u n.method n.frame.location index := by
  have hcall (call : Call) : Step.throws type ∉ callSteps u markers call := by
    intro h
    cases isRecord_of_mem_callSteps h
  unfold instructionSteps
  split
  · split <;> simp [*]
  · rename_i call hp
    simp only [hp, reduceCtorEq, false_and, iff_false]
    rw [mem_stepsOrFail rfl]
    rintro ⟨steps, h, hm⟩
    obtain ⟨constructs, -, h⟩ := bind_eq_ok.mp h
    split at h
    · obtain ⟨rule, -, h⟩ := bind_eq_ok.mp h
      cases h
      simp at hm
    · cases h
      exact hcall _ hm
  · split <;> simp [*]
  · rename_i access hp
    simp only [hp, reduceCtorEq, false_and, iff_false]
    split
    · intro h
      cases isRecord_of_mem_staticReadSteps h
    · simp
  · rename_i hop _ _ _
    simp only [List.not_mem_nil, false_iff, not_and]
    intro hp
    exact absurd hp (hop _)

/-- A method records the followed types that it throws. -/
theorem throws_mem_steps {n : Node} {type : String} :
    .throws type ∈ n.steps u markers ↔ u.contains .traversal type = true ∧ Throws u n type := by
  have hsteps : .throws type ∈ n.steps u markers ↔ ∃ i index, (i, index) ∈ n.method.body.zipIdx ∧
      .throws type ∈ instructionSteps u markers n.method n.frame.location i index := by
    simp [Node.steps, methodSteps, List.mem_flatMap, Node.frame]
  rw [hsteps]
  simp only [throws_mem_instructionSteps, throws_mem_thrownSteps, List.mk_mem_zipIdx_iff_getElem?]
  constructor
  · rintro ⟨i, index, hi, hp, hc, captures, source, h⟩
    exact ⟨hc, index, i, captures, source, hi, hp, h⟩
  · rintro ⟨hc, index, i, captures, source, hi, hp, h⟩
    exact ⟨i, index, hi, hp, hc, captures, source, h⟩

/-! ## Rules -/

/-- The rule that a step records. -/
def Step.rule? : Step → Option ValidationRule
  | .validates rule => some rule
  | _ => none

/-- The rules that steps record, in order. -/
def rules (steps : List Step) : List ValidationRule := steps.filterMap Step.rule?

theorem rules_eq_nil {steps : List Step} (h : ∀ s ∈ steps, s.isRecord = false) :
    rules steps = [] := by
  refine List.filterMap_eq_nil_iff.mpr fun s hs => ?_
  have := h s hs
  cases s <;> first | rfl | cases this

theorem rules_instructionSteps {n : Node} {i : Instruction} {index : Nat}
    (h : ∀ s ∈ instructionSteps u markers n.method n.frame.location i index, s.isFault = false) :
    (rules (instructionSteps u markers n.method n.frame.location i index)).map .ok =
      (siteRule? u markers n i index).toList := by
  have hcalls (call : Call) : rules (callSteps u markers call) = [] :=
    rules_eq_nil fun s hs => isRecord_of_mem_callSteps hs
  unfold siteRule?
  unfold instructionSteps at h ⊢
  split at h
  · rename_i opcode hp
    simp only [hp]
    split
    · have hnone : rules (thrownSteps u n.method n.frame.location index) = [] :=
        List.filterMap_eq_nil_iff.mpr (forall_mem_thrownSteps (P := fun s => s.rule? = none)
          (fun _ => rfl) (fun _ => rfl) (fun _ _ => rfl) u _ _ _)
      rw [hnone]
      rfl
    · rfl
  · rename_i call hp
    simp only [hp] at h ⊢
    cases hv : constructsValidator u markers call with
    | error fault => simp [hv, stepsOrFail, Step.isFault] at h
    | ok constructs =>
      cases constructs with
      | false => simp [stepsOrFail, hcalls]
      | true =>
        cases hr : Validation.recoverRule u markers n.frame.location n.method.body index
          call.owner with
        | error fault => simp [hv, hr, stepsOrFail, Step.isFault] at h
        | ok rule => simp [stepsOrFail, rules, List.filterMap_cons, Step.rule?]
  · rename_i call hp
    simp only [hp]
    split
    · rw [hcalls]
      rfl
    · rfl
  · rename_i access hp
    simp only [hp]
    split
    · rw [rules_eq_nil fun s hs => isRecord_of_mem_staticReadSteps hs]
      rfl
    · rfl
  · split
    · exact absurd ‹_› (by simp [*])
    · simp [rules]

theorem rules_flatMap {α : Type} (l : List α) (f : α → List Step) :
    rules (l.flatMap f) = l.flatMap fun a => rules (f a) := by
  unfold rules
  rw [List.filterMap_flatMap]

/-- The rules that a method records are those of its validator constructions, if it performs all
of its steps. -/
theorem rules_steps {n : Node} (h : ∀ s ∈ n.steps u markers, s.isFault = false) :
    (rules (n.steps u markers)).map .ok = siteRules u markers n := by
  rw [Node.steps, methodSteps, rules_flatMap, List.map_flatMap, siteRules,
    List.filterMap_eq_flatMap_toList]
  refine List.flatMap_congr fun p hp => ?_
  exact rules_instructionSteps fun s hs => h s (List.mem_flatMap.mpr ⟨p, hp, hs⟩)

/-! ## Edges lead to declared methods of followed classes -/

/-- The body of a lambda whose class is named is declared by that class. -/
theorem Names.followed {name : String} {n : Node} (owner : Names u name n.record)
    (body : IsLambdaBodyOf markers n) : u.Follows n.record ∧ n.Declared u := by
  obtain ⟨c, hc, -, hb⟩ := body
  have hf := Universe.follows_of_find? owner.1 owner.2
  have hm : n.method ∈ c.methods := (List.mem_filter.mp (hb ▸ List.mem_singleton_self n.method)).1
  exact ⟨hf, hf.1, c, hc, hm⟩

/-- A call enters declared methods of followed classes. -/
theorem Enters.followed {call : Call} {n : Node} (h : Enters u markers call n) :
    u.Follows n.record ∧ n.Declared u := by
  cases h with
  | lambda owner body => exact owner.followed body
  | resolved names info direct found =>
    exact Universe.resolveMethod_followed (Universe.follows_of_find? names.1 names.2) found
  | implemented names info fans all mem found =>
    exact Universe.resolveMethod_followed (Universe.mem_implementations all mem) found
  | inherited names info fans all mem absent found =>
    exact Universe.resolveDefaultMethod_followed (Universe.mem_implementations all mem) found

theorem Edge.followed {a b : Node} (h : Edge u markers a b) :
    u.Follows b.record ∧ b.Declared u := by
  cases h with
  | call mem payload followed enters => exact enters.followed
  | handle mem payload target enters => exact enters.followed
  | read mem payload get owner body => exact owner.followed body

/-- Whatever a declared method reaches is declared. -/
theorem Reaches.declared {a b : Node} (h : Reaches u markers a b) (ha : a.Declared u) :
    b.Declared u := by
  cases h with
  | refl => exact ha
  | tail _ edge => exact edge.followed.2

end ApiSurface.Calls
