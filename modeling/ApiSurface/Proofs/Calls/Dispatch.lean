import ApiSurface.Proofs.Calls.Coverage
import ApiSurface.Proofs.Calls.Receivers
import ApiSurface.Proofs.Universe.Nearest
import ApiSurface.Proofs.Universe.Superclasses
import Mathlib.Data.List.ReduceOption

/-!
# Calls that fan out

A call on an abstraction goes to every concrete followed class below it, in the order of their
names. Each of them is given the first method on its way up, or else the default method that it
inherits, and a class that has neither is passed over. Only if there are no such classes, and the
abstraction is not marked as functional, is the call itself unbounded; a fault of this kind that
comes from a method that the call enters has a longer path.

Main definitions: `Dispatched`, `Receives`. Main statements: `dispatch_complete`,
`dispatch_undecoded`.
-/
namespace ApiSurface.Calls

/-- The call is on a followed class that leaves the choice of the method to the classes below it,
and that was not compiled from a lambda. -/
structure Dispatched (u : Universe) (markers : Markers) (call : Call) (owner : ClassRecord)
    (c : Class) : Prop where
  named : call.owner = owner.path
  follows : u.Follows owner
  info : owner.info = .ok c
  plain : isLambda markers c = false
  fans : FansOut call c

/-- The class is marked as a functional interface. -/
def IsFunctional (markers : Markers) (c : Class) : Prop :=
  c.annotations.any (·.type = "L" ++ markers.functionalInterface ++ ";") = true

/-- What a class below the abstraction is given by a call: the first method on its way up, or the
default method that it inherits if there is none, or nothing. -/
inductive Receives (u : Universe) (name descriptor : String) (r : ClassRecord) :
    Option Node → Prop
  | declared {n : Node} (first : u.FirstUp name (some descriptor) r (some (n.record, n.method))) :
      Receives u name descriptor r (some n)
  | inherited {n : Node} (absent : u.FirstUp name (some descriptor) r none)
      (inherits : u.Inherits name descriptor r.path n.record n.method) :
      Receives u name descriptor r (some n)
  | nothing (absent : u.FirstUp name (some descriptor) r none)
      (empty : ∀ route path, Universe.Climbs u r.path route path →
        ¬ u.GivesDefault name descriptor path) :
      Receives u name descriptor r none

/-- The method that a step enters. -/
def Step.entered? : Step → Option Node
  | .enter record m => some ⟨record, m⟩
  | _ => none

variable {u : Universe} {markers : Markers} {limit : Nat} {path : List Node} {steps : List Step}
  {w w' : Walk}

/-! ## Runs that end with an unbounded call -/

/-- A run ends with an unbounded call because one of its own steps is, and then with the path of the
run, or because a method that it enters comes to one, and then with a longer path. -/
theorem Performs.unbounded {outcome : Except Fault Unit}
    (run : Performs u markers limit path steps w outcome w') {callee : Frame}
    {frames : List Frame} (h : outcome = .error (.unboundedDispatch callee frames))
    (pathless : ∀ s ∈ steps, s.IsPathless) :
    .unimplemented callee ∈ steps ∧ frames = path.map Node.frame ∨
      path.length < frames.length := by
  have later {s : Step} {steps : List Step} {P Q : Prop}
      (h : .unimplemented callee ∈ steps ∧ P ∨ Q) : .unimplemented callee ∈ s :: steps ∧ P ∨ Q :=
    h.imp_left (And.imp_left (List.mem_cons_of_mem _))
  induction run with
  | done => cases h
  | throws _ ih => exact later (ih h (List.forall_mem_cons.mp pathless).2)
  | validates _ ih => exact later (ih h (List.forall_mem_cons.mp pathless).2)
  | note _ ih => exact later (ih h (List.forall_mem_cons.mp pathless).2)
  | unimplemented =>
    cases h
    exact .inl ⟨List.mem_cons_self, rfl⟩
  | fail =>
    cases h
    cases (List.forall_mem_cons.mp pathless).1
  | again _ _ ih => exact later (ih h (List.forall_mem_cons.mp pathless).2)
  | tooDeep => cases h
  | nested _ _ _ _ _ ih => exact later (ih h (List.forall_mem_cons.mp pathless).2)
  | stopped _ _ _ ih =>
    right
    rcases ih h (methodSteps_pathless u markers _ _) with ⟨-, rfl⟩ | hlt
    · simp
    · rw [List.length_append] at hlt
      omega

/-! ## The steps of a call that fans out -/

variable {call : Call} {owner : ClassRecord} {c : Class}

theorem Dispatched.callSteps_eq (h : Dispatched u markers call owner c) :
    callSteps u markers call = dispatchSteps u markers owner c call := by
  rw [callSteps_of_follows h.follows h.named h.info h.plain]
  simp [targetSteps, h.info, h.fans.1, h.fans.2, stepsOrFail]

/-- The steps of a call are not about a call path. -/
theorem callSteps_pathless (u : Universe) (markers : Markers) (call : Call) :
    ∀ s ∈ callSteps u markers call, s.IsPathless :=
  forall_mem_callSteps (fun _ _ => trivial) (fun _ => trivial) (fun _ => trivial) (fun _ h => h) u
    markers call

/-- What a class is given is what is found on its way up, or else what it inherits. -/
theorem receives_of_steps {r : ClassRecord} (found : u.find? r.path = some r)
    (h : ∀ s ∈ implementationSteps u call r, s.isFault = false) :
    ∃ target, Receives u call.name call.descriptor r target ∧
      (implementationSteps u call r).filterMap Step.entered? = target.toList := by
  rw [implementationSteps] at h ⊢
  cases hdeclared : u.resolveMethod r call.name (some call.descriptor) with
  | error fault => simp [hdeclared, stepsOrFail, Step.isFault] at h
  | ok declared =>
    have first := Universe.firstUp_of_resolveMethod found hdeclared
    cases declared with
    | some n => exact ⟨some ⟨n.1, n.2⟩, .declared first, rfl⟩
    | none =>
      rw [hdeclared] at h
      cases hinherited : u.resolveDefaultMethod r call.name call.descriptor with
      | error fault => simp [hinherited, stepsOrFail, Step.isFault] at h
      | ok inherited =>
        rw [ok_bind, ok_bind]
        cases inherited with
        | some n =>
          exact ⟨some ⟨n.1, n.2⟩,
            .inherited first (Universe.inherits_of_resolveDefaultMethod found hinherited), rfl⟩
        | none =>
          refine ⟨none, .nothing first fun route path climbs => ?_, rfl⟩
          exact Universe.not_gives_of_resolveDefaultMethod found hinherited climbs

/-- The classes that a call fans out to are given their methods one after the other. -/
theorem receives_of_flatMap {receivers : List ClassRecord}
    (found : ∀ r ∈ receivers, u.find? r.path = some r)
    (h : ∀ s ∈ receivers.flatMap (implementationSteps u call), s.isFault = false) :
    ∃ targets, List.Forall₂ (Receives u call.name call.descriptor) receivers targets ∧
      (receivers.flatMap (implementationSteps u call)).filterMap Step.entered? =
        targets.reduceOption := by
  induction receivers with
  | nil => exact ⟨[], .nil, rfl⟩
  | cons r receivers ih =>
    rw [List.flatMap_cons] at h
    obtain ⟨hfirst, hrest⟩ := List.forall_mem_append.mp h
    obtain ⟨target, receives, hentered⟩ :=
      receives_of_steps (found r List.mem_cons_self) hfirst
    obtain ⟨targets, others, hothers⟩ :=
      ih (fun q hq => found q (List.mem_cons_of_mem _ hq)) hrest
    refine ⟨target :: targets, .cons receives others, ?_⟩
    rw [List.flatMap_cons, List.filterMap_append, hentered, hothers]
    cases target <;> rfl

/-! ## What a call that fans out comes to -/

/-- Following the call from the methods of a path ends with the fault that this call itself, with
this path, has no implementations. -/
def Unbounded (u : Universe) (markers : Markers) (left : Nat) (path : List Node) (call : Call)
    (w : Walk) : Prop :=
  (runFrom (followCall u markers (path.length + left) left (path.map Node.frame) call) w).1 =
    .error (.unboundedDispatch ⟨call.owner, call.name, call.descriptor⟩ (path.map Node.frame))

/-- What a call does from the methods of a path is a run of its steps. -/
theorem performs_followCall (left : Nat) (path : List Node) (call : Call) (w : Walk) :
    Performs u markers (path.length + left) path (callSteps u markers call) w
      (runFrom (followCall u markers (path.length + left) left (path.map Node.frame) call) w).1
      (runFrom (followCall u markers (path.length + left) left (path.map Node.frame) call) w).2 :=
  performs_performAll left path (callSteps u markers call) w rfl

/-- A call that fans out is unbounded exactly if no implementation is found and the abstraction is
not functional. -/
theorem Dispatched.unbounded_iff (h : Dispatched u markers call owner c) (left : Nat)
    (path : List Node) (w : Walk) :
    Unbounded u markers left path call w ↔
      u.implementations .traversal owner.path = .ok [] ∧ ¬ IsFunctional markers c := by
  constructor
  · intro raised
    rcases (performs_followCall left path call w).unbounded raised (callSteps_pathless u markers call)
      with ⟨hmem, -⟩ | hlt
    · rw [h.callSteps_eq, dispatchSteps] at hmem
      split at hmem
      · simp at hmem
      next hall =>
        split at hmem
        · simp at hmem
        next plain => exact ⟨hall, plain⟩
      · obtain ⟨r, -, hr⟩ := List.mem_flatMap.mp hmem
        have noted : ∀ s ∈ implementationSteps u call r,
            s ≠ .unimplemented ⟨call.owner, call.name, call.descriptor⟩ :=
          forall_mem_implementationSteps (fun _ _ => Step.noConfusion) (fun _ => Step.noConfusion)
            (fun _ _ => Step.noConfusion) u call r
        exact absurd rfl (noted _ hr)
    · rw [List.length_map] at hlt
      omega
  · rintro ⟨hall, plain⟩
    have hsteps : callSteps u markers call =
        [.unimplemented ⟨call.owner, call.name, call.descriptor⟩] := by
      rw [h.callSteps_eq, dispatchSteps, hall]
      exact if_neg plain
    rw [Unbounded, followCall, hsteps, runFrom_performAll_cons]
    rfl

/-- A call that fans out fails as the look-up for implementations does, before it enters a
method. -/
theorem Dispatched.fails (h : Dispatched u markers call owner c) {fault : Fault}
    (hfault : u.implementations .traversal owner.path = .error fault) (left : Nat)
    (path : List Node) (w : Walk) :
    runFrom (followCall u markers (path.length + left) left (path.map Node.frame) call) w =
      (.error fault, w) := by
  rw [followCall, h.callSteps_eq, dispatchSteps, hfault, runFrom_performAll_cons]
  rfl

/-- **A call that fans out misses no implementation.** It is unbounded only if no concrete followed
class is below the abstraction, which is not functional either; and then it is unbounded, or else a
class above some followed class could not be decoded, with whose fault the call ends. A call that is
followed successfully has given a method to each of the classes below, in ascending order: it enters
just these methods in just this order. -/
theorem dispatch_complete (acyclic : ∀ path, ¬ u.OnCycle path)
    (h : Dispatched u markers call owner c) (left : Nat) (path : List Node) (w : Walk) :
    (Unbounded u markers left path call w →
      (¬ ∃ r, u.Implements .traversal owner.path r) ∧ ¬ IsFunctional markers c) ∧
    ((¬ ∃ r, u.Implements .traversal owner.path r) ∧ ¬ IsFunctional markers c →
      Unbounded u markers left path call w ∨
      ∃ start other record fault, u.contains .traversal start = true ∧ u.Above start other ∧
        u.find? other = some record ∧ record.info = .error fault ∧
        runFrom (followCall u markers (path.length + left) left (path.map Node.frame) call) w =
          (.error fault, w)) ∧
    ∀ w', runFrom (followCall u markers (path.length + left) left (path.map Node.frame) call) w =
        (.ok (), w') →
      ∃ receivers targets, (receivers.Pairwise fun r s => r.path < s.path) ∧
        (∀ r, r ∈ receivers ↔ u.Implements .traversal owner.path r) ∧
        List.Forall₂ (Receives u call.name call.descriptor) receivers targets ∧
        (callSteps u markers call).filterMap Step.entered? = targets.reduceOption ∧
        ∀ n ∈ targets.reduceOption, n.frame ∈ w'.entered := by
  refine ⟨fun raised => ?raised, fun ⟨empty, plain⟩ => ?unbounded, fun w' hrun => ?followed⟩
  case raised =>
    obtain ⟨hall, plain⟩ := (h.unbounded_iff left path w).mp raised
    refine ⟨?_, plain⟩
    rintro ⟨r, hr⟩
    cases ((Universe.implementations_eq_ok hall).2 r).mpr hr
  case unbounded =>
    cases hall : u.implementations .traversal owner.path with
    | error fault =>
      obtain ⟨start, other, record, contains, above, found, info⟩ :=
        Universe.undecoded_of_implementations acyclic hall
      exact .inr ⟨start, other, record, fault, contains, above, found, info,
        h.fails hall left path w⟩
    | ok receivers =>
      obtain rfl : receivers = [] := by
        refine List.eq_nil_iff_forall_not_mem.mpr fun r hr => ?_
        exact empty ⟨r, ((Universe.implementations_eq_ok hall).2 r).mp hr⟩
      exact .inl ((h.unbounded_iff left path w).mpr ⟨hall, plain⟩)
  case followed =>
    have run : Performs u markers (path.length + left) path (callSteps u markers call) w _ _ :=
      performs_followCall left path call w
    rw [hrun] at run
    obtain ⟨added, account⟩ := run.extends rfl
    have faultless : ∀ s ∈ callSteps u markers call, s.isFault = false := fun s hs =>
      account.succeeded s (List.mem_append_left _ hs)
    cases hall : u.implementations .traversal owner.path with
    | error fault =>
      rw [h.fails hall left path w] at hrun
      cases hrun
    | ok receivers =>
      obtain ⟨ascending, hmem⟩ := Universe.implementations_eq_ok hall
      have hsteps : callSteps u markers call = dispatchSteps u markers owner c call :=
        h.callSteps_eq
      rw [dispatchSteps, hall] at hsteps
      obtain ⟨targets, receives, hentered⟩ : ∃ targets,
          List.Forall₂ (Receives u call.name call.descriptor) receivers targets ∧
          (callSteps u markers call).filterMap Step.entered? = targets.reduceOption := by
        cases receivers with
        | nil =>
          refine ⟨[], .nil, ?_⟩
          rw [hsteps]
          dsimp only
          split <;> rfl
        | cons r rest =>
          rw [hsteps] at faultless ⊢
          exact receives_of_flatMap (fun q hq => ((hmem q).mp hq).found) faultless
      refine ⟨receivers, targets, ascending, hmem, receives, hentered, fun n hn => ?_⟩
      rw [← hentered] at hn
      obtain ⟨s, hs, hn⟩ := List.mem_filterMap.mp hn
      cases s with
      | enter record m =>
        cases hn
        exact account.called ⟨record, m⟩ (List.mem_append_left _ hs)
      | _ => cases hn

/-! ## A depot with two implementations, and a cellar with none -/

/-- An interface that leaves one method to its implementations and gives them another. -/
def depot : Class where
  name := "p/Depot"
  flags := { isInterface := true, isAbstract := true }
  methods := [
    { procedure "load" [] with flags := { isPublic := true, isAbstract := true } },
    procedure "save" [⟨0, .op 0xb1⟩]]

/-- An implementation. -/
def attic : Class where
  name := "p/Attic"
  interfaces := ["p/Depot"]
  methods := [procedure "load" [⟨0, .op 0xb1⟩]]

/-- An implementation that has what its superclass has. -/
def barn : Class := { name := "p/Barn", superclass := some "p/Attic" }

/-- An interface without implementations. -/
def cellar : Class where
  name := "p/Cellar"
  flags := { isInterface := true, isAbstract := true }

/-- The classes of the sample. -/
def depotClasses : List Class := [depot, attic, barn, cellar]

/-- The universe of the sample. -/
def depots : Universe :=
  (Universe.ofRecords (depotClasses.map .ofClass) { traversal := ["p"] }).toOption.get
    (by decide +kernel)

theorem depots_acyclic (c : String) : ¬ depots.OnCycle c :=
  Universe.not_onCycle_of_descends "p/Missing" (by decide +kernel) c

theorem follows_depots {c : Class} (h : c ∈ depotClasses) : depots.Follows (.ofClass c) := by
  have heq : Universe.ofRecords (depotClasses.map .ofClass) { traversal := ["p"] } = .ok depots :=
    toOption_eq_some.mp (Option.some_get _).symm
  have contains : ∀ c ∈ depotClasses, depots.contains .traversal c.name = true := by
    decide +kernel
  exact Universe.follows_of_find? (contains c h)
    ((Universe.find?_ofRecords heq).mpr ⟨List.mem_map_of_mem h, rfl⟩)

/-- A call of a method of an interface. -/
def interfaceCall (owner name : String) : Call := ⟨.interface, owner, name, "()V"⟩

theorem depot_dispatched (name : String) :
    Dispatched depots {} (interfaceCall "p/Depot" name) (.ofClass depot) depot :=
  ⟨rfl, follows_depots (by simp [depotClasses]), rfl, by decide, rfl, by decide⟩

theorem cellar_dispatched :
    Dispatched depots {} (interfaceCall "p/Cellar" "load") (.ofClass cellar) cellar :=
  ⟨rfl, follows_depots (by simp [depotClasses]), rfl, by decide, by decide, by decide⟩

/-- Both implementations of the depot are given a method, whether it is the one that a class
declares or the one that the interface gives. A call on the cellar is unbounded, as it has no
implementations. -/
theorem dispatch_complete_depots :
    (∀ path, ¬ depots.OnCycle path) ∧
      Dispatched depots {} (interfaceCall "p/Depot" "load") (.ofClass depot) depot ∧
      Dispatched depots {} (interfaceCall "p/Depot" "save") (.ofClass depot) depot ∧
      Dispatched depots {} (interfaceCall "p/Cellar" "load") (.ofClass cellar) cellar ∧
      (∃ receivers targets,
        (∀ r, r ∈ receivers ↔ depots.Implements .traversal "p/Depot" r) ∧
        List.Forall₂ (Receives depots "load" "()V") receivers targets ∧
        targets.reduceOption.map Node.frame =
          [⟨"p/Attic", "load", "()V"⟩, ⟨"p/Attic", "load", "()V"⟩]) ∧
      (∃ receivers targets,
        (∀ r, r ∈ receivers ↔ depots.Implements .traversal "p/Depot" r) ∧
        List.Forall₂ (Receives depots "save" "()V") receivers targets ∧
        targets.reduceOption.map Node.frame =
          [⟨"p/Depot", "save", "()V"⟩, ⟨"p/Depot", "save", "()V"⟩]) ∧
      Unbounded depots {} 8 [] (interfaceCall "p/Cellar" "load") {} ∧
      ¬ ∃ r, depots.Implements .traversal "p/Cellar" r := by
  have load := (dispatch_complete depots_acyclic (depot_dispatched "load") 8 [] {}).2.2
  have save := (dispatch_complete depots_acyclic (depot_dispatched "save") 8 [] {}).2.2
  have unbounded : Unbounded depots {} 8 [] (interfaceCall "p/Cellar" "load") {} := by rfl
  refine ⟨depots_acyclic, depot_dispatched "load", depot_dispatched "save", cellar_dispatched, ?load,
    ?save, unbounded, ((dispatch_complete depots_acyclic cellar_dispatched 8 [] {}).1 unbounded).1⟩
  case load =>
    obtain ⟨receivers, targets, -, hmem, receives, hentered, -⟩ := load _ rfl
    refine ⟨receivers, targets, hmem, receives, ?_⟩
    rw [← hentered]
    rfl
  case save =>
    obtain ⟨receivers, targets, -, hmem, receives, hentered, -⟩ := save _ rfl
    refine ⟨receivers, targets, hmem, receives, ?_⟩
    rw [← hentered]
    rfl

/-! ## A class that could not be decoded -/

/-- The interface without implementations, and a class of which only the name is known. -/
def sealedRecords : List ClassRecord :=
  [.ofClass cellar, { path := "p/Sealed", content := .error ⟨"p/Sealed", .unparsed "<container>"⟩ }]

/-- The universe of the sample. -/
def sealedClasses : Universe :=
  (Universe.ofRecords sealedRecords { traversal := ["p"] }).toOption.get (by decide +kernel)

theorem find?_sealedClasses {path : String} {r : ClassRecord} :
    sealedClasses.find? path = some r ↔ r ∈ sealedRecords ∧ r.path = path :=
  Universe.find?_ofRecords (toOption_eq_some.mp (Option.some_get _).symm)

theorem sealedClasses_acyclic (path : String) : ¬ sealedClasses.OnCycle path := by
  have absent : sealedClasses.find? "java/lang/Object" = none := by rfl
  intro cycle
  obtain ⟨next, ⟨record, c, found, info, hnext⟩, rest⟩ := Relation.TransGen.head'_iff.mp cycle
  -- The only way up leads out of the universe.
  obtain ⟨hmem, hpath⟩ := find?_sealedClasses.mp found
  rcases List.mem_pair.mp hmem with rfl | rfl
  · cases info
    obtain rfl := List.mem_singleton.mp hnext
    rcases rest.cases_head with heq | ⟨_, step, -⟩
    · rw [← heq] at hpath
      exact absurd hpath (by decide)
    · exact Universe.not_stepsUp absent step
  · cases info

/-- The fault of a part of a walk, if it is that of a class file that is refused. -/
def refusedClass? (run : Except Fault Unit × Walk) : Option (String × ClassFile.Refusal) :=
  match run.1 with
  | .error (.decode name reason) => some (name, reason)
  | _ => none

/-- **A call without implementations need not be unbounded.** No concrete class is below the
interface, which is not functional, and there is no cycle. But a followed class could not be
decoded, so that what is above it is not known, and the call ends with the fault of this class. -/
theorem dispatch_undecoded :
    (∀ path, ¬ sealedClasses.OnCycle path) ∧
      Dispatched sealedClasses {} (interfaceCall "p/Cellar" "load") (.ofClass cellar) cellar ∧
      (¬ ∃ r, sealedClasses.Implements .traversal "p/Cellar" r) ∧ ¬ IsFunctional {} cellar ∧
      ¬ Unbounded sealedClasses {} 8 [] (interfaceCall "p/Cellar" "load") {} ∧
      refusedClass? (runFrom (followCall sealedClasses {} 8 8 [] (interfaceCall "p/Cellar" "load"))
        {}) = some ("p/Sealed", .unparsed "<container>") := by
  have found : sealedClasses.find? "p/Cellar" = some (.ofClass cellar) :=
    find?_sealedClasses.mpr ⟨List.mem_cons_self, rfl⟩
  have contains : sealedClasses.contains .traversal "p/Cellar" = true := by decide +kernel
  have follows := Universe.follows_of_find? contains found
  refine ⟨sealedClasses_acyclic, ⟨rfl, follows, rfl, by decide, by decide, by decide⟩, ?none,
    by simp [IsFunctional, cellar], ?bounded, by rfl⟩
  case none =>
    rintro ⟨r, hfound, -, other, -, c, info, -⟩
    rcases List.mem_pair.mp (find?_sealedClasses.mp hfound).1 with rfl | rfl
    · exact other rfl
    · cases info
  case bounded =>
    intro raised
    cases raised

end ApiSurface.Calls
