import ApiSurface.Proofs.Calls.Run
import ApiSurface.Proofs.Universe.Breadth
import ApiSurface.Proofs.Universe.Implementations

/-!
# Calls on a class and on its abstraction

A call on an abstraction that has one implementation can only go to this class, so it should do
what a call on the class itself does. Both look for the method up the superclasses of the class.
Only the call on the abstraction goes on to the interfaces above the class. So the two do the same
exactly as long as the method is not a default method that the class inherits; the call on the
class enters no such method.

Main definitions: `followCall`, `FollowedAlike`, `SoleReceiver`, `InheritsDefault`. Main statements:
`followed_alike_iff`, `default_method_missed`.
-/
namespace ApiSurface.Calls

/-- Follow a call that the last method of `path` makes. -/
def followCall (u : Universe) (markers : Markers) (limit left : Nat) (path : List Frame)
    (call : Call) : Walking Unit :=
  performAll (visit u markers limit left) path (callSteps u markers call)

/-- What a walk has come to, but for its log. -/
structure Effect where
  outcome : Except Fault Unit
  entered : List Frame
  exceptions : List ThrownException
  validations : List ValidationRule

/-- The effect of a part of a walk. -/
def effect (run : Except Fault Unit × Walk) : Effect :=
  ⟨run.1, run.2.entered, run.2.exceptions, run.2.validations⟩

/-- Following either call from the same state of a walk enters the same methods, records the same
and ends with the same outcome. -/
def FollowedAlike (u : Universe) (markers : Markers) (call call' : Call) : Prop :=
  ∀ limit left path w, effect (runFrom (followCall u markers limit left path call) w) =
    effect (runFrom (followCall u markers limit left path call') w)

/-- A followed class is concrete, and it is the only such class below a followed abstraction.
Neither was compiled from a lambda. -/
structure SoleReceiver (u : Universe) (markers : Markers) (receiver abstraction : ClassRecord) :
    Prop where
  follows : u.Follows receiver
  concrete : ∃ c, receiver.info = .ok c ∧ c.isConcrete = true ∧ isLambda markers c = false
  abstractFollows : u.Follows abstraction
  abstract : ∃ c, abstraction.info = .ok c ∧ c.isConcrete = false ∧ isLambda markers c = false
  above : u.Above receiver.path abstraction.path
  sole : ∀ other, u.Implements .traversal abstraction.path other → other = receiver

/-- No class up the superclasses declares the method, and an interface above the class gives it. -/
def InheritsDefault (u : Universe) (receiver : ClassRecord) (name descriptor : String) (n : Node) :
    Prop :=
  u.resolveMethod receiver name (some descriptor) = .ok none ∧
    u.resolveDefaultMethod receiver name descriptor = .ok (some (n.record, n.method))

variable {u : Universe} {markers : Markers} {receiver abstraction : ClassRecord}
  {name descriptor : String}

/-! ## The steps of the calls -/

theorem lambdaSteps_eq_nil {record : ClassRecord} {c : Class} (info : record.info = .ok c)
    (plain : isLambda markers c = false) : lambdaSteps markers record = [] := by
  simp [lambdaSteps, info, plain, stepsOrFail]

/-- A call of a method of a followed class that was not compiled from a lambda has the steps of the
method alone. -/
theorem callSteps_of_follows {record : ClassRecord} {c : Class} {call : Call}
    (follows : u.Follows record) (owner : call.owner = record.path) (info : record.info = .ok c)
    (plain : isLambda markers c = false) :
    callSteps u markers call = targetSteps u markers record call := by
  rw [callSteps, owner, if_pos follows.2, Universe.lookup_eq_ok.mpr follows.1]
  simp [lambdaSteps_eq_nil info plain]

namespace SoleReceiver

/-- The class is an implementation of the abstraction. -/
theorem implements (sole : SoleReceiver u markers receiver abstraction) :
    u.Implements .traversal abstraction.path receiver := by
  obtain ⟨c, info, concrete, -⟩ := sole.concrete
  obtain ⟨a, abstractInfo, abstract, -⟩ := sole.abstract
  refine ⟨sole.follows.1, sole.follows.2, ?_, sole.above, c, info, concrete⟩
  intro hpath
  have hfound := sole.follows.1
  rw [hpath, sole.abstractFollows.1] at hfound
  obtain rfl := Option.some.inj hfound
  obtain rfl := Except.ok.inj (info.symm.trans abstractInfo)
  simp [concrete] at abstract

/-- A call on the class enters the method that is found up its superclasses. -/
theorem callSteps_receiver (sole : SoleReceiver u markers receiver abstraction) (kind : CallKind)
    {found : Option (ClassRecord × Method)}
    (h : u.resolveMethod receiver name (some descriptor) = .ok found) :
    callSteps u markers ⟨kind, receiver.path, name, descriptor⟩ =
      [found.elim (.note (.noBody receiver.path name descriptor)) fun n => .enter n.1 n.2] := by
  obtain ⟨c, info, concrete, plain⟩ := sole.concrete
  rw [callSteps_of_follows sole.follows rfl info plain, targetSteps, info, ok_bind,
    if_neg (by simp [concrete]), h, ok_bind]
  cases found <;> rfl

/-- A call on the class fails if a look-up up its superclasses does. -/
theorem callSteps_receiver_error (sole : SoleReceiver u markers receiver abstraction)
    (kind : CallKind) {fault : Fault}
    (h : u.resolveMethod receiver name (some descriptor) = .error fault) :
    callSteps u markers ⟨kind, receiver.path, name, descriptor⟩ = [.fail fault] := by
  obtain ⟨c, info, concrete, plain⟩ := sole.concrete
  rw [callSteps_of_follows sole.follows rfl info plain, targetSteps, info, ok_bind,
    if_neg (by simp [concrete]), h, error_bind, stepsOrFail]

/-- A call on the abstraction goes to the class. -/
theorem callSteps_abstraction (sole : SoleReceiver u markers receiver abstraction)
    (decodes : u.Decodes) (acyclic : ∀ c, ¬ u.OnCycle c) {kind : CallKind}
    (dynamic : isDynamic kind = true) (name descriptor : String) :
    callSteps u markers ⟨kind, abstraction.path, name, descriptor⟩ =
      implementationSteps u ⟨kind, abstraction.path, name, descriptor⟩ receiver := by
  obtain ⟨c, info, abstract, plain⟩ := sole.abstract
  have hall := Universe.implementations_of_sole decodes acyclic sole.implements sole.sole
  rw [callSteps_of_follows sole.abstractFollows rfl info plain]
  simp [targetSteps, dispatchSteps, info, abstract, dynamic, hall, stepsOrFail]

end SoleReceiver

/-! ## Following them -/

variable {limit left : Nat} {path : List Frame} {w : Walk} {call : Call}

/-- A call that is only noted has no effect. -/
theorem effect_followCall_note {event : Event} (h : callSteps u markers call = [.note event]) :
    effect (runFrom (followCall u markers limit left path call) w) =
      ⟨.ok (), w.entered, w.exceptions, w.validations⟩ := by
  rw [followCall, h, runFrom_performAll_cons]
  rfl

/-- A call that enters one method does what the method does. -/
theorem runFrom_followCall_enter {n : Node} (h : callSteps u markers call = [n.entry]) :
    runFrom (followCall u markers limit left path call) w =
      runFrom (visit u markers limit left path n.record n.method) w := by
  rw [followCall, h, runFrom_performAll_cons]
  change proceed (runFrom (visit u markers limit left path n.record n.method) w)
    (fun _ w' => (Except.ok (), w')) = _
  cases runFrom (visit u markers limit left path n.record n.method) w with
  | mk outcome w' => cases outcome <;> rfl

theorem followedAlike_of_callSteps_eq {call' : Call}
    (h : callSteps u markers call = callSteps u markers call') :
    FollowedAlike u markers call call' := by
  intro limit left path w
  rw [followCall, followCall, h]

/-- A method that has not been entered is entered, however little the path may grow. -/
theorem not_followedAlike {call' : Call} {event : Event} {n : Node}
    (h : callSteps u markers call = [.note event]) (h' : callSteps u markers call' = [n.entry]) :
    ¬ FollowedAlike u markers call call' := by
  intro alike
  have heffect := alike 0 0 [] {}
  rw [effect_followCall_note h, runFrom_followCall_enter h', runFrom_visit_zero (by simp)]
    at heffect
  simp [effect] at heffect

/-- **A call on a class and a call on the abstraction that it alone implements are followed alike
exactly if the method is not a default method that the class inherits.** If it is, the call on the
class enters nothing and succeeds, while the call on the abstraction does what the method does. -/
theorem followed_alike_iff (decodes : u.Decodes) (acyclic : ∀ c, ¬ u.OnCycle c)
    (sole : SoleReceiver u markers receiver abstraction) {kind : CallKind}
    (dynamic : isDynamic kind = true) (name descriptor : String) :
    (FollowedAlike u markers ⟨.virtual, receiver.path, name, descriptor⟩
        ⟨kind, abstraction.path, name, descriptor⟩ ↔
      ¬ ∃ n, InheritsDefault u receiver name descriptor n) ∧
    ∀ n, InheritsDefault u receiver name descriptor n → ∀ limit left path w,
      effect (runFrom (followCall u markers limit left path
          ⟨.virtual, receiver.path, name, descriptor⟩) w) =
        ⟨.ok (), w.entered, w.exceptions, w.validations⟩ ∧
      runFrom (followCall u markers limit left path ⟨kind, abstraction.path, name, descriptor⟩) w =
        runFrom (visit u markers limit left path n.record n.method) w := by
  have through := sole.callSteps_abstraction decodes acyclic dynamic name descriptor
  rw [implementationSteps] at through
  have inherits {n : Node} (h : InheritsDefault u receiver name descriptor n) :
      callSteps u markers ⟨.virtual, receiver.path, name, descriptor⟩ =
          [.note (.noBody receiver.path name descriptor)] ∧
        callSteps u markers ⟨kind, abstraction.path, name, descriptor⟩ = [n.entry] := by
    rw [h.1, ok_bind, h.2, ok_bind] at through
    exact ⟨sole.callSteps_receiver .virtual h.1, through⟩
  refine ⟨⟨?parted, ?alike⟩, ?inherited⟩
  case parted =>
    rintro alike ⟨n, h⟩
    exact not_followedAlike (inherits h).1 (inherits h).2 alike
  case alike =>
    intro none
    cases hresolved : u.resolveMethod receiver name (some descriptor) with
    | error fault =>
      rw [hresolved, error_bind] at through
      exact followedAlike_of_callSteps_eq
        ((sole.callSteps_receiver_error .virtual hresolved).trans through.symm)
    | ok resolved =>
      have direct := sole.callSteps_receiver .virtual hresolved
      rw [hresolved, ok_bind] at through
      cases resolved with
      | some found => exact followedAlike_of_callSteps_eq (direct.trans through.symm)
      | none =>
        obtain ⟨inherited, hinherited⟩ : ∃ inherited,
            u.resolveDefaultMethod receiver name descriptor = .ok inherited :=
          Universe.exists_defaultFrom decodes _
            (by simpa using decodes _ _ sole.follows.1) _
        cases inherited with
        | some found => exact absurd ⟨⟨found.1, found.2⟩, hresolved, hinherited⟩ none
        | none =>
          -- Neither call finds a method; they differ in what they log.
          intro limit left path w
          rw [hinherited] at through
          rw [effect_followCall_note direct, effect_followCall_note through]
  case inherited =>
    intro n h limit left path w
    exact ⟨effect_followCall_note (inherits h).1, runFrom_followCall_enter (inherits h).2⟩

/-! ## A store that gives a method -/

/-- A public method without parameters or a result. -/
def procedure (name : String) (body : List Instruction) : Method :=
  { name, descriptor := "()V", body, flags := { isPublic := true } }

/-- The interface of the sample: one method is left to the classes, the other one throws. -/
def shelf : Class where
  name := "p/Shelf"
  flags := { isInterface := true, isAbstract := true }
  methods := [
    { procedure "load" [] with flags := { isPublic := true, isAbstract := true } },
    procedure "save"
      [⟨0, .call ⟨.special, "p/Full", "<init>", "()V"⟩⟩, ⟨3, .op Opcode.athrow⟩]]

/-- The class that implements it. -/
def box : Class where
  name := "p/Box"
  interfaces := ["p/Shelf"]
  methods := [procedure "load" []]

/-- The interface, the class and the exception. -/
def shelfClasses : List Class := [shelf, box, { name := "p/Full" }]

/-- The universe of the sample. -/
def shelves : Universe :=
  (Universe.ofRecords (shelfClasses.map .ofClass) { traversal := ["p"] }).toOption.get
    (by decide +kernel)

theorem shelves_eq :
    Universe.ofRecords (shelfClasses.map .ofClass) { traversal := ["p"] } = .ok shelves :=
  toOption_eq_some.mp (Option.some_get _).symm

theorem shelves_decodes : shelves.Decodes := by
  apply Universe.decodes_ofRecords shelves_eq
  simp [ClassRecord.ofClass, ClassRecord.info, Fault.ofDecoding]

theorem shelves_acyclic (c : String) : ¬ shelves.OnCycle c :=
  Universe.not_onCycle_of_descends "p/Missing" (by decide +kernel) c

/-- The classes of the sample are followed. -/
theorem follows_shelves {c : Class} (h : c ∈ shelfClasses) : shelves.Follows (.ofClass c) := by
  have contains : ∀ c ∈ shelfClasses, shelves.contains .traversal c.name = true := by
    decide +kernel
  exact Universe.follows_of_find? (contains c h)
    ((Universe.find?_ofRecords shelves_eq).mpr ⟨List.mem_map_of_mem h, rfl⟩)

theorem follows_shelf : shelves.Follows (.ofClass shelf) := follows_shelves (by simp [shelfClasses])

theorem follows_box : shelves.Follows (.ofClass box) := follows_shelves (by simp [shelfClasses])

/-- The class of the sample is the one implementation of the interface. -/
theorem box_soleReceiver : SoleReceiver shelves {} (.ofClass box) (.ofClass shelf) where
  follows := follows_box
  concrete := ⟨box, rfl, by decide, by decide⟩
  abstractFollows := follows_shelf
  abstract := ⟨shelf, rfl, by decide, by decide⟩
  above := .single ((Universe.stepsUp_iff follows_box.1 rfl).mpr (by decide))
  sole := by
    intro other h
    obtain ⟨found, hfound, -, hmem⟩ := Universe.exists_implementations shelves_decodes
      shelves_acyclic .traversal "p/Shelf"
    have hpaths : (shelves.implementations .traversal "p/Shelf").toOption.map
        (·.map (·.path)) = some ["p/Box"] := by decide +kernel
    rw [hfound] at hpaths
    have hpath : other.path ∈ ["p/Box"] := by
      rw [← Option.some.inj hpaths]
      exact List.mem_map_of_mem ((hmem other).mpr h)
    have hother := h.found
    rw [List.mem_singleton.mp hpath] at hother
    exact Option.some.inj (hother.symm.trans follows_box.1)

/-- The method that the interface gives. -/
def savedNode : Node := ⟨.ofClass shelf, shelf.methods[1]⟩

theorem box_inherits : InheritsDefault shelves (.ofClass box) "save" "()V" savedNode :=
  ⟨by rfl, by rfl⟩

/-- Of the two methods of the interface, calls of the one that the class declares are followed
alike. -/
theorem followed_alike_shelves :
    shelves.Decodes ∧ (∀ c, ¬ shelves.OnCycle c) ∧
      SoleReceiver shelves {} (.ofClass box) (.ofClass shelf) ∧ isDynamic .interface = true ∧
      FollowedAlike shelves {} ⟨.virtual, "p/Box", "load", "()V"⟩
        ⟨.interface, "p/Shelf", "load", "()V"⟩ ∧
      ¬ FollowedAlike shelves {} ⟨.virtual, "p/Box", "save", "()V"⟩
        ⟨.interface, "p/Shelf", "save", "()V"⟩ := by
  have dynamic : isDynamic .interface = true := rfl
  have main := followed_alike_iff shelves_decodes shelves_acyclic box_soleReceiver dynamic
  refine ⟨shelves_decodes, shelves_acyclic, box_soleReceiver, dynamic, ?_, ?_⟩
  · refine (main "load" "()V").1.mpr ?_
    rintro ⟨n, h, -⟩
    have hdeclared : (shelves.resolveMethod (.ofClass box) "load" (some "()V")).toOption.map
        Option.isSome = some true := by decide +kernel
    rw [h] at hdeclared
    cases hdeclared
  · exact fun alike => (main "save" "()V").1.mp alike ⟨savedNode, box_inherits⟩

/-- **A default method is missed by calls on the class that inherits it.** The one implementation of
an interface is called directly and by the interface, from the same state. Only the second call
enters the method that the interface gives, and finds the exception that it throws. -/
theorem default_method_missed :
    shelves.Decodes ∧ (∀ c, ¬ shelves.OnCycle c) ∧
      SoleReceiver shelves {} (.ofClass box) (.ofClass shelf) ∧
      effect (runFrom (followCall shelves {} 8 8 [] ⟨.virtual, "p/Box", "save", "()V"⟩) {}) =
        ⟨.ok (), [], [], []⟩ ∧
      effect (runFrom (followCall shelves {} 8 8 [] ⟨.interface, "p/Shelf", "save", "()V"⟩) {}) =
        ⟨.ok (), [savedNode.frame], [⟨"p/Full", [savedNode.frame]⟩], []⟩ :=
  ⟨shelves_decodes, shelves_acyclic, box_soleReceiver, by rfl, by rfl⟩

end ApiSurface.Calls
