import ApiSurface.Calls.Step
import ApiSurface.Proofs.Faults

/-!
# Faults that are not about a call path

Two faults are about a call path: a call that no class implements, and a path that is too deep.
A walk alone makes them. Whatever reads classes, searches the hierarchy, resolves methods or
recovers values ends with other faults.

Main definitions: `Fault.isAboutPath`, `Pathless`.
-/
namespace ApiSurface

/-- The fault is about a call path, which only a walk has. -/
def Fault.isAboutPath : Fault → Bool
  | unboundedDispatch _ _ => true
  | callDepthExceeded _ _ => true
  | _ => false

/-- A computation that does not end with a fault about a call path. -/
def Pathless {α : Type} (x : Except Fault α) : Prop :=
  ∀ fault, x = .error fault → fault.isAboutPath = false

namespace Pathless

variable {α β : Type}

@[simp] theorem ok (a : α) : Pathless (.ok a) := FailsWith.ok a

@[simp] theorem error {fault : Fault} (h : fault.isAboutPath = false) :
    Pathless (.error fault : Except Fault α) :=
  FailsWith.error h

theorem bind {x : Except Fault α} {f : α → Except Fault β} (hx : Pathless x)
    (hf : ∀ a, Pathless (f a)) : Pathless (x >>= f) :=
  FailsWith.bind hx hf

/-- No fault about classes is about a call path. -/
theorem of_classFaults {x : Except Fault α} (h : ClassFaults x) : Pathless x :=
  h.mono fun fault hfault => by cases fault <;> first | rfl | cases hfault

theorem ofReading {text : String} {x : Except Descriptor.Refusal α} :
    Pathless (Fault.ofReading text x) :=
  of_classFaults (.ofReading text x)

theorem info (r : ClassRecord) : Pathless r.info := of_classFaults (.info r)

/-! ## The universe -/

variable (u : Universe)

theorem lookup (path : String) : Pathless (u.lookup path) := of_classFaults (.lookup u path)

theorem searchAbove (target : String) (budget : Nat) (chain : List String) (path : String) :
    Pathless (u.searchAbove target budget chain path) :=
  of_classFaults (.searchAbove u target budget chain path)

theorem implementations (subset : Subset) (target : String) :
    Pathless (u.implementations subset target) :=
  of_classFaults (.implementations u subset target)

theorem resolveFrom (name : String) (descriptor : Option String) (budget : Nat)
    (seen : List String) (record : ClassRecord) :
    Pathless (u.resolveFrom name descriptor budget seen record) := by
  induction budget generalizing seen record with
  | zero =>
    unfold Universe.resolveFrom
    split
    · exact error rfl
    · exact ok none
  | succ budget ih =>
    unfold Universe.resolveFrom
    split
    · exact error rfl
    refine bind (info record) fun c => ?_
    split
    · exact ok _
    split
    · exact ok none
    · exact ih _ _

theorem defaultFrom (name descriptor : String) (budget : Nat) (queue : List ClassRecord)
    (seen : List String) : Pathless (u.defaultFrom name descriptor budget queue seen) := by
  induction budget generalizing queue seen with
  | zero => cases queue <;> exact ok none
  | succ budget ih =>
    cases queue with
    | nil => exact ok none
    | cons record queue =>
      refine bind (info record) fun c => ?_
      split
      · exact ok _
      · exact ih _ _

/-! ## Idioms -/

theorem holdsCall (owner : Option OwnerFilter) (name descriptor : Option String) (c : Call) :
    Pathless (Test.holdsCall u owner name descriptor c) := by
  cases owner with
  | none => exact ok _
  | some filter =>
    cases filter with
    | exact name => exact ok _
    | descendant base => exact bind (searchAbove u _ _ _ _) fun _ => ok _

mutual

theorem holds (p : Payload) : (t : Test) → Pathless (t.holds u p)
  | .opcode _ => ok _
  | .kind _ => ok _
  | .field _ _ _ _ => by
    unfold Test.holds
    split <;> exact ok _
  | .call owner name descriptor => by
    unfold Test.holds
    split
    · exact holdsCall u owner name descriptor _
    · exact ok _
  | .literal => ok _
  | .anyOf alternatives => holdsAny p alternatives

theorem holdsAny (p : Payload) : (ts : List Test) → Pathless (Test.holdsAny u p ts)
  | [] => ok false
  | t :: ts => by
    refine bind (holds p t) fun b => ?_
    split
    · exact ok true
    · exact holdsAny p ts

end

theorem matchAt (idiom : Idiom) (window : List Instruction) :
    Pathless (Idiom.matchAt u idiom window) := by
  induction idiom generalizing window with
  | nil => cases window <;> exact ok _
  | cons p ps ih =>
    have hleft : Pathless (if p.isOptional then do
        let captures ← Idiom.matchAt u ps window
        .ok (captures.map (none :: ·))
      else .ok none : Except Fault (Option Captures)) := by
      split
      · exact bind (ih _) fun _ => ok _
      · exact ok none
    unfold Idiom.matchAt
    dsimp only
    split
    · exact hleft
    · refine bind (holds u _ _) fun b => ?_
      split
      · refine bind (ih _) fun captures => ?_
        cases captures with
        | some captures => exact ok _
        | none => exact hleft
      · exact hleft

theorem search (idiom : Idiom) (anchored : Bool) (window : List Instruction) :
    Pathless (idiom.search u anchored window) := by
  induction window with
  | nil => exact matchAt u idiom []
  | cons i rest ih =>
    refine bind (matchAt u idiom _) fun captures => ?_
    split
    · exact ok _
    split
    · exact ok none
    · exact ih

theorem find (s : Scan) (idiom : Idiom) : Pathless (s.find u idiom) := by
  unfold Scan.find
  split
  · exact bind (search u _ _ _) fun _ => ok _
  · exact search u _ _ _

theorem require (s : Scan) (name : String) (idiom : Idiom) :
    Pathless (s.require u name idiom) := by
  refine bind (find u s idiom) fun captures => ?_
  split
  · exact ok _
  · exact error rfl

/-! ## Validation rules -/

theorem located {location : String} {x : Except Unrecognized α} :
    Pathless (Validation.located location x) := by
  cases x with
  | ok a => exact ok a
  | error cause => exact error rfl

theorem shapeFrom (validators : Validators) (budget : Nat) (path : String) :
    Pathless (Validation.shapeFrom u validators budget path) := by
  induction budget generalizing path with
  | zero =>
    unfold Validation.shapeFrom
    split <;> exact ok _
  | succ budget ih =>
    unfold Validation.shapeFrom
    split
    · exact ok _
    split
    · contradiction
    · exact ok none
    · refine bind (info _) fun c => ?_
      split
      · exact ok none
      · cases ‹_ + 1 = _ + 1›
        exact ih _

theorem shapeOf (markers : Markers) (validator location : String) :
    Pathless (Validation.shapeOf u markers validator location) := by
  refine bind (shapeFrom u _ _ _) fun shape => ?_
  split
  · exact ok _
  · exact error rfl

theorem literalOf (location : String) (c : Class) (name : String) :
    Pathless (Validation.literalOf u location c name) := by
  unfold Validation.literalOf
  split
  · exact ok none
  · exact bind (find u _ _) fun _ => ok _

theorem overriddenTarget (location : String) (c : Class) (owner : String) :
    Pathless (Validation.overriddenTarget u location c owner) := by
  refine bind (literalOf u _ _ _) fun owner => bind (literalOf u _ _ _) fun name => ?_
  split
  · exact ok _
  · exact error rfl

theorem singletonTarget (location owner : String) :
    Pathless (Validation.singletonTarget u location owner) := by
  unfold Validation.singletonTarget
  split
  · exact error rfl
  · refine bind (info _) fun c => ?_
    split
    · exact overriddenTarget u _ _ _
    · refine bind (find u _ _) fun captures => ?_
      cases captures with
      | some captures => exact located
      | none => exact overriddenTarget u _ _ _

theorem target (location : String) (captures : Captures) (form : Validation.FieldForm) :
    Pathless (form.target u location captures) := by
  cases form with
  | accessor => exact located
  | reference => exact located
  | singleton =>
    simp only [Validation.FieldForm.target]
    split
    · exact singletonTarget u _ _
    · exact error rfl

theorem read (location : String) (captures : Captures) (layout : Validation.Layout) :
    Pathless (layout.read u location captures) := by
  cases layout with
  | single form demand => exact bind (target u _ _ _) fun _ => ok _
  | withConstant form =>
    exact bind (target u _ _ _) fun _ => bind located fun _ => bind located fun _ => ok _
  | withField form other =>
    exact bind (target u _ _ _) fun _ => bind located fun _ => bind (target u _ _ _) fun _ => ok _
  | range form =>
    exact bind (target u _ _ _) fun _ => bind located fun _ => bind located fun _ => ok _

theorem readFirst (scan : Scan) (layouts : List Validation.Layout) :
    Pathless (Validation.readFirst u scan layouts) := by
  induction layouts with
  | nil => exact error rfl
  | cons layout others ih =>
    refine bind (find u _ _) fun captures => ?_
    split
    · exact read u _ _ _
    · exact ih

theorem recoverRule (markers : Markers) (location : String) (body : List Instruction)
    (anchor : Nat) (validator : String) :
    Pathless (Validation.recoverRule u markers location body anchor validator) :=
  bind (shapeOf u _ _ _) fun _ => bind (readFirst u _ _) fun _ => ok _

theorem constructsValidator (markers : Markers) (call : Call) :
    Pathless (Calls.constructsValidator u markers call) := by
  unfold Calls.constructsValidator
  split
  · exact ok false
  · exact holdsCall u _ _ _ _

/-! ## Thrown values -/

theorem localType (m : Method) (location : String) (source : Instruction) (slot : Nat) :
    Pathless (Calls.localType m location source slot) := by
  unfold Calls.localType
  split
  · exact error rfl
  split
  · exact ok none
  · refine bind ofReading fun t => ?_
    split
    · exact ok _
    · exact error rfl

theorem thrownType (m : Method) (location : String) (source : Instruction) :
    Pathless (Calls.thrownType m location source) := by
  unfold Calls.thrownType
  split
  · split
    · exact ok _
    · refine bind ofReading fun t => ?_
      split
      · exact ok _
      · exact error rfl
  · exact localType m _ _ _
  · exact error rfl

end Pathless

end ApiSurface
