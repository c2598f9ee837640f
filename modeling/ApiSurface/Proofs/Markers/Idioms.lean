import ApiSurface.Proofs.Markers.Unmarked
import ApiSurface.Validation.Recovery

/-!
# Idioms without markers

A scan does not see the markers in its range, and the tests of an idiom look at no bodies but at
the hierarchy only. So whatever is read off the instructions before a call, and off the bodies of
property references, is the same without markers.

Main statements: `Scan.find_unmarked`, `read_unmarked`, `shapeOf_unmarked`.
-/
namespace ApiSurface

/-! ## Tests and idioms -/

namespace Test

variable (u : Universe)

@[simp] theorem ownerFilter_holds_unmarked (owner : String) (filter : OwnerFilter) :
    filter.holds u.unmarked owner = filter.holds u owner := by
  cases filter with
  | exact name => rfl
  | descendant base => exact u.descends_unmarked owner base

@[simp] theorem holdsCall_unmarked (owner : Option OwnerFilter) (name descriptor : Option String)
    (c : Call) :
    holdsCall u.unmarked owner name descriptor c = holdsCall u owner name descriptor c := by
  unfold holdsCall
  simp only [ownerFilter_holds_unmarked]

mutual

theorem holds_unmarked (p : Payload) (t : Test) : holds u.unmarked p t = holds u p t := by
  match t with
  | .opcode o => rfl
  | .kind k => rfl
  | .field owner name descriptor isStatic => rfl
  | .call owner name descriptor => simp only [holds, holdsCall_unmarked]
  | .literal => rfl
  | .anyOf alternatives => exact holdsAny_unmarked p alternatives

theorem holdsAny_unmarked (p : Payload) (ts : List Test) :
    holdsAny u.unmarked p ts = holdsAny u p ts := by
  match ts with
  | [] => rfl
  | t :: ts => rw [holdsAny, holdsAny, holds_unmarked p t, holdsAny_unmarked p ts]

end

end Test

namespace Idiom

variable (u : Universe)

theorem matchAt_unmarked (idiom : Idiom) (window : List Instruction) :
    matchAt u.unmarked idiom window = matchAt u idiom window := by
  induction idiom generalizing window with
  | nil => rfl
  | cons p ps ih => simp only [matchAt, Test.holds_unmarked, ih]

@[simp] theorem search_unmarked (idiom : Idiom) (anchored : Bool) (window : List Instruction) :
    search u.unmarked idiom anchored window = search u idiom anchored window := by
  induction window with
  | nil => exact matchAt_unmarked u idiom []
  | cons i rest ih => simp only [search, matchAt_unmarked, ih]

end Idiom

/-! ## Scans -/

namespace Scan

/-- The scan of a range without markers. -/
def unmarked (s : Scan) : Scan := { s with range := realPart s.range }

@[simp] theorem window_unmarked (s : Scan) : s.unmarked.window = s.window := by
  change (if s.backward then (realPart (realPart s.range)).reverse
    else realPart (realPart s.range)) = s.window
  rw [realPart_realPart]
  rfl

/-- A scan matches the same instructions whether there are markers or not. -/
@[simp] theorem find_unmarked (u : Universe) (s : Scan) (idiom : Idiom) :
    s.unmarked.find u.unmarked idiom = s.find u idiom := by
  unfold find
  rw [window_unmarked]
  simp only [Idiom.search_unmarked]
  rfl

end Scan

/-! ## Validation rules -/

namespace Validation

variable (u : Universe)

@[simp] theorem literalOf_unmarked (location : String) (c : Class) (name : String) :
    literalOf u.unmarked location c.unmarked name = literalOf u location c name := by
  unfold literalOf
  rw [Class.method?_unmarked]
  cases c.method? name none with
  | none => rfl
  | some getter =>
    have hfind := Scan.find_unmarked u (Scan.forward location getter.body) returnedLiteral
    exact congrArg (· >>= fun captures => .ok (captures.bind (capturedLiteral · 0))) hfind

@[simp] theorem overriddenTarget_unmarked (location : String) (c : Class) (owner : String) :
    overriddenTarget u.unmarked location c.unmarked owner =
      overriddenTarget u location c owner := by
  unfold overriddenTarget
  simp only [literalOf_unmarked]

@[simp] theorem singletonTarget_unmarked (location owner : String) :
    singletonTarget u.unmarked location owner = singletonTarget u location owner := by
  unfold singletonTarget
  rw [Universe.find?_unmarked]
  cases u.find? owner with
  | none => rfl
  | some record =>
    simp only [Option.map_some, ClassRecord.info_unmarked]
    cases record.info with
    | error fault => rfl
    | ok c =>
      simp only [Except.map, ok_bind, Class.method?_unmarked, overriddenTarget_unmarked]
      cases c.method? "<init>" none with
      | none => rfl
      | some init =>
        have hfind : (Scan.forward location init.unmarked.body).find u.unmarked singletonInit =
            (Scan.forward location init.body).find u singletonInit :=
          Scan.find_unmarked u (Scan.forward location init.body) singletonInit
        dsimp only [Option.map_some]
        rw [hfind]

@[simp] theorem target_unmarked (location : String) (captures : Captures) (form : FieldForm) :
    form.target u.unmarked location captures = form.target u location captures := by
  cases form with
  | accessor => rfl
  | reference => rfl
  | singleton => simp only [FieldForm.target, singletonTarget_unmarked]

@[simp] theorem read_unmarked (location : String) (captures : Captures) (layout : Layout) :
    layout.read u.unmarked location captures = layout.read u location captures := by
  cases layout <;> simp only [Layout.read, target_unmarked]

theorem shapeFrom_unmarked (validators : Validators) (budget : Nat) (path : String) :
    shapeFrom u.unmarked validators budget path = shapeFrom u validators budget path := by
  induction budget generalizing path with
  | zero =>
    unfold shapeFrom
    rw [Universe.find?_unmarked]
  | succ budget ih =>
    unfold shapeFrom
    rw [Universe.find?_unmarked]
    cases validators[path]? with
    | some shape => rfl
    | none =>
      cases u.find? path with
      | none => rfl
      | some record =>
        simp only [Option.map_some, ClassRecord.info_unmarked]
        cases record.info with
        | error fault => rfl
        | ok c =>
          simp only [Except.map, ok_bind, Class.unmarked_superclass, ih]

@[simp] theorem shapeOf_unmarked (markers : Markers) (validator location : String) :
    shapeOf u.unmarked markers validator location = shapeOf u markers validator location := by
  unfold shapeOf
  rw [shapeFrom_unmarked, Universe.size_unmarked]

end Validation

end ApiSurface
