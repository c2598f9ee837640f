import ApiSurface.Settings.Basic

/-!
# The shape of a validator

A validator has the shape configured for it, or that of the nearest class above it that has one.
The classes on the way up may leave the universe; the last name met is still looked up among the
shapes. The search ends after one name more than there are classes, which no chain without a
repetition exceeds.
-/
namespace ApiSurface.Validation

/-- The first shape configured for `path` or for a class above it. -/
def shapeFrom (u : Universe) (validators : Validators) :
    (budget : Nat) → (path : String) → Except Fault (Option ValidatorShape)
  | budget, path =>
    match validators[path]? with
    | some shape => .ok (some shape)
    | none => match budget, u.find? path with
      | 0, _ => .ok none
      | _ + 1, none => .ok none
      | budget + 1, some record => do
        let c ← record.info
        match c.superclass with
        | none => .ok none
        | some parent => shapeFrom u validators budget parent

/-- The shape of a validator, which has to have one. -/
def shapeOf (u : Universe) (markers : Markers) (validator location : String) :
    Except Fault ValidatorShape := do
  match ← shapeFrom u markers.validators u.size validator with
  | some shape => .ok shape
  | none => .error (.unrecognized (.shapeMissing validator) location)

end ApiSurface.Validation
