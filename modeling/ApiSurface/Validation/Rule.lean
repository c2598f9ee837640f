import ApiSurface.Bytecode.Constant

/-!
# Validation rules

A rule says what a validator demands of a field of a request.
-/
namespace ApiSurface

/-- A field of a request type. -/
structure FieldTarget where
  owner : String
  name : String
deriving DecidableEq

/-- What a validator demands. -/
inductive Constraint where
  | notNull
  | notBlank
  | nullOrNotBlank
  | compareToConstant (mode : String) (value : Constant)
  | compareToField (mode : String) (other : FieldTarget)
  | between (min max : Constant)
deriving DecidableEq

/-- A demand on a field, made by constructing a validator. -/
structure ValidationRule where
  validator : String
  field : FieldTarget
  constraint : Constraint
deriving DecidableEq

end ApiSurface
