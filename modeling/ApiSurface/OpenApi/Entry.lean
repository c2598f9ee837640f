import ApiSurface.Calls.Walk
import ApiSurface.Text.Segments

/-!
# Entries of exceptions and of rules

An operation lists the exceptions that it may throw and the rules that its requests are held to. An
entry names classes without their packages. It is a record of texts and values; those members that a
demand does not have are left out.

Main definitions: `ThrownEntry.ofException`, `RuleEntry.ofRule`.
-/
namespace ApiSurface.OpenApi

/-- An exception that an operation may throw. -/
structure ThrownEntry where
  type : String
  /-- The methods on the way to the throw. -/
  callPath : String

/-- The entry of an exception. -/
def ThrownEntry.ofException (x : ThrownException) : ThrownEntry where
  type := Text.simpleName x.type
  callPath := callPathText x.path

/-- The value of a constant in a rule. -/
inductive RuleValue where
  | int (value : Int)
  | number (value : Number.BinaryValue)
  | string (text : String)

/-- The value of a constant. A class is given by its simple name, and other constants without a
value of their own as listings show them. -/
def RuleValue.ofConstant : Constant → RuleValue
  | .int value => .int value.toInt
  | .long value => .int value.toInt
  | .float bits => .number (Constant.single bits).widen
  | .double bits => .number (Constant.wide bits)
  | .string value => .string value
  | .classRef name => .string (Text.simpleName name)
  | other => .string other.text

/-- A rule that requests are held to. -/
structure RuleEntry where
  validator : String
  field : String
  constraint : String
  mode : Option String := none
  value : Option RuleValue := none
  other : Option String := none
  min : Option RuleValue := none
  max : Option RuleValue := none

/-- A field as simple class name and field name. -/
def fieldLabel (target : FieldTarget) : String :=
  Text.simpleName target.owner ++ "." ++ target.name

/-- The entry of a rule. -/
def RuleEntry.ofRule (rule : ValidationRule) : RuleEntry :=
  let entry (constraint : String) : RuleEntry :=
    { validator := Text.simpleName rule.validator, field := fieldLabel rule.field, constraint }
  match rule.constraint with
  | .notNull => entry "not-null"
  | .notBlank => entry "not-blank"
  | .nullOrNotBlank => entry "null-or-not-blank"
  | .compareToConstant mode value =>
    { entry "compare-to-constant" with mode := some mode, value := some (.ofConstant value) }
  | .compareToField mode other =>
    { entry "compare-to-field" with mode := some mode, other := some (fieldLabel other) }
  | .between min max =>
    { entry "between" with min := some (.ofConstant min), max := some (.ofConstant max) }

end ApiSurface.OpenApi
