import ApiSurface.OpenApi.Printer
import ApiSurface.Proofs.Text.Segments
import Mathlib.Data.List.Forall2

/-!
# What entries tell

An entry tells its reader of one exception or of one rule. What is to be read there is a relation,
which says nothing about how entries are made. There is one entry for each exception and each rule,
and it is the one that is made of it.

A list of entries tells of exceptions or rules in their order, and so does what a document says of
them.

Main definitions: `ThrownEntry.Tells`, `RuleValue.Shows`, `RuleEntry.Tells`, `WritesThrown`,
`WritesRule`.
Main statements: `ThrownEntry.tells_iff`, `RuleEntry.tells_iff`.
-/
namespace ApiSurface

/-- The shape of the validators that make a demand. -/
def Constraint.shape : Constraint → ValidatorShape
  | .notNull => .notNull
  | .notBlank => .notBlank
  | .nullOrNotBlank => .nullOrNotBlank
  | .compareToConstant _ _ => .compareToConstant
  | .compareToField _ _ => .compareToField
  | .between _ _ => .between

namespace OpenApi
open Text (IsSimpleName isSimpleName_iff)

/-! ## Exceptions -/

/-- What an entry tells of an exception. -/
structure ThrownEntry.Tells (entry : ThrownEntry) (x : ThrownException) : Prop where
  type : IsSimpleName entry.type x.type
  /-- The methods on the way to the throw stand in the order in which they are entered. -/
  callPath : entry.callPath =
    String.intercalate " -> " (x.path.map fun frame => frame.owner ++ "#" ++ frame.method)

/-- **An exception has one entry.** -/
theorem ThrownEntry.tells_iff {entry : ThrownEntry} {x : ThrownException} :
    entry.Tells x ↔ entry = .ofException x := by
  constructor
  · intro h
    rw [ofException, ← isSimpleName_iff.mp h.type]
    exact congrArg (ThrownEntry.mk entry.type) h.callPath
  · rintro rfl
    exact ⟨isSimpleName_iff.mpr rfl, rfl⟩

/-- What a document says of an exception. -/
def WritesThrown (json : Json) (x : ThrownException) : Prop :=
  ∃ entry : ThrownEntry, entry.Tells x ∧
    json = .object [("type", .string entry.type), ("callPath", .string entry.callPath)]

/-! ## Rules -/

/-- The label of a field: the simple name of its class, a point and its own name. -/
def IsLabel (label : String) (target : FieldTarget) : Prop :=
  ∃ owner, IsSimpleName owner target.owner ∧ label = owner ++ "." ++ target.name

theorem isLabel_iff {label : String} {target : FieldTarget} :
    IsLabel label target ↔ label = fieldLabel target := by
  simp [IsLabel, isSimpleName_iff, fieldLabel]

/-- The value that an entry gives for a constant. A class is named without its package; other
constants that are no values themselves are shown as in listings. -/
inductive RuleValue.Shows : RuleValue → Constant → Prop
  | int (value : Int32) : Shows (.int value.toInt) (.int value)
  | long (value : Int64) : Shows (.int value.toInt) (.long value)
  | float (bits : UInt32) : Shows (.number (Constant.single bits).widen) (.float bits)
  | double (bits : UInt64) : Shows (.number (Constant.wide bits)) (.double bits)
  | string (text : String) : Shows (.string text) (.string text)
  | classRef {simple name : String} (named : IsSimpleName simple name) :
      Shows (.string simple) (.classRef name)
  | methodType (descriptor : String) : Shows (.string descriptor) (.methodType descriptor)
  | handle (target : MethodHandle) : Shows (.string target.text) (.handle target)

theorem RuleValue.shows_iff {value : RuleValue} {c : Constant} :
    value.Shows c ↔ value = .ofConstant c := by
  constructor
  · intro h
    cases h with
    | classRef named => exact congrArg RuleValue.string (isSimpleName_iff.mp named)
    | _ => rfl
  · intro h
    subst h
    cases c with
    | classRef name => exact .classRef (isSimpleName_iff.mpr rfl)
    | _ => constructor

/-- What an entry tells of a rule. -/
structure RuleEntry.Tells (entry : RuleEntry) (rule : ValidationRule) : Prop where
  validator : IsSimpleName entry.validator rule.validator
  field : IsLabel entry.field rule.field
  /-- The demand is named as its shape is in settings. -/
  constraint : entry.constraint = rule.constraint.shape.name
  /-- Comparisons have a mode. -/
  mode : ∀ mode, entry.mode = some mode ↔
    (∃ c, rule.constraint = .compareToConstant mode c) ∨
      ∃ target, rule.constraint = .compareToField mode target
  /-- A comparison to a constant has its value. -/
  value : ∀ value, entry.value = some value ↔
    ∃ mode c, rule.constraint = .compareToConstant mode c ∧ value.Shows c
  /-- A comparison to another field has the label of that one. -/
  other : ∀ label, entry.other = some label ↔
    ∃ mode target, rule.constraint = .compareToField mode target ∧ IsLabel label target
  /-- Bounds have a least value. -/
  min : ∀ value, entry.min = some value ↔
    ∃ min max, rule.constraint = .between min max ∧ value.Shows min
  /-- Bounds have a greatest value. -/
  max : ∀ value, entry.max = some value ↔
    ∃ min max, rule.constraint = .between min max ∧ value.Shows max

namespace RuleEntry

variable {entry entry' : RuleEntry} {rule : ValidationRule}

/-- The entry that is made of a rule tells of it. -/
theorem tells_ofRule (rule : ValidationRule) : (ofRule rule).Tells rule := by
  obtain ⟨validator, field, constraint⟩ := rule
  -- Which members there are is settled by the demand alone.
  cases constraint <;> constructor <;>
    simp [ofRule, Constraint.shape, ValidatorShape.name, isSimpleName_iff, isLabel_iff,
      RuleValue.shows_iff, eq_comm]

/-- Entries that tell of one rule agree in each member. -/
theorem Tells.unique (h : entry.Tells rule) (h' : entry'.Tells rule) : entry = entry' := by
  have validator := isSimpleName_iff.mp h.validator
  have field := isLabel_iff.mp h.field
  have mode := Option.ext fun mode => (h.mode mode).trans (h'.mode mode).symm
  have value := Option.ext fun value => (h.value value).trans (h'.value value).symm
  have other := Option.ext fun label => (h.other label).trans (h'.other label).symm
  have min := Option.ext fun value => (h.min value).trans (h'.min value).symm
  have max := Option.ext fun value => (h.max value).trans (h'.max value).symm
  rw [← isSimpleName_iff.mp h'.validator] at validator
  rw [← isLabel_iff.mp h'.field] at field
  have constraint := h.constraint.trans h'.constraint.symm
  cases entry
  cases entry'
  simp_all only

/-- **A rule has one entry.** -/
theorem tells_iff : entry.Tells rule ↔ entry = ofRule rule := by
  constructor
  · exact fun h => h.unique (tells_ofRule rule)
  · rintro rfl
    exact tells_ofRule rule

end RuleEntry

/-- What a document says of a rule. The arguments that the demand does not have are left out. -/
def WritesRule (json : Json) (rule : ValidationRule) : Prop :=
  ∃ entry : RuleEntry, entry.Tells rule ∧
    json = .object ([("validator", .string entry.validator), ("field", .string entry.field),
        ("constraint", .string entry.constraint)] ++
      (Json.member? "mode" (entry.mode.map .string) ++
        Json.member? "value" (entry.value.map RuleValue.toJson) ++
        Json.member? "other" (entry.other.map .string) ++
        Json.member? "min" (entry.min.map RuleValue.toJson) ++
        Json.member? "max" (entry.max.map RuleValue.toJson)))

/-! ## Lists of entries -/

/-- Members that are related to one each are those that are made of them. -/
theorem forall₂_iff_eq_map {α β : Type} {R : β → α → Prop} {f : α → β}
    (h : ∀ b a, R b a ↔ b = f a) {made : List β} {l : List α} :
    List.Forall₂ R made l ↔ made = l.map f := by
  have functional : R = fun b a => b = f a := by
    ext b a
    exact h b a
  rw [functional, ← List.forall₂_map_right_iff, List.forall₂_eq_eq_eq]

theorem tells_exceptions_iff {entries : List ThrownEntry} {es : List ThrownException} :
    List.Forall₂ ThrownEntry.Tells entries es ↔ entries = es.map .ofException :=
  forall₂_iff_eq_map @ThrownEntry.tells_iff

theorem tells_rules_iff {entries : List RuleEntry} {rules : List ValidationRule} :
    List.Forall₂ RuleEntry.Tells entries rules ↔ entries = rules.map .ofRule :=
  forall₂_iff_eq_map @RuleEntry.tells_iff

/-- A document says of exceptions what entries tell of them. -/
theorem writes_exceptions {entries : List ThrownEntry} {es : List ThrownException}
    (h : List.Forall₂ ThrownEntry.Tells entries es) :
    List.Forall₂ WritesThrown (entries.map ThrownEntry.toJson) es :=
  List.forall₂_map_left_iff.mpr (h.imp fun entry _ tells => ⟨entry, tells, rfl⟩)

/-- A document says of rules what entries tell of them. -/
theorem writes_rules {entries : List RuleEntry} {rules : List ValidationRule}
    (h : List.Forall₂ RuleEntry.Tells entries rules) :
    List.Forall₂ WritesRule (entries.map RuleEntry.toJson) rules :=
  List.forall₂_map_left_iff.mpr (h.imp fun entry _ tells => ⟨entry, tells, rfl⟩)

end OpenApi

end ApiSurface
