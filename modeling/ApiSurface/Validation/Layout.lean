import ApiSurface.Idiom.Scan
import ApiSurface.Settings.Basic
import ApiSurface.Validation.Rule

/-!
# Layouts of validator arguments

The arguments of a validator are pushed right before its constructor is called. A field argument
has one of three forms; each shape has one layout for every choice of forms for its field
arguments.

Main definitions: `FieldForm`, `Layout`, `Layout.idiom`, `ValidatorShape.layouts`.
-/
namespace ApiSurface.Validation

/-- The forms in which a field is handed to a validator. -/
inductive FieldForm where
  /-- The field of a local variable is read, or its getter is called. -/
  | accessor
  /-- The only object of a property reference class is read. -/
  | singleton
  /-- A property reference is made in place. -/
  | reference
deriving DecidableEq

/-- Descriptor of the constructor of property references: owner, name, signature and flags. -/
def referenceInit : String := "(Ljava/lang/Class;Ljava/lang/String;Ljava/lang/String;I)V"

/-- The call that initialises a property reference. -/
def referenceCall : Pattern := .required (.call none (some "<init>") (some referenceInit))

/-- A literal push. -/
def literalPush : Pattern := .required .literal

/-- A cast that may be left out. -/
def cast : Pattern := .optional (.opcode .checkcast)

/-- A read of a field of a class. -/
def staticRead (name : Option String) : Pattern :=
  .required (.field none name none (some true))

/-- The instructions that push a field argument. -/
def FieldForm.idiom : FieldForm → Idiom
  | accessor =>
    [.required (.opcode .aload), cast,
      .required (.anyOf [.field none none none (some false), .opcode .invokevirtual,
        .opcode .invokeinterface])]
  | singleton => [staticRead (some "INSTANCE"), cast]
  | reference =>
    [.required (.opcode .newObject), .required (.opcode .dup), literalPush, literalPush,
      literalPush, literalPush, referenceCall, cast]

/-- The forms in the order in which they are tried. -/
def fieldForms : List FieldForm := [.accessor, .singleton, .reference]

/-- The instructions that push a comparison mode. -/
def modeIdiom : Idiom := [staticRead none]

/-- The classes that a literal may be boxed by. -/
def wrappers : List String :=
  ["java/lang/Boolean", "java/lang/Integer", "java/lang/Long", "java/lang/Float",
    "java/lang/Double"]

/-- The instructions that push a literal, boxed or not. -/
def literalIdiom : Idiom :=
  [literalPush,
    .optional (.anyOf (wrappers.map fun w => .call (some (.exact w)) (some "valueOf") none))]

/-- The arguments of a validator with the forms of its fields. -/
inductive Layout where
  /-- A field, on which `demand` is made. -/
  | single (form : FieldForm) (demand : Constraint)
  /-- A field, a mode and a literal. -/
  | withConstant (form : FieldForm)
  /-- A field, a mode and another field. -/
  | withField (form other : FieldForm)
  /-- A field and two literals. -/
  | range (form : FieldForm)

/-- The instructions that push the arguments. -/
def Layout.idiom : Layout → Idiom
  | single form _ => form.idiom
  | withConstant form => form.idiom ++ modeIdiom ++ literalIdiom
  | withField form other => form.idiom ++ modeIdiom ++ other.idiom
  | range form => form.idiom ++ literalIdiom ++ literalIdiom

/-- The layouts of a shape, in the order in which they are tried. -/
def layouts : ValidatorShape → List Layout
  | .notNull => fieldForms.map (.single · .notNull)
  | .notBlank => fieldForms.map (.single · .notBlank)
  | .nullOrNotBlank => fieldForms.map (.single · .nullOrNotBlank)
  | .compareToConstant => fieldForms.map .withConstant
  | .compareToField => fieldForms.flatMap fun form => fieldForms.map (.withField form)
  | .between => fieldForms.map .range

end ApiSurface.Validation
