import ApiSurface.Text.LetterCase
import ApiSurface.Validation.Layout
import ApiSurface.Validation.Shape

/-!
# Recovering validation rules

The rule that a constructor call makes is read off the instructions before the call: the first
layout of the validator's shape that they match gives the field and the demand.

Main definitions: `propertyName?`, `Layout.read`, `recoverRule`.
-/
namespace ApiSurface.Validation

/-- The property that a getter is named for: what follows `get` or `is`, if it starts with an
upper-case letter, with that letter in lower case. -/
def propertyName? (getter : String) : Option String :=
  let property : List Char → Option String
    | [] => none
    | c :: rest => if Text.isUpper c then some (String.ofList (Text.lower c ++ rest)) else none
  match getter.toList with
  | 'g' :: 'e' :: 't' :: rest => property rest
  | 'i' :: 's' :: rest => property rest
  | _ => none

/-- The instruction that the pattern at the index took. -/
def captured (captures : Captures) (index : Nat) : Option Payload :=
  (captures[index]?).join.map (·.payload)

/-- The literal pushed by the instruction that the pattern at the index took. -/
def capturedLiteral (captures : Captures) (index : Nat) : Option Constant :=
  (captured captures index).bind Payload.literal?

/-- The field that is read or that a getter without parameters is named for. -/
def accessorTarget (source : Option Payload) : Except Unrecognized FieldTarget :=
  match source with
  | some (.field a) => .ok ⟨a.owner, a.name⟩
  | some (.call c) =>
    if c.descriptor.toList.take 2 = ['(', ')'] then
      match propertyName? c.name with
      | some property => .ok ⟨c.owner, property⟩
      | none => .error (.notGetter c)
    else .error (.notGetter c)
  | _ => .error .accessorForm

/-- The field named by a class literal and a text. -/
def literalTarget (owner name : Option Constant) : Except Unrecognized FieldTarget :=
  match owner, name with
  | some (.classRef owner), some (.string name) => .ok ⟨owner, name⟩
  | _, _ => .error .referenceLiterals

/-- A fault at a place. -/
def located {α : Type} (location : String) : Except Unrecognized α → Except Fault α
  | .ok a => .ok a
  | .error cause => .error (.unrecognized cause location)

/-- The constructor of a property reference class hands four literals to the constructor above
it; the first two are owner and name. -/
def singletonInit : Idiom :=
  [literalPush, literalPush, literalPush, literalPush, referenceCall]

/-- A literal that is returned or handed to a call. -/
def returnedLiteral : Idiom :=
  [literalPush, .required (.anyOf [.kind .call, .opcode .areturn])]

/-- The literal that the first method of the name returns. -/
def literalOf (u : Universe) (location : String) (c : Class) (name : String) :
    Except Fault (Option Constant) :=
  match c.method? name none with
  | none => .ok none
  | some getter => do
    let captures ← (Scan.forward location getter.body).find u returnedLiteral
    .ok (captures.bind (capturedLiteral · 0))

/-- The field that a property reference class names by overriding `getOwner` and `getName`. -/
def overriddenTarget (u : Universe) (location : String) (c : Class) (owner : String) :
    Except Fault FieldTarget := do
  match ← literalOf u location c "getOwner", ← literalOf u location c "getName" with
  | some (.classRef owner), some (.string name) => .ok ⟨owner, name⟩
  | _, _ => .error (.unrecognized (.referenceUnnamed owner) location)

/-- The field that a property reference class stands for: its constructor hands owner and name
to the constructor above it, or the class overrides the methods that return them. -/
def singletonTarget (u : Universe) (location owner : String) : Except Fault FieldTarget := do
  match u.find? owner with
  | none => .error (.unrecognized (.referenceAbsent owner) location)
  | some record =>
    let c ← record.info
    let captures ← match c.method? "<init>" none with
      | none => .ok none
      | some init => (Scan.forward location init.body).find u singletonInit
    match captures with
    | some captures =>
      located location (literalTarget (capturedLiteral captures 0) (capturedLiteral captures 1))
    | none => overriddenTarget u location c owner

/-- The field that the captures of its form stand for. -/
def FieldForm.target (u : Universe) (location : String) (captures : Captures) :
    FieldForm → Except Fault FieldTarget
  | accessor => located location (accessorTarget (captured captures 2))
  | reference =>
    located location (literalTarget (capturedLiteral captures 2) (capturedLiteral captures 3))
  | singleton =>
    match captured captures 0 with
    | some (.field a) => singletonTarget u location a.owner
    | _ => .error (.unrecognized .singletonForm location)

/-- The comparison mode: the name of the constant that is read. -/
def modeName (captures : Captures) : Except Unrecognized String :=
  match captured captures 0 with
  | some (.field a) => .ok a.name
  | _ => .error .modeForm

/-- The literal that is pushed. -/
def literalValue (captures : Captures) : Except Unrecognized Constant :=
  match capturedLiteral captures 0 with
  | some value => .ok value
  | none => .error .literalForm

/-- The field and the demand that the captures of a layout stand for. -/
def Layout.read (u : Universe) (location : String) (captures : Captures) :
    Layout → Except Fault (FieldTarget × Constraint)
  | single form demand => do
    let field ← form.target u location captures
    .ok (field, demand)
  | withConstant form => do
    let field ← form.target u location (captures.take form.idiom.length)
    let rest := captures.drop form.idiom.length
    let mode ← located location (modeName rest)
    let value ← located location (literalValue (rest.drop modeIdiom.length))
    .ok (field, .compareToConstant mode value)
  | withField form other => do
    let field ← form.target u location (captures.take form.idiom.length)
    let rest := captures.drop form.idiom.length
    let mode ← located location (modeName rest)
    let second ← other.target u location (rest.drop modeIdiom.length)
    .ok (field, .compareToField mode second)
  | range form => do
    let field ← form.target u location (captures.take form.idiom.length)
    let rest := captures.drop form.idiom.length
    let min ← located location (literalValue rest)
    let max ← located location (literalValue (rest.drop literalIdiom.length))
    .ok (field, .between min max)

/-- Read the first layout that the scan matches. -/
def readFirst (u : Universe) (scan : Scan) :
    List Layout → Except Fault (FieldTarget × Constraint)
  | [] => .error (.idiomNotMatched "validator arguments" scan.location scan.dump)
  | layout :: others => do
    match ← scan.find u layout.idiom with
    | some captures => layout.read u scan.location captures
    | none => readFirst u scan others

/-- The rule made by the call at index `anchor` of a body that constructs `validator`. -/
def recoverRule (u : Universe) (markers : Markers) (location : String) (body : List Instruction)
    (anchor : Nat) (validator : String) : Except Fault ValidationRule := do
  let shape ← shapeOf u markers validator location
  let scan := (Scan.before location body anchor).anchor
  let (field, constraint) ← readFirst u scan (layouts shape)
  .ok { validator, field, constraint }

end ApiSurface.Validation
