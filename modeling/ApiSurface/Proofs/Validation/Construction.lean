import ApiSurface.Validation.Recovery

/-!
# What a validator construction pushes

The arguments of a validator are compiled to pushes. The relations here say what the pushes of an
argument look like, and what the argument stands for, without idioms or a search.

Main definitions: `First`, `NamesProperty`, `PushesField`, `PushesArguments`.
-/
namespace ApiSurface

/-- The code of a read of a field of an object. -/
def Opcode.getfield : Opcode := 0xb4

namespace Validation

/-! ## Properties of classes -/

variable {α : Type}

/-- At the first place of a window where there is a value, this is the value. -/
inductive First (p : List Instruction → α → Prop) : List Instruction → α → Prop
  | here {window : List Instruction} {a : α} (h : p window a) : First p window a
  | later {i : Instruction} {window : List Instruction} {a : α} (none : ∀ b, ¬ p (i :: window) b)
      (first : First p window a) : First p (i :: window) a

/-- There is no value at any place of a window. -/
def Nowhere (p : List Instruction → α → Prop) (window : List Instruction) : Prop :=
  ∀ front rest a, window = front ++ rest → ¬ p rest a

/-- A window starts with four literals, the first two of them these, and right after them a call of
the constructor of property references. -/
inductive HandsOn : List Instruction → Constant × Constant → Prop
  | intro {i j k l init : Instruction} {rest : List Instruction} {owner name : Constant}
      {call : Call} (first : i.payload.literal? = some owner)
      (second : j.payload.literal? = some name) (third : k.payload.literal?.isSome)
      (fourth : l.payload.literal?.isSome) (calls : init.payload = .call call)
      (constructor : call.name = "<init>") (descriptor : call.descriptor = referenceInit) :
      HandsOn (i :: j :: k :: l :: init :: rest) (owner, name)

/-- A window starts with a literal, and right after it with a call or the return of an object. -/
inductive Returned : List Instruction → Constant → Prop
  | intro {i next : Instruction} {rest : List Instruction} {value : Constant}
      (literal : i.payload.literal? = some value)
      (uses : (∃ call, next.payload = .call call) ∨ next.payload.opcode? = some Opcode.areturn) :
      Returned (i :: next :: rest) value

/-- The instructions of a method that are not markers. -/
def codeOf (m : Method) : List Instruction := m.body.filter (! ·.isMarker)

/-- The first method of the name returns the literal. -/
def Returns (c : Class) (name : String) (value : Constant) : Prop :=
  ∃ m, c.method? name none = some m ∧ First Returned (codeOf m) value

/-- A class of the universe stands for a property. -/
inductive NamesProperty (u : Universe) (path : String) : FieldTarget → Prop
  /-- Its first constructor hands on the owner and the name. -/
  | constructed {record : ClassRecord} {c : Class} {init : Method} {owner name : String}
      (found : u.find? path = some record) (info : record.info = .ok c)
      (method : c.method? "<init>" none = some init)
      (hands : First HandsOn (codeOf init) (.classRef owner, .string name)) :
      NamesProperty u path ⟨owner, name⟩
  /-- Its first constructor, if it has one, does not, and its methods return them. -/
  | overridden {record : ClassRecord} {c : Class} {owner name : String}
      (found : u.find? path = some record) (info : record.info = .ok c)
      (hands : ∀ init, c.method? "<init>" none = some init → Nowhere HandsOn (codeOf init))
      (getOwner : Returns c "getOwner" (.classRef owner))
      (getName : Returns c "getName" (.string name)) :
      NamesProperty u path ⟨owner, name⟩

/-- A getter is named for a property: after `get` or `is` its name has an upper-case letter, which
the property has in lower case. -/
inductive NamesGetter : String → String → Prop
  | get {letter : Char} {rest : List Char} (upper : Text.isUpper letter = true) :
      NamesGetter (.ofList ('g' :: 'e' :: 't' :: letter :: rest))
        (.ofList (Text.lower letter ++ rest))
  | is {letter : Char} {rest : List Char} (upper : Text.isUpper letter = true) :
      NamesGetter (.ofList ('i' :: 's' :: letter :: rest)) (.ofList (Text.lower letter ++ rest))

/-! ## Pushes -/

/-- A cast, or none. -/
inductive Casts : List Instruction → Prop
  | none : Casts []
  | cast {offset : Nat} {type : String} : Casts [⟨offset, .type Opcode.checkcast type⟩]

/-- The pushes of a field in one of its forms. -/
inductive PushesField (u : Universe) : FieldForm → List Instruction → FieldTarget → Prop
  /-- A field of an object in a local variable is read. -/
  | read {at₀ at₁ slot : Nat} {casts : List Instruction} {owner name descriptor : String}
      (hcasts : Casts casts) :
      PushesField u .accessor
        (⟨at₀, .localSlot Opcode.aload slot⟩ :: casts ++
          [⟨at₁, .field ⟨Opcode.getfield, owner, name, descriptor⟩⟩])
        ⟨owner, name⟩
  /-- A getter without parameters of an object in a local variable is called. -/
  | getter {at₀ at₁ slot : Nat} {casts : List Instruction} {kind : CallKind}
      {owner name property descriptor : String} (hcasts : Casts casts)
      (dynamic : kind = .virtual ∨ kind = .interface) (named : NamesGetter name property)
      (bare : descriptor.toList.take 2 = ['(', ')']) :
      PushesField u .accessor
        (⟨at₀, .localSlot Opcode.aload slot⟩ :: casts ++
          [⟨at₁, .call ⟨kind, owner, name, descriptor⟩⟩])
        ⟨owner, property⟩
  /-- The object of a class that stands for the field is read. -/
  | singleton {at₀ : Nat} {casts : List Instruction} {owner descriptor : String}
      {target : FieldTarget} (hcasts : Casts casts) (names : NamesProperty u owner target) :
      PushesField u .singleton
        (⟨at₀, .field ⟨Opcode.getstatic, owner, "INSTANCE", descriptor⟩⟩ :: casts) target
  /-- A property reference is made from owner, name and two more literals. -/
  | reference {at₀ at₁ at₂ : Nat} {casts : List Instruction} {i j k l : Instruction}
      {type referenced owner name : String} (hcasts : Casts casts)
      (first : i.payload.literal? = some (.classRef owner))
      (second : j.payload.literal? = some (.string name)) (third : k.payload.literal?.isSome)
      (fourth : l.payload.literal?.isSome) :
      PushesField u .reference
        ([⟨at₀, .type Opcode.newObject type⟩, ⟨at₁, .op Opcode.dup⟩, i, j, k, l,
          ⟨at₂, .call ⟨.special, referenced, "<init>", referenceInit⟩⟩] ++ casts)
        ⟨owner, name⟩

/-- The push of a comparison mode, which is the name of a static field. -/
inductive PushesMode : List Instruction → String → Prop
  | read {offset : Nat} {owner mode descriptor : String} :
      PushesMode [⟨offset, .field ⟨Opcode.getstatic, owner, mode, descriptor⟩⟩] mode

/-- The pushes of a literal, which may be boxed. -/
inductive PushesLiteral : List Instruction → Constant → Prop
  | plain {i : Instruction} {value : Constant} (literal : i.payload.literal? = some value) :
      PushesLiteral [i] value
  | boxed {i : Instruction} {value : Constant} {offset : Nat} {wrapper descriptor : String}
      (literal : i.payload.literal? = some value) (mem : wrapper ∈ wrappers) :
      PushesLiteral [i, ⟨offset, .call ⟨.static, wrapper, "valueOf", descriptor⟩⟩] value

/-- The pushes of the arguments of a validator, with the field and the demand that they stand
for. -/
inductive PushesArguments (u : Universe) :
    ValidatorShape → List Instruction → FieldTarget → Constraint → Prop
  | notNull {form : FieldForm} {pushes : List Instruction} {field : FieldTarget}
      (h : PushesField u form pushes field) : PushesArguments u .notNull pushes field .notNull
  | notBlank {form : FieldForm} {pushes : List Instruction} {field : FieldTarget}
      (h : PushesField u form pushes field) : PushesArguments u .notBlank pushes field .notBlank
  | nullOrNotBlank {form : FieldForm} {pushes : List Instruction} {field : FieldTarget}
      (h : PushesField u form pushes field) :
      PushesArguments u .nullOrNotBlank pushes field .nullOrNotBlank
  | compareToConstant {form : FieldForm} {pushes modes literals : List Instruction}
      {field : FieldTarget} {mode : String} {value : Constant} (h : PushesField u form pushes field)
      (hmode : PushesMode modes mode) (hvalue : PushesLiteral literals value) :
      PushesArguments u .compareToConstant (pushes ++ modes ++ literals) field
        (.compareToConstant mode value)
  | compareToField {form otherForm : FieldForm} {pushes modes others : List Instruction}
      {field other : FieldTarget} {mode : String} (h : PushesField u form pushes field)
      (hmode : PushesMode modes mode) (hother : PushesField u otherForm others other) :
      PushesArguments u .compareToField (pushes ++ modes ++ others) field
        (.compareToField mode other)
  | between {form : FieldForm} {pushes mins maxs : List Instruction} {field : FieldTarget}
      {min max : Constant} (h : PushesField u form pushes field) (hmin : PushesLiteral mins min)
      (hmax : PushesLiteral maxs max) :
      PushesArguments u .between (pushes ++ mins ++ maxs) field (.between min max)

end Validation

end ApiSurface
