import ApiSurface.Universe.Hierarchy

/-!
# Idioms

An idiom is a list of patterns, in program order, for instructions that follow one another. A
pattern tests one instruction and may be optional.

Main definitions: `Test`, `Test.holds`, `Pattern`, `Idiom`.
-/
namespace ApiSurface

/-- What is asked of the class that declares a called method. -/
inductive OwnerFilter where
  | exact (name : String)
  /-- The class is the base or has it above itself. -/
  | descendant (base : String)

/-- A test of one instruction. A part that is not given is not tested. -/
inductive Test where
  | opcode (opcode : Opcode)
  | kind (kind : PayloadKind)
  | field (owner name descriptor : Option String) (isStatic : Option Bool)
  | call (owner : Option OwnerFilter) (name descriptor : Option String)
  /-- The instruction pushes a literal. -/
  | literal
  | anyOf (alternatives : List Test)

/-- The class satisfies the filter. -/
def OwnerFilter.holds (u : Universe) (owner : String) : OwnerFilter → Except Fault Bool
  | exact name => .ok (name = owner)
  | descendant base => u.descends owner base

namespace Test

/-- A field access has the given parts. -/
def holdsField (owner name descriptor : Option String) (isStatic : Option Bool)
    (a : FieldAccess) : Bool :=
  owner.all (· = a.owner) && name.all (· = a.name) && descriptor.all (· = a.descriptor) &&
    isStatic.all (· = a.isStatic)

/-- A call has the given parts. The owner is looked at first, and a fault in the hierarchy above
it is one even if the name differs. -/
def holdsCall (u : Universe) (owner : Option OwnerFilter) (name descriptor : Option String)
    (c : Call) : Except Fault Bool := do
  let ownerHolds ← match owner with
    | none => .ok true
    | some filter => filter.holds u c.owner
  .ok (ownerHolds && name.all (· = c.name) && descriptor.all (· = c.descriptor))

mutual

/-- The instruction passes the test. -/
def holds (u : Universe) (p : Payload) : Test → Except Fault Bool
  | opcode o => .ok (p.opcode? = some o)
  | kind k => .ok (p.kind = k)
  | field owner name descriptor isStatic =>
    match p with
    | .field a => .ok (holdsField owner name descriptor isStatic a)
    | _ => .ok false
  | call owner name descriptor =>
    match p with
    | .call c => holdsCall u owner name descriptor c
    | _ => .ok false
  | literal => .ok p.literal?.isSome
  | anyOf alternatives => holdsAny u p alternatives

/-- The instruction passes one of the tests; those after it are not tried. -/
def holdsAny (u : Universe) (p : Payload) : List Test → Except Fault Bool
  | [] => .ok false
  | t :: ts => do
    if ← holds u p t then .ok true else holdsAny u p ts

end

end Test

/-- A test for one instruction of an idiom, which may be left out if it is optional. -/
structure Pattern where
  test : Test
  isOptional : Bool

namespace Pattern

/-- A pattern for an instruction that has to be there. -/
def required (test : Test) : Pattern := ⟨test, false⟩

/-- A pattern for an instruction that may be left out. -/
def optional (test : Test) : Pattern := ⟨test, true⟩

end Pattern

/-- Patterns for successive instructions, in program order. -/
abbrev Idiom := List Pattern

end ApiSurface
