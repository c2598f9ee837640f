import ApiSurface.Bytecode.Constant
import ApiSurface.Bytecode.Opcode

/-!
# Instructions

An instruction is a payload at an offset of a method body. Two payloads are markers, made from
branch targets and the line table; they have no operation code and do nothing.

Main definitions: `Payload`, `Instruction`, `Payload.opcode?`, `Payload.literal?`,
`Payload.text`.
-/
namespace ApiSurface

/-- A read or write of a field. -/
structure FieldAccess where
  opcode : Opcode
  owner : String
  name : String
  descriptor : String
deriving DecidableEq

/-- The access goes to the class and not to an object. -/
def FieldAccess.isStatic (a : FieldAccess) : Bool :=
  a.opcode = Opcode.getstatic || a.opcode = Opcode.putstatic

/-- How a call finds the method it enters. -/
inductive CallKind where
  | virtual | interface | special | static
deriving DecidableEq

/-- The operation code that makes a call of the kind. -/
def CallKind.opcode : CallKind → Opcode
  | virtual => .invokevirtual
  | interface => .invokeinterface
  | special => .invokespecial
  | static => .invokestatic

/-- A call of a named method. -/
structure Call where
  kind : CallKind
  owner : String
  name : String
  descriptor : String
deriving DecidableEq

/-- The call initialises a new object. -/
def Call.isConstructor (c : Call) : Bool := c.name = "<init>"

/-- A call whose target is made when it is first executed, with the arguments it is made from. -/
structure DynamicCall where
  name : String
  descriptor : String
  arguments : List Constant
deriving DecidableEq

/-- The method the call is made to run, such as the body of a lambda: the first handle among the
arguments. -/
def DynamicCall.target? (c : DynamicCall) : Option MethodHandle :=
  c.arguments.findSome? fun
    | .handle h => some h
    | _ => none

/-- What an instruction does. -/
inductive Payload where
  /-- A branch or an exception handler leads to the next instruction. -/
  | label
  /-- The next instruction is the first of a source line. -/
  | lineNumber (line : Nat)
  /-- An instruction without operands. -/
  | op (opcode : Opcode)
  /-- A small integer written in the instruction itself. -/
  | push (opcode : Opcode) (value : Int32)
  | constant (value : Constant)
  /-- A load or store of a local variable; short forms carry the code of the indexed form. -/
  | localSlot (opcode : Opcode) (index : Nat)
  | increment (index : Nat) (delta : Int)
  /-- An instruction that names a type. -/
  | type (opcode : Opcode) (descriptor : String)
  | field (access : FieldAccess)
  | call (call : Call)
  | dynamicCall (call : DynamicCall)
  | jump (opcode : Opcode) (target : Nat)
  | switch (opcode : Opcode) (fallback : Nat) (targets : List Nat)
  /-- An instruction whose operands are not kept. -/
  | other (opcode : Opcode)
deriving DecidableEq

/-- The kinds of payload. -/
inductive PayloadKind where
  | label | lineNumber | op | push | constant | localSlot | increment | type | field | call
  | dynamicCall | jump | switch | other
deriving DecidableEq

namespace Payload

def kind : Payload → PayloadKind
  | label => .label
  | lineNumber _ => .lineNumber
  | op _ => .op
  | push _ _ => .push
  | constant _ => .constant
  | localSlot _ _ => .localSlot
  | increment _ _ => .increment
  | type _ _ => .type
  | field _ => .field
  | call _ => .call
  | dynamicCall _ => .dynamicCall
  | jump _ _ => .jump
  | switch _ _ _ => .switch
  | other _ => .other

/-- The payload only marks a place in the body. -/
def isMarker : Payload → Bool
  | label => true
  | lineNumber _ => true
  | _ => false

/-- The operation code; markers have none. -/
def opcode? : Payload → Option Opcode
  | label => none
  | lineNumber _ => none
  | op opcode => some opcode
  | push opcode _ => some opcode
  | constant (.long _) => some .ldc2W
  | constant (.double _) => some .ldc2W
  | constant _ => some .ldc
  | localSlot opcode _ => some opcode
  | increment _ _ => some .iinc
  | type opcode _ => some opcode
  | field a => some a.opcode
  | call c => some c.kind.opcode
  | dynamicCall _ => some .invokedynamic
  | jump opcode _ => some opcode
  | switch opcode _ _ => some opcode
  | other opcode => some opcode

/-- A payload has no operation code exactly when it is a marker. -/
theorem opcode?_eq_none_iff (p : Payload) : p.opcode? = none ↔ p.isMarker = true := by
  cases p with
  | constant value => cases value <;> simp [opcode?, isMarker]
  | _ => simp [opcode?, isMarker]

/-- The single-precision constants that have instructions of their own. -/
def smallSingle : Nat → UInt32
  | 0 => 0
  | 1 => 0x3f800000
  | _ => 0x40000000

/-- The literal an instruction pushes, whichever form of instruction pushes it. -/
def literal? : Payload → Option Constant
  | op opcode =>
    if Opcode.iconstM1 ≤ opcode ∧ opcode ≤ Opcode.iconst5 then
      some (.int (Int32.ofInt (opcode.toNat - Opcode.iconst0.toNat)))
    else if Opcode.lconst0 ≤ opcode ∧ opcode ≤ Opcode.lconst1 then
      some (.long (Int64.ofInt (opcode.toNat - Opcode.lconst0.toNat)))
    else if Opcode.fconst0 ≤ opcode ∧ opcode ≤ Opcode.fconst2 then
      some (.float (smallSingle (opcode.toNat - Opcode.fconst0.toNat)))
    else if opcode = Opcode.dconst0 then some (.double 0)
    else if opcode = Opcode.dconst1 then some (.double 0x3ff0000000000000)
    else none
  | push _ value => some (.int value)
  | constant value => some value
  | _ => none

/-- Branch targets as a bracketed list. -/
def targetList (targets : List Nat) : String :=
  "[" ++ String.intercalate ", " (targets.map toString) ++ "]"

/-- The payload as listings show it: a mnemonic, and its operands after a tab. -/
def text (p : Payload) : String :=
  let mnemonic := (p.opcode?.map Opcode.mnemonic).getD ""
  match p with
  | label => "LABEL"
  | lineNumber line => "LINE\t" ++ toString line
  | op _ => mnemonic
  | other _ => mnemonic
  | push _ value => mnemonic ++ "\t" ++ toString value.toInt
  | constant value => mnemonic ++ "\t" ++ value.text
  | localSlot _ index => mnemonic ++ "\t" ++ toString index
  | increment index delta => mnemonic ++ "\t" ++ toString index ++ " " ++ toString delta
  | type _ descriptor => mnemonic ++ "\t" ++ descriptor
  | field a => mnemonic ++ "\t" ++ a.owner ++ "#" ++ a.name ++ " " ++ a.descriptor
  | call c => mnemonic ++ "\t" ++ c.owner ++ "#" ++ c.name ++ " " ++ c.descriptor
  | dynamicCall c =>
    mnemonic ++ "\t" ++ c.name ++ " " ++ c.descriptor ++
      c.target?.elim "" (fun h => " -> " ++ h.text)
  | jump _ target => mnemonic ++ "\t@" ++ toString target
  | switch _ fallback targets =>
    mnemonic ++ "\tdefault @" ++ toString fallback ++ " cases " ++ targetList targets

end Payload

/-- An instruction of a method body. -/
structure Instruction where
  offset : Nat
  payload : Payload
deriving DecidableEq

/-- The instruction only marks a place in the body. -/
def Instruction.isMarker (i : Instruction) : Bool := i.payload.isMarker

end ApiSurface
