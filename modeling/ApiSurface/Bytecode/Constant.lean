import ApiSurface.Number.Layout

/-!
# Loadable constants

The constants that instructions push and annotations hold. Floating-point constants keep their
bits, so that two constants are equal exactly when the class stores them alike.
-/
namespace ApiSurface

/-- A method that a call site or an instruction refers to without calling it. -/
structure MethodHandle where
  kind : UInt8
  owner : String
  name : String
  descriptor : String
deriving DecidableEq

/-- A constant that an instruction can push. -/
inductive Constant where
  | int (value : Int32)
  | long (value : Int64)
  | float (bits : UInt32)
  | double (bits : UInt64)
  | string (value : String)
  /-- The internal name of a class, or the descriptor of an array. -/
  | classRef (name : String)
  | methodType (descriptor : String)
  | handle (target : MethodHandle)
deriving DecidableEq

/-- The method as `owner#name` and descriptor. -/
def MethodHandle.text (h : MethodHandle) : String := h.owner ++ "#" ++ h.name ++ h.descriptor

namespace Constant
open Number

/-- The number of a 32-bit floating-point constant. -/
def single (bits : UInt32) : BinaryValue := .ofBits .single bits.toNat

/-- The number of a 64-bit floating-point constant. -/
def wide (bits : UInt64) : BinaryValue := .ofBits .double bits.toNat

/-- The constant as listings of instructions show it. -/
def text : Constant → String
  | int v => toString v.toInt
  | long v => toString v.toInt ++ "L"
  | float bits => Layout.plain.text (single bits) ++ "F"
  | double bits => Layout.plain.text (wide bits) ++ "D"
  | string v => "\"" ++ v ++ "\""
  | classRef name => name ++ ".class"
  | methodType d => d
  | handle h => h.text

end Constant

end ApiSurface
