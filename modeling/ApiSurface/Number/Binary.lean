/-!
# Binary floating-point numbers

A number is taken apart from its bits: not a number, an infinity, a zero, or a sign with a
magnitude `significand · 2 ^ exponent`. Nothing here rounds.

Main definitions: `BinaryFormat`, `Magnitude`, `BinaryValue.ofBits`, `BinaryValue.widen`.
-/
namespace ApiSurface.Number

/-- Widths of the two fields below the sign bit. -/
structure BinaryFormat where
  fractionBits : Nat
  exponentBits : Nat

/-- The 32-bit interchange format. -/
def BinaryFormat.single : BinaryFormat := ⟨23, 8⟩

/-- The 64-bit interchange format. -/
def BinaryFormat.double : BinaryFormat := ⟨52, 11⟩

/-- A positive number `significand · 2 ^ exponent`. -/
structure Magnitude where
  significand : Nat
  exponent : Int
  /-- The next smaller number of the format is only half as far away as the next larger one. -/
  closeBelow : Bool
deriving DecidableEq

/-- A floating-point number without its bits. -/
inductive BinaryValue where
  | nan
  | infinite (negative : Bool)
  | zero (negative : Bool)
  | finite (negative : Bool) (magnitude : Magnitude)
deriving DecidableEq

namespace BinaryValue

/-- The number whose bits, read as a natural number, are `bits`. -/
def ofBits (format : BinaryFormat) (bits : Nat) : BinaryValue :=
  let fractions := Nat.pow 2 format.fractionBits
  let fields := Nat.pow 2 format.exponentBits
  let fraction := bits % fractions
  let field := bits / fractions % fields
  let negative := bits / (fractions * fields) % 2 == 1
  let bias : Int := (fields / 2 : Nat) - 1
  if field = fields - 1 then
    if fraction = 0 then infinite negative else nan
  else if field = 0 then
    if fraction = 0 then zero negative
    else finite negative ⟨fraction, 1 - bias - format.fractionBits, false⟩
  else
    finite negative ⟨fractions + fraction, field - bias - format.fractionBits,
      fraction = 0 && 1 < field⟩

/-- The number with the significand that the 64-bit format has room for. Every number of the
32-bit format is a normal number of the 64-bit format, so nothing is lost. -/
def widen : BinaryValue → BinaryValue
  | finite negative m =>
    let shift := 52 - m.significand.log2
    let significand := m.significand * Nat.pow 2 shift
    finite negative ⟨significand, m.exponent - shift, significand = Nat.pow 2 52⟩
  | other => other

end BinaryValue

end ApiSurface.Number
