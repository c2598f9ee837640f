/-!
# Form encoding

Letters, digits and `.-*_` stand for themselves, a space is `+`, and every other byte of the
UTF-8 form of a text is `%` with two upper-case hexadecimal digits. Since `+` and `%` are among
the other bytes, nothing is lost.

Main definitions: `encode`, `decode?`.
-/
namespace ApiSurface.Text.PercentForm

/-- The byte stands for itself. -/
def isPlain (byte : UInt8) : Bool :=
  (0x61 ≤ byte && byte ≤ 0x7a) || (0x41 ≤ byte && byte ≤ 0x5a) || (0x30 ≤ byte && byte ≤ 0x39) ||
    byte = 0x2e || byte = 0x2d || byte = 0x2a || byte = 0x5f

/-- An upper-case hexadecimal digit. -/
def hexDigit (n : Nat) : Char := Char.ofNat (if n < 10 then 0x30 + n else 0x37 + n)

/-- The letters that stand for one byte. -/
def encodeByte (byte : UInt8) : List Char :=
  if isPlain byte then [Char.ofNat byte.toNat]
  else if byte = 0x20 then ['+']
  else ['%', hexDigit (byte.toNat / 16), hexDigit (byte.toNat % 16)]

/-- The bytes of a text in UTF-8. -/
def utf8Bytes (text : String) : List UInt8 := text.toList.flatMap String.utf8EncodeChar

/-- The encoded form of a text. -/
def encode (text : String) : String := String.ofList ((utf8Bytes text).flatMap encodeByte)

/-- The value of an upper-case hexadecimal digit. -/
def digitValue? (c : Char) : Option Nat :=
  if '0' ≤ c ∧ c ≤ '9' then some (c.toNat - 0x30)
  else if 'A' ≤ c ∧ c ≤ 'F' then some (c.toNat - 0x37)
  else none

/-- The bytes that an encoded form stands for. -/
def decode? : List Char → Option (List UInt8)
  | [] => some []
  | '+' :: rest => (decode? rest).map (0x20 :: ·)
  | '%' :: high :: low :: rest => do
    let h ← digitValue? high
    let l ← digitValue? low
    let bytes ← decode? rest
    some (UInt8.ofNat (16 * h + l) :: bytes)
  | c :: rest =>
    if c.toNat < 0x80 ∧ isPlain (UInt8.ofNat c.toNat) then
      (decode? rest).map (UInt8.ofNat c.toNat :: ·)
    else none

end ApiSurface.Text.PercentForm
