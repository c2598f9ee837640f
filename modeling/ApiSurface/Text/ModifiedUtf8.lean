/-!
# Modified UTF-8

Compiled classes keep their texts in a variant of UTF-8: the null character takes two bytes, and
a character beyond the basic plane is a pair of surrogates of three bytes each. Bytes that are
plain UTF-8 are taken as such; anything else has to be of the variant throughout.

Main definition: `decode?`.
-/
namespace ApiSurface.Text.ModifiedUtf8

/-- The byte continues a character. -/
def isTail (byte : UInt8) : Bool := 0x80 ≤ byte && byte ≤ 0xbf

/-- The low six bits, which a continuing byte contributes. -/
def tailBits (byte : UInt8) : Nat := byte.toNat % 64

/-- The sixteen bits of a three-byte form. -/
def threeBytes (first second third : UInt8) : Nat :=
  first.toNat % 16 * 4096 + tailBits second * 64 + tailBits third

/-- The characters of the variant form. -/
def variant? : List UInt8 → Option (List Char)
  | [] => some []
  | a :: rest =>
    if a = 0 then none
    else if a < 0x80 then (variant? rest).map (Char.ofNat a.toNat :: ·)
    else match rest with
      | [] => none
      | b :: rest =>
        if ! isTail b then none
        else if a = 0xc0 then
          if b = 0x80 then (variant? rest).map (Char.ofNat 0 :: ·) else none
        else if 0xc2 ≤ a ∧ a ≤ 0xdf then
          (variant? rest).map (Char.ofNat (a.toNat % 32 * 64 + tailBits b) :: ·)
        else if 0xe0 ≤ a ∧ a ≤ 0xef then
          match rest with
          | [] => none
          | c :: rest =>
            let unit := threeBytes a b c
            if ! isTail c ∨ unit < 0x800 then none
            else if unit < 0xd800 ∨ 0xe000 ≤ unit then (variant? rest).map (Char.ofNat unit :: ·)
            else if unit < 0xdc00 then
              match rest with
              | d :: e :: f :: rest =>
                let low := threeBytes d e f
                if d = 0xed ∧ isTail e ∧ isTail f ∧ 0xdc00 ≤ low then
                  let code := 0x10000 + (unit - 0xd800) * 0x400 + (low - 0xdc00)
                  (variant? rest).map (Char.ofNat code :: ·)
                else none
              | _ => none
            else none
        else none

/-- The text that bytes of a class file stand for. -/
def decode? (bytes : List UInt8) : Option String :=
  match String.fromUTF8? bytes.toByteArray with
  | some text => some text
  | none => (variant? bytes).map String.ofList

end ApiSurface.Text.ModifiedUtf8
