/-!
# Checksums

The checksum of bytes is the remainder of a division of polynomials over two elements, whose
coefficients are the bits with the lowest first.

Main definition: `checksum`.
-/
namespace ApiSurface.Archive

/-- Divide once for each of some bits. -/
def divideBits : (count : Nat) → UInt32 → UInt32
  | 0, r => r
  | count + 1, r =>
    divideBits count (if r &&& 1 = 1 then (r >>> 1) ^^^ 0xedb88320 else r >>> 1)

/-- The remainder with one more byte. -/
def addByte (r : UInt32) (b : UInt8) : UInt32 := divideBits 8 (r ^^^ b.toUInt32)

/-- The checksum of some bytes. -/
def checksum (data : ByteArray) : UInt32 := ~~~ data.foldl addByte 0xffffffff

end ApiSurface.Archive
