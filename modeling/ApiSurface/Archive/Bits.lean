/-!
# Reading bits

Compressed data is a sequence of bits; the first bit of a byte is its lowest one. A reader keeps
the position of the next bit and the bytes produced so far.

Main definitions: `Progress`, `Unpacking`, `bits`.
-/
namespace ApiSurface.Archive

/-- How far compressed data has been read, and what it has given. -/
structure Progress where
  /-- The number of bits consumed. -/
  position : Nat := 0
  output : ByteArray := ByteArray.empty

/-- A computation that reads bits of some data and may fail. -/
abbrev Unpacking := ReaderT ByteArray (StateT Progress Option)

/-- The next bit. -/
def bit : Unpacking Nat := fun data p =>
  if h : p.position / 8 < data.size then
    some (data[p.position / 8].toNat / Nat.pow 2 (p.position % 8) % 2,
      { p with position := p.position + 1 })
  else none

/-- The number that the next bits write, the lowest first. -/
def bits : (count : Nat) → Unpacking Nat
  | 0 => pure 0
  | count + 1 => do
    let low ← bit
    let high ← bits count
    pure (low + 2 * high)

/-- Go on at the next whole byte. -/
def align : Unpacking Unit :=
  modify fun p => { p with position := (p.position + 7) / 8 * 8 }

/-- Produce a byte. -/
def emit (b : UInt8) : Unpacking Unit :=
  modify fun p => { p with output := p.output.push b }

/-- Produce bytes again that were produced `distance` bytes ago. -/
def repeatBytes (distance : Nat) : (count : Nat) → Unpacking Unit
  | 0 => pure ()
  | count + 1 => do
    let p ← get
    if h : 0 < distance ∧ distance ≤ p.output.size then
      emit p.output[p.output.size - distance]
      repeatBytes distance count
    else failure

/-- Produce the next bytes as they stand. -/
def copyBytes : (count : Nat) → Unpacking Unit
  | 0 => pure ()
  | count + 1 => do
    let b ← bits 8
    emit (UInt8.ofNat b)
    copyBytes count

end ApiSurface.Archive
