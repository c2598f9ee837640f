/-!
# Reading bytes

A byte reader consumes bytes from the front and fails when they do not suffice. Numbers are
unsigned and their first byte is the most significant one.

Main definitions: `ByteReader`, `number`, `times`, `signed`.
-/
namespace ApiSurface.ClassFile

/-- A computation that consumes bytes and may fail. -/
abbrev ByteReader := StateT (List UInt8) Option

/-- The unsigned number of bytes, the most significant first. -/
def unsigned (bytes : List UInt8) : Nat := bytes.foldl (fun n b => n * 256 + b.toNat) 0

/-- A number of `bits` bits read as a signed one. -/
def signed (bits n : Nat) : Int :=
  if n < Nat.pow 2 (bits - 1) then n else (n : Int) - (Nat.pow 2 bits : Nat)

/-- The next bytes. -/
def take (count : Nat) : ByteReader (List UInt8) := fun bytes =>
  let taken := bytes.take count
  if taken.length = count then some (taken, bytes.drop count) else none

/-- The number of the next bytes. -/
def number (width : Nat) : ByteReader Nat := do
  let bytes ← take width
  return unsigned bytes

/-- The next byte. -/
def byte : ByteReader UInt8
  | [] => none
  | b :: rest => some (b, rest)

/-- Read something several times. -/
def times {α : Type} (item : ByteReader α) : Nat → ByteReader (List α)
  | 0 => pure []
  | count + 1 => do
    let first ← item
    let others ← times item count
    return first :: others

/-- Read a count and then something as often. -/
def counted {α : Type} (width : Nat) (item : ByteReader α) : ByteReader (List α) := do
  let count ← number width
  times item count

/-- Skip a count and then records of a fixed size. -/
def skipCounted (width size : Nat) : ByteReader Unit := do
  let count ← number width
  let _ ← take (count * size)
  return

/-- Skip bytes. -/
def skip (count : Nat) : ByteReader Unit := do
  let _ ← take count
  return

/-- Fail unless so many bytes are left. -/
def demand (count : Nat) : ByteReader Unit := fun bytes =>
  if (bytes.take count).length = count then some ((), bytes) else none

/-- The number of bytes left. -/
def left : ByteReader Nat := fun bytes => some (bytes.length, bytes)

end ApiSurface.ClassFile
