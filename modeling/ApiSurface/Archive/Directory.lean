import ApiSurface.Archive.Checksum
import ApiSurface.Archive.Inflate
import ApiSurface.Files.Tree

/-!
# Reading archives

An archive ends with a directory of its entries: their names, sizes and places, and whether they
are deflated. Nothing stands before it that the directory does not lead to, so data may be put in
front of an archive. Entries are checked against their checksums.

Main definitions: `entries?`, `contentOf`.
-/
namespace ApiSurface.Archive
open Files (Content)

/-- The number in `width` bytes from `offset` on, the lowest first. -/
def numberAt? (data : ByteArray) (width offset : Nat) : Option Nat :=
  if offset + width ≤ data.size then
    some ((data.extract offset (offset + width)).data.foldr (fun b n => b.toNat + 256 * n) 0)
  else none

/-- The bytes of a range. -/
def range? (data : ByteArray) (offset size : Nat) : Option ByteArray :=
  if offset + size ≤ data.size then some (data.extract offset (offset + size)) else none

/-- The mark of the record that ends an archive. -/
def directoryEnd : Nat := 0x06054b50

/-- The mark of an entry of the directory. -/
def directoryEntry : Nat := 0x02014b50

/-- The mark that stands before the bytes of an entry. -/
def localEntry : Nat := 0x04034b50

/-- The place of the record that ends an archive, searched from `offset` down. -/
def endRecord? (data : ByteArray) : (offset : Nat) → Option Nat
  | 0 => if numberAt? data 4 0 = some directoryEnd then some 0 else none
  | offset + 1 =>
    if numberAt? data 4 (offset + 1) = some directoryEnd then some (offset + 1)
    else endRecord? data offset

/-- What the directory says about an entry. -/
structure Entry where
  name : String
  isDeflated : Bool
  checksum : Nat
  packedSize : Nat
  /-- The place of the entry, counted from the start of the archive. -/
  place : Nat

/-- Read an entry of the directory, and the place of the next one. -/
def entryAt? (data : ByteArray) (offset : Nat) : Option (Entry × Nat) := do
  let mark ← numberAt? data 4 offset
  let method ← numberAt? data 2 (offset + 10)
  let nameSize ← numberAt? data 2 (offset + 28)
  let extraSize ← numberAt? data 2 (offset + 30)
  let commentSize ← numberAt? data 2 (offset + 32)
  if mark ≠ directoryEntry ∨ method ≠ 0 ∧ method ≠ 8 then none
  else
    let name ← String.fromUTF8? (← range? data (offset + 46) nameSize)
    let entry : Entry :=
      { name, isDeflated := method = 8
        checksum := ← numberAt? data 4 (offset + 16)
        packedSize := ← numberAt? data 4 (offset + 20)
        place := ← numberAt? data 4 (offset + 42) }
    some (entry, offset + 46 + nameSize + extraSize + commentSize)

/-- Read several entries of the directory. -/
def entriesAt? (data : ByteArray) : (count : Nat) → (offset : Nat) → Option (List Entry)
  | 0, _ => some []
  | count + 1, offset => do
    let (entry, next) ← entryAt? data offset
    let others ← entriesAt? data count next
    some (entry :: others)

/-- The bytes of an entry of an archive that starts at `base`. -/
def unpack? (data : ByteArray) (base : Nat) (e : Entry) : Option ByteArray := do
  let place := base + e.place
  let mark ← numberAt? data 4 place
  let nameSize ← numberAt? data 2 (place + 26)
  let extraSize ← numberAt? data 2 (place + 28)
  let packed ← range? data (place + 30 + nameSize + extraSize) e.packedSize
  let bytes ← if e.isDeflated then inflate? packed else some packed
  if mark = localEntry ∧ (checksum bytes).toNat = e.checksum then some bytes else none

/-- The entries of an archive with their bytes. -/
def entries? (data : ByteArray) : Option (List (String × ByteArray)) := do
  let last ← endRecord? data data.size
  let count ← numberAt? data 2 (last + 10)
  let size ← numberAt? data 4 (last + 12)
  let offset ← numberAt? data 4 (last + 16)
  if last < size + offset then none
  else
    let base := last - size - offset
    let entries ← entriesAt? data count (last - size)
    entries.mapM fun e => (unpack? data base e).map fun bytes => (e.name, bytes)

/-- The number of archives that are looked into inside one another. -/
def nestingLimit : Nat := 64

/-- The content of a file by its name, with at most so many archives inside one another. -/
def contentWithin (depth : Nat) (name : String) (data : ByteArray) : Content :=
  match depth with
  | 0 => .bytes data.data.toList
  | depth + 1 =>
    if (Files.before? ".jar" name).isSome then
      match entries? data with
      | some entries =>
        .archive (entries.map fun (entry, bytes) => (entry, contentWithin depth entry bytes))
      | none => .bytes data.data.toList
    else .bytes data.data.toList

/-- The content of a file by its name: that of an archive is its entries. -/
def contentOf (name : String) (data : ByteArray) : Content := contentWithin nestingLimit name data

end ApiSurface.Archive
