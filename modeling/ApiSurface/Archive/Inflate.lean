import ApiSurface.Archive.Bits

/-!
# Deflated data

Deflated data is a sequence of blocks. The bytes of a block stand there as they are, or as code
words for bytes and for repetitions of earlier bytes. Code words of one length are successive
numbers, and those of each length follow on from the shorter ones, so that the lengths alone
determine the code.

Loops count down the bits of the data, of which each step takes one at least.

Main definitions: `Code`, `Code.ofLengths`, `inflate?`.
-/
namespace ApiSurface.Archive

/-- A prefix code by the lengths of its words. -/
structure Code where
  /-- The number of words of each length, from zero up. -/
  counts : List Nat
  /-- The symbols in the order of their words. -/
  symbols : Array Nat

namespace Code

/-- The longest code word. -/
def maxLength : Nat := 15

/-- The code in which each symbol has a word of the given length; zero stands for none. -/
def ofLengths (lengths : List Nat) : Code where
  counts := 0 :: (List.range maxLength).map fun l => lengths.count (l + 1)
  symbols := ((List.range maxLength).flatMap fun l =>
    lengths.zipIdx.filterMap fun (length, symbol) =>
      if length = l + 1 then some symbol else none).toArray

/-- Read a symbol. `word` is what has been read of its word, `first` the first word of the length
reached, and `index` the number of shorter words. -/
def readFrom (c : Code) : (counts : List Nat) → (word first index : Nat) → Unpacking Nat
  | [], _, _, _ => failure
  | count :: counts, word, first, index => do
    if word < first + count then
      match c.symbols[index + (word - first)]? with
      | some symbol => pure symbol
      | none => failure
    else
      let next ← bit
      readFrom c counts (2 * word + next) (2 * (first + count)) (index + count)

/-- Read a symbol. -/
def read (c : Code) : Unpacking Nat := c.readFrom c.counts 0 0 0

end Code

/-! ## Repetitions -/

/-- The least lengths of repetitions with the number of bits that are added to each. -/
def lengthTable : List (Nat × Nat) :=
  [(3, 0), (4, 0), (5, 0), (6, 0), (7, 0), (8, 0), (9, 0), (10, 0), (11, 1), (13, 1), (15, 1),
    (17, 1), (19, 2), (23, 2), (27, 2), (31, 2), (35, 3), (43, 3), (51, 3), (59, 3), (67, 4),
    (83, 4), (99, 4), (115, 4), (131, 5), (163, 5), (195, 5), (227, 5), (258, 0)]

/-- The least distances of repetitions with the number of bits that are added to each. -/
def distanceTable : List (Nat × Nat) :=
  [(1, 0), (2, 0), (3, 0), (4, 0), (5, 1), (7, 1), (9, 2), (13, 2), (17, 3), (25, 3), (33, 4),
    (49, 4), (65, 5), (97, 5), (129, 6), (193, 6), (257, 7), (385, 7), (513, 8), (769, 8),
    (1025, 9), (1537, 9), (2049, 10), (3073, 10), (4097, 11), (6145, 11), (8193, 12), (12289, 12),
    (16385, 13), (24577, 13)]

/-- The number of an entry of a table, with its added bits. -/
def tableNumber (table : List (Nat × Nat)) (index : Nat) : Unpacking Nat :=
  match table[index]? with
  | none => failure
  | some (least, count) => do
    let added ← bits count
    pure (least + added)

/-! ## Blocks -/

/-- Read the code words of a block to its end. -/
def readBlock (literals distances : Code) : (count : Nat) → Unpacking Unit
  | 0 => failure
  | count + 1 => do
    let symbol ← literals.read
    if symbol < 256 then
      emit (UInt8.ofNat symbol)
      readBlock literals distances count
    else if symbol = 256 then pure ()
    else
      let length ← tableNumber lengthTable (symbol - 257)
      let distance ← tableNumber distanceTable (← distances.read)
      repeatBytes distance length
      readBlock literals distances count

/-- Read a block of bytes as they are. -/
def readStored : Unpacking Unit := do
  align
  let size ← bits 16
  let complement ← bits 16
  if size + complement = 0xffff then copyBytes size else failure

/-- The code for literals and lengths of blocks that do not bring their own. -/
def fixedLiterals : Code :=
  .ofLengths (List.replicate 144 8 ++ List.replicate 112 9 ++ List.replicate 24 7 ++
    List.replicate 8 8)

/-- The code for distances of blocks that do not bring their own. -/
def fixedDistances : Code := .ofLengths (List.replicate 30 5)

/-- The order in which the lengths of the code for lengths are given. -/
def lengthOrder : List Nat := [16, 17, 18, 0, 8, 7, 9, 6, 10, 5, 11, 4, 12, 3, 13, 2, 14, 1, 15]

/-- Read lengths of code words, the last of which stand first in `read`. -/
def readLengths (code : Code) (total : Nat) : (count : Nat) → (read : List Nat) →
    Unpacking (List Nat)
  | 0, _ => failure
  | count + 1, read => do
    if total ≤ read.length then
      if read.length = total then pure read.reverse else failure
    else
      let symbol ← code.read
      if symbol < 16 then readLengths code total count (symbol :: read)
      else if symbol = 16 then
        match read.head? with
        | none => failure
        | some last => do
          let times ← bits 2
          readLengths code total count (List.replicate (3 + times) last ++ read)
      else
        let times ← if symbol = 17 then (3 + ·) <$> bits 3 else (11 + ·) <$> bits 7
        readLengths code total count (List.replicate times 0 ++ read)

/-- The lengths of the code for lengths, of which some are given in their order. -/
def lengthsInOrder (given : List Nat) : List Nat :=
  (List.range 19).map fun symbol =>
    (((lengthOrder.zip given).find? (·.1 = symbol)).map (·.2)).getD 0

/-- Read several numbers of three bits. -/
def smallNumbers : (count : Nat) → Unpacking (List Nat)
  | 0 => pure []
  | count + 1 => do
    let first ← bits 3
    let others ← smallNumbers count
    pure (first :: others)

/-- Read the codes that a block brings. -/
def readCodes : Unpacking (Code × Code) := do
  let literals := 257 + (← bits 5)
  let distances := 1 + (← bits 5)
  let given ← smallNumbers (4 + (← bits 4))
  let code := Code.ofLengths (lengthsInOrder given)
  let lengths ← readLengths code (literals + distances) (literals + distances + 1) []
  pure (.ofLengths (lengths.take literals), .ofLengths (lengths.drop literals))

/-- Read blocks up to the last one. -/
def readBlocks (size : Nat) : (count : Nat) → Unpacking Unit
  | 0 => failure
  | count + 1 => do
    let isLast ← bit
    match ← bits 2 with
    | 0 => readStored
    | 1 => readBlock fixedLiterals fixedDistances size
    | 2 => do
      let (literals, distances) ← readCodes
      readBlock literals distances size
    | _ => failure
    if isLast = 1 then pure () else readBlocks size count

/-- The bytes that deflated data stands for. -/
def inflate? (data : ByteArray) : Option ByteArray := do
  let size := 8 * data.size + 1
  let (_, p) ← (readBlocks size size).run data {}
  some p.output

end ApiSurface.Archive
