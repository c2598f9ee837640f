import ApiSurface.ClassFile.Bytes
import Mathlib.Algebra.Group.Nat.Defs

/-!
# Numbers as bytes

A number is written with its most significant byte first, and a signed number as what it is modulo
the power of two that its bytes can hold. Reading the bytes gives the number back.

Main definitions: `bigEndian`, `twosComplement`, `words`. Main statements: `unsigned_bigEndian`,
`signed_twosComplement`.
-/
namespace ApiSurface.ClassFile

/-- The lowest `width` bytes of a number, the most significant first. -/
def bigEndian : (width n : Nat) → List UInt8
  | 0, _ => []
  | width + 1, n => bigEndian width (n / 256) ++ [UInt8.ofNat n]

/-- A signed number in `width` bytes. -/
def twosComplement (width : Nat) (n : Int) : List UInt8 :=
  bigEndian width (n % (256 ^ width : Nat)).toNat

/-- Signed numbers of four bytes, one after the other. -/
def words (ns : List Int) : List UInt8 := ns.flatMap (twosComplement 4)

@[simp] theorem length_bigEndian (width n : Nat) : (bigEndian width n).length = width := by
  induction width generalizing n with
  | zero => rfl
  | succ width ih => simp [bigEndian, ih]

@[simp] theorem length_twosComplement (width : Nat) (n : Int) :
    (twosComplement width n).length = width :=
  length_bigEndian _ _

theorem words_cons (n : Int) (ns : List Int) :
    words (n :: ns) = twosComplement 4 n ++ words ns :=
  rfl

theorem words_append (ns ms : List Int) : words (ns ++ ms) = words ns ++ words ms :=
  List.flatMap_append

@[simp] theorem length_words (ns : List Int) : (words ns).length = 4 * ns.length := by
  induction ns with
  | nil => rfl
  | cons n ns ih =>
    rw [words_cons, List.length_append, ih, length_twosComplement, List.length_cons]
    omega

theorem unsigned_append_singleton (bytes : List UInt8) (b : UInt8) :
    unsigned (bytes ++ [b]) = unsigned bytes * 256 + b.toNat := by
  simp [unsigned]

/-- Reading the bytes of a number gives the number, if it fits. -/
theorem unsigned_bigEndian {width n : Nat} (h : n < 256 ^ width) :
    unsigned (bigEndian width n) = n := by
  induction width generalizing n with
  | zero =>
    obtain rfl : n = 0 := by simpa using h
    rfl
  | succ width ih =>
    have hdiv : n / 256 < 256 ^ width := by
      rw [Nat.div_lt_iff_lt_mul (by decide)]
      rwa [Nat.pow_succ] at h
    rw [bigEndian, unsigned_append_singleton, ih hdiv, UInt8.toNat_ofNat']
    omega

/-- A signed number that fits into so many bits. -/
def Fits (bits : Nat) (n : Int) : Prop := -(2 ^ (bits - 1) : Nat) ≤ n ∧ n < (2 ^ (bits - 1) : Nat)

/-- What is written for a signed number: the number itself, or what it lacks to zero below the
power of two. -/
theorem toNat_emod_two_mul {n : Int} {half : Nat} (hlow : -(half : Int) ≤ n) (hhigh : n < half) :
    ((n % (2 * half : Nat)).toNat : Int) = if 0 ≤ n then n else n + (2 * half : Nat) := by
  split
  next hn =>
    rw [Int.emod_eq_of_lt hn (by omega)]
    omega
  next hn =>
    rw [← Int.add_emod_right, Int.emod_eq_of_lt (by omega) (by omega)]
    omega

/-- Reading the bytes of a signed number gives the number, if it fits. -/
theorem signed_twosComplement {width : Nat} {n : Int} (hw : 0 < width) (h : Fits (8 * width) n) :
    signed (8 * width) (unsigned (twosComplement width n)) = n := by
  obtain ⟨hlow, hhigh⟩ := h
  have hpow : Nat.pow 2 (8 * width) = 2 * 2 ^ (8 * width - 1) := by
    change 2 ^ (8 * width) = _
    rw [← Nat.pow_succ']
    congr 1
    omega
  have hbytes : 256 ^ width = 2 * 2 ^ (8 * width - 1) := by
    rw [← hpow, show (256 : Nat) = 2 ^ 8 from rfl, ← Nat.pow_mul]
    rfl
  have hwritten := toNat_emod_two_mul hlow hhigh
  rw [← hbytes] at hwritten hpow
  rw [twosComplement, unsigned_bigEndian (by split at hwritten <;> omega), signed, hpow]
  change (if _ < 2 ^ (8 * width - 1) then _ else _) = _
  split at hwritten <;> split <;> omega

end ApiSurface.ClassFile
