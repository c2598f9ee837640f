import ApiSurface.Schema.Basic
import Mathlib.Logic.Function.Basic

/-!
# Forms of texts and references

The encoded form of a text is made of letters and digits that stand for themselves, of `+` and of
`%` with two hexadecimal digits. The first letter of a form says which of these it starts with, so a
form stands for one sequence of bytes. The form of a text stands for the bytes of the text in UTF-8,
and so a reference tells which name it refers to.

Main definitions: `IsForm`. Main statements: `isForm_encode`, `IsForm.decode?_eq`,
`encode_injective`, `referenceTo_identifies`.
-/
namespace ApiSurface

namespace Text.PercentForm

/-- ASCII letters, digits and four marks stand for themselves. -/
def IsPlainLetter (c : Char) : Prop :=
  ('a' ≤ c ∧ c ≤ 'z') ∨ ('A' ≤ c ∧ c ≤ 'Z') ∨ ('0' ≤ c ∧ c ≤ '9') ∨ c ∈ ['.', '-', '*', '_']

instance : DecidablePred IsPlainLetter := fun _ => inferInstanceAs (Decidable (_ ∨ _))

/-- The upper-case hexadecimal digits in the order of their values. -/
def upperDigits : List Char :=
  ['0', '1', '2', '3', '4', '5', '6', '7', '8', '9', 'A', 'B', 'C', 'D', 'E', 'F']

/-- The letters are a form of the bytes. -/
inductive IsForm : List Char → List UInt8 → Prop
  | nil : IsForm [] []
  /-- A plain letter is its own code. -/
  | plain {c byte form bytes} : IsPlainLetter c → c.toNat = byte.toNat → IsForm form bytes →
      IsForm (c :: form) (byte :: bytes)
  | space {form bytes} : IsForm form bytes → IsForm ('+' :: form) (0x20 :: bytes)
  /-- Two digits have the value of the byte. -/
  | escape {h l : Nat} {high low byte form bytes} : upperDigits[h]? = some high →
      upperDigits[l]? = some low → byte.toNat = 16 * h + l → IsForm form bytes →
      IsForm ('%' :: high :: low :: form) (byte :: bytes)

/-! ## Letters and digits -/

theorem isPlainLetter_iff {c : Char} :
    IsPlainLetter c ↔
      (0x61 ≤ c.toNat ∧ c.toNat ≤ 0x7a) ∨ (0x41 ≤ c.toNat ∧ c.toNat ≤ 0x5a) ∨
        (0x30 ≤ c.toNat ∧ c.toNat ≤ 0x39) ∨
        c.toNat = 0x2e ∨ c.toNat = 0x2d ∨ c.toNat = 0x2a ∨ c.toNat = 0x5f := by
  simp only [IsPlainLetter, Char.le_def, UInt32.le_iff_toNat_le, UInt32.reduceToNat, Char.toNat_val,
    Char.reduceVal, List.mem_cons, ← Char.toNat_inj, Char.reduceToNat, List.not_mem_nil, or_false]

/-- A byte stands for itself if it is the code of a plain letter. -/
theorem isPlain_iff {byte : UInt8} {c : Char} (h : c.toNat = byte.toNat) :
    isPlain byte = true ↔ IsPlainLetter c := by
  rw [isPlainLetter_iff, h]
  simp only [isPlain, UInt8.le_iff_toNat_le, UInt8.reduceToNat, ← UInt8.toNat_inj,
    Bool.or_eq_true, Bool.and_eq_true, decide_eq_true_eq]
  omega

theorem toNat_ofNat_byte (byte : UInt8) : (Char.ofNat byte.toNat).toNat = byte.toNat := by
  have hbyte : byte.toNat < 0xd800 := Nat.lt_trans byte.toNat_lt (by decide)
  rw [Char.ofNat, dif_pos (.inl hbyte)]
  rfl

theorem upperDigits_getElem? : ∀ n < 16, upperDigits[n]? = some (hexDigit n) := by decide

theorem digitValue?_hexDigit : ∀ n < 16, digitValue? (hexDigit n) = some n := by decide

theorem digitValue?_of_getElem? {n : Nat} {c : Char} (h : upperDigits[n]? = some c) :
    digitValue? c = some n := by
  obtain ⟨hn, -⟩ := List.getElem?_eq_some_iff.mp h
  rw [upperDigits_getElem? n hn, Option.some_inj] at h
  rw [← h, digitValue?_hexDigit n hn]

/-! ## Forms of bytes -/

/-- The letters for a byte are put in front of a form. -/
theorem IsForm.encodeByte_append {form : List Char} {bytes : List UInt8} (byte : UInt8)
    (hform : IsForm form bytes) : IsForm (encodeByte byte ++ form) (byte :: bytes) := by
  rw [encodeByte]
  by_cases hplain : isPlain byte = true
  · rw [if_pos hplain]
    exact .plain ((isPlain_iff (toNat_ofNat_byte byte)).mp hplain) (toNat_ofNat_byte byte) hform
  · rw [if_neg hplain]
    by_cases hspace : byte = 0x20
    · subst hspace
      exact .space hform
    · have hbyte : byte.toNat < 256 := byte.toNat_lt
      rw [if_neg hspace]
      refine .escape (upperDigits_getElem? _ ?_) (upperDigits_getElem? _ ?_) ?_ hform <;> omega

theorem isForm_encodeByte (bytes : List UInt8) : IsForm (bytes.flatMap encodeByte) bytes := by
  induction bytes with
  | nil => exact .nil
  | cons byte bytes ih =>
    rw [List.flatMap_cons]
    exact ih.encodeByte_append byte

/-- **A form is decoded to the bytes that it stands for.** -/
theorem IsForm.decode?_eq {form : List Char} {bytes : List UInt8} (h : IsForm form bytes) :
    decode? form = some bytes := by
  induction h with
  | nil => rfl
  | @plain c byte form bytes hplain hcode _ ih =>
    have hbyte : UInt8.ofNat c.toNat = byte := by rw [hcode, UInt8.ofNat_toNat]
    have hlow : c.toNat < 0x80 ∧ isPlain (UInt8.ofNat c.toNat) = true := by
      rw [hbyte, isPlain_iff hcode]
      have := isPlainLetter_iff.mp hplain
      exact ⟨by omega, hplain⟩
    rw [decode?, if_pos hlow, ih, hbyte]
    · rfl
    · rintro rfl
      exact absurd hplain (by decide)
    · rintro _ _ _ rfl
      exact absurd hplain (by decide)
  | space _ ih =>
    rw [decode?, ih]
    rfl
  | @escape h l high low byte form bytes hhigh hlow hvalue _ ih =>
    have hbyte : UInt8.ofNat (16 * h + l) = byte := by rw [← hvalue, UInt8.ofNat_toNat]
    rw [decode?, digitValue?_of_getElem? hhigh, digitValue?_of_getElem? hlow, ih, ← hbyte]
    rfl

/-! ## Forms of texts -/

theorem utf8Bytes_eq (text : String) : utf8Bytes text = text.toByteArray.data.toList := by
  rw [← String.utf8Encode_toList, List.utf8Encode, List.data_toByteArray]
  rfl

/-- **The encoded form of a text is a form of its bytes in UTF-8.** -/
theorem isForm_encode (text : String) :
    IsForm (encode text).toList text.toByteArray.data.toList := by
  rw [encode, String.toList_ofList, ← utf8Bytes_eq]
  exact isForm_encodeByte (utf8Bytes text)

example : encode "Outer$Inner x+é" = "Outer%24Inner+x%2B%C3%A9" := by cbv

theorem encode_injective : Function.Injective encode := by
  intro text other h
  have hbytes := (isForm_encode text).decode?_eq
  rw [h, (isForm_encode other).decode?_eq, Option.some_inj, Array.toList_inj] at hbytes
  exact String.toByteArray_inj.mp (ByteArray.ext hbytes.symm)

end Text.PercentForm

open Text.PercentForm

theorem toList_referenceTo (name : String) :
    (referenceTo name).toList = "#/components/schemas/".toList ++ (encode name).toList :=
  String.toList_append

/-- **A reference identifies the name of a schema.** Behind the fixed path, the text of a reference
consists of plain letters, of `+` and of `%` with two upper-case hexadecimal digits, and decoding
it gives the bytes of the name in UTF-8. So different names have different references. -/
theorem referenceTo_identifies :
    (∀ name : String, ∃ form,
      (referenceTo name).toList = "#/components/schemas/".toList ++ form ∧
      IsForm form name.toByteArray.data.toList ∧
      decode? form = some name.toByteArray.data.toList) ∧
    Function.Injective referenceTo := by
  constructor
  · intro name
    exact ⟨(encode name).toList, toList_referenceTo name, isForm_encode name,
      (isForm_encode name).decode?_eq⟩
  · intro name other h
    rw [← String.toList_inj, toList_referenceTo, toList_referenceTo, List.append_right_inj,
      String.toList_inj] at h
    exact encode_injective h

end ApiSurface
