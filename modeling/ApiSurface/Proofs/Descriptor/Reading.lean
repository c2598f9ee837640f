import ApiSurface.Descriptor.Reading
import ApiSurface.Proofs.Outcome
import Mathlib.Data.List.TakeWhile

/-!
# What field types are read from

A field type is read from letters that start with its spelling, and from no others. The name of a
class ends before the first semicolon, so no class is read whose name has one.

Main definition: `FieldType.Named`. Main statements: `Descriptor.readFieldType_eq_ok`,
`FieldType.ofDescriptor_eq_ok`.
-/
namespace ApiSurface

/-- A class has a name, and there is no semicolon in it. -/
def ProperName (name : String) : Prop := name ≠ "" ∧ ';' ∉ name.toList

/-- The classes in the type have proper names. -/
def FieldType.Named : FieldType → Prop
  | .base _ => True
  | .object name => ProperName name
  | .array component => component.Named

theorem Primitive.ofLetter?_eq_some {c : Char} {p : Primitive} :
    Primitive.ofLetter? c = some p ↔ c = p.letter := by
  constructor
  · intro h
    unfold ofLetter? at h
    split at h <;> cases h <;> rfl
  · rintro rfl
    exact ofLetter?_letter p

namespace Descriptor

variable {letters rest : List Char}

theorem expect_eq_ok {wanted : Char} :
    expect wanted letters = .ok rest ↔ letters = wanted :: rest := by
  cases letters with
  | nil => simp [expect]
  | cons c letters => by_cases h : c = wanted <;> simp [expect, h]

theorem finish_eq_ok {done : Unit} : finish letters = .ok done ↔ letters = [] := by
  cases letters <;> simp [finish]

/-- A name is read up to the first semicolon. -/
theorem readClassName_eq_ok {name : String} :
    readClassName letters = .ok (name, rest) ↔
      ProperName name ∧ letters = name.toList ++ ';' :: rest := by
  rw [readClassName, bind_eq_ok]
  simp only [expect_eq_ok]
  constructor
  · rintro ⟨left, hdrop, h⟩
    split at h
    · cases h
    next hempty =>
      cases h
      rw [String.toList_ofList, ← hdrop, List.takeWhile_append_dropWhile]
      refine ⟨⟨fun h => hempty (by simpa using h), fun hmem => ?_⟩, rfl⟩
      rw [String.toList_ofList] at hmem
      simpa using List.mem_takeWhile_imp hmem
  · rintro ⟨⟨hne, hproper⟩, rfl⟩
    have hall : ∀ c ∈ name.toList, decide (c ≠ ';') = true := by
      intro c hc
      rw [decide_eq_true_iff]
      rintro rfl
      exact hproper hc
    refine ⟨rest, ?_, ?_⟩
    · rw [List.dropWhile_append_of_pos hall]
      rfl
    · rw [List.takeWhile_append_of_pos hall]
      simp [hne]

/-- The class that the descriptor of a class names. -/
theorem classNameOf_descriptor {name : String} (h : name ≠ "") :
    classNameOf (FieldType.object name).descriptor = .ok name := by
  simp [classNameOf, FieldType.descriptor, FieldType.spelling, h]

/-- **A type is read from letters that start with its spelling.** -/
theorem readFieldType_eq_ok {t : FieldType} :
    readFieldType letters = .ok (t, rest) ↔ t.Named ∧ letters = t.spelling ++ rest := by
  induction letters generalizing t with
  | nil => cases t <;> simp [readFieldType, FieldType.spelling]
  | cons c letters ih =>
    have hletter (p : Primitive) : p.letter ≠ 'L' ∧ p.letter ≠ '[' := by cases p <;> decide
    rw [readFieldType]
    split
    next hc =>
      subst hc
      rw [bind_eq_ok]
      simp only [Prod.exists, readClassName_eq_ok]
      cases t with
      | object name => simp [FieldType.Named, FieldType.spelling]
      | base p => simp [FieldType.spelling, (hletter p).1.symm]
      | array component => simp [FieldType.spelling]
    · split
      next hc =>
        subst hc
        rw [bind_eq_ok]
        simp only [Prod.exists]
        cases t with
        | object name => simp [FieldType.spelling]
        | base p => simp [FieldType.spelling, (hletter p).2.symm]
        | array component => simpa [FieldType.Named, FieldType.spelling] using ih
      next hclass harray =>
        have hbase (p : Primitive) : c = p.letter ↔ Primitive.ofLetter? c = some p :=
          Primitive.ofLetter?_eq_some.symm
        cases t with
        | object name => cases Primitive.ofLetter? c <;> simp [FieldType.spelling, hclass]
        | base p =>
          simp only [FieldType.spelling, FieldType.Named, List.singleton_append, List.cons.injEq,
            hbase, true_and]
          cases Primitive.ofLetter? c <;> simp
        | array component => cases Primitive.ofLetter? c <;> simp [FieldType.spelling, harray]

end Descriptor

/-- **A text is the descriptor of the type that it is read as.** -/
theorem FieldType.ofDescriptor_eq_ok {text : String} {t : FieldType} :
    FieldType.ofDescriptor text = .ok t ↔ t.Named ∧ text = t.descriptor := by
  rw [FieldType.ofDescriptor, bind_eq_ok]
  simp only [Prod.exists, Descriptor.readFieldType_eq_ok, bind_eq_ok, Descriptor.finish_eq_ok]
  constructor
  · rintro ⟨a, b, ⟨named, htext⟩, -, rfl, heq⟩
    cases heq
    rw [List.append_nil] at htext
    exact ⟨named, by rw [FieldType.descriptor, ← htext, String.ofList_toList]⟩
  · rintro ⟨named, rfl⟩
    exact ⟨t, [], ⟨named, by simp [FieldType.descriptor]⟩, (), rfl, rfl⟩

end ApiSurface
