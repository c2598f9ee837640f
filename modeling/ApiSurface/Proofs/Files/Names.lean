import ApiSurface.Files.Path
import ApiSurface.Proofs.Text.Segments
import Mathlib.Data.List.Basic

/-!
# Names of files and of entries

A directory tells its files apart by what follows the last dot of their names, an archive by how its
entries end. These come to the same for a path whose last name is not that ending by itself.

Main statements: `extension?_eq_some`, `before?_isSome_iff_extension`.
-/
namespace ApiSurface

namespace Files
open Text (segments joinSegments)

theorem extension?_of_segments {name : String} {pieces : List (List Char)} {last : List Char}
    (h : segments '.' name.toList = pieces ++ [last]) :
    extension? name =
      if pieces = [] ∨ pieces = [[]] then none else some (String.ofList last) := by
  rw [extension?, h, List.reverse_append, List.reverse_singleton, List.singleton_append]
  rcases pieces.eq_nil_or_concat with rfl | ⟨front, piece, rfl⟩
  · rfl
  · rw [List.concat_eq_append, List.reverse_append, List.reverse_singleton, List.singleton_append]
    match hfront : front.reverse, piece with
    | [], [] => simp_all
    | [], _ :: _ => simp_all
    | _ :: _, _ =>
      have hne : front ≠ [] := by
        rintro rfl
        cases hfront
      simp [List.append_eq_singleton_iff, hne]

/-- A name has an extension if something stands before its last dot. -/
theorem extension?_eq_some {name extension : String} (dotless : '.' ∉ extension.toList) :
    extension? name = some extension ↔
      ∃ stem, stem ≠ [] ∧ name.toList = stem ++ '.' :: extension.toList := by
  constructor
  · intro h
    rcases (segments '.' name.toList).eq_nil_or_concat with hnil | ⟨pieces, last, hs⟩
    · exact absurd hnil (Text.segments_ne_nil _ _)
    · rw [List.concat_eq_append] at hs
      rw [extension?_of_segments hs] at h
      split at h
      · cases h
      · next hpieces =>
        rw [not_or] at hpieces
        obtain rfl := Option.some.inj h
        refine ⟨joinSegments '.' pieces, ?_, ?_⟩
        · exact fun hnil => (Text.joinSegments_eq_nil hnil).elim hpieces.1 hpieces.2
        · have hjoin := Text.joinSegments_append '.' hpieces.1 (List.cons_ne_nil last [])
          rw [← hs, Text.joinSegments_segments] at hjoin
          rw [String.toList_ofList, hjoin, Text.joinSegments]
  · rintro ⟨stem, hstem, hname⟩
    have hs : segments '.' name.toList = segments '.' stem ++ [extension.toList] := by
      rw [hname, Text.segments_append, Text.segments_of_not_mem dotless]
    have hfront : ¬ (segments '.' stem = [] ∨ segments '.' stem = [[]]) := by
      rw [not_or]
      exact ⟨Text.segments_ne_nil _ _, fun h => hstem (Text.segments_eq_singleton_nil h)⟩
    rw [extension?_of_segments hs, if_neg hfront, String.ofList_toList]

theorem before?_isSome {ending text : String} :
    (before? ending text).isSome ↔ ending.toList <:+ text.toList := by
  rw [before?]
  split <;> simp_all

/-- What a name is put behind in a path: nothing, or a text with a slash at its end. -/
def IsBase (base : String) : Prop := base = "" ∨ base.toList.getLast? = some '/'

/-- A text without slashes ends a path exactly if it ends the last name on the path. -/
theorem suffix_append_iff {text name : List Char} {base : String} (slashless : '/' ∉ text)
    (hbase : IsBase base) : text <:+ base.toList ++ name ↔ text <:+ name := by
  constructor
  · intro h
    rcases List.suffix_or_suffix_of_suffix h (List.suffix_append _ name) with h' | ⟨front, rfl⟩
    · exact h'
    · -- What the text has before the name ends the base, and so it has no last letter.
      obtain ⟨rest, h⟩ := h
      rw [← List.append_assoc, List.append_left_inj] at h
      rcases front.eq_nil_or_concat with rfl | ⟨front, c, rfl⟩
      · exact List.suffix_refl _
      · rcases hbase with rfl | hlast
        · simp at h
        · rw [← h, List.concat_eq_append, ← List.append_assoc, List.getLast?_concat] at hlast
          simp_all
  · intro h
    exact h.trans (List.suffix_append _ name)

/-- **A path ends with a dot and an extension exactly if its last name has the extension,** unless
nothing else is in that name. -/
theorem before?_isSome_iff_extension {ending base name : String} (extension : String)
    (written : ending.toList = '.' :: extension.toList) (dotless : '.' ∉ extension.toList)
    (slashless : '/' ∉ extension.toList) (hbase : IsBase base) (other : name ≠ ending) :
    (before? ending (base ++ name)).isSome ↔ extension? name = some extension := by
  rw [before?_isSome, String.toList_append, written, suffix_append_iff (by simpa) hbase,
    extension?_eq_some dotless]
  constructor
  · rintro ⟨stem, h⟩
    refine ⟨stem, ?_, h.symm⟩
    rintro rfl
    exact other (String.toList_inj.mp (h.symm.trans written.symm))
  · rintro ⟨stem, -, h⟩
    exact ⟨stem, h.symm⟩

end Files

end ApiSurface
