import ApiSurface.Settings.Basic
import Mathlib.Data.List.DropRight

/-!
# Internal names

A name is brought into internal form in three steps: the blanks around it go, then the separators at
its end, and then its dots become slashes. The second step may end at a blank, which is not looked
for again. Such a name is not in internal form after the three steps; every other name is, and the
names in internal form are those that the steps leave as they are.

Main definitions: `IsInternal`, `HidesBlank`. Main statements: `internalName_eq_self_iff`,
`isInternal_internalName_iff`, `length_internalName_lt`.
-/
namespace ApiSurface

namespace Text

variable {p : Char → Bool} {letters : List Char}

theorem dropWhile_eq_self_iff :
    letters.dropWhile p = letters ↔ ∀ c ∈ letters.head?, p c = false := by
  rw [List.dropWhile_eq_self_iff]
  cases letters <;> simp

theorem dropEndWhile_eq_self_iff :
    dropEndWhile p letters = letters ↔ ∀ c ∈ letters.getLast?, p c = false := by
  rw [show dropEndWhile p letters = letters.rdropWhile p from rfl, List.rdropWhile_eq_self_iff]
  rcases letters.eq_nil_or_concat with rfl | ⟨front, c, rfl⟩ <;> simp

theorem dropEndWhile_prefix (p : Char → Bool) (letters : List Char) :
    dropEndWhile p letters <+: letters :=
  List.rdropWhile_prefix p letters

/-- What is dropped at the end satisfies the test. -/
theorem exists_dropEndWhile_append (p : Char → Bool) (letters : List Char) :
    ∃ dropped, letters = dropEndWhile p letters ++ dropped ∧ ∀ c ∈ dropped, p c = true :=
  ⟨letters.rtakeWhile p, List.rdropWhile_append_rtakeWhile.symm, fun _ => List.mem_rtakeWhile_imp⟩

/-- The last letter that is left does not satisfy the test. -/
theorem eq_false_of_mem_getLast?_dropEndWhile {c : Char}
    (h : c ∈ (dropEndWhile p letters).getLast?) : p c = false :=
  dropEndWhile_eq_self_iff.mp (List.rdropWhile_idempotent p letters) c h

/-- Nothing more is dropped than what satisfies the test at the end. -/
theorem dropEndWhile_append (front : List Char) {dropped : List Char} {c : Char}
    (stays : p c = false) (h : ∀ c ∈ dropped, p c = true) :
    dropEndWhile p (front ++ c :: dropped) = front ++ [c] := by
  rw [dropEndWhile, List.reverse_append, List.reverse_cons, List.append_assoc,
    List.dropWhile_append_of_pos (by simpa using h)]
  simp [stays]

end Text

open Text (isBlank trim dropEndWhile)

/-- The letters that end a segment of a name. -/
def isSeparator (c : Char) : Bool := c = '.' || c = '/'

/-- A letter of a name as its internal form has it. -/
def slashed (c : Char) : Char := if c = '.' then '/' else c

/-- The letters of a name that its internal form keeps. -/
def keptLetters (name : String) : List Char := dropEndWhile isSeparator (trim name.toList)

/-- The name has no dots, no blanks around it and no slashes at its end. -/
structure IsInternal (name : String) : Prop where
  dotless : '.' ∉ name.toList
  starts : ∀ c ∈ name.toList.head?, isBlank c = false
  ends : ∀ c ∈ name.toList.getLast?, isBlank c = false ∧ isSeparator c = false

/-- A blank stands before the separators at the end of the name, which has something before the
blank and nothing but blanks behind the separators. -/
def HidesBlank (name : String) : Prop :=
  ∃ front blank separators after, name.toList = front ++ blank :: (separators ++ after) ∧
    (∃ c ∈ front, isBlank c = false) ∧ isBlank blank = true ∧
    separators ≠ [] ∧ (∀ c ∈ separators, isSeparator c = true) ∧ ∀ c ∈ after, isBlank c = true

variable {name : String} {c : Char}

theorem toList_internalName (name : String) :
    (internalName name).toList = (keptLetters name).map slashed := by
  rw [internalName, String.toList_ofList]
  rfl

theorem isBlank_eq_false_of_isSeparator (h : isSeparator c = true) : isBlank c = false := by
  rw [isSeparator, Bool.or_eq_true, decide_eq_true_eq, decide_eq_true_eq] at h
  rcases h with rfl | rfl <;> rfl

theorem slashed_ne_dot (c : Char) : slashed c ≠ '.' := by
  unfold slashed
  split
  · decide
  · assumption

theorem isBlank_slashed (c : Char) : isBlank (slashed c) = isBlank c := by
  unfold slashed
  split
  · subst c
    rfl
  · rfl

theorem isSeparator_slashed (c : Char) : isSeparator (slashed c) = isSeparator c := by
  unfold slashed
  split
  · subst c
    rfl
  · rfl

/-! ## What is kept -/

theorem keptLetters_sublist (name : String) : (keptLetters name).Sublist name.toList :=
  (Text.dropEndWhile_prefix _ _).sublist.trans
    ((Text.dropEndWhile_prefix _ _).sublist.trans (List.dropWhile_sublist _))

theorem head?_keptLetters (h : c ∈ (keptLetters name).head?) : isBlank c = false := by
  obtain ⟨dropped, hdropped⟩ : keptLetters name <+: name.toList.dropWhile isBlank :=
    (Text.dropEndWhile_prefix _ _).trans (Text.dropEndWhile_prefix _ _)
  have first : (name.toList.dropWhile isBlank).head? = some c := by
    rw [← hdropped, List.head?_append_of_ne_nil _ (by rintro hnil; simp [hnil] at h)]
    exact h
  simpa [first] using List.head?_dropWhile_not isBlank name.toList

theorem getLast?_keptLetters (h : c ∈ (keptLetters name).getLast?) : isSeparator c = false :=
  Text.eq_false_of_mem_getLast?_dropEndWhile h

/-- All letters are kept of a name without blanks around it and separators at its end. -/
theorem keptLetters_eq_toList_iff :
    keptLetters name = name.toList ↔ (∀ c ∈ name.toList.head?, isBlank c = false) ∧
      ∀ c ∈ name.toList.getLast?, isBlank c = false ∧ isSeparator c = false := by
  constructor
  · intro h
    -- Each of the steps before keeps at least as much.
    have unblanked : trim name.toList = name.toList := by
      refine List.Sublist.antisymm ?_ ?_
      · exact (Text.dropEndWhile_prefix _ _).sublist.trans (List.dropWhile_sublist _)
      · conv_lhs => rw [← h]
        exact (Text.dropEndWhile_prefix _ _).sublist
    refine ⟨fun c hc => head?_keptLetters (by rwa [h]), fun c hc => ⟨?_, ?_⟩⟩
    · exact Text.eq_false_of_mem_getLast?_dropEndWhile (by rw [← unblanked] at hc; exact hc)
    · exact getLast?_keptLetters (by rwa [h])
  · rintro ⟨starts, ends⟩
    have untouched : name.toList.dropWhile isBlank = name.toList :=
      Text.dropWhile_eq_self_iff.mpr starts
    rw [keptLetters, trim, untouched,
      Text.dropEndWhile_eq_self_iff.mpr fun c hc => (ends c hc).1,
      Text.dropEndWhile_eq_self_iff.mpr fun c hc => (ends c hc).2]

/-- A name is what is kept of it with blanks before it and with separators and blanks behind it.
Without separators there, a blank is not the last of what is kept. -/
theorem exists_parts (name : String) :
    ∃ before separators after,
      name.toList = before ++ (keptLetters name ++ (separators ++ after)) ∧
      (separators = [] → ∀ c ∈ (keptLetters name).getLast?, isBlank c = false) ∧
      (∀ c ∈ separators, isSeparator c = true) ∧ ∀ c ∈ after, isBlank c = true := by
  obtain ⟨separators, htrim, hseparators⟩ :=
    Text.exists_dropEndWhile_append isSeparator (trim name.toList)
  obtain ⟨after, hname, hafter⟩ :=
    Text.exists_dropEndWhile_append isBlank (name.toList.dropWhile isBlank)
  change trim name.toList = keptLetters name ++ separators at htrim
  change name.toList.dropWhile isBlank = trim name.toList ++ after at hname
  refine ⟨name.toList.takeWhile isBlank, separators, after, ?_, ?_, hseparators, hafter⟩
  · rw [← List.append_assoc (keptLetters name), ← htrim, ← hname,
      List.takeWhile_append_dropWhile]
  · rintro rfl c hc
    rw [List.append_nil] at htrim
    rw [← htrim] at hc
    exact Text.eq_false_of_mem_getLast?_dropEndWhile hc

/-- What is kept of a name that hides a blank ends with the blank. -/
theorem keptLetters_of_hidden {front separators after : List Char} {blank : Char}
    (h : name.toList = front ++ blank :: (separators ++ after))
    (visible : ∃ c ∈ front, isBlank c = false) (hblank : isBlank blank = true)
    (hne : separators ≠ []) (hseparators : ∀ c ∈ separators, isSeparator c = true)
    (hafter : ∀ c ∈ after, isBlank c = true) :
    keptLetters name = front.dropWhile isBlank ++ [blank] := by
  have starts : front.dropWhile isBlank ≠ [] := by
    obtain ⟨c, hc, hvisible⟩ := visible
    exact fun hnil => absurd (List.dropWhile_eq_nil_iff.mp hnil c hc) (by simp [hvisible])
  -- The blanks behind the separators go, down to the last separator.
  have trimmed : trim name.toList = front.dropWhile isBlank ++ blank :: separators := by
    obtain ⟨others, last, rfl⟩ := separators.eq_nil_or_concat.resolve_left hne
    have stays : isBlank last = false :=
      isBlank_eq_false_of_isSeparator (hseparators last (by simp))
    rw [trim, h, List.dropWhile_append, if_neg (by simpa using starts)]
    simpa using Text.dropEndWhile_append (front.dropWhile isBlank ++ blank :: others) stays
      hafter
  -- The separators go, down to the blank.
  have stays : isSeparator blank = false :=
    Bool.eq_false_iff.mpr fun hs => by simp [isBlank_eq_false_of_isSeparator hs] at hblank
  rw [keptLetters, trimmed, Text.dropEndWhile_append _ stays hseparators]

/-- The last letter that is kept is a blank exactly if the name hides one. -/
theorem hidesBlank_iff :
    HidesBlank name ↔ ∃ c ∈ (keptLetters name).getLast?, isBlank c = true := by
  constructor
  · rintro ⟨front, blank, separators, after, h, visible, hblank, hne, hseparators, hafter⟩
    refine ⟨blank, ?_, hblank⟩
    simp [keptLetters_of_hidden h visible hblank hne hseparators hafter]
  · rintro ⟨blank, hlast, hblank⟩
    obtain ⟨before, separators, after, hname, unhidden, hseparators, hafter⟩ := exists_parts name
    obtain ⟨front, kept⟩ := List.getLast?_eq_some_iff.mp hlast
    refine ⟨before ++ front, blank, separators, after, ?_, ?_, hblank, ?_, hseparators, hafter⟩
    · rw [hname, kept, List.append_assoc, List.append_assoc, List.singleton_append]
    · -- What is kept does not start with a blank, so the blank is not all of it.
      have starts : ∀ c ∈ (front ++ [blank]).head?, isBlank c = false := fun c hc =>
        head?_keptLetters (by rwa [kept])
      cases front with
      | nil => exact absurd (starts blank rfl) (by simp [hblank])
      | cons c front => exact ⟨c, by simp, starts c rfl⟩
    · intro hnil
      exact absurd (unhidden hnil blank hlast) (by simp [hblank])

/-! ## Internal form -/

theorem dot_not_mem_map_slashed (letters : List Char) : '.' ∉ letters.map slashed := by
  intro dot
  obtain ⟨c, -, hc⟩ := List.mem_map.mp dot
  exact slashed_ne_dot c hc

theorem map_slashed_eq_self_iff {letters : List Char} :
    letters.map slashed = letters ↔ '.' ∉ letters := by
  constructor
  · intro h
    rw [← h]
    exact dot_not_mem_map_slashed letters
  · intro dotless
    have unchanged : ∀ c ∈ letters, slashed c = id c := fun c hc =>
      if_neg (by rintro rfl; exact dotless hc)
    rw [List.map_congr_left unchanged, List.map_id]

/-- **The names in internal form are those that are left as they are.** -/
theorem internalName_eq_self_iff : internalName name = name ↔ IsInternal name := by
  rw [← String.toList_inj, toList_internalName]
  constructor
  · intro h
    -- As many letters are kept as there are.
    have all : keptLetters name = name.toList :=
      (keptLetters_sublist name).eq_of_length (by rw [← h, List.length_map])
    obtain ⟨starts, ends⟩ := keptLetters_eq_toList_iff.mp all
    rw [all] at h
    exact ⟨map_slashed_eq_self_iff.mp h, starts, ends⟩
  · intro h
    rw [keptLetters_eq_toList_iff.mpr ⟨h.starts, h.ends⟩]
    exact map_slashed_eq_self_iff.mpr h.dotless

theorem dotless_internalName (name : String) : '.' ∉ (internalName name).toList := by
  rw [toList_internalName]
  exact dot_not_mem_map_slashed _

/-- **The steps give a name in internal form, unless the name hides a blank.** -/
theorem isInternal_internalName_iff : IsInternal (internalName name) ↔ ¬ HidesBlank name := by
  rw [hidesBlank_iff]
  constructor
  · rintro h ⟨c, hc, hblank⟩
    have := (h.ends (slashed c) (by simpa [toList_internalName] using ⟨c, hc, rfl⟩)).1
    rw [isBlank_slashed, hblank] at this
    cases this
  · intro h
    refine ⟨dotless_internalName name, ?_, ?_⟩
    · rw [toList_internalName, List.head?_map]
      intro c hc
      obtain ⟨d, hd, rfl⟩ := Option.map_eq_some_iff.mp hc
      rw [isBlank_slashed, head?_keptLetters hd]
    · rw [toList_internalName, List.getLast?_map]
      intro c hc
      obtain ⟨d, hd, rfl⟩ := Option.map_eq_some_iff.mp hc
      rw [isBlank_slashed, isSeparator_slashed, getLast?_keptLetters hd]
      exact ⟨Bool.eq_false_iff.mpr fun hblank => h ⟨d, hd, hblank⟩, rfl⟩

/-- Two passes are as good as one for the names that do not hide a blank, and for no others. -/
theorem internalName_internalName_iff :
    internalName (internalName name) = internalName name ↔ ¬ HidesBlank name := by
  rw [internalName_eq_self_iff, isInternal_internalName_iff]

/-- A name without dots that is not in internal form gets shorter. -/
theorem length_internalName_lt (dotless : '.' ∉ name.toList) (h : ¬ IsInternal name) :
    (internalName name).toList.length < name.toList.length := by
  rw [toList_internalName, List.length_map]
  refine Nat.lt_of_le_of_ne (keptLetters_sublist name).length_le fun same => h ?_
  obtain ⟨starts, ends⟩ :=
    keptLetters_eq_toList_iff.mp ((keptLetters_sublist name).eq_of_length same)
  exact ⟨dotless, starts, ends⟩

end ApiSurface
