import ApiSurface.Text.Segments
import Mathlib.Data.List.TakeWhile

/-!
# Cutting and joining

A text is cut into its segments part by part: a separator between two texts has the segments of the
one before it and those of the other behind it. Joining pieces without separators and cutting the
result gives the pieces. Joining puts a separator between any two groups of pieces, so the first few
segments of a text are the text or all of it up to some separator.

Main statements: `segments_append`, `segments_joinSegments`, `joinSegments_append`,
`joinSegments_take`.
-/
namespace ApiSurface.Text

variable {separator : Char} {text : List Char} {pieces others : List (List Char)}

/-- A piece of a text has no separators in it. -/
theorem not_mem_of_mem_segments {piece : List Char} (h : piece ∈ segments separator text) :
    separator ∉ piece := by
  induction text generalizing piece with
  | nil => simp_all [segments]
  | cons c rest ih =>
    unfold segments at h
    split at h
    · rcases List.mem_cons.mp h with rfl | h
      · exact List.not_mem_nil
      · exact ih h
    · next hc =>
      cases hs : segments separator rest with
      | nil => exact absurd hs (segments_ne_nil separator rest)
      | cons first others =>
        rw [hs] at h ih
        rcases List.mem_cons.mp h with rfl | h
        · have hfirst := ih List.mem_cons_self
          exact fun hm => (List.mem_cons.mp hm).elim (fun heq => hc heq.symm) hfirst
        · exact ih (List.mem_cons_of_mem _ h)

theorem segments_of_not_mem (h : separator ∉ text) : segments separator text = [text] := by
  induction text with
  | nil => rfl
  | cons c rest ih =>
    rw [List.mem_cons, not_or] at h
    rw [segments, if_neg (Ne.symm h.1), ih h.2]

/-- The pieces of two texts with a separator between them. -/
theorem segments_append (separator : Char) (text rest : List Char) :
    segments separator (text ++ separator :: rest) =
      segments separator text ++ segments separator rest := by
  induction text with
  | nil => simp [segments]
  | cons c text ih =>
    rw [List.cons_append, segments, segments, ih]
    split
    · rfl
    · cases h : segments separator text with
      | nil => exact absurd h (segments_ne_nil separator text)
      | cons first others => rfl

theorem joinSegments_cons_cons (separator : Char) (piece next : List Char)
    (others : List (List Char)) :
    joinSegments separator (piece :: next :: others) =
      piece ++ separator :: joinSegments separator (next :: others) := rfl

/-- Pieces without separators are cut apart again where they were joined. -/
theorem segments_joinSegments (hne : pieces ≠ []) (h : ∀ piece ∈ pieces, separator ∉ piece) :
    segments separator (joinSegments separator pieces) = pieces := by
  induction pieces with
  | nil => exact absurd rfl hne
  | cons first rest ih =>
    have hfirst : segments separator first = [first] :=
      segments_of_not_mem (h first List.mem_cons_self)
    cases rest with
    | nil => exact hfirst
    | cons next others =>
      have hrest := ih (List.cons_ne_nil _ _) fun piece hp => h piece (List.mem_cons_of_mem _ hp)
      rw [joinSegments_cons_cons, segments_append, hfirst, hrest, List.singleton_append]

theorem segments_eq_singleton_nil (h : segments separator text = [[]]) : text = [] := by
  rw [← joinSegments_segments separator text, h]
  rfl

/-- Only what is nothing is joined to nothing. -/
theorem joinSegments_eq_nil (h : joinSegments separator pieces = []) :
    pieces = [] ∨ pieces = [[]] := by
  match pieces with
  | [] => exact .inl rfl
  | [_] => exact .inr (by rw [← h]; rfl)
  | _ :: _ :: _ => simp [joinSegments] at h

/-- Two groups of pieces are joined with a separator between them. -/
theorem joinSegments_append (separator : Char) (h : pieces ≠ []) (h' : others ≠ []) :
    joinSegments separator (pieces ++ others) =
      joinSegments separator pieces ++ separator :: joinSegments separator others := by
  induction pieces with
  | nil => exact absurd rfl h
  | cons first rest ih =>
    cases rest with
    | nil =>
      obtain ⟨next, others, rfl⟩ := List.exists_cons_of_ne_nil h'
      rfl
    | cons next rest =>
      simp only [List.cons_append, joinSegments] at ih ⊢
      rw [ih (List.cons_ne_nil _ _), List.append_assoc, List.cons_append]

/-- The first pieces make all of a joined text, or what stands before one of its separators. -/
theorem joinSegments_take (separator : Char) {n : Nat} (h : n ≠ 0)
    (pieces : List (List Char)) :
    joinSegments separator pieces = joinSegments separator (pieces.take n) ∨
      ∃ rest, joinSegments separator pieces =
        joinSegments separator (pieces.take n) ++ separator :: rest := by
  by_cases all : pieces.length ≤ n
  · exact .inl (by rw [List.take_of_length_le all])
  · refine .inr ⟨joinSegments separator (pieces.drop n), ?_⟩
    have left : pieces.take n ≠ [] := by
      rw [ne_eq, List.take_eq_nil_iff]
      rintro (rfl | rfl)
      · exact h rfl
      · exact all (Nat.zero_le n)
    have right : pieces.drop n ≠ [] := by simpa using all
    rw [← joinSegments_append separator left right, List.take_append_drop]

/-! ## Simple names -/

/-- A name that is what follows the last slash of another one; without slashes it is that one. -/
def IsSimpleName (simple name : String) : Prop :=
  '/' ∉ simple.toList ∧ (name = simple ∨ ∃ package, name = package ++ "/" ++ simple)

/-- Reading backwards does not stop in what has no slash. -/
theorem forall_mem_reverse_ne_slash {letters : List Char} (h : '/' ∉ letters) :
    ∀ c ∈ letters.reverse, decide (c ≠ '/') = true := by
  intro c hc
  refine decide_eq_true fun heq => h ?_
  rwa [← heq, ← List.mem_reverse]

theorem simpleName_of_not_mem {name : String} (h : '/' ∉ name.toList) : simpleName name = name := by
  rw [simpleName, List.takeWhile_eq_self_iff.mpr (forall_mem_reverse_ne_slash h),
    List.reverse_reverse, String.ofList_toList]

theorem simpleName_append {simple : String} (h : '/' ∉ simple.toList) (package : String) :
    simpleName (package ++ "/" ++ simple) = simple := by
  have written : (package ++ "/" ++ simple).toList.reverse =
      simple.toList.reverse ++ '/' :: package.toList.reverse := by simp
  rw [simpleName, written, List.takeWhile_append_of_pos (forall_mem_reverse_ne_slash h),
    List.takeWhile_cons_of_neg (by simp), List.append_nil, List.reverse_reverse,
    String.ofList_toList]

/-- A name has one simple name. -/
theorem isSimpleName_iff {simple name : String} :
    IsSimpleName simple name ↔ simple = simpleName name := by
  constructor
  · rintro ⟨slashless, rfl | ⟨package, rfl⟩⟩
    · rw [simpleName_of_not_mem slashless]
    · rw [simpleName_append slashless]
  · intro h
    subst h
    by_cases slash : '/' ∈ name.toList
    · obtain ⟨after, before, split, fresh⟩ :=
        List.eq_append_cons_of_mem (List.mem_reverse.mpr slash)
      have slashless : '/' ∉ (String.ofList after.reverse).toList := by simpa using fresh
      have written : name = String.ofList before.reverse ++ "/" ++ String.ofList after.reverse := by
        rw [← String.toList_inj, ← List.reverse_inj, split]
        simp
      rw [written, simpleName_append slashless]
      exact ⟨slashless, .inr ⟨_, rfl⟩⟩
    · rw [simpleName_of_not_mem slash]
      exact ⟨slash, .inl rfl⟩

end ApiSurface.Text
