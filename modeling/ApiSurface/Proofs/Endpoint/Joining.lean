import ApiSurface.Proofs.Endpoint.Paths

/-!
# Joining paths

How a path is read does not depend on the number of slashes around its segments, and of all the
paths with the same segments one is in its only form. Joining gives this one for the segments of its
first part followed by those of its second. Hence it does not matter in which order three parts are
joined, and a path in its only form is left as it is when nothing is joined to it.

Main definitions: `HasSegments`. Main statements: `hasSegments_iff`, `NormalPath.toList_eq`,
`eq_joinPaths_iff`, `joinPaths_normal`.
-/
namespace ApiSurface

/-- A text is read as these segments, from left to right: none of them is empty or has a slash in
it, there are slashes between any two, and any number of slashes anywhere else. -/
inductive HasSegments : List Char → List (List Char) → Prop
  | none : HasSegments [] []
  | slash {text pieces} : HasSegments text pieces → HasSegments ('/' :: text) pieces
  | last {piece} : piece ≠ [] → '/' ∉ piece → HasSegments piece [piece]
  | segment {piece text pieces} : piece ≠ [] → '/' ∉ piece → HasSegments text pieces →
      HasSegments (piece ++ '/' :: text) (piece :: pieces)

/-! ## What a path is read as -/

/-- A text is read as those of its pieces that are not empty. -/
theorem HasSegments.filter_segments {text : List Char} {pieces : List (List Char)}
    (h : HasSegments text pieces) : (Text.segments '/' text).filter (! ·.isEmpty) = pieces := by
  induction h with
  | none => rfl
  | slash _ ih => simp [Text.segments, ih]
  | last hne hslash => simp [Text.segments_of_not_mem hslash, hne]
  | segment hne hslash _ ih =>
    simp [Text.segments_append, Text.segments_of_not_mem hslash, hne, ih]

/-- Joined pieces are read as those that are not empty. -/
theorem hasSegments_joinSegments {pieces : List (List Char)} (h : ∀ piece ∈ pieces, '/' ∉ piece) :
    HasSegments (Text.joinSegments '/' pieces) (pieces.filter (! ·.isEmpty)) := by
  induction pieces with
  | nil => exact .none
  | cons first rest ih =>
    have hfirst : '/' ∉ first := h first List.mem_cons_self
    have hrest := ih fun piece hp => h piece (List.mem_cons_of_mem _ hp)
    cases rest with
    | nil =>
      by_cases hempty : first = []
      · subst hempty
        exact .none
      · simpa [Text.joinSegments, hempty] using HasSegments.last hempty hfirst
    | cons next others =>
      rw [Text.joinSegments_cons_cons]
      by_cases hempty : first = []
      · subst hempty
        exact .slash hrest
      · rw [List.filter_cons_of_pos (by simpa using hempty)]
        exact .segment hempty hfirst hrest

/-- **A path is read as its segments, and in no other way.** -/
theorem hasSegments_iff {path : String} {pieces : List (List Char)} :
    HasSegments path.toList pieces ↔ pieces = pathSegments path := by
  constructor
  · intro h
    exact h.filter_segments.symm
  · rintro rfl
    have slashless : ∀ piece ∈ Text.segments '/' path.toList, '/' ∉ piece := fun _ hp =>
      Text.not_mem_of_mem_segments hp
    have h := hasSegments_joinSegments slashless
    rwa [Text.joinSegments_segments] at h

/-! ## The path of given segments -/

theorem toList_joinPaths (base path : String) :
    (joinPaths base path).toList =
      '/' :: Text.joinSegments '/' (pathSegments base ++ pathSegments path) := by
  rw [joinPaths, String.toList_ofList]

theorem pathSegments_of_toList {path : String} {rest : List Char} (h : path.toList = '/' :: rest) :
    pathSegments path = (Text.segments '/' rest).filter (! ·.isEmpty) := by
  simp [pathSegments, h, Text.segments]

/-- Joined paths have the segments of the first path followed by those of the second. -/
@[simp] theorem pathSegments_joinPaths (base path : String) :
    pathSegments (joinPaths base path) = pathSegments base ++ pathSegments path := by
  have hpieces := (areSegments_pathSegments base).append (areSegments_pathSegments path)
  rw [pathSegments_of_toList (toList_joinPaths base path)]
  by_cases hnone : pathSegments base ++ pathSegments path = []
  · rw [hnone]
    rfl
  · rw [Text.segments_joinSegments hnone fun piece hp => (hpieces piece hp).2,
      List.filter_eq_self]
    intro piece hp
    simpa using (hpieces piece hp).1

/-- A path in its only form is a slash and its segments, joined. -/
theorem NormalPath.toList_eq {path : String} (h : NormalPath path) :
    path.toList = '/' :: Text.joinSegments '/' (pathSegments path) := by
  obtain ⟨rest, hrest⟩ := List.head?_eq_some_iff.mp h.starts
  rw [pathSegments_of_toList hrest, hrest]
  by_cases hnone : rest = []
  · subst hnone
    rfl
  · -- An empty piece stands before the end, where it makes a slash the last letter, or between two
    -- slashes.
    have filled : ∀ piece ∈ Text.segments '/' rest, (! piece.isEmpty) = true := by
      intro piece hpiece
      by_contra hempty
      obtain rfl : piece = [] := by simpa using hempty
      obtain ⟨before, after, hs⟩ := List.append_of_mem hpiece
      have hpath : path.toList = Text.joinSegments '/' (([] :: before) ++ [] :: after) := by
        rw [hrest, ← Text.joinSegments_segments '/' ('/' :: rest), Text.segments, if_pos rfl, hs]
        rfl
      rw [Text.joinSegments_append '/' (List.cons_ne_nil _ _) (List.cons_ne_nil _ _)] at hpath
      cases after with
      | nil =>
        have hlast : path.toList.getLast? = some '/' := by simp [hpath, Text.joinSegments]
        rw [h.ends hlast] at hrest
        exact hnone (List.cons.inj hrest).2.symm
      | cons next others =>
        refine h.filled ⟨Text.joinSegments '/' ([] :: before),
          Text.joinSegments '/' (next :: others), ?_⟩
        rw [hpath, Text.joinSegments_cons_cons]
        simp
    rw [List.filter_eq_self.mpr filled, Text.joinSegments_segments]

/-- **Joining gives the only path in its only form that has the segments of both parts.** -/
theorem eq_joinPaths_iff {path a b : String} :
    path = joinPaths a b ↔
      NormalPath path ∧ pathSegments path = pathSegments a ++ pathSegments b := by
  constructor
  · rintro rfl
    exact ⟨normalPath_joinPaths a b, pathSegments_joinPaths a b⟩
  · rintro ⟨hnormal, hpieces⟩
    rw [← String.toList_inj, hnormal.toList_eq, hpieces, toList_joinPaths]

/-- The paths in their only form are those that are left as they are when nothing is joined to
them. -/
theorem joinPaths_empty_eq_iff {path : String} : joinPaths path "" = path ↔ NormalPath path := by
  have hnothing : pathSegments path = pathSegments path ++ pathSegments "" :=
    (List.append_nil _).symm
  rw [eq_comm, eq_joinPaths_iff, and_iff_left hnothing]

/-- **Joined paths are in normal form.** A joined path is read as the segments of its first part
followed by those of its second, and it is the only path in its only form that is read so. Joining
is associative, and joining nothing to a joined path does not change it. -/
theorem joinPaths_normal (a b c : String) :
    (∃ front back, (∀ pieces, HasSegments a.toList pieces ↔ pieces = front) ∧
      (∀ pieces, HasSegments b.toList pieces ↔ pieces = back) ∧
      (∀ pieces, HasSegments (joinPaths a b).toList pieces ↔ pieces = front ++ back) ∧
      ∀ path, NormalPath path ∧ HasSegments path.toList (front ++ back) ↔
        path = joinPaths a b) ∧
    NormalPath (joinPaths a b) ∧
    joinPaths (joinPaths a b) c = joinPaths a (joinPaths b c) ∧
    joinPaths (joinPaths a b) "" = joinPaths a b := by
  refine ⟨⟨pathSegments a, pathSegments b, ?_, ?_, ?_, ?_⟩, normalPath_joinPaths a b, ?_, ?_⟩
  · exact fun pieces => hasSegments_iff
  · exact fun pieces => hasSegments_iff
  · intro pieces
    rw [hasSegments_iff, pathSegments_joinPaths]
  · intro path
    rw [hasSegments_iff, eq_joinPaths_iff, eq_comm (a := pathSegments a ++ pathSegments b)]
  · refine eq_joinPaths_iff.mpr ⟨normalPath_joinPaths _ c, ?_⟩
    simp only [pathSegments_joinPaths, List.append_assoc]
  · exact joinPaths_empty_eq_iff.mpr (normalPath_joinPaths a b)

example : joinPaths "//a/" "/b//" = "/a/b" := by cbv

end ApiSurface
