import ApiSurface.Endpoint.Extraction
import ApiSurface.Proofs.Text.Segments
import Mathlib.Data.List.Chain

/-!
# Paths of requests and of mappings

A joined path has the segments of both its parts and no others: it starts with a slash, no two
slashes are adjacent in it, and it ends with one only if it has no segments.

The paths of a mapping are the texts in one of its elements. A text stands at a position, which is
an index for each array around it, and the texts are listed in the order of their positions.

Main definitions: `NormalPath`, `Element.at?`, `Element.Lists`, `Annotation.DeclaresPaths`. Main
statements: `normalPath_joinPaths`, `Element.lists_strings`, `Element.Lists.unique`,
`Endpoint.declaresPaths_mappingPaths`.
-/
namespace ApiSurface

/-! ## Segments -/

/-- The pieces stand between slashes: none of them is empty or has a slash in it. -/
def AreSegments (pieces : List (List Char)) : Prop := ∀ piece ∈ pieces, piece ≠ [] ∧ '/' ∉ piece

theorem areSegments_pathSegments (path : String) : AreSegments (pathSegments path) := by
  intro piece h
  obtain ⟨hpiece, hne⟩ := List.mem_filter.mp h
  exact ⟨by simpa using hne, Text.not_mem_of_mem_segments hpiece⟩

theorem AreSegments.append {pieces others : List (List Char)} (h : AreSegments pieces)
    (h' : AreSegments others) : AreSegments (pieces ++ others) :=
  fun piece hp => (List.mem_append.mp hp).elim (h piece) (h' piece)

/-- Two characters are not both slashes. -/
def Apart (a b : Char) : Prop := ¬ (a = '/' ∧ b = '/')

/-- No two slashes are adjacent in a piece with anything behind it that they are not adjacent in. -/
theorem isChain_piece_append {piece rest : List Char} (h : '/' ∉ piece)
    (hrest : rest.IsChain Apart) : (piece ++ rest).IsChain Apart := by
  induction piece with
  | nil => exact hrest
  | cons c piece ih =>
    rw [List.mem_cons, not_or] at h
    rw [List.cons_append, List.isChain_cons]
    exact ⟨fun d _ heq => h.1 heq.1.symm, ih h.2⟩

/-- No two slashes are adjacent in joined segments with a slash before them. -/
theorem isChain_joinSegments {pieces : List (List Char)} (h : AreSegments pieces) :
    ('/' :: Text.joinSegments '/' pieces).IsChain Apart := by
  induction pieces with
  | nil => exact List.isChain_singleton _
  | cons piece others ih =>
    obtain ⟨hne, hslash⟩ := h piece List.mem_cons_self
    have hothers := ih fun other ho => h other (List.mem_cons_of_mem _ ho)
    obtain ⟨c, cs, rfl⟩ := List.exists_cons_of_ne_nil hne
    have hc : c ≠ '/' := fun heq => hslash (heq ▸ List.mem_cons_self)
    have hbody : (Text.joinSegments '/' ((c :: cs) :: others)).IsChain Apart := by
      cases others with
      | nil => simpa [Text.joinSegments] using isChain_piece_append hslash List.isChain_nil
      | cons next others =>
        rw [Text.joinSegments_cons_cons]
        exact isChain_piece_append hslash hothers
    rw [List.isChain_cons]
    refine ⟨fun d hd heq => hc ?_, hbody⟩
    cases others <;> simp_all [Text.joinSegments]

/-- Joined segments do not end with a slash. -/
theorem getLast?_joinSegments {pieces : List (List Char)} (h : AreSegments pieces)
    (hne : pieces ≠ []) : ∃ c, c ≠ '/' ∧ (Text.joinSegments '/' pieces).getLast? = some c := by
  induction pieces with
  | nil => exact absurd rfl hne
  | cons piece others ih =>
    cases others with
    | nil =>
      obtain ⟨hpiece, hslash⟩ := h piece List.mem_cons_self
      refine ⟨piece.getLast hpiece, ?_, List.getLast?_eq_getLast_of_ne_nil hpiece⟩
      exact fun heq => hslash (heq ▸ List.getLast_mem hpiece)
    | cons next others =>
      obtain ⟨c, hc, hlast⟩ := ih (fun other ho => h other (List.mem_cons_of_mem _ ho))
        (List.cons_ne_nil _ _)
      refine ⟨c, hc, ?_⟩
      rw [Text.joinSegments_cons_cons, List.getLast?_append, List.getLast?_cons, hlast]
      rfl

/-- A path of a request in its only form. -/
structure NormalPath (path : String) : Prop where
  starts : path.toList.head? = some '/'
  /-- No segment is empty. -/
  filled : ¬ ['/', '/'] <:+: path.toList
  ends : path.toList.getLast? = some '/' → path = "/"

/-- **Joining gives a path in its only form.** -/
theorem normalPath_joinPaths (base path : String) : NormalPath (joinPaths base path) := by
  have hsegments := (areSegments_pathSegments base).append (areSegments_pathSegments path)
  have htext : (joinPaths base path).toList =
      '/' :: Text.joinSegments '/' (pathSegments base ++ pathSegments path) := by
    simp [joinPaths]
  constructor
  case starts => rw [htext, List.head?_cons]
  case filled =>
    rw [htext]
    rintro ⟨before, after, hslashes⟩
    have hchain := isChain_joinSegments hsegments
    rw [← hslashes, List.append_assoc] at hchain
    have hpair := hchain.right_of_append.left_of_append
    rw [List.isChain_pair] at hpair
    exact hpair ⟨rfl, rfl⟩
  case ends =>
    rw [htext]
    intro hlast
    by_cases hnone : pathSegments base ++ pathSegments path = []
    · rw [joinPaths, hnone]
      rfl
    · obtain ⟨c, hc, hend⟩ := getLast?_joinSegments hsegments hnone
      rw [List.getLast?_cons, hend] at hlast
      exact absurd (Option.some.inj hlast) hc

/-! ## Texts in elements -/

namespace Element

/-- The value at a position: an index for each array on the way to it. -/
def at? : List Nat → Element → Option Element
  | [], e => some e
  | i :: position, .array values => values[i]?.bind (at? position)
  | _ :: _, _ => none

/-- These are the texts of an element: the strings at any depth of its arrays, from left to
right. -/
def Lists (e : Element) (texts : List String) : Prop :=
  ∃ placed : List (List Nat × String),
    placed.Pairwise (fun a b => a.1 < b.1) ∧
    (∀ position text, (position, text) ∈ placed ↔
      e.at? position = some (.constant (.string text))) ∧
    placed.map (·.2) = texts

mutual

/-- The strings in an element with their positions. -/
def placed : Element → List (List Nat × String)
  | .constant (.string text) => [([], text)]
  | .array values => placedFrom 0 values
  | _ => []

/-- The strings in values of an array with their positions, if the first value has this index. -/
def placedFrom (i : Nat) : List Element → List (List Nat × String)
  | [] => []
  | value :: values =>
    (value.placed.map fun (position, text) => (i :: position, text)) ++ placedFrom (i + 1) values

end

mutual

theorem map_snd_placed (e : Element) : e.placed.map (·.2) = e.strings := by
  match e with
  | .constant c => cases c <;> rfl
  | .array values =>
    rw [placed, strings]
    exact map_snd_placedFrom 0 values
  | .enumConstant .. | .classRef .. | .nested .. => rfl

theorem map_snd_placedFrom (i : Nat) (values : List Element) :
    (placedFrom i values).map (·.2) = stringsOf values := by
  match values with
  | [] => rfl
  | value :: values =>
    rw [placedFrom, stringsOf, List.map_append, map_snd_placedFrom (i + 1) values,
      ← map_snd_placed value, List.map_map]
    rfl

end

variable {position : List Nat} {text : String}

mutual

/-- The strings of an element are those that stand at the positions. -/
theorem mem_placed (e : Element) (position : List Nat) :
    (position, text) ∈ e.placed ↔ e.at? position = some (.constant (.string text)) := by
  match e with
  | .constant c => cases c <;> cases position <;> simp [placed, at?, eq_comm]
  | .array values =>
    rw [placed, mem_placedFrom 0 values]
    cases position <;> simp [at?]
  | .enumConstant .. | .classRef .. | .nested .. => cases position <;> simp [placed, at?]

theorem mem_placedFrom (i : Nat) (values : List Element) (position : List Nat) :
    (position, text) ∈ placedFrom i values ↔
      ∃ j rest, position = (i + j) :: rest ∧
        values[j]?.bind (at? rest) = some (.constant (.string text)) := by
  match values with
  | [] => simp [placedFrom]
  | value :: values =>
    rw [placedFrom, List.mem_append, mem_placedFrom (i + 1) values]
    constructor
    · rintro (h | ⟨j, rest, rfl, h⟩)
      · obtain ⟨⟨rest, own⟩, hmem, heq⟩ := List.mem_map.mp h
        cases heq
        exact ⟨0, rest, rfl, (mem_placed value rest).mp hmem⟩
      · exact ⟨j + 1, rest, by rw [Nat.add_right_comm, Nat.add_assoc], h⟩
    · rintro ⟨j, rest, rfl, h⟩
      cases j with
      | zero => exact .inl (List.mem_map.mpr ⟨(rest, text), (mem_placed value rest).mpr h, rfl⟩)
      | succ j => exact .inr ⟨j, rest, by rw [Nat.add_right_comm, Nat.add_assoc], h⟩

end

mutual

/-- The positions of strings ascend. -/
theorem pairwise_placed (e : Element) : e.placed.Pairwise fun a b => a.1 < b.1 := by
  match e with
  | .constant c => cases c <;> simp [placed]
  | .array values =>
    rw [placed]
    exact pairwise_placedFrom 0 values
  | .enumConstant .. | .classRef .. | .nested .. => simp [placed]

theorem pairwise_placedFrom (i : Nat) (values : List Element) :
    (placedFrom i values).Pairwise fun a b => a.1 < b.1 := by
  match values with
  | [] => exact .nil
  | value :: values =>
    rw [placedFrom, List.pairwise_append]
    refine ⟨?_, pairwise_placedFrom (i + 1) values, ?_⟩
    · rw [List.pairwise_map]
      exact (pairwise_placed value).imp fun h => List.cons_lt_cons_iff.mpr (.inr ⟨rfl, h⟩)
    · -- A position in the first value starts with a smaller index than one in the others.
      rintro ⟨first, own⟩ hfirst ⟨later, other⟩ hlater
      obtain ⟨⟨rest, _⟩, -, heq⟩ := List.mem_map.mp hfirst
      obtain ⟨j, deeper, rfl, -⟩ := (mem_placedFrom (i + 1) values later).mp hlater
      cases heq
      exact List.cons_lt_cons_iff.mpr (.inl (by omega))

end

/-- **The strings of an element are the texts at its positions, in their order.** -/
theorem lists_strings (e : Element) : e.Lists e.strings :=
  ⟨e.placed, pairwise_placed e, fun position _ => mem_placed e position, map_snd_placed e⟩

/-- An element has one list of texts. -/
theorem Lists.unique {e : Element} {texts others : List String} (h : e.Lists texts)
    (h' : e.Lists others) : texts = others := by
  obtain ⟨placed, ascending, hmem, rfl⟩ := h
  obtain ⟨placed', ascending', hmem', rfl⟩ := h'
  have hnodup {l : List (List Nat × String)} (h : l.Pairwise fun a b => a.1 < b.1) : l.Nodup := by
    refine h.imp ?_
    rintro a _ hlt rfl
    exact List.lt_irrefl _ hlt
  have hperm : placed.Perm placed' :=
    (List.perm_ext_iff_of_nodup (hnodup ascending) (hnodup ascending')).mpr fun ⟨position, text⟩ =>
      (hmem position text).trans (hmem' position text).symm
  have hplaced : placed = placed' :=
    hperm.eq_of_pairwise (fun _ _ _ _ hlt hgt => absurd hgt (List.lt_asymm hlt)) ascending
      ascending'
  rw [hplaced]

end Element

/-! ## Paths of a mapping -/

/-- The first element of a name. -/
def Annotation.element? (a : Annotation) (name : String) : Option Element :=
  (a.values.find? (·.1 = name)).map (·.2)

/-- These are the paths that a mapping declares: the texts of its element `value`, or of `path` if
there is no `value`, and the empty path if there are none. -/
def Annotation.DeclaresPaths (a : Annotation) (paths : List String) : Prop :=
  ∃ texts, (∀ e, (a.element? "value").or (a.element? "path") = some e → e.Lists texts) ∧
    ((a.element? "value").or (a.element? "path") = none → texts = []) ∧
    paths = if texts = [] then [""] else texts

theorem Annotation.value?_eq_or (a : Annotation) (first second : String) :
    a.value? [first, second] = (a.element? first).or (a.element? second) := by
  change [first, second].findSome? a.element? = _
  rw [List.findSome?_cons, List.findSome?_cons, List.findSome?_nil]
  cases a.element? first <;> cases a.element? second <;> rfl

/-- **The paths of a mapping are those that it declares.** -/
theorem Endpoint.declaresPaths_mappingPaths (a : Annotation) :
    a.DeclaresPaths (mappingPaths a) := by
  unfold mappingPaths
  rw [a.value?_eq_or]
  cases h : (a.element? "value").or (a.element? "path") with
  | none => exact ⟨[], by simp [h]⟩
  | some e =>
    refine ⟨e.strings, ?_, by simp [h], by simp⟩
    rw [h]
    rintro other ⟨⟩
    exact e.lists_strings

end ApiSurface
