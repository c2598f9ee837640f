import ApiSurface.Endpoint.Parameters
import Mathlib.Data.List.Perm.Basic

/-!
# Annotations of parameters that are refused

The annotations of a parameter are gone through up to the first that says where the parameter comes
from. What stands behind it is not looked at, so an unknown annotation is refused only if nothing
but validation is asked for before it. Whether a parameter is refused may hang on the order of its
annotations: it does if one of them is unknown and another one names a source.

Main definitions: `sourceTypes`, `validTypes`, `IsUnknown`, `Offends`, `Refused`. Main statements:
`inputSource_eq_error`, `inputSource_refuses`, `inputSource_passed_over`.
-/
namespace ApiSurface.Endpoint

/-- Types of the annotations that say which part of a request holds a parameter. -/
def sourceTypes : List String :=
  ["PathVariable", "RequestParam", "RequestPart", "RequestBody"].map bindingType

/-- Types of the annotation that asks for a parameter to be validated. -/
def validTypes : List String := ["Ljakarta/validation/Valid;", "Ljavax/validation/Valid;"]

/-- The annotation has no meaning for a parameter. -/
def IsUnknown (a : Annotation) : Prop := a.type ∉ sourceTypes ∧ a.type ∉ validTypes

instance : DecidablePred IsUnknown := fun a =>
  inferInstanceAs (Decidable (a.type ∉ sourceTypes ∧ a.type ∉ validTypes))

/-- The annotation is the first that does not ask for validation, and it is unknown. -/
def Offends (annotations : List Annotation) (a : Annotation) : Prop :=
  ∃ valid others, annotations = valid ++ a :: others ∧ (∀ b ∈ valid, b.type ∈ validTypes) ∧
    IsUnknown a

/-- A parameter with these annotations is refused. -/
def Refused (location : String) (annotations : List Annotation) : Prop :=
  ∃ fault, inputSource location annotations = .error fault

variable {location : String} {annotations : List Annotation} {a : Annotation}

/-! ## The first annotation -/

theorem mem_sourceTypes {type : String} :
    type ∈ sourceTypes ↔ type = bindingType "PathVariable" ∨ type = bindingType "RequestParam" ∨
      type = bindingType "RequestPart" ∨ type = bindingType "RequestBody" := by
  simp [sourceTypes]

theorem mem_validTypes {type : String} :
    type ∈ validTypes ↔ type = "Ljakarta/validation/Valid;" ∨ type = "Ljavax/validation/Valid;" :=
  List.mem_pair

theorem not_mem_sourceTypes : ∀ type ∈ validTypes, type ∉ sourceTypes := by decide +kernel

/-- What does not name a source is either validation or unknown. -/
theorem parameterMark?_sourceless {type : String} (h : type ∉ sourceTypes) :
    parameterMark? type = if type ∈ validTypes then some .neutral else none := by
  rw [mem_sourceTypes, not_or, not_or, not_or] at h
  obtain ⟨hpath, hparam, hpart, hbody⟩ := h
  rw [parameterMark?, if_neg hpath, if_neg (not_or.mpr ⟨hparam, hpart⟩), if_neg hbody]
  simp only [mem_validTypes]

/-- Validation is passed over. -/
theorem inputSource_valid (others : List Annotation) (h : a.type ∈ validTypes) :
    inputSource location (a :: others) = inputSource location others := by
  rw [inputSource, parameterMark?_sourceless (not_mem_sourceTypes a.type h), if_pos h]

/-- An annotation that names a source decides. -/
theorem inputSource_source (location : String) (others : List Annotation)
    (h : a.type ∈ sourceTypes) :
    ∃ source, inputSource location (a :: others) = .ok source := by
  rw [inputSource, parameterMark?]
  split_ifs with hpath hquery hbody hvalid
  · exact ⟨_, rfl⟩
  · exact ⟨_, rfl⟩
  · exact ⟨_, rfl⟩
  · exact absurd h (not_mem_sourceTypes _ (mem_validTypes.mpr hvalid))
  · rcases mem_sourceTypes.mp h with h | h | h | h
    · exact absurd h hpath
    · exact absurd (.inl h) hquery
    · exact absurd (.inr h) hquery
    · exact absurd h hbody

/-- An unknown annotation is refused. -/
theorem inputSource_unknown (others : List Annotation) (h : IsUnknown a) :
    inputSource location (a :: others) =
      .error (.unrecognized (.unknownBinding a.type) location) := by
  rw [inputSource, parameterMark?_sourceless h.1, if_neg h.2]

/-! ## All annotations -/

/-- **A parameter is refused for the annotation that offends**, and the fault says which it is. -/
theorem inputSource_eq_error {fault : Fault} :
    inputSource location annotations = .error fault ↔
      ∃ a, Offends annotations a ∧ fault = .unrecognized (.unknownBinding a.type) location := by
  constructor
  · intro h
    induction annotations with
    | nil => cases h
    | cons a others ih =>
      by_cases hvalid : a.type ∈ validTypes
      · rw [inputSource_valid others hvalid] at h
        obtain ⟨b, ⟨valid, rest, rfl, allValid, unknown⟩, hfault⟩ := ih h
        refine ⟨b, ⟨a :: valid, rest, rfl, ?_, unknown⟩, hfault⟩
        exact List.forall_mem_cons.mpr ⟨hvalid, allValid⟩
      by_cases hsource : a.type ∈ sourceTypes
      · obtain ⟨source, hok⟩ := inputSource_source location others hsource
        rw [hok] at h
        cases h
      · have unknown : IsUnknown a := ⟨hsource, hvalid⟩
        rw [inputSource_unknown others unknown] at h
        exact ⟨a, ⟨[], others, rfl, by simp, unknown⟩, (Except.error.inj h).symm⟩
  · rintro ⟨a, ⟨valid, others, rfl, allValid, unknown⟩, rfl⟩
    induction valid with
    | nil => exact inputSource_unknown others unknown
    | cons b valid ih =>
      obtain ⟨hb, allValid⟩ := List.forall_mem_cons.mp allValid
      rw [List.cons_append, inputSource_valid _ hb, ih allValid]

theorem refused_iff : Refused location annotations ↔ ∃ a, Offends annotations a := by
  constructor
  · rintro ⟨fault, h⟩
    obtain ⟨a, offends, -⟩ := inputSource_eq_error.mp h
    exact ⟨a, offends⟩
  · rintro ⟨a, offends⟩
    exact ⟨_, inputSource_eq_error.mpr ⟨a, offends, rfl⟩⟩

/-- A source that comes first is all that is looked at. -/
theorem not_refused_of_source (others : List Annotation) (h : a.type ∈ sourceTypes) :
    ¬ Refused location (a :: others) := by
  rintro ⟨fault, hfault⟩
  obtain ⟨source, hok⟩ := inputSource_source location others h
  rw [hok] at hfault
  cases hfault

/-- Without a source among the annotations the first unknown one offends. -/
theorem exists_offends (sourceless : ∀ a ∈ annotations, a.type ∉ sourceTypes)
    (h : ∃ a ∈ annotations, IsUnknown a) : ∃ a, Offends annotations a := by
  obtain ⟨a, ha⟩ : ∃ a, annotations.find? (IsUnknown ·) = some a := by
    rw [← Option.isSome_iff_exists]
    simpa using h
  obtain ⟨unknown, valid, others, rfl, before⟩ := List.find?_eq_some_iff_append.mp ha
  refine ⟨a, valid, others, rfl, fun b hb => ?_, by simpa using unknown⟩
  by_contra hvalid
  have known := before b hb
  simp [IsUnknown, hvalid, sourceless b (List.mem_append_left _ hb)] at known

/-- **A parameter is refused for an unknown annotation that no source stands before.** The fault is
that of the first annotation that does not ask for validation, if that one is unknown. So some order
of the annotations is refused if there is an unknown one among them, and every order is only if
there is also none that names a source. -/
theorem inputSource_refuses (location : String) (annotations : List Annotation) :
    (∀ fault, inputSource location annotations = .error fault ↔
      ∃ a, Offends annotations a ∧ fault = .unrecognized (.unknownBinding a.type) location) ∧
    ((∃ order, order.Perm annotations ∧ Refused location order) ↔
      ∃ a ∈ annotations, IsUnknown a) ∧
    ((∀ order, order.Perm annotations → Refused location order) ↔
      (∃ a ∈ annotations, IsUnknown a) ∧ ∀ a ∈ annotations, a.type ∉ sourceTypes) := by
  have exists_unknown : ∀ order, order.Perm annotations → Refused location order →
      ∃ a ∈ annotations, IsUnknown a := by
    intro order perm refused
    obtain ⟨a, valid, others, rfl, -, unknown⟩ := refused_iff.mp refused
    exact ⟨a, perm.mem_iff.mp (List.mem_append_right _ List.mem_cons_self), unknown⟩
  refine ⟨fun fault => inputSource_eq_error, ⟨?_, ?_⟩, ⟨?_, ?_⟩⟩
  · rintro ⟨order, perm, refused⟩
    exact exists_unknown order perm refused
  · rintro ⟨a, ha, unknown⟩
    obtain ⟨before, after, rfl⟩ := List.append_of_mem ha
    exact ⟨a :: (before ++ after), List.perm_middle.symm, _, inputSource_unknown _ unknown⟩
  · intro refused
    refine ⟨exists_unknown annotations (.refl _) (refused annotations (.refl _)), ?_⟩
    intro a ha hsource
    -- The order with the source in front is not refused.
    obtain ⟨before, after, rfl⟩ := List.append_of_mem ha
    exact not_refused_of_source _ hsource (refused (a :: (before ++ after)) List.perm_middle.symm)
  · rintro ⟨⟨a, ha, unknown⟩, sourceless⟩ order perm
    refine refused_iff.mpr (exists_offends ?_ ⟨a, perm.mem_iff.mpr ha, unknown⟩)
    intro b hb
    exact sourceless b (perm.mem_iff.mp hb)

/-- An annotation that names a source, and nothing else. -/
def namedSource : Annotation := ⟨bindingType "RequestParam", []⟩

/-- An annotation that has no meaning for a parameter. -/
def headerMark : Annotation := ⟨bindingType "RequestHeader", []⟩

/-- **An unknown annotation behind a source is passed over.** In the other order the same two
annotations are refused. -/
theorem inputSource_passed_over :
    IsUnknown headerMark ∧
      ¬ Refused "p/Shelf#find" [namedSource, headerMark] ∧
      Refused "p/Shelf#find" [headerMark, namedSource] := by
  have unknown : IsUnknown headerMark := by decide +kernel
  exact ⟨unknown, not_refused_of_source _ (by decide +kernel), _, inputSource_unknown _ unknown⟩

end ApiSurface.Endpoint
