import ApiSurface.Proofs.Markers.Idioms
import Mathlib.Data.List.Forall2

/-!
# Outcomes that are alike

A fault may list the instructions among which no idiom was found, each with its index in the body,
and indices count markers. Faults are alike if they are the same but for such indices, and
computations are alike if they give related results or end with faults that are alike, and leave
the same state behind.

Main definitions: `Fault.Alike`, `OutcomesAlike`, `RunsAlike`.
-/
namespace ApiSurface

/-- The text that lists instructions with their indices. -/
def Scan.listing (lines : List (Instruction × Nat)) : String :=
  "[\n" ++ String.join (lines.map fun (i, index) => Scan.line index i) ++ "]"

theorem Scan.dump_eq_listing (s : Scan) :
    s.dump = Scan.listing (s.range.zipIdx.filter fun (i, _) => ! i.isMarker) := rfl

/-- The faults are the same, or list the same instructions with other indices. -/
inductive Fault.Alike : Fault → Fault → Prop
  | same (fault : Fault) : Alike fault fault
  | listings (idiom location : String) {lines lines' : List (Instruction × Nat)}
      (h : lines.map (·.1) = lines'.map (·.1)) :
      Alike (.idiomNotMatched idiom location (Scan.listing lines))
        (.idiomNotMatched idiom location (Scan.listing lines'))

variable {α β γ δ σ : Type} {R : α → β → Prop} {S : γ → δ → Prop}

/-- The outcomes are related results, or faults that are alike. -/
inductive OutcomesAlike (R : α → β → Prop) : Except Fault α → Except Fault β → Prop
  | ok {a : α} {b : β} (h : R a b) : OutcomesAlike R (.ok a) (.ok b)
  | error {fault fault' : Fault} (h : fault.Alike fault') :
      OutcomesAlike R (.error fault) (.error fault')

namespace OutcomesAlike

theorem refl (x : Except Fault α) : OutcomesAlike Eq x x := by
  cases x with
  | ok a => exact .ok rfl
  | error fault => exact .error (.same fault)

/-- Outcomes that a map makes the same are alike. -/
theorem of_map {x : Except Fault α} {y : Except Fault β} {f : α → γ} {g : β → γ}
    (h : x.map f = y.map g) : OutcomesAlike (fun a b => f a = g b) x y := by
  cases x with
  | error fault =>
    cases y with
    | error fault' =>
      cases h
      exact .error (.same fault)
    | ok b => cases h
  | ok a =>
    cases y with
    | error fault' => cases h
    | ok b => exact .ok (Except.ok.inj h)

theorem imp {x : Except Fault α} {y : Except Fault β} {R' : α → β → Prop}
    (h : OutcomesAlike R x y) (himp : ∀ a b, R a b → R' a b) : OutcomesAlike R' x y := by
  cases h with
  | ok h => exact .ok (himp _ _ h)
  | error h => exact .error h

/-- Results that are related are those of the outcomes. -/
theorem with_eq {x : Except Fault α} {y : Except Fault β} (h : OutcomesAlike R x y) :
    OutcomesAlike (fun a b => R a b ∧ x = .ok a ∧ y = .ok b) x y := by
  cases h with
  | ok h => exact .ok ⟨h, rfl, rfl⟩
  | error h => exact .error h

/-- Sequences are alike if both parts are. -/
theorem bind {x : Except Fault α} {y : Except Fault β} {f : α → Except Fault γ}
    {g : β → Except Fault δ} (h : OutcomesAlike R x y)
    (hf : ∀ a b, R a b → OutcomesAlike S (f a) (g b)) : OutcomesAlike S (x >>= f) (y >>= g) := by
  cases h with
  | ok h => exact hf _ _ h
  | error h => exact .error h

end OutcomesAlike

/-- The runs end with outcomes that are alike and leave the same state behind. -/
structure RunsAlike (R : α → β → Prop) (r : Except Fault α × σ) (r' : Except Fault β × σ) :
    Prop where
  outcome : OutcomesAlike R r.1 r'.1
  state : r.2 = r'.2

namespace RunsAlike

theorem refl (r : Except Fault α × σ) : RunsAlike Eq r r := ⟨.refl r.1, rfl⟩

/-- Runs that go on alike are alike. -/
theorem proceed {r : Except Fault α × σ} {r' : Except Fault β × σ}
    {f : α → σ → Except Fault γ × σ} {g : β → σ → Except Fault δ × σ} (h : RunsAlike R r r')
    (hf : ∀ a b s, R a b → RunsAlike S (f a s) (g b s)) :
    RunsAlike S (ApiSurface.proceed r f) (ApiSurface.proceed r' g) := by
  obtain ⟨outcome, s⟩ := r
  obtain ⟨outcome', s'⟩ := r'
  obtain ⟨houtcome, rfl⟩ := h
  cases houtcome with
  | ok h => exact hf _ _ _ h
  | error h => exact ⟨.error h, rfl⟩

end RunsAlike

/-- The computations run alike from every state. -/
def ComputationsAlike (R : α → β → Prop) (x : ExceptT Fault (StateM σ) α)
    (y : ExceptT Fault (StateM σ) β) : Prop :=
  ∀ s, RunsAlike R (runFrom x s) (runFrom y s)

namespace ComputationsAlike

theorem refl (x : ExceptT Fault (StateM σ) α) : ComputationsAlike Eq x x := fun _ => .refl _

/-- Computations that go on alike are alike. -/
theorem bind {x : ExceptT Fault (StateM σ) α} {y : ExceptT Fault (StateM σ) β}
    {f : α → ExceptT Fault (StateM σ) γ} {g : β → ExceptT Fault (StateM σ) δ}
    (h : ComputationsAlike R x y) (hf : ∀ a b, R a b → ComputationsAlike S (f a) (g b)) :
    ComputationsAlike S (x >>= f) (y >>= g) := by
  intro s
  rw [runFrom_bind, runFrom_bind]
  exact (h s).proceed fun a b s' hab => hf a b hab s'

/-- Computations that go on alike from the same result are alike. -/
theorem bind_eq {x y : ExceptT Fault (StateM σ) α} {f g : α → ExceptT Fault (StateM σ) γ}
    (h : ComputationsAlike Eq x y) (hf : ∀ a, ComputationsAlike Eq (f a) (g a)) :
    ComputationsAlike Eq (x >>= f) (y >>= g) :=
  h.bind fun a _ hab => hab ▸ hf a

end ComputationsAlike

/-- Lists that a map makes the same are related one by one. -/
theorem forall₂_of_map_eq {f : α → γ} {g : β → γ} {l : List α} {l' : List β}
    (h : l.map f = l'.map g) : List.Forall₂ (fun a b => f a = g b) l l' := by
  have hmap : List.Forall₂ (· = ·) (l.map f) (l'.map g) := by rw [h, List.forall₂_eq_eq_eq]
  rwa [List.forall₂_map_left_iff, List.forall₂_map_right_iff] at hmap

/-! ## Classes and methods -/

section

variable {record record' : ClassRecord} {m m' : Method}

theorem ClassRecord.path_eq (h : record.unmarked = record'.unmarked) :
    record.path = record'.path := (ClassRecord.mk.inj h).1

theorem ClassRecord.info_alike (h : record.unmarked = record'.unmarked) :
    OutcomesAlike (fun c c' => c.unmarked = c'.unmarked) record.info record'.info := by
  refine .of_map ?_
  rw [← info_unmarked, h, info_unmarked]

end

/-! ## Scans -/

/-- A listing shows the instructions that are not markers. -/
theorem map_fst_filter_zipIdx (body : List Instruction) :
    (body.zipIdx.filter fun (i, _) => ! i.isMarker).map (·.1) = realPart body := by
  have hmap : body.zipIdx.map (·.1) = body := List.zipIdx_map_fst 0 body
  have hfilter : (body.zipIdx.map (·.1)).filter (! ·.isMarker) =
      (body.zipIdx.filter fun (i, _) => ! i.isMarker).map (·.1) := List.filter_map
  rw [← hfilter, hmap, realPart]

/-- Scans of the same instructions have listings that are alike. -/
theorem Fault.Alike.dumps {s s' : Scan} (idiom : String) (h : s.unmarked = s'.unmarked) :
    (Fault.idiomNotMatched idiom s.location s.dump).Alike
      (.idiomNotMatched idiom s'.location s'.dump) := by
  obtain ⟨hlocation, hrange, -⟩ := Scan.mk.inj h
  rw [hlocation, Scan.dump_eq_listing, Scan.dump_eq_listing]
  refine .listings idiom s'.location ?_
  rw [map_fst_filter_zipIdx, map_fst_filter_zipIdx, hrange]

namespace Scan

variable {u u' : Universe} {s s' : Scan}

/-- Scans of the same instructions find the same. -/
theorem find_eq (hu : u.unmarked = u'.unmarked) (hs : s.unmarked = s'.unmarked) (idiom : Idiom) :
    s.find u idiom = s'.find u' idiom := by
  rw [← find_unmarked u s, hu, hs, find_unmarked]

/-- An idiom that has to be there is found by both scans, or by none. -/
theorem require_alike (hu : u.unmarked = u'.unmarked) (hs : s.unmarked = s'.unmarked)
    (name : String) (idiom : Idiom) :
    OutcomesAlike Eq (s.require u name idiom) (s'.require u' name idiom) := by
  unfold require
  rw [find_eq hu hs]
  refine (OutcomesAlike.refl _).bind fun captures captures' h => ?_
  subst h
  cases captures with
  | some captures => exact .ok rfl
  | none => exact .error (.dumps name hs)

end Scan

end ApiSurface
