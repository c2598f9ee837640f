import ApiSurface.Proofs.Outcome
import ApiSurface.Universe.Hierarchy

/-!
# Kinds of faults

A sequence of computations fails with faults of the kinds of its parts. Whatever only reads classes
and searches the hierarchy above them fails for what is wrong with the classes: a file or a text is
refused, a class is missing, or a class is above itself.

Main definitions: `FailsWith`, `Fault.isAboutClasses`.
-/
namespace ApiSurface

/-- If the computation fails, it is with a fault of the kind. -/
def FailsWith {α : Type} (kind : Fault → Prop) (x : Except Fault α) : Prop :=
  ∀ fault, x = .error fault → kind fault

/-- The fault is about the classes that are read. -/
def Fault.isAboutClasses : Fault → Bool
  | decode _ _ => true
  | classNotFound _ => true
  | descriptor _ _ => true
  | hierarchyCycle _ _ => true
  | _ => false

namespace FailsWith

variable {α β : Type} {kind : Fault → Prop}

@[simp] theorem ok (a : α) : FailsWith kind (.ok a) := by
  intro fault h
  cases h

@[simp] theorem error {fault : Fault} (h : kind fault) :
    FailsWith kind (.error fault : Except Fault α) := by
  intro other h'
  cases h'
  exact h

theorem mono {x : Except Fault α} {more : Fault → Prop} (hx : FailsWith kind x)
    (h : ∀ fault, kind fault → more fault) : FailsWith more x :=
  fun fault hfault => h fault (hx fault hfault)

theorem bind {x : Except Fault α} {f : α → Except Fault β} (hx : FailsWith kind x)
    (hf : ∀ a, FailsWith kind (f a)) : FailsWith kind (x >>= f) := by
  intro fault h
  rcases bind_eq_error.mp h with h | ⟨a, -, h⟩
  · exact hx fault h
  · exact hf a fault h

theorem anyM {p : α → Except Fault Bool} {l : List α} (h : ∀ a, FailsWith kind (p a)) :
    FailsWith kind (l.anyM p) := by
  induction l with
  | nil => exact ok false
  | cons a l ih =>
    refine bind (h a) fun b => ?_
    cases b
    · exact ih
    · exact ok true

theorem filterM {p : α → Except Fault Bool} {l : List α} (h : ∀ a, FailsWith kind (p a)) :
    FailsWith kind (l.filterM p) := by
  intro fault hfault
  obtain ⟨a, -, ha⟩ := filterM_eq_error hfault
  exact h a fault ha

end FailsWith

/-! ## Faults about classes -/

/-- The computation fails for what is wrong with classes only. -/
def ClassFaults {α : Type} (x : Except Fault α) : Prop := FailsWith (·.isAboutClasses = true) x

namespace ClassFaults
open FailsWith

theorem ofReading {α : Type} (text : String) (x : Except Descriptor.Refusal α) :
    ClassFaults (Fault.ofReading text x) := by
  cases x with
  | ok a => exact ok a
  | error reason => exact error rfl

theorem info (record : ClassRecord) : ClassFaults record.info := by
  unfold ClassRecord.info
  cases record.content with
  | ok c => exact ok c
  | error refused => exact error rfl

variable (u : Universe)

theorem lookup (path : String) : ClassFaults (u.lookup path) := by
  unfold Universe.lookup
  split
  · exact ok _
  · exact error rfl

theorem searchAbove (target : String) (budget : Nat) (chain : List String) (path : String) :
    ClassFaults (u.searchAbove target budget chain path) := by
  induction budget generalizing chain path with
  | zero =>
    unfold Universe.searchAbove
    split
    · exact ok true
    split
    · exact error rfl
    split <;> exact ok false
  | succ budget ih =>
    unfold Universe.searchAbove
    split
    · exact ok true
    split
    · exact error rfl
    split
    · exact ok false
    · exact bind (info _) fun c => anyM (ih _)

theorem descends (path target : String) : ClassFaults (u.descends path target) :=
  searchAbove u target u.size [] path

theorem implementations (subset : Subset) (target : String) :
    ClassFaults (u.implementations subset target) := by
  refine bind (filterM fun r => ?_) fun below => filterM fun r => bind (info r) fun c => ok _
  split
  · exact ok false
  · exact descends u _ _

end ClassFaults

end ApiSurface
