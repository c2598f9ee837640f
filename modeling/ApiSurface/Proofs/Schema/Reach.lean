import ApiSurface.Proofs.Schema.Order

/-!
# What requests lead to

Requests lead to those that the schemas of their classes ask for, and these to further ones. A
computation can be carried out with a fresh generator exactly when what its requests lead to is
consistent, and then it can be carried out with every generator that has registered consistent
requests only.

Main definitions: `Reached`, `freshly`. Main statements: `Complete.make`, `Consistent.make`,
`freshly_eq_ok`.
-/
namespace ApiSurface.Schema
open Requesting

/-- The request is one of the first, or the schema of a class asks for it whose request is reached
itself. -/
inductive Reached (u : Universe) (markers : Markers) (first : List Request) : Request → Prop
  | asked {r : Request} (mem : r ∈ first) : Reached u markers first r
  | led {r q : Request} {record : ClassRecord} (reached : Reached u markers first r)
      (found : u.find? r.path = some record)
      (mem : q ∈ (recordSchema u markers record r.generics).requests) : Reached u markers first q

variable {u : Universe} {markers : Markers} {α : Type}

/-! ## Complete catalogs -/

namespace Complete

theorem empty : Complete u markers {} where
  grows := .refl _
  settled := by
    intro r hr
    simp [Catalog.Holds] at hr

/-- What has been reported does not matter. -/
theorem withEvents {c : Catalog} (h : Complete u markers c) (events : List Event) :
    Complete u markers { c with events } :=
  ⟨⟨h.grows.registry, h.grows.named, h.grows.schemas, h.grows.keys⟩, h.settled⟩

/-- A computation that is carried out leaves a complete catalog complete, with its requests
registered. -/
theorem make {x : Requesting α} {c c' : Catalog} {a : α} (h : Complete u markers c)
    (run : runFrom (Schema.make u markers x) c = (.ok a, c')) :
    x.outcome = .ok a ∧ Complete u markers c' ∧ Grows c c' ∧ ∀ r ∈ x.requests, c'.Holds r := by
  obtain ⟨answers, hx⟩ := answers_of_make run
  have hsettles := answers.settles rfl
  refine ⟨hx, ⟨h.grows.trans answers.grows, fun r hr => ?_⟩, answers.grows, hsettles.answered⟩
  rcases hsettles.settled r hr with hold | hnew
  · exact (h.settled r hold).mono hold answers.grows
  · exact hnew

/-- What registered requests lead to is registered. -/
theorem holds_of_reached {c : Catalog} (h : Complete u markers c) {first : List Request}
    (hfirst : ∀ r ∈ first, c.Holds r) {r : Request} (hr : Reached u markers first r) :
    c.Holds r := by
  induction hr with
  | asked mem => exact hfirst _ mem
  | led _ found mem ih => exact h.consistent.leads _ _ ih found _ mem

end Complete

/-! ## Consistent requests -/

theorem Catalog.Within.empty (kind : Request → Prop) : ({} : Catalog).Within kind := by
  intro name r hr
  simp at hr

/-- A computation whose requests are consistent is carried out with every catalog of such requests,
and ends as if it were carried out with any other. -/
theorem Consistent.make {kind : Request → Prop} (consistent : Consistent u markers kind)
    {x : Requesting α} {c : Catalog} (hx : ∀ r ∈ x.requests, kind r) (hc : c.Within kind) :
    ∃ c', runFrom (Schema.make u markers x) c = (x.outcome, c') ∧ c'.Within kind := by
  obtain ⟨outcome, c', answers, hrun⟩ := make_answers u markers x c
  obtain ⟨rfl, hc'⟩ := answers.within consistent hx hc
  exact ⟨c', hrun, hc'⟩

/-- What requests lead to is consistent if it is registered somewhere and no two names are the
same. -/
theorem consistent_reached {first : List Request}
    (held : ∀ r ∈ first, ∃ c, Complete u markers c ∧ c.Holds r)
    (named : ∀ r q, Reached u markers first r → Reached u markers first q →
      r.name = q.name → r = q) : Consistent u markers (Reached u markers first) where
  makes := by
    intro r hr
    have hholds : ∃ c, Complete u markers c ∧ c.Holds r := by
      induction hr with
      | asked mem => exact held _ mem
      | led _ found mem ih =>
        obtain ⟨c, hc, hholds⟩ := ih
        exact ⟨c, hc, hc.consistent.leads _ _ hholds found _ mem⟩
    obtain ⟨c, hc, hholds⟩ := hholds
    exact hc.consistent.makes r hholds
  leads := fun _ _ hr found _ hq => hr.led found hq
  named := named

/-- What registered requests lead to is consistent. -/
theorem Complete.consistent_reached {c : Catalog} (h : Complete u markers c)
    {first : List Request} (hfirst : ∀ r ∈ first, c.Holds r) :
    Consistent u markers (Reached u markers first) :=
  Schema.consistent_reached (fun r hr => ⟨c, h, hfirst r hr⟩) fun r q hr hq =>
    h.consistent.named r q (h.holds_of_reached hfirst hr) (h.holds_of_reached hfirst hq)

/-! ## Fresh generators -/

/-- What a computation ends with when a fresh generator carries it out. -/
def freshly (u : Universe) (markers : Markers) (x : Requesting α) : Except Fault α :=
  (runFrom (make u markers x) {}).1

/-- **When a fresh generator carries out a computation**: no step of its own fails, and what it
leads to is consistent. -/
theorem freshly_eq_ok {x : Requesting α} {a : α} :
    freshly u markers x = .ok a ↔
      x.outcome = .ok a ∧ Consistent u markers (Reached u markers x.requests) := by
  constructor
  · intro h
    obtain ⟨hx, hcomplete, -, hholds⟩ := Complete.empty.make (Prod.ext h rfl)
    exact ⟨hx, hcomplete.consistent_reached hholds⟩
  · rintro ⟨hx, consistent⟩
    obtain ⟨c', hrun, -⟩ := consistent.make (fun r hr => .asked hr) (.empty _)
    rw [freshly, hrun, hx]

end ApiSurface.Schema
