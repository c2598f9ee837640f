import ApiSurface.Proofs.Schema.Run

/-!
# Finished names and closed catalogs

A name that a run registers has no schema until the requests of its class are answered, and in the
meantime other schemas refer to it. A run that succeeds leaves none of its own names in this state.
So a catalog in which every registered name has a schema, and in which schemas refer to registered
names only, stays like this.

Main definitions: `Completes`, `Catalog.Closed`. Main statements: `Answers.completes`,
`Catalog.Closed.make`.
-/
namespace ApiSurface.Schema
open Requesting

/-- What a run that succeeds adds to a catalog. -/
structure Completes (rs : List Request) (c c' : Catalog) : Prop where
  /-- The names of the requests are registered. -/
  answered : ∀ r ∈ rs, r.name ∈ c'.registry
  registry_kept : ∀ name ∈ c.registry, name ∈ c'.registry
  schemas_kept : ∀ name ∈ c.schemas, name ∈ c'.schemas
  /-- The names that are new have schemas. -/
  finished : ∀ name ∈ c'.registry, name ∈ c.registry ∨ name ∈ c'.schemas
  /-- The schemas that are new refer to registered names. -/
  refers : ∀ (name : String) (schema : Schema), c'.schemas[name]? = some schema →
    c.schemas[name]? = some schema ∨ ∀ n ∈ schema.references, n ∈ c'.registry

namespace Completes

theorem nil {c : Catalog} : Completes [] c c where
  answered := by simp
  registry_kept := fun _ h => h
  schemas_kept := fun _ h => h
  finished := fun _ h => .inl h
  refers := fun _ _ h => .inl h

/-- A name that is registered already adds nothing. -/
theorem known {r : Request} {rs : List Request} {c c' : Catalog} (h : r.name ∈ c.registry)
    (rest : Completes rs c c') : Completes (r :: rs) c c' where
  answered := List.forall_mem_cons.mpr ⟨rest.registry_kept _ h, rest.answered⟩
  registry_kept := rest.registry_kept
  schemas_kept := rest.schemas_kept
  finished := rest.finished
  refers := rest.refers

/-- A name is registered, its requests are answered, and then it gets a schema that refers to
them. -/
theorem made {r : Request} {asked rs : List Request} {c c₁ c' : Catalog} {schema : Schema}
    (body : Completes asked (c.register r.name r) c₁)
    (refers : ∀ n ∈ schema.references, n ∈ asked.map Request.name)
    (rest : Completes rs (c₁.finish r.name r.path schema) c') : Completes (r :: rs) c c' := by
  have hregistered {name : String} :
      name ∈ (c.register r.name r).registry ↔ r.name = name ∨ name ∈ c.registry := by
    simp [Catalog.register, Std.ExtTreeMap.mem_insert]
  have hfinished {name : String} :
      name ∈ (c₁.finish r.name r.path schema).schemas ↔ r.name = name ∨ name ∈ c₁.schemas := by
    simp [Catalog.finish, Std.ExtTreeMap.mem_insert]
  constructor
  case answered =>
    refine List.forall_mem_cons.mpr ⟨?_, rest.answered⟩
    exact rest.registry_kept _ (body.registry_kept _ (hregistered.mpr (.inl rfl)))
  case registry_kept =>
    exact fun name h => rest.registry_kept _ (body.registry_kept _ (hregistered.mpr (.inr h)))
  case schemas_kept =>
    exact fun name h => rest.schemas_kept _ (hfinished.mpr (.inr (body.schemas_kept _ h)))
  case finished =>
    intro name h
    rcases rest.finished name h with h | h
    · rcases body.finished name h with h | h
      · rcases hregistered.mp h with heq | h
        · exact .inr (rest.schemas_kept _ (hfinished.mpr (.inl heq)))
        · exact .inl h
      · exact .inr (rest.schemas_kept _ (hfinished.mpr (.inr h)))
    · exact .inr h
  case refers =>
    intro name s h
    rcases rest.refers name s h with h | h
    · simp only [Catalog.finish, Std.ExtTreeMap.getElem?_insert] at h
      split at h
      · -- The schema is the one that has been made, and its names were asked for.
        cases h
        refine .inr fun n hn => ?_
        obtain ⟨q, hq, rfl⟩ := List.mem_map.mp (refers n hn)
        exact rest.registry_kept _ (body.answered q hq)
      · refine (body.refers name s h).imp_right fun hall n hn => ?_
        exact rest.registry_kept _ (hall n hn)
    · exact .inr h

end Completes

/-- A run that succeeds leaves no name of its own without a schema. -/
theorem Answers.completes {u : Universe} {markers : Markers} {rs : List Request} {c c' : Catalog}
    {outcome : Except Fault Unit} (run : Answers u markers rs c outcome c')
    (h : outcome = .ok ()) : Completes rs c c' := by
  induction run with
  | done => exact .nil
  | missing => cases h
  | known _ registered _ ih =>
    exact .known (Std.ExtTreeMap.mem_iff_isSome_getElem?.mpr (by simp [registered])) (ih h)
  | collision => cases h
  | stopped => cases h
  | unmade => cases h
  | made _ _ _ success _ ihbody ihrest =>
    refine .made (ihbody rfl) (fun n hn => ?_) (ihrest h)
    exact (recordSchema_refers _ _ _ _ _ success n).mp hn

/-! ## Closed catalogs -/

/-- Every registered name has a schema, and schemas refer to registered names. -/
structure Catalog.Closed (c : Catalog) : Prop where
  finished : ∀ name ∈ c.registry, name ∈ c.schemas
  refers : ∀ (name : String) (schema : Schema), c.schemas[name]? = some schema →
    ∀ n ∈ schema.references, n ∈ c.registry

namespace Catalog.Closed

theorem empty : ({} : Catalog).Closed := by
  constructor <;> simp

/-- A run that succeeds keeps a catalog closed. -/
theorem completes {rs : List Request} {c c' : Catalog} (hc : c.Closed) (h : Completes rs c c') :
    c'.Closed := by
  constructor
  · intro name hname
    rcases h.finished name hname with hname | hname
    · exact h.schemas_kept _ (hc.finished name hname)
    · exact hname
  · intro name schema hs
    rcases h.refers name schema hs with hs | hs
    · exact fun n hn => h.registry_kept _ (hc.refers name schema hs n hn)
    · exact hs

/-- The names that a computation asks for are registered in the catalog that it leaves behind, and
that catalog is closed again. -/
theorem make {α : Type} {u : Universe} {markers : Markers} {x : Requesting α} {c c' : Catalog}
    {a : α} (hc : c.Closed) (h : runFrom (Schema.make u markers x) c = (.ok a, c')) :
    x.outcome = .ok a ∧ Completes x.requests c c' ∧ c'.Closed := by
  obtain ⟨run, hx⟩ := answers_of_make h
  have hcompletes := run.completes rfl
  exact ⟨hx, hcompletes, hc.completes hcompletes⟩

end Catalog.Closed

end ApiSurface.Schema
