import ApiSurface.Proofs.Schema.Run

/-!
# How a catalog grows

Whatever a generator is asked for, and whether it succeeds or fails, it only ever registers names
that are new and only ever adds the schemas of such names. What a name stands for is settled once
and for all when it is registered.

Main definition: `Grows`. Main statements: `generateWithin_grows`, `make_grows`.
-/
namespace ApiSurface.Schema

variable {u : Universe} {markers : Markers}

/-- A catalog as it may have become later. -/
structure Grows (c c' : Catalog) : Prop where
  /-- What a name stands for does not change. -/
  registry : ∀ (name : String) (r : Request),
    c.registry[name]? = some r → c'.registry[name]? = some r
  /-- The new names belong to what they stand for. -/
  named : ∀ (name : String) (r : Request),
    c'.registry[name]? = some r → c.registry[name]? = some r ∨ name = r.name
  /-- The schema of a registered name, made or not, stays as it is. -/
  schemas : ∀ name ∈ c.registry, c'.schemas[name]? = c.schemas[name]?
  /-- New schemas belong to registered names. -/
  keys : ∀ name ∈ c'.schemas, name ∈ c.schemas ∨ name ∈ c'.registry

theorem mem_registry {c : Catalog} {name : String} :
    name ∈ c.registry ↔ ∃ r, c.registry[name]? = some r := by
  rw [Std.ExtTreeMap.mem_iff_isSome_getElem?, Option.isSome_iff_exists]

namespace Grows

theorem refl (c : Catalog) : Grows c c where
  registry := fun _ _ h => h
  named := fun _ _ h => .inl h
  schemas := fun _ _ => rfl
  keys := fun _ h => .inl h

theorem mem {c c' : Catalog} (h : Grows c c') {name : String} (hname : name ∈ c.registry) :
    name ∈ c'.registry := by
  obtain ⟨r, hr⟩ := mem_registry.mp hname
  exact mem_registry.mpr ⟨r, h.registry name r hr⟩

theorem trans {c c₁ c' : Catalog} (first : Grows c c₁) (second : Grows c₁ c') : Grows c c' where
  registry := fun name r h => second.registry name r (first.registry name r h)
  named := by
    intro name r h
    rcases second.named name r h with h | h
    · exact first.named name r h
    · exact .inr h
  schemas := by
    intro name h
    rw [second.schemas name (first.mem h), first.schemas name h]
  keys := by
    intro name h
    rcases second.keys name h with h | h
    · exact (first.keys name h).imp_right second.mem
    · exact .inr h

/-- A name that is new is registered. -/
theorem register {c : Catalog} {r : Request} (fresh : c.registry[r.name]? = none) :
    Grows c (c.register r.name r) where
  registry := fun _ _ h => registry_register fresh h
  named := by
    intro name q h
    rcases of_registry_register h with h | ⟨rfl, rfl⟩
    · exact .inl h
    · exact .inr rfl
  schemas := fun _ _ => rfl
  keys := fun _ h => .inl h

/-- A name that was new gets its schema after everything that its class asked for. -/
theorem finish {c c₁ : Catalog} {r : Request} (fresh : c.registry[r.name]? = none)
    (body : Grows (c.register r.name r) c₁) (schema : Schema) :
    Grows c (c₁.finish r.name r.path schema) := by
  have whole : Grows c c₁ := (register fresh).trans body
  constructor
  case registry => exact whole.registry
  case named => exact whole.named
  case schemas =>
    intro name hname
    have hne : r.name ≠ name := by
      rintro rfl
      obtain ⟨q, hq⟩ := mem_registry.mp hname
      simp [fresh] at hq
    simpa [Catalog.finish, Std.ExtTreeMap.getElem?_insert, hne] using whole.schemas name hname
  case keys =>
    intro name hname
    have hfinished : r.name = name ∨ name ∈ c₁.schemas := by
      simpa [Catalog.finish, Std.ExtTreeMap.mem_insert] using hname
    rcases hfinished with rfl | hname
    · have hregistered : r.name ∈ (c.register r.name r).registry := by
        simp [Catalog.register, Std.ExtTreeMap.mem_insert]
      exact .inr (body.mem hregistered)
    · exact whole.keys name hname

end Grows

/-- A generator that never makes more of a catalog than it may become. -/
def Growing (generate : Request → Generating String) : Prop :=
  ∀ r c, Grows c (runFrom (generate r) c).2

/-- Answering the requests of a computation lets a catalog grow if answering each does. -/
theorem answer_grows {α : Type} {generate : Request → Generating String} (h : Growing generate)
    (x : Requesting α) (c : Catalog) : Grows c (runFrom (answer generate x) c).2 := by
  induction x generalizing c with
  | done a => exact .refl c
  | fail fault => exact .refl c
  | ask r next ih =>
    rw [answer, runFrom_bind]
    have first := h r c
    cases hrun : runFrom (generate r) c with
    | mk result c₁ =>
      rw [hrun] at first
      cases result with
      | error fault => exact first
      | ok name => exact first.trans (ih name c₁)

/-- **A generator lets a catalog grow**, whatever it ends with. -/
theorem generateWithin_grows (u : Universe) (markers : Markers) (budget : Nat) :
    Growing (generateWithin u markers budget) := by
  induction budget using Nat.strongRecOn with
  | ind budget ih =>
    intro r c
    cases hl : u.lookup r.path with
    | error fault =>
      rw [runFrom_generateWithin_missing hl]
      exact .refl c
    | ok record =>
      rw [runFrom_generateWithin (Universe.lookup_eq_ok.mp hl)]
      cases registered : c.registry[r.name]? with
      | some existing =>
        dsimp only
        split <;> exact .refl c
      | none =>
        cases budget with
        | zero => exact .refl c
        | succ budget =>
          have body := answer_grows (ih budget (Nat.lt_succ_self budget))
            (recordSchema u markers record r.generics) (c.register r.name r)
          dsimp only
          cases hrun : runFrom (answer (generateWithin u markers budget)
            (recordSchema u markers record r.generics)) (c.register r.name r) with
          | mk result c₁ =>
            rw [hrun] at body
            cases result with
            | error fault => exact (Grows.register registered).trans body
            | ok schema => exact .finish registered body schema

theorem generate_grows (u : Universe) (markers : Markers) :
    Growing fun r => generate u markers r.path r.generics :=
  fun r c => generateWithin_grows u markers _ r c

/-- Carrying out a computation lets a catalog grow. -/
theorem make_grows {α : Type} (u : Universe) (markers : Markers) (x : Requesting α)
    (c : Catalog) : Grows c (runFrom (make u markers x) c).2 :=
  answer_grows (generate_grows u markers) x c

end ApiSurface.Schema
