import ApiSurface.Proofs.Schema.Growth
import ApiSurface.Proofs.Universe.Ascent

/-!
# The generation of schemas ends

A generic class can refer to itself applied to ever new classes, so the classes of the universe do
not bound the recursion of a generator. The names do: every step further registers a name, the
requests that can come up are those of the pool, and the pool is finite. So the run that is not
ended by a budget ends, there is only one, and it is what the generator does.

Main definition: `Registrable`. Main statements: `Answers.unique`, `Answers.registers`,
`generate_ends`.
-/
namespace ApiSurface.Schema
open Requesting

variable {u : Universe} {markers : Markers}

/-- Requests have one run: how it goes on is settled by the class of the request and by what its
name is registered for. -/
theorem Answers.unique {rs : List Request} {c c₁ c₂ : Catalog} {first second : Except Fault Unit}
    (run : Answers u markers rs c first c₁) (run' : Answers u markers rs c second c₂) :
    first = second ∧ c₁ = c₂ := by
  induction run generalizing second c₂ <;> cases run' <;> grind [Universe.lookup]

/-! ## What a run registers -/

/-- A name belongs to a request of a kind for a class of the universe. -/
structure Registrable (u : Universe) (kind : Request → Prop) (name : String) (r : Request) :
    Prop where
  named : name = r.name
  isKind : kind r
  found : ∃ record, u.find? r.path = some record

/-- A run registers requests of a kind only, if those that it starts from are of this kind and lead
to no others. -/
theorem Answers.registers {kind : Request → Prop}
    (leads : ∀ (r : Request) (record : ClassRecord), kind r → u.find? r.path = some record →
      ∀ q ∈ (recordSchema u markers record r.generics).requests, kind q)
    {rs : List Request} {c c' : Catalog} {outcome : Except Fault Unit}
    (run : Answers u markers rs c outcome c') (hrs : ∀ r ∈ rs, kind r) {name : String}
    {q : Request} (h : c'.registry[name]? = some q) :
    c.registry[name]? = some q ∨ Registrable u kind name q := by
  -- A class that is taken up registers its own name before its requests are answered.
  have taken {r : Request} {c : Catalog} {record : ClassRecord} (hr : kind r)
      (found : u.find? r.path = some record)
      (h : (c.register r.name r).registry[name]? = some q ∨ Registrable u kind name q) :
      c.registry[name]? = some q ∨ Registrable u kind name q := by
    rcases h with h | hnew
    · rcases of_registry_register h with h | ⟨rfl, rfl⟩
      · exact .inl h
      · exact .inr ⟨rfl, hr, record, found⟩
    · exact .inr hnew
  induction run with
  | done => exact .inl h
  | missing => exact .inl h
  | known _ _ _ ih => exact ih (List.forall_mem_cons.mp hrs).2 h
  | collision => exact .inl h
  | stopped found _ _ ih =>
    have hr := hrs _ List.mem_cons_self
    exact taken hr found (ih (leads _ _ hr found) h)
  | unmade found _ _ _ ih =>
    have hr := hrs _ List.mem_cons_self
    exact taken hr found (ih (leads _ _ hr found) h)
  | made found _ _ _ _ ihbody ihrest =>
    obtain ⟨hr, hrest⟩ := List.forall_mem_cons.mp hrs
    rcases ihrest hrest h with h | hnew
    · exact taken hr found (ihbody (leads _ _ hr found) h)
    · exact .inr hnew

/-- What a request leads to is registered from its pool. -/
theorem Answers.registers_pool {path : String} {generics : List String} {c c' : Catalog}
    {outcome : Except Fault Unit} (run : Answers u markers [⟨path, generics⟩] c outcome c')
    {name : String} {r : Request} (h : c'.registry[name]? = some r) :
    c.registry[name]? = some r ∨ name = r.name ∧ r ∈ pool u generics := by
  have hbounded : ∀ r ∈ [Request.mk path generics], Bounded u generics r.generics := by
    simpa using Bounded.self
  have hleads : ∀ (r : Request) (record : ClassRecord), Bounded u generics r.generics →
      u.find? r.path = some record →
      ∀ q ∈ (recordSchema u markers record r.generics).requests,
        Bounded u generics q.generics := by
    intro r record hr found
    exact recordSchema_bounded found hr
  rcases run.registers hleads hbounded h with h | hnew
  · exact .inl h
  · obtain ⟨record, found⟩ := hnew.found
    exact .inr ⟨hnew.named, mem_pool found hnew.isKind⟩

/-- The names that are registered are no more than those of before and the new ones together. -/
theorem size_registry_le_add {c c' : Catalog} {names : List String}
    (h : ∀ name ∈ c'.registry, name ∈ c.registry ∨ name ∈ names) :
    c'.registry.size ≤ c.registry.size + names.length := by
  have hsubset : c'.registry.keys ⊆ c.registry.keys ++ names := by
    intro name hname
    simpa using h name (by simpa using hname)
  have hle := (List.subperm_of_subset Std.ExtTreeMap.nodup_keys hsubset).length_le
  simpa using hle

/-- A request leads to no more new names than its pool has. -/
theorem Answers.size_registry_le {path : String} {generics : List String} {c c' : Catalog}
    {outcome : Except Fault Unit} (run : Answers u markers [⟨path, generics⟩] c outcome c') :
    c'.registry.size ≤ c.registry.size + nameBound u generics := by
  have hnames : ∀ name ∈ c'.registry,
      name ∈ c.registry ∨ name ∈ (pool u generics).map (·.name) := by
    intro name hname
    obtain ⟨r, hr⟩ := mem_registry.mp hname
    rcases run.registers_pool hr with h | ⟨rfl, hpool⟩
    · exact .inl (mem_registry.mpr ⟨r, h⟩)
    · exact .inr (List.mem_map_of_mem hpool)
  have hsize := size_registry_le_add hnames
  have hpool := length_pool_le u generics
  rw [List.length_map] at hsize
  omega

/-! ## Generators end -/

/-- A generator makes the run that its budget does not end. -/
theorem generate_answers (u : Universe) (markers : Markers) (path : String)
    (generics : List String) (c : Catalog) :
    ∃ result c', Answers u markers [⟨path, generics⟩] c result c' ∧
      runFrom (generate u markers path generics) c =
        (result.map fun _ => schemaName path generics, c') := by
  have run : Runs u markers (generateWithin u markers (nameBound u generics)) ⟨path, generics⟩ c :=
    generateWithin_runs _ _ c .self (Nat.le_trans (pending_le_length _ c) (length_pool_le _ _))
  have named := generateWithin_byName u markers (nameBound u generics) ⟨path, generics⟩ c
  refine ⟨_, _, run, ?_⟩
  unfold generate
  cases hrun : runFrom (generateWithin u markers (nameBound u generics) ⟨path, generics⟩) c with
  | mk outcome c' =>
    cases outcome with
    | error fault => rfl
    | ok name =>
      obtain rfl := named name c' hrun
      rfl

/-- **The generation of a schema ends**, for every universe, request and catalog. The recursion
without a budget has a run, and only one, and it is what the generator does; it registers requests
of the pool, so no more than `nameBound` new names; and each search up the hierarchy on the way
ends by itself. -/
theorem generate_ends (u : Universe) (markers : Markers) (path : String) (generics : List String)
    (c : Catalog) :
    (∃ result c', Answers u markers [⟨path, generics⟩] c result c' ∧
      (∀ result₁ c₁, Answers u markers [⟨path, generics⟩] c result₁ c₁ →
        result₁ = result ∧ c₁ = c') ∧
      runFrom (generate u markers path generics) c =
        (result.map fun _ => schemaName path generics, c') ∧
      (∀ name r, c'.registry[name]? = some r →
        c.registry[name]? = some r ∨ name = r.name ∧ r ∈ pool u generics) ∧
      c'.registry.size ≤ c.registry.size + nameBound u generics) ∧
    ∀ base target result,
      Universe.Searches u target [] [base] result ↔ u.descends base target = result := by
  refine ⟨?_, fun _ _ _ => Universe.searches_iff⟩
  obtain ⟨result, c', run, hrun⟩ := generate_answers u markers path generics c
  refine ⟨result, c', run, ?_, hrun, fun _ _ => run.registers_pool, run.size_registry_le⟩
  intro result₁ c₁ run₁
  exact run₁.unique run

/-- A class with a parameter and a field that is the class applied to itself, applied to the
parameter. -/
def nodeRecords : List ClassRecord :=
  [.ofClass
    { name := "p/Node"
      signature := "<T:Ljava/lang/Object;>Ljava/lang/Object;"
      fields := [
        { name := "next"
          descriptor := "Lp/Node;"
          signature := "Lp/Node<Lp/Node<TT;>;>;" }] }]

/-- The universe of this class. -/
def nodes : Universe := (Universe.ofRecords nodeRecords {}).toOption.get (by decide +kernel)

-- Applied to an item it leads to itself applied to itself, and this to nothing new.
example : (runFrom (generate nodes {} "p/Node" ["p/Item"]) {}).2.registry.keys =
    ["Node__Item", "Node__Node"] := by
  decide +kernel

end ApiSurface.Schema
