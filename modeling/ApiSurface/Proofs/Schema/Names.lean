import ApiSurface.Proofs.Schema.Order

/-!
# A name stands for one type

Making a name takes calls for other names, and these take further ones. However deep a call is
nested and however it ends, what it has registered stays registered, and a call that gives a name
has it registered for its own request. So no name is ever given for two requests.

Main definitions: `Invocation`, `MadeIn`, `Passes`, `Unambiguous`. Main statement:
`names_unambiguous`.
-/
namespace ApiSurface.Schema
open Requesting

/-- A call of the generator for a request. -/
structure Invocation where
  budget : Nat
  request : Request
  /-- The catalog from which the call is made. -/
  catalog : Catalog

/-- What a call ends with, and the catalog that it leaves behind. -/
def Invocation.run (u : Universe) (markers : Markers) (i : Invocation) :
    Except Fault String × Catalog :=
  runFrom (generateWithin u markers i.budget i.request) i.catalog

/-- A computation that is carried out from one catalog comes to ask for a name from another. -/
inductive ComesToAsk (generate : Request → Generating String) {α : Type} :
    Requesting α → Catalog → Request → Catalog → Prop
  | now {r : Request} {next : String → Requesting α} {c : Catalog} :
      ComesToAsk generate (.ask r next) c r c
  /-- The name that is asked for first has been given. -/
  | later {r q : Request} {next : String → Requesting α} {c c₁ c' : Catalog} {name : String}
      (given : runFrom (generate r) c = (.ok name, c₁))
      (rest : ComesToAsk generate (next name) c₁ q c') : ComesToAsk generate (.ask r next) c q c'

/-- A call makes another one for the schema of its class. -/
inductive Invocation.Makes (u : Universe) (markers : Markers) : Invocation → Invocation → Prop
  | inner {budget : Nat} {r q : Request} {c c' : Catalog} {record : ClassRecord}
      (found : u.find? r.path = some record) (fresh : c.registry[r.name]? = none)
      (asked : ComesToAsk (generateWithin u markers budget)
        (recordSchema u markers record r.generics) (c.register r.name r) q c') :
      Makes u markers ⟨budget + 1, r, c⟩ ⟨budget, q, c'⟩

/-- A call is made in a session from a catalog. -/
inductive MadeIn (u : Universe) (markers : Markers) :
    List Demand → Catalog → Invocation → Prop
  /-- The first demand takes the call. -/
  | outer {d : Demand} {ds : List Demand} {c c' : Catalog} {r : Request}
      (asked : ComesToAsk (fun r => generate u markers r.path r.generics) d.asking c r c') :
      MadeIn u markers (d :: ds) c ⟨nameBound u r.generics, r, c'⟩
  /-- A call of the session makes the call. -/
  | inner {ds : List Demand} {c : Catalog} {i j : Invocation} (made : MadeIn u markers ds c i)
      (makes : i.Makes u markers j) : MadeIn u markers ds c j
  /-- The call is made after the first demand. -/
  | later {d : Demand} {ds : List Demand} {c : Catalog} {i : Invocation}
      (made : MadeIn u markers ds (runFrom (d.meet u markers) c).2 i) :
      MadeIn u markers (d :: ds) c i

variable {u : Universe} {markers : Markers}

/-! ## Calls and catalogs -/

/-- What a computation asks for comes after what it asked for before. -/
theorem ComesToAsk.grows {generate : Request → Generating String} (growing : Growing generate)
    {α : Type} {x : Requesting α} {c c' : Catalog} {r : Request}
    (asked : ComesToAsk generate x c r c') : Grows c c' := by
  induction asked with
  | now => exact .refl _
  | @later r q next c c₁ c' name given _ ih =>
    have first := growing r c
    rw [given] at first
    exact first.trans ih

/-- What has been asked for comes before the end of the computation. -/
theorem ComesToAsk.grows_end {generate : Request → Generating String} (growing : Growing generate)
    {α : Type} {x : Requesting α} {c c' : Catalog} {r : Request}
    (asked : ComesToAsk generate x c r c') :
    Grows (runFrom (generate r) c').2 (runFrom (answer generate x) c).2 := by
  induction asked with
  | @now r next c =>
    rw [answer, runFrom_bind]
    rcases runFrom (generate r) c with ⟨_ | name, c₁⟩
    · exact .refl c₁
    · exact answer_grows growing (next name) c₁
  | later given _ ih =>
    rw [answer, runFrom_bind, given]
    exact ih

/-- A computation comes to ask for its requests only. -/
theorem ComesToAsk.mem_requests {generate : Request → Generating String} (byName : ByName generate)
    {α : Type} {x : Requesting α} {c c' : Catalog} {r : Request}
    (asked : ComesToAsk generate x c r c') : r ∈ x.requests := by
  induction asked with
  | now => exact List.mem_cons_self
  | later given _ ih =>
    obtain rfl := byName _ _ _ _ given
    exact List.mem_cons_of_mem _ ih

/-- A call that is nested in another comes after its beginning. -/
theorem Invocation.Makes.grows {i j : Invocation} (makes : i.Makes u markers j) :
    Grows i.catalog j.catalog := by
  obtain ⟨found, fresh, asked⟩ := makes
  exact (Grows.register fresh).trans (asked.grows (generateWithin_grows u markers _))

/-- A call that is nested in another comes before its end. -/
theorem Invocation.Makes.kept {i j : Invocation} (makes : i.Makes u markers j) {name : String}
    {r : Request} (h : (j.run u markers).2.registry[name]? = some r) :
    (i.run u markers).2.registry[name]? = some r := by
  obtain ⟨found, fresh, asked⟩ := makes
  have body := (asked.grows_end (generateWithin_grows u markers _)).registry name r h
  rw [Invocation.run, runFrom_generateWithin found, fresh]
  dsimp only
  revert body
  rcases runFrom (answer (generateWithin u markers _) _) _ with ⟨_ | schema, c₁⟩
  · exact id
  · exact id

/-- The budget of a call covers the names that are left for it. -/
def Invocation.Covered (u : Universe) (i : Invocation) : Prop :=
  ∃ generics, Bounded u generics i.request.generics ∧ pending (pool u generics) i.catalog ≤ i.budget

theorem Invocation.Makes.covered {i j : Invocation} (makes : i.Makes u markers j)
    (h : i.Covered u) : j.Covered u := by
  obtain ⟨generics, hbounded, hpending⟩ := h
  obtain @⟨budget, r, q, c, c', record, found, fresh, asked⟩ := makes
  have hasked := asked.mem_requests (generateWithin_byName u markers budget)
  have hgrows := asked.grows (generateWithin_grows u markers budget)
  refine ⟨generics, recordSchema_bounded found hbounded q hasked, ?_⟩
  have hmono : pending (pool u generics) c' ≤ pending (pool u generics) (c.register r.name r) :=
    pending_mono fun {name r} => hgrows.registry name r
  have hlt := pending_register_lt (mem_pool found hbounded) fresh
  dsimp only at hpending ⊢
  omega

/-- A call that is covered and gives a name has it registered for its request. -/
theorem Invocation.Covered.registered {i : Invocation} (h : i.Covered u) {name : String}
    {c : Catalog} (hrun : i.run u markers = (.ok name, c)) :
    c.registry[name]? = some i.request := by
  obtain ⟨generics, hbounded, hpending⟩ := h
  obtain rfl := generateWithin_byName u markers _ _ _ _ _ hrun
  have run : Runs u markers (generateWithin u markers i.budget) i.request i.catalog :=
    generateWithin_runs i.budget i.request i.catalog hbounded hpending
  unfold Runs at run
  rw [Invocation.run] at hrun
  rw [hrun] at run
  exact (run.settles rfl).answered _ (List.mem_singleton_self _)

namespace MadeIn

variable {ds : List Demand} {c : Catalog} {i : Invocation}

theorem covered (made : MadeIn u markers ds c i) : i.Covered u := by
  induction made with
  | @outer d ds c c' r asked =>
    exact ⟨r.generics, .self,
      Nat.le_trans (pending_le_length _ c') (length_pool_le u r.generics)⟩
  | inner _ makes ih => exact makes.covered ih
  | later _ ih => exact ih

/-- The catalog of a call comes after the one from which the session starts. -/
theorem grows (made : MadeIn u markers ds c i) : Grows c i.catalog := by
  induction made with
  | outer asked => exact asked.grows (generate_grows u markers)
  | inner _ makes ih => exact ih.trans makes.grows
  | @later d ds c i _ ih =>
    refine Grows.trans ?_ ih
    rw [d.meet_eq_make]
    exact make_grows u markers d.asking c

/-- What a call has registered is registered at the end of the session. -/
theorem kept (made : MadeIn u markers ds c i) {name : String} {r : Request}
    (h : (i.run u markers).2.registry[name]? = some r) :
    (session u markers ds c).2.registry[name]? = some r := by
  induction made with
  | @outer d ds c c' q asked =>
    have hmeet : Grows (runFrom (generate u markers q.path q.generics) c').2
        (runFrom (d.meet u markers) c).2 := by
      rw [d.meet_eq_make]
      exact asked.grows_end (generate_grows u markers)
    rw [session_cons]
    exact (hmeet.trans (session_grows ds _)).registry name r h
  | inner _ makes ih => exact ih (makes.kept h)
  | later _ ih => exact ih h

end MadeIn

/-! ## The names of a session -/

/-- The catalogs of a session: those between two demands, and those before and after a call. -/
inductive Passes (u : Universe) (markers : Markers) (ds : List Demand) : Catalog → Prop
  | between {before after : List Demand} (h : ds = before ++ after) :
      Passes u markers ds (session u markers before {}).2
  | before {i : Invocation} (made : MadeIn u markers ds {} i) : Passes u markers ds i.catalog
  | after {i : Invocation} (made : MadeIn u markers ds {} i) :
      Passes u markers ds (i.run u markers).2

theorem Passes.grows {ds : List Demand} {c : Catalog} (h : Passes u markers ds c) :
    Grows {} c := by
  cases h with
  | between => exact session_grows _ _
  | before made => exact made.grows
  | after made => exact made.grows.trans (generateWithin_grows u markers _ _ _)

/-- What is registered once is registered at the end of the session. -/
theorem Passes.kept {ds : List Demand} {c : Catalog} (h : Passes u markers ds c) {name : String}
    {r : Request} (hr : c.registry[name]? = some r) :
    (session u markers ds {}).2.registry[name]? = some r := by
  cases h with
  | between h =>
    rw [h, session_append]
    exact (session_grows _ _).registry name r hr
  | before made =>
    exact made.kept ((generateWithin_grows u markers _ _ _).registry name r hr)
  | after made => exact made.kept hr

/-- What the names in a session stand for. -/
structure Unambiguous (u : Universe) (markers : Markers) (ds : List Demand) : Prop where
  /-- What is registered stays registered for the same request. -/
  kept : ∀ c, Passes u markers ds c → ∀ (name : String) (r : Request),
    c.registry[name]? = some r → (session u markers ds {}).2.registry[name]? = some r
  /-- No call takes anything away. -/
  kept_call : ∀ i, MadeIn u markers ds {} i → ∀ (name : String) (r : Request),
    i.catalog.registry[name]? = some r → (i.run u markers).2.registry[name]? = some r
  /-- A name belongs to what it is registered for. -/
  named : ∀ c, Passes u markers ds c → ∀ (name : String) (r : Request),
    c.registry[name]? = some r → name = schemaName r.path r.generics
  /-- Only registered names have schemas. -/
  keys : ∀ c, Passes u markers ds c → ∀ name ∈ c.schemas, name ∈ c.registry
  /-- Calls that give the same name were made for the same request. -/
  unique : ∀ i j, MadeIn u markers ds {} i → MadeIn u markers ds {} j →
    ∀ name c c', i.run u markers = (.ok name, c) → j.run u markers = (.ok name, c') →
      i.request = j.request
  /-- A call for a class is refused, and does nothing, if its name stands for another request. -/
  refused : ∀ (i : Invocation) (record : ClassRecord) (existing : Request),
    u.find? i.request.path = some record →
    i.catalog.registry[schemaName i.request.path i.request.generics]? = some existing →
    existing ≠ i.request →
    i.run u markers = (.error (.schemaNameCollision
      (schemaName i.request.path i.request.generics) existing.path i.request.path), i.catalog)

/-- **No name stands for two types**, in a session with any demands, met or not. -/
theorem names_unambiguous (u : Universe) (markers : Markers) (ds : List Demand) :
    Unambiguous u markers ds := by
  constructor
  case kept => exact fun c h name r hr => h.kept hr
  case kept_call =>
    exact fun i _ name r hr => (generateWithin_grows u markers _ _ _).registry name r hr
  case named =>
    intro c h name r hr
    rcases h.grows.named name r hr with hempty | hname
    · simp at hempty
    · exact hname
  case keys =>
    intro c h name hname
    rcases h.grows.keys name hname with hempty | hregistered
    · simp at hempty
    · exact hregistered
  case unique =>
    intro i j hi hj name c c' hruni hrunj
    have hkept {k : Invocation} (hk : MadeIn u markers ds {} k) {c : Catalog}
        (hrun : k.run u markers = (.ok name, c)) :
        (session u markers ds {}).2.registry[name]? = some k.request := by
      refine hk.kept ?_
      rw [hrun]
      exact hk.covered.registered hrun
    have hi' := hkept hi hruni
    rw [hkept hj hrunj] at hi'
    exact (Option.some.inj hi').symm
  case refused =>
    intro i record existing found registered other
    change i.catalog.registry[i.request.name]? = some existing at registered
    rw [Invocation.run, runFrom_generateWithin found, registered]
    simp only [if_neg other]
    rfl

end ApiSurface.Schema
