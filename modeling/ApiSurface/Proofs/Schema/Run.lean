import ApiSurface.Proofs.Schema.Bound

/-!
# Generation as a run

What a generator does is described here without the budget that ends its recursion. A run takes
requests from a catalog to an outcome and a catalog; a name that is registered is not taken up
again. Every computation that asks for names is a run of its requests, since the names that are not
registered yet never outnumber the budget.

Main definition: `Answers`. Main statements: `answers_askAll`, `make_answers`.
-/
namespace ApiSurface.Schema
open Requesting

/-- Answering requests from a catalog ends with this outcome and this catalog. -/
inductive Answers (u : Universe) (markers : Markers) :
    List Request → Catalog → Except Fault Unit → Catalog → Prop
  | done {c : Catalog} : Answers u markers [] c (.ok ()) c
  /-- There is no such class. -/
  | missing {r : Request} {rs : List Request} {c : Catalog} {fault : Fault}
      (absent : u.lookup r.path = .error fault) : Answers u markers (r :: rs) c (.error fault) c
  /-- The name is registered for the same request. -/
  | known {r : Request} {rs : List Request} {c c' : Catalog} {record : ClassRecord}
      {outcome : Except Fault Unit} (found : u.find? r.path = some record)
      (registered : c.registry[r.name]? = some r) (rest : Answers u markers rs c outcome c') :
      Answers u markers (r :: rs) c outcome c'
  /-- The name is registered for another request. -/
  | collision {r existing : Request} {rs : List Request} {c : Catalog} {record : ClassRecord}
      (found : u.find? r.path = some record) (registered : c.registry[r.name]? = some existing)
      (other : existing ≠ r) :
      Answers u markers (r :: rs) c (.error (.schemaNameCollision r.name existing.path r.path)) c
  /-- One of the requests of the class fails. -/
  | stopped {r : Request} {rs : List Request} {c c' : Catalog} {record : ClassRecord}
      {fault : Fault} (found : u.find? r.path = some record) (fresh : c.registry[r.name]? = none)
      (body : Answers u markers (recordSchema u markers record r.generics).requests
        (c.register r.name r) (.error fault) c') :
      Answers u markers (r :: rs) c (.error fault) c'
  /-- The requests of the class succeed, but its schema cannot be made. -/
  | unmade {r : Request} {rs : List Request} {c c' : Catalog} {record : ClassRecord}
      {fault : Fault} (found : u.find? r.path = some record) (fresh : c.registry[r.name]? = none)
      (body : Answers u markers (recordSchema u markers record r.generics).requests
        (c.register r.name r) (.ok ()) c')
      (failed : (recordSchema u markers record r.generics).outcome = .error fault) :
      Answers u markers (r :: rs) c (.error fault) c'
  /-- The schema of the class is made. -/
  | made {r : Request} {rs : List Request} {c c₁ c' : Catalog} {record : ClassRecord}
      {schema : Schema} {outcome : Except Fault Unit} (found : u.find? r.path = some record)
      (fresh : c.registry[r.name]? = none)
      (body : Answers u markers (recordSchema u markers record r.generics).requests
        (c.register r.name r) (.ok ()) c₁)
      (success : (recordSchema u markers record r.generics).outcome = .ok schema)
      (rest : Answers u markers rs (c₁.finish r.name r.path schema) outcome c') :
      Answers u markers (r :: rs) c outcome c'

variable {u : Universe} {markers : Markers}

/-! ## Runs one after the other -/

/-- A run of one request that succeeds goes on with the others. -/
theorem Answers.cons {r : Request} {rs : List Request} {c c₁ c' : Catalog}
    {outcome : Except Fault Unit} (first : Answers u markers [r] c (.ok ()) c₁)
    (rest : Answers u markers rs c₁ outcome c') : Answers u markers (r :: rs) c outcome c' := by
  cases first with
  | known found registered done =>
    cases done
    exact .known found registered rest
  | made found fresh body success done =>
    cases done
    exact .made found fresh body success rest

/-- A run of one request that fails ends there. -/
theorem Answers.cons_error {r : Request} {rs : List Request} {c c' : Catalog} {fault : Fault}
    (first : Answers u markers [r] c (.error fault) c') :
    Answers u markers (r :: rs) c (.error fault) c' := by
  cases first with
  | missing absent => exact .missing absent
  | known _ _ done => cases done
  | collision found registered other => exact .collision found registered other
  | stopped found fresh body => exact .stopped found fresh body
  | unmade found fresh body failed => exact .unmade found fresh body failed
  | made _ _ _ _ done => cases done

/-! ## Registering names -/

/-- A registered name keeps what it stands for when a name that is new is registered. -/
theorem registry_register {c : Catalog} {r q : Request} {name : String}
    (fresh : c.registry[q.name]? = none) (h : c.registry[name]? = some r) :
    (c.register q.name q).registry[name]? = some r := by
  have hne : q.name ≠ name := by
    rintro rfl
    simp [fresh] at h
  simpa [Catalog.register, Std.ExtTreeMap.getElem?_insert, hne] using h

/-- After a request has been registered a name stands for it or for what it did before. -/
theorem of_registry_register {c : Catalog} {r q : Request} {name : String}
    (h : (c.register r.name r).registry[name]? = some q) :
    c.registry[name]? = some q ∨ name = r.name ∧ q = r := by
  by_cases heq : r.name = name
  · subst heq
    simp only [Catalog.register, Std.ExtTreeMap.getElem?_insert_self, Option.some.injEq] at h
    exact .inr ⟨rfl, h.symm⟩
  · left
    simpa [Catalog.register, Std.ExtTreeMap.getElem?_insert, heq] using h

/-- A registered name is never registered for anything else. -/
theorem Answers.registry_mono {rs : List Request} {c c' : Catalog} {outcome : Except Fault Unit}
    (run : Answers u markers rs c outcome c') {name : String} {r : Request}
    (h : c.registry[name]? = some r) : c'.registry[name]? = some r := by
  induction run with
  | done => exact h
  | missing => exact h
  | known _ _ _ ih => exact ih h
  | collision => exact h
  | stopped _ fresh _ ih => exact ih (registry_register fresh h)
  | unmade _ fresh _ _ ih => exact ih (registry_register fresh h)
  | made _ fresh _ _ _ ihbody ihrest => exact ihrest (ihbody (registry_register fresh h))

/-! ## The names that are left -/

/-- How many requests have names that are not registered. -/
def pending (requests : List Request) (c : Catalog) : Nat :=
  (requests.filter fun r => (c.registry[r.name]?).isNone).length

theorem pending_le_length (requests : List Request) (c : Catalog) :
    pending requests c ≤ requests.length :=
  List.length_filter_le _ _

/-- The more names are registered, the fewer are left. -/
theorem pending_mono {requests : List Request} {c c' : Catalog}
    (h : ∀ {name : String} {r : Request},
      c.registry[name]? = some r → c'.registry[name]? = some r) :
    pending requests c' ≤ pending requests c := by
  refine (List.monotone_filter_right requests fun r hr => ?_).length_le
  cases hc : c.registry[r.name]? with
  | none => rfl
  | some existing => simp [h hc] at hr

/-- A fresh request that is registered is left no more. -/
theorem pending_register_lt {requests : List Request} {c : Catalog} {r : Request}
    (hr : r ∈ requests) (fresh : c.registry[r.name]? = none) :
    pending requests (c.register r.name r) < pending requests c := by
  have hfilter : (requests.filter fun q => ((c.register r.name r).registry[q.name]?).isNone) =
      (requests.filter fun q => (c.registry[q.name]?).isNone).filter fun q =>
        ¬ r.name = q.name := by
    rw [List.filter_filter]
    refine List.filter_congr fun q _ => ?_
    by_cases h : r.name = q.name <;> simp [Catalog.register, Std.ExtTreeMap.getElem?_insert, h]
  unfold pending
  rw [hfilter, List.length_filter_lt_length_iff_exists]
  exact ⟨r, List.mem_filter.mpr ⟨hr, by simp [fresh]⟩, by simp⟩

/-! ## Computations as runs -/

/-- Answer requests one after the other. -/
def askAll (generate : Request → Generating String) : List Request → Generating Unit
  | [] => pure ()
  | r :: rs => do
    let _ ← generate r
    askAll generate rs

theorem runFrom_askAll_cons (generate : Request → Generating String) (r : Request)
    (rs : List Request) (c : Catalog) :
    runFrom (askAll generate (r :: rs)) c =
      proceed (runFrom (generate r) c) fun _ c' => runFrom (askAll generate rs) c' := by
  rw [askAll, runFrom_bind]

theorem runFrom_askAll_append (generate : Request → Generating String) (rs more : List Request)
    (c : Catalog) :
    runFrom (askAll generate (rs ++ more)) c =
      proceed (runFrom (askAll generate rs) c) fun _ c' => runFrom (askAll generate more) c' := by
  induction rs generalizing c with
  | nil => rfl
  | cons r rs ih =>
    rw [List.cons_append, runFrom_askAll_cons, runFrom_askAll_cons]
    rcases runFrom (generate r) c with ⟨_ | _, c'⟩
    · rfl
    · exact ih c'

/-- Requests are answered with their names. -/
def ByName (generate : Request → Generating String) : Prop :=
  ∀ r c name c', runFrom (generate r) c = (.ok name, c') → name = r.name

/-- A computation answers its requests and then ends as it does. -/
theorem runFrom_answer {α : Type} {generate : Request → Generating String} (h : ByName generate)
    (x : Requesting α) (c : Catalog) :
    runFrom (answer generate x) c =
      proceed (runFrom (askAll generate x.requests) c) fun _ c' => (x.outcome, c') := by
  induction x generalizing c with
  | done a => rfl
  | fail fault => rfl
  | ask r next ih =>
    rw [answer, runFrom_bind, requests, runFrom_askAll_cons]
    cases hrun : runFrom (generate r) c with
    | mk result c' =>
      cases result with
      | error fault => rfl
      | ok name =>
        obtain rfl := h r c name c' hrun
        exact ih r.name c'

/-! ## Generators -/

theorem runFrom_ofExcept {α : Type} (result : Except Fault α) (c : Catalog) :
    runFrom (Schema.ofExcept result) c = (result, c) := rfl

/-- What a generator does for a class of the universe. -/
theorem runFrom_generateWithin {budget : Nat} {r : Request} {c : Catalog} {record : ClassRecord}
    (found : u.find? r.path = some record) :
    runFrom (generateWithin u markers budget r) c =
      match c.registry[r.name]? with
      | some existing =>
        if existing = r then (.ok r.name, c)
        else (.error (.schemaNameCollision r.name existing.path r.path), c)
      | none => match budget with
        | 0 => (.ok r.name, c)
        | budget + 1 =>
          proceed (runFrom (answer (generateWithin u markers budget)
            (recordSchema u markers record r.generics)) (c.register r.name r)) fun schema c' =>
              (.ok r.name, c'.finish r.name r.path schema) := by
  have hname : schemaName record.path r.generics = r.name := by
    rw [Universe.path_of_find? found, Request.name]
  unfold generateWithin
  simp only [runFrom_bind, runFrom_ofExcept, Universe.lookup_eq_ok.mpr found, proceed_ok,
    runFrom_get, hname]
  cases c.registry[r.name]? with
  | some existing => by_cases h : existing = r <;> simp [h]
  | none => cases budget <;> simp [runFrom_bind, runFrom_map]

theorem runFrom_generateWithin_missing {budget : Nat} {r : Request} {c : Catalog} {fault : Fault}
    (absent : u.lookup r.path = .error fault) :
    runFrom (generateWithin u markers budget r) c = (.error fault, c) := by
  unfold generateWithin
  simp only [runFrom_bind, runFrom_ofExcept, absent, proceed_error]

theorem generateWithin_byName (u : Universe) (markers : Markers) (budget : Nat) :
    ByName (generateWithin u markers budget) := by
  intro r c name c' h
  cases hl : u.lookup r.path with
  | error fault =>
    rw [runFrom_generateWithin_missing hl] at h
    cases h
  | ok record =>
    rw [runFrom_generateWithin (Universe.lookup_eq_ok.mp hl)] at h
    split at h
    · split at h <;> cases h
      rfl
    · split at h
      · cases h
        rfl
      · cases hrun : runFrom (answer (generateWithin u markers ‹Nat›)
          (recordSchema u markers record r.generics)) (c.register r.name r) with
        | mk result c₁ =>
          rw [hrun] at h
          cases result <;> cases h
          rfl

/-- What a generator does with a request is a run. -/
def Runs (u : Universe) (markers : Markers) (generate : Request → Generating String) (r : Request)
    (c : Catalog) : Prop :=
  Answers u markers [r] c ((runFrom (generate r) c).1.map fun _ => ()) (runFrom (generate r) c).2

/-- Answering requests is a run if answering each is one. `inv` is what each needs of the catalog
from which it is answered. -/
theorem answers_askAll {generate : Request → Generating String} (inv : Catalog → Prop)
    (keep : ∀ {c c' : Catalog}, inv c → (∀ {name : String} {r : Request},
      c.registry[name]? = some r → c'.registry[name]? = some r) → inv c')
    {rs : List Request} (each : ∀ r ∈ rs, ∀ c, inv c → Runs u markers generate r c) {c : Catalog}
    (h : inv c) :
    Answers u markers rs c (runFrom (askAll generate rs) c).1
      (runFrom (askAll generate rs) c).2 := by
  induction rs generalizing c with
  | nil => exact .done
  | cons r rs ih =>
    have first := each r List.mem_cons_self c h
    rw [runFrom_askAll_cons]
    unfold Runs at first
    cases hrun : runFrom (generate r) c with
    | mk result c₁ =>
      rw [hrun] at first
      cases result with
      | error fault => exact first.cons_error
      | ok name =>
        exact first.cons (ih (fun q hq => each q (List.mem_cons_of_mem _ hq))
          (keep h first.registry_mono))

/-- A class that is missing or a name that is registered needs no budget. -/
theorem runs_of_settled {budget : Nat} {r : Request} {c : Catalog}
    (h : ∀ record, u.find? r.path = some record → c.registry[r.name]? ≠ none) :
    Runs u markers (generateWithin u markers budget) r c := by
  unfold Runs
  cases hl : u.lookup r.path with
  | error fault =>
    rw [runFrom_generateWithin_missing hl]
    exact .missing hl
  | ok record =>
    have found := Universe.lookup_eq_ok.mp hl
    rw [runFrom_generateWithin found]
    cases registered : c.registry[r.name]? with
    | none => exact absurd registered (h record found)
    | some existing =>
      by_cases heq : existing = r
      · subst heq
        simpa [Except.map] using Answers.known found registered .done
      · simpa [heq, Except.map] using Answers.collision found registered heq

/-- A fresh name is registered, and its class is asked for what it needs. -/
theorem runs_of_fresh {budget : Nat} {r : Request} {c : Catalog} {record : ClassRecord}
    (found : u.find? r.path = some record) (fresh : c.registry[r.name]? = none)
    (body : Answers u markers (recordSchema u markers record r.generics).requests
      (c.register r.name r)
      (runFrom (askAll (generateWithin u markers budget)
        (recordSchema u markers record r.generics).requests) (c.register r.name r)).1
      (runFrom (askAll (generateWithin u markers budget)
        (recordSchema u markers record r.generics).requests) (c.register r.name r)).2) :
    Runs u markers (generateWithin u markers (budget + 1)) r c := by
  unfold Runs
  rw [runFrom_generateWithin found, fresh]
  simp only [runFrom_answer (generateWithin_byName u markers budget)]
  cases hrun : runFrom (askAll (generateWithin u markers budget)
    (recordSchema u markers record r.generics).requests) (c.register r.name r) with
  | mk result c₁ =>
    rw [hrun] at body
    cases result with
    | error fault => exact .stopped found fresh body
    | ok =>
      cases houtcome : (recordSchema u markers record r.generics).outcome with
      | error fault => exact .unmade found fresh body houtcome
      | ok schema => exact .made found fresh body houtcome .done

/-- Generating a bounded name is a run as long as the budget covers the names that are left. -/
theorem generateWithin_runs {generics : List String} (budget : Nat) (r : Request) (c : Catalog)
    (hb : Bounded u generics r.generics) (hp : pending (pool u generics) c ≤ budget) :
    Runs u markers (generateWithin u markers budget) r c := by
  induction budget generalizing r c with
  | zero =>
    refine runs_of_settled fun record found fresh => ?_
    have hlt := pending_register_lt (mem_pool found hb) fresh
    omega
  | succ budget ih =>
    by_cases h : ∃ record, u.find? r.path = some record ∧ c.registry[r.name]? = none
    · obtain ⟨record, found, fresh⟩ := h
      have hlt := pending_register_lt (mem_pool found hb) fresh
      refine runs_of_fresh found fresh ?_
      refine answers_askAll (fun c => pending (pool u generics) c ≤ budget) ?_ ?_ (by omega)
      · exact fun hle hkeep => Nat.le_trans (pending_mono hkeep) hle
      · exact fun q hq c hc => ih q c (recordSchema_bounded found hb q hq) hc
    · push Not at h
      exact runs_of_settled h

/-- The name of the schema that a request is for, made with the schemas that it leads to. -/
def nameFor (u : Universe) (markers : Markers) (r : Request) : Generating String :=
  generate u markers r.path r.generics

/-- A computation has its requests answered and then ends as it does. -/
theorem runFrom_make {α : Type} (x : Requesting α) (c : Catalog) :
    runFrom (make u markers x) c =
      proceed (runFrom (askAll (nameFor u markers) x.requests) c) fun _ c' => (x.outcome, c') :=
  runFrom_answer (fun r => generateWithin_byName u markers _ r) x c

/-- **Every computation that asks for names is a run of its requests**, and ends as it does when
they succeed. -/
theorem make_answers {α : Type} (u : Universe) (markers : Markers) (x : Requesting α)
    (c : Catalog) :
    ∃ outcome c', Answers u markers x.requests c outcome c' ∧
      runFrom (make u markers x) c = (outcome >>= fun _ => x.outcome, c') := by
  have hrun : Answers u markers x.requests c (runFrom (askAll (nameFor u markers) x.requests) c).1
      (runFrom (askAll (nameFor u markers) x.requests) c).2 := by
    refine answers_askAll (fun _ => True) (fun _ _ => trivial) (fun r _ c _ => ?_) trivial
    exact generateWithin_runs (nameBound u r.generics) r c .self
      (Nat.le_trans (pending_le_length _ c) (length_pool_le u r.generics))
  refine ⟨_, _, hrun, ?_⟩
  rw [runFrom_make]
  rcases runFrom (askAll (nameFor u markers) x.requests) c with ⟨_ | _, _⟩ <;> rfl

/-- A computation that succeeds has had all its requests answered. -/
theorem answers_of_make {α : Type} {x : Requesting α} {c c' : Catalog} {a : α}
    (h : runFrom (make u markers x) c = (.ok a, c')) :
    Answers u markers x.requests c (.ok ()) c' ∧ x.outcome = .ok a := by
  obtain ⟨outcome, c₁, run, hrun⟩ := make_answers u markers x c
  rw [h, Prod.mk.injEq] at hrun
  obtain ⟨houtcome, rfl⟩ := hrun
  obtain ⟨_, rfl, ha⟩ := bind_eq_ok.mp houtcome.symm
  exact ⟨run, ha⟩

/-- A computation that succeeds ends as it does when each request is answered with its name. -/
theorem runFrom_make_eq_ok {α : Type} {x : Requesting α} {a : α} {c : Catalog}
    (h : (runFrom (make u markers x) c).1.isOk) (hx : x.outcome = .ok a) :
    (runFrom (make u markers x) c).1 = .ok a := by
  obtain ⟨outcome, c', -, hrun⟩ := make_answers u markers x c
  rw [hrun] at h ⊢
  cases outcome with
  | error fault => cases h
  | ok => exact hx

end ApiSurface.Schema
