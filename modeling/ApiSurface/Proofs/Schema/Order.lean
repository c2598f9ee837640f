import ApiSurface.Proofs.Schema.Session

/-!
# The order of demands

A session that succeeds registers the requests that its demands lead to, and nothing else: which
ones these are is a matter of the classes and not of the order in which they are come to. They are
consistent, that is, their schemas can all be made and no two of them have one name, and on
consistent requests no session fails.

Main definitions: `Consistent`, `Settles`. Main statement: `session_perm`.
-/
namespace ApiSurface.Schema
open Requesting

/-- Requests that can all be met: their schemas can be made, they lead to each other only, and no
two of them have one name. -/
structure Consistent (u : Universe) (markers : Markers) (kind : Request → Prop) : Prop where
  makes : ∀ r, kind r → ∃ record schema, u.find? r.path = some record ∧
    (recordSchema u markers record r.generics).outcome = .ok schema
  leads : ∀ r record, kind r → u.find? r.path = some record →
    ∀ q ∈ (recordSchema u markers record r.generics).requests, kind q
  named : ∀ r q, kind r → kind q → r.name = q.name → r = q

/-- All names are registered for requests of a kind, and are their own. -/
def Catalog.Within (c : Catalog) (kind : Request → Prop) : Prop :=
  ∀ (name : String) (r : Request), c.registry[name]? = some r → kind r ∧ name = r.name

variable {u : Universe} {markers : Markers}

theorem Catalog.Within.register {c : Catalog} {kind : Request → Prop} {r : Request}
    (h : c.Within kind) (hr : kind r) : (c.register r.name r).Within kind := by
  intro name q hq
  rcases of_registry_register hq with hq | ⟨rfl, rfl⟩
  · exact h name q hq
  · exact ⟨hr, rfl⟩

/-- On consistent requests a run succeeds, and it registers no others. -/
theorem Answers.within {kind : Request → Prop} (consistent : Consistent u markers kind)
    {rs : List Request} {c c' : Catalog} {outcome : Except Fault Unit}
    (run : Answers u markers rs c outcome c') (hrs : ∀ r ∈ rs, kind r) (hc : c.Within kind) :
    outcome = .ok () ∧ c'.Within kind := by
  induction run with
  | done => exact ⟨rfl, hc⟩
  | missing absent =>
    obtain ⟨record, -, found, -⟩ := consistent.makes _ (hrs _ List.mem_cons_self)
    rw [Universe.lookup_eq_ok.mpr found] at absent
    cases absent
  | known _ _ _ ih => exact ih (List.forall_mem_cons.mp hrs).2 hc
  | collision found registered other =>
    obtain ⟨hexisting, hname⟩ := hc _ _ registered
    have heq := consistent.named _ _ hexisting (hrs _ List.mem_cons_self) hname.symm
    exact absurd heq other
  | stopped found fresh _ ih =>
    have hr := hrs _ List.mem_cons_self
    have hbody := ih (consistent.leads _ _ hr found) (hc.register hr)
    cases hbody.1
  | unmade found fresh _ failed _ =>
    obtain ⟨record, schema, hfound, success⟩ := consistent.makes _ (hrs _ List.mem_cons_self)
    rw [found] at hfound
    cases hfound
    rw [failed] at success
    cases success
  | made found fresh _ _ _ ihbody ihrest =>
    have hr := hrs _ List.mem_cons_self
    have hbody := ihbody (consistent.leads _ _ hr found) (hc.register hr)
    exact ihrest (List.forall_mem_cons.mp hrs).2 hbody.2

/-- On consistent requests a session succeeds, and it registers no others. -/
theorem session_within {kind : Request → Prop} (consistent : Consistent u markers kind)
    {ds : List Demand} {c : Catalog} (hrequests : ∀ r ∈ demanded ds, kind r)
    (houtcomes : ∀ d ∈ ds, ∃ a, d.asking.outcome = .ok a) (hc : c.Within kind) :
    Succeeds (session u markers ds c).1 ∧ (session u markers ds c).2.Within kind := by
  induction ds generalizing c with
  | nil => exact ⟨fun _ h => (List.not_mem_nil h).elim, hc⟩
  | cons d ds ih =>
    rw [session_cons, d.meet_eq_make]
    obtain ⟨outcome, c₁, run, hrun⟩ := make_answers u markers d.asking c
    obtain ⟨rfl, hc₁⟩ := run.within consistent
      (fun r hr => hrequests r (List.mem_append_left _ hr)) hc
    obtain ⟨a, ha⟩ := houtcomes d List.mem_cons_self
    rw [hrun, ok_bind, ha]
    obtain ⟨hsucceeds, hwithin⟩ := ih (fun r hr => hrequests r (List.mem_append_right _ hr))
      (fun e he => houtcomes e (List.mem_cons_of_mem _ he)) hc₁
    exact ⟨List.forall_mem_cons.mpr ⟨⟨a, rfl⟩, hsucceeds⟩, hwithin⟩

/-! ## What a run that succeeds has settled -/

/-- The schema of a request has been made, and what it leads to is registered. -/
def Settled (u : Universe) (markers : Markers) (c : Catalog) (r : Request) : Prop :=
  ∃ record schema, u.find? r.path = some record ∧
    (recordSchema u markers record r.generics).outcome = .ok schema ∧
    c.schemas[r.name]? = some schema ∧
    ∀ q ∈ (recordSchema u markers record r.generics).requests, c.registry[q.name]? = some q

/-- A run has answered its requests and settled those that it has registered. -/
structure Settles (u : Universe) (markers : Markers) (rs : List Request) (c c' : Catalog) :
    Prop where
  answered : ∀ r ∈ rs, c'.registry[r.name]? = some r
  settled : ∀ r : Request, c'.registry[r.name]? = some r →
    c.registry[r.name]? = some r ∨ Settled u markers c' r

/-- What is settled stays settled. -/
theorem Settled.mono {c c' : Catalog} {r : Request} (h : Settled u markers c r)
    (registered : c.registry[r.name]? = some r) (grows : Grows c c') : Settled u markers c' r := by
  obtain ⟨record, schema, found, success, hschema, hasked⟩ := h
  refine ⟨record, schema, found, success, ?_, fun q hq => grows.registry _ _ (hasked q hq)⟩
  rw [grows.schemas _ (mem_registry.mpr ⟨r, registered⟩), hschema]

/-- The schema of another name does not matter. -/
theorem Settled.finish {c : Catalog} {r : Request} (h : Settled u markers c r) {name : String}
    (hne : name ≠ r.name) (path : String) (schema : Schema) :
    Settled u markers (c.finish name path schema) r := by
  obtain ⟨record, own, found, success, hschema, hasked⟩ := h
  refine ⟨record, own, found, success, ?_, hasked⟩
  simpa [Catalog.finish, Std.ExtTreeMap.getElem?_insert, hne] using hschema

/-- A run lets a catalog grow. -/
theorem Answers.grows {rs : List Request} {c c' : Catalog} {outcome : Except Fault Unit}
    (run : Answers u markers rs c outcome c') : Grows c c' := by
  induction run with
  | done => exact .refl _
  | missing => exact .refl _
  | known _ _ _ ih => exact ih
  | collision => exact .refl _
  | stopped _ fresh _ ih => exact (Grows.register fresh).trans ih
  | unmade _ fresh _ _ ih => exact (Grows.register fresh).trans ih
  | made _ fresh _ _ _ ihbody ihrest => exact (Grows.finish fresh ihbody _).trans ihrest

namespace Settles

theorem nil {c : Catalog} : Settles u markers [] c c where
  answered := fun _ h => (List.not_mem_nil h).elim
  settled := fun _ h => .inl h

theorem known {r : Request} {rs : List Request} {c c' : Catalog} (grows : Grows c c')
    (registered : c.registry[r.name]? = some r) (rest : Settles u markers rs c c') :
    Settles u markers (r :: rs) c c' where
  answered := List.forall_mem_cons.mpr ⟨grows.registry _ _ registered, rest.answered⟩
  settled := rest.settled

/-- A name is registered, its requests are settled, and then it gets its schema. -/
theorem made {r : Request} {rs : List Request} {c c₁ c' : Catalog} {record : ClassRecord}
    {schema : Schema} (found : u.find? r.path = some record)
    (success : (recordSchema u markers record r.generics).outcome = .ok schema)
    (body : Settles u markers (recordSchema u markers record r.generics).requests
      (c.register r.name r) c₁) (inner : Grows (c.register r.name r) c₁)
    (rest : Settles u markers rs (c₁.finish r.name r.path schema) c')
    (outer : Grows (c₁.finish r.name r.path schema) c') : Settles u markers (r :: rs) c c' := by
  have hself : (c₁.finish r.name r.path schema).registry[r.name]? = some r :=
    inner.registry _ _ (by simp [Catalog.register])
  have hsettled : Settled u markers (c₁.finish r.name r.path schema) r :=
    ⟨record, schema, found, success, by simp [Catalog.finish], body.answered⟩
  constructor
  case answered => exact List.forall_mem_cons.mpr ⟨outer.registry _ _ hself, rest.answered⟩
  case settled =>
    intro q hq
    rcases rest.settled q hq with hq₁ | hq₁
    · by_cases heq : r.name = q.name
      · -- The name is the own one, so it stands for the request itself.
        rw [← heq, hself] at hq₁
        cases hq₁
        exact .inr (hsettled.mono hself outer)
      · rcases body.settled q hq₁ with hold | hnew
        · refine .inl ?_
          simpa [Catalog.register, Std.ExtTreeMap.getElem?_insert, heq] using hold
        · exact .inr ((hnew.finish heq _ _).mono hq₁ outer)
    · exact .inr hq₁

end Settles

/-- A run that succeeds settles all that it registers. -/
theorem Answers.settles {rs : List Request} {c c' : Catalog} {outcome : Except Fault Unit}
    (run : Answers u markers rs c outcome c') (h : outcome = .ok ()) :
    Settles u markers rs c c' := by
  induction run with
  | done => exact .nil
  | missing => cases h
  | known _ registered rest ih => exact .known rest.grows registered (ih h)
  | collision => cases h
  | stopped => cases h
  | unmade => cases h
  | made found _ body success rest ihbody ihrest =>
    exact .made found success (ihbody rfl) body.grows (ihrest h) rest.grows

/-! ## Sessions in another order -/

/-- The request is registered under its own name. -/
def Catalog.Holds (c : Catalog) (r : Request) : Prop := c.registry[r.name]? = some r

/-- A catalog that a session has made from nothing, without a failure. -/
structure Complete (u : Universe) (markers : Markers) (c : Catalog) : Prop where
  grows : Grows {} c
  settled : ∀ r, c.Holds r → Settled u markers c r

namespace Complete

theorem of_settles {rs : List Request} {c : Catalog} (h : Settles u markers rs {} c)
    (grows : Grows {} c) : Complete u markers c where
  grows := grows
  settled := by
    intro r hr
    rcases h.settled r hr with hempty | hsettled
    · simp at hempty
    · exact hsettled

theorem name_eq {c : Catalog} (h : Complete u markers c) {name : String} {r : Request}
    (hr : c.registry[name]? = some r) : name = r.name := by
  rcases h.grows.named name r hr with hempty | hname
  · simp at hempty
  · exact hname

/-- What is registered in a complete catalog is consistent. -/
theorem consistent {c : Catalog} (h : Complete u markers c) : Consistent u markers c.Holds := by
  constructor
  case makes =>
    intro r hr
    obtain ⟨record, schema, found, success, -⟩ := h.settled r hr
    exact ⟨record, schema, found, success⟩
  case leads =>
    intro r record hr found q hq
    obtain ⟨other, -, hother, -, -, hasked⟩ := h.settled r hr
    rw [found] at hother
    cases hother
    exact hasked q hq
  case named =>
    intro r q hr hq heq
    unfold Catalog.Holds at hr hq
    rw [heq, hq] at hr
    exact (Option.some.inj hr).symm

/-- A name that is not registered has no schema. -/
theorem schema_eq_none {c : Catalog} (h : Complete u markers c) {name : String}
    (hname : c.registry[name]? = none) : c.schemas[name]? = none := by
  by_contra hne
  have hmem : name ∈ c.schemas :=
    Std.ExtTreeMap.mem_iff_isSome_getElem?.mpr (Option.isSome_iff_ne_none.mpr hne)
  rcases h.grows.keys name hmem with hempty | hregistered
  · simp at hempty
  · obtain ⟨r, hr⟩ := mem_registry.mp hregistered
    rw [hname] at hr
    cases hr

/-- The schemas of a complete catalog are those of the requests that it has registered. -/
theorem schemas_eq {c c' : Catalog} (h : Complete u markers c) (h' : Complete u markers c')
    (hregistry : c.registry = c'.registry) : c.schemas = c'.schemas := by
  refine Std.ExtTreeMap.ext_getElem? fun name => ?_
  cases hname : c.registry[name]? with
  | none => rw [h.schema_eq_none hname, h'.schema_eq_none (hregistry ▸ hname)]
  | some r =>
    obtain rfl := h.name_eq hname
    have hname' : c'.Holds r := by
      rw [Catalog.Holds, ← hregistry]
      exact hname
    obtain ⟨record, schema, found, success, hschema, -⟩ := h.settled r hname
    obtain ⟨other, schema', found', success', hschema', -⟩ := h'.settled r hname'
    rw [found] at found'
    cases found'
    rw [success] at success'
    cases success'
    rw [hschema, hschema']

end Complete

/-- What a session from nothing leaves behind if it succeeds. -/
theorem complete_of_succeeds {ds : List Demand} (h : Succeeds (session u markers ds {}).1) :
    Complete u markers (session u markers ds {}).2 ∧
      (∀ r ∈ demanded ds, (session u markers ds {}).2.Holds r) ∧
      ∀ d ∈ ds, ∃ a, d.asking.outcome = .ok a := by
  obtain ⟨run, hreplies⟩ := session_answers h
  have hsettles := run.settles rfl
  refine ⟨.of_settles hsettles run.grows, hsettles.answered, fun d hd => ?_⟩
  exact h _ (hreplies ▸ List.mem_map_of_mem hd)

/-- A session succeeds if one with the same demands does, and it registers nothing else. -/
theorem succeeds_of_perm {ds ds' : List Demand} (hperm : ds.Perm ds')
    (h : Succeeds (session u markers ds {}).1) :
    Succeeds (session u markers ds' {}).1 ∧
      (session u markers ds' {}).2.Within (session u markers ds {}).2.Holds := by
  obtain ⟨hcomplete, hdemanded, houtcomes⟩ := complete_of_succeeds h
  refine session_within hcomplete.consistent (fun r hr => hdemanded r ?_)
    (fun d hd => houtcomes d (hperm.mem_iff.mpr hd)) (fun name r hr => ?_)
  · exact (hperm.flatMap_right _).mem_iff.mpr hr
  · simp at hr

/-- **The order of demands does not matter.** A session succeeds exactly when one with the demands
in another order does, each demand is met with the same reply, and the schemas are the same. -/
theorem session_perm {ds ds' : List Demand} (hperm : ds.Perm ds') :
    (Succeeds (session u markers ds {}).1 ↔ Succeeds (session u markers ds' {}).1) ∧
      (Succeeds (session u markers ds {}).1 →
        (∃ reply : Demand → Reply,
          (session u markers ds {}).1 = ds.map (fun d => .ok (reply d)) ∧
          (session u markers ds' {}).1 = ds'.map (fun d => .ok (reply d))) ∧
        (session u markers ds {}).2.schemas = (session u markers ds' {}).2.schemas) := by
  refine ⟨⟨fun h => (succeeds_of_perm hperm h).1, fun h => (succeeds_of_perm hperm.symm h).1⟩, ?_⟩
  intro h
  obtain ⟨h', hwithin'⟩ := succeeds_of_perm hperm h
  obtain ⟨-, hwithin⟩ := succeeds_of_perm hperm.symm h'
  obtain ⟨hcomplete, -, houtcomes⟩ := complete_of_succeeds h
  obtain ⟨hcomplete', -, -⟩ := complete_of_succeeds h'
  constructor
  · have : Nonempty Reply := ⟨.name ""⟩
    choose! reply hreply using houtcomes
    refine ⟨reply, ?_, ?_⟩
    · rw [(session_answers h).2]
      exact List.map_congr_left hreply
    · rw [(session_answers h').2]
      exact List.map_congr_left fun d hd => hreply d (hperm.mem_iff.mpr hd)
  · refine hcomplete.schemas_eq hcomplete' (Std.ExtTreeMap.ext_getElem? fun name => ?_)
    refine Option.ext fun r => ⟨fun hr => ?_, fun hr => ?_⟩
    · obtain ⟨hheld, rfl⟩ := hwithin name r hr
      exact hheld
    · obtain ⟨hheld, rfl⟩ := hwithin' name r hr
      exact hheld

/-! ## Two classes that refer to each other -/

/-- A class and the one that it refers to, which refers back to it. -/
def familyRecords : List ClassRecord :=
  [.ofClass { name := "p/Parent", fields := [{ name := "child", descriptor := "Lp/Child;" }] },
    .ofClass { name := "p/Child", fields := [{ name := "parent", descriptor := "Lp/Parent;" }] }]

/-- The universe of the sample. -/
def family : Universe :=
  (Universe.ofRecords familyRecords {}).toOption.get (by decide +kernel)

/-- The demands of the sample. -/
def familyDemands : List Demand :=
  [.nameOf "p/Parent" [], .schemaOf (.array (.object "p/Child" []))]

/-- The demands of the sample are met in either order, which class is come to first or not. -/
theorem session_perm_family :
    familyDemands.Perm familyDemands.reverse ∧
      Succeeds (session family {} familyDemands {}).1 ∧
      Succeeds (session family {} familyDemands.reverse {}).1 ∧
      (session family {} familyDemands {}).2.schemas.keys = ["Child", "Parent"] ∧
      (session family {} familyDemands {}).2.schemas =
        (session family {} familyDemands.reverse {}).2.schemas := by
  have hperm : familyDemands.Perm familyDemands.reverse := familyDemands.reverse_perm.symm
  have hsucceeds : Succeeds (session family {} familyDemands {}).1 := by decide +kernel
  obtain ⟨hiff, hsame⟩ := @session_perm family {} _ _ hperm
  exact ⟨hperm, hsucceeds, hiff.mp hsucceeds, by decide +kernel, (hsame hsucceeds).2⟩

end ApiSurface.Schema
