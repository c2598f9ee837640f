import ApiSurface.Proofs.OpenApi.Operations
import Mathlib.Data.List.Nodup

/-!
# Why a component is there

A schema is in a document because an operation that has been made refers to it, directly or through
other schemas. The operation need not be in the document: that of a second endpoint of a path and a
verb is made and dropped, and its schemas stay.

Main definitions: `Document.Reaches`, `Dropped`. Main statement: `component_reached`.
-/
namespace ApiSurface.OpenApi
open Schema Requesting

/-- The operation refers to the name, or a schema of the document does whose name is reached
itself. -/
inductive Document.Reaches (d : Document) (o : Operation) : String → Prop
  | direct {name : String} (refers : referenceTo name ∈ o.toJson.referenceTexts) : Reaches d o name
  | through {name next : String} {schema : Schema} (reached : Reaches d o name)
      (found : d.schemas[name]? = some schema)
      (refers : referenceTo next ∈ schema.toJson.referenceTexts) : Reaches d o next

/-- An operation of the document reaches the name. -/
def Document.ReachedFromPaths (d : Document) (name : String) : Prop :=
  ∃ path verb o, d.operation? path verb = some o ∧ d.Reaches o name

/-- The endpoint is not the first of its path and verb. -/
def Dropped (endpoints : List Endpoint) (e : Endpoint) : Prop :=
  e ∈ endpoints ∧ ∃ kept, endpoints.find? (·.isAt e.path e.verb) = some kept ∧ kept ≠ e

variable {u : Universe} {markers : Markers} {settings : Settings} {endpoints : List Endpoint}
  {e : Endpoint} {o : Operation} {d : Document} {c : Catalog} {events events' : List Event}

/-- An endpoint is the first of its path and verb, or it is dropped. -/
theorem find?_eq_some_or_dropped (he : e ∈ endpoints) :
    endpoints.find? (·.isAt e.path e.verb) = some e ∨ Dropped endpoints e := by
  obtain ⟨kept, hkept⟩ := exists_first he ⟨rfl, rfl⟩
  by_cases heq : kept = e
  · exact .inl (heq ▸ hkept)
  · exact .inr ⟨he, kept, hkept, heq⟩

/-- No endpoint is dropped if each has a path and verb of its own. -/
theorem not_dropped (distinct : (endpoints.map fun e => (e.path, e.verb)).Nodup) :
    ¬ Dropped endpoints e := by
  rintro ⟨he, kept, hkept, hne⟩
  obtain ⟨hpath, hverb⟩ := Endpoint.isAt_iff.mp (List.find?_some hkept)
  refine hne (List.inj_on_of_nodup_map distinct (List.mem_of_find?_eq_some hkept) he ?_)
  rw [hpath, hverb]

/-! ## From requests to references -/

/-- What the endpoints lead to, one of them leads to. -/
theorem exists_reached {r : Request} (hr : Reached u markers (endpointRequests u endpoints) r) :
    ∃ e ∈ endpoints, Reached u markers (operationOf u e).requests r := by
  induction hr with
  | asked mem =>
    obtain ⟨e, he, hr⟩ := List.mem_flatMap.mp mem
    exact ⟨e, he, .asked hr⟩
  | led _ found mem ih =>
    obtain ⟨e, he, hr⟩ := ih
    exact ⟨e, he, hr.led found mem⟩

/-- The names of what the requests of an operation lead to are reached from it. -/
theorem reaches_of_reached (complete : Complete u markers c) (hschemas : d.schemas = c.schemas)
    (hmade : (operationOf u e).outcome = .ok o)
    (hheld : ∀ r ∈ (operationOf u e).requests, c.Holds r) {r : Request}
    (hr : Reached u markers (operationOf u e).requests r) : d.Reaches o r.name := by
  induction hr with
  | asked mem =>
    have hname := (operationOf_refers u e o hmade _).mpr (List.mem_map_of_mem mem)
    exact .direct (mem_referenceTexts_operation.mpr ⟨_, hname, rfl⟩)
  | led reached found mem ih =>
    obtain ⟨record, schema, hfound, success, hschema, -⟩ :=
      complete.settled _ (complete.holds_of_reached hheld reached)
    rw [found] at hfound
    cases hfound
    have hname := (recordSchema_refers _ _ _ _ _ success _).mpr (List.mem_map_of_mem mem)
    refine .through ih (hschemas ▸ hschema) ?_
    exact schema.mem_referenceTexts_toJson.mpr ⟨_, hname, rfl⟩

/-- Every schema of a document is reached from the operation of an endpoint. -/
theorem exists_reaches
    (h : runFrom (assemble u settings endpoints) events = (.ok d, events')) {name : String}
    (hname : name ∈ d.schemas) :
    ∃ e ∈ endpoints, ∃ o, freshOperation u settings.markers e = .ok o ∧ d.Reaches o name := by
  obtain ⟨c, hadd, hschemas⟩ := assemble_eq_ok h
  have adds := addOperations_adds .empty hadd
  have hregistered : name ∈ c.registry := by
    rcases adds.grows.keys name (hschemas ▸ hname) with hempty | hregistered
    · simp at hempty
    · exact hregistered
  obtain ⟨r, hr⟩ := mem_registry.mp hregistered
  obtain ⟨hreached, rfl⟩ := addOperations_within hadd name r hr
  obtain ⟨e, he, hreached⟩ := exists_reached hreached
  obtain ⟨o, ho⟩ := adds.made e he
  exact ⟨e, he, o, adds.fresh he ho,
    reaches_of_reached adds.complete hschemas ho (adds.held e he) hreached⟩

/-- **Every component is reached from an operation.** That is one of the document, or else the one
of an endpoint that is dropped because another of its path and verb comes before it. -/
theorem component_reached
    (h : runFrom (assemble u settings endpoints) events = (.ok d, events')) :
    (∀ name ∈ d.schemas, d.ReachedFromPaths name ∨
      ∃ e o, Dropped endpoints e ∧ freshOperation u settings.markers e = .ok o ∧
        d.Reaches o name) ∧
    ((endpoints.map fun e => (e.path, e.verb)).Nodup →
      ∀ name ∈ d.schemas, d.ReachedFromPaths name) := by
  obtain ⟨c, hadd, -⟩ := assemble_eq_ok h
  have keeps := (addOperations_adds .empty hadd).keepsFirst
  have hall : ∀ name ∈ d.schemas, d.ReachedFromPaths name ∨
      ∃ e o, Dropped endpoints e ∧ freshOperation u settings.markers e = .ok o ∧
        d.Reaches o name := by
    intro name hname
    obtain ⟨e, he, o, ho, hreaches⟩ := exists_reaches h hname
    rcases find?_eq_some_or_dropped he with hfirst | hdropped
    · obtain ⟨kept, hkept, hat⟩ := keeps.first _ _ e hfirst
      rw [ho] at hkept
      cases hkept
      exact .inl ⟨e.path, e.verb, o, hat, hreaches⟩
    · exact .inr ⟨e, o, hdropped, ho, hreaches⟩
  refine ⟨hall, fun distinct name hname => ?_⟩
  rcases hall name hname with hreached | ⟨e, o, hdropped, -⟩
  · exact hreached
  · exact absurd hdropped (not_dropped distinct)

/-! ## A dropped endpoint -/

/-- Two endpoints of one path and verb. The second returns the class that refers to that of the
first. -/
def basketEndpoints : List Endpoint :=
  [wareEndpoint .get "ware" "p/Ware", wareEndpoint .get "basket" "p/Basket"]

/-- The document of the sample. -/
def basketDocument : Document :=
  (runFrom (assemble wares {} basketEndpoints) []).1.toOption.get (by decide +kernel)

theorem runFrom_assemble_baskets : ∃ events,
    runFrom (assemble wares {} basketEndpoints) [] = (.ok basketDocument, events) :=
  ⟨_, Prod.ext (toOption_eq_some.mp (Option.some_get _).symm) rfl⟩

/-- The schema of the second endpoint of the sample is in the document, but none of its operations
reaches it. -/
theorem component_unreached :
    (∃ events, runFrom (assemble wares {} basketEndpoints) [] = (.ok basketDocument, events)) ∧
      "Basket" ∈ basketDocument.schemas ∧ ¬ basketDocument.ReachedFromPaths "Basket" := by
  refine ⟨runFrom_assemble_baskets, by decide +kernel, ?_⟩
  rintro ⟨path, verb, o, hat, hreaches⟩
  obtain ⟨item, hitem, ho⟩ := Option.bind_eq_some_iff.mp hat
  have hoperation : o ∈ basketDocument.operations := mem_operations.mpr ⟨path, item, verb, hitem, ho⟩
  -- All that operations and schemas refer to is the class of the first endpoint.
  have hoperations : ∀ o ∈ basketDocument.operations,
      ∀ text ∈ o.toJson.referenceTexts, text = referenceTo "Ware" := by decide +kernel
  have hschemas : ∀ entry ∈ basketDocument.schemas.toList,
      ∀ text ∈ entry.2.toJson.referenceTexts, text = referenceTo "Ware" := by decide +kernel
  have hware : referenceTo "Basket" = referenceTo "Ware" := by
    cases hreaches with
    | direct refers => exact hoperations o hoperation _ refers
    | through _ found refers =>
      exact hschemas _ (Std.ExtTreeMap.mem_toList_iff_getElem?_eq_some.mpr found) _ refers
  exact absurd hware (by decide +kernel)

/-- The schema is reached from the operation of the endpoint that is dropped. In the document of
that endpoint alone both schemas are reached from its paths. -/
theorem component_reached_baskets :
    (∃ events, runFrom (assemble wares {} basketEndpoints) [] = (.ok basketDocument, events) ∧
      basketDocument.schemas.keys = ["Basket", "Ware"] ∧
      ∀ name ∈ basketDocument.schemas, basketDocument.ReachedFromPaths name ∨
        ∃ e o, Dropped basketEndpoints e ∧ freshOperation wares {} e = .ok o ∧
          basketDocument.Reaches o name) ∧
    ∃ d events, runFrom (assemble wares {} basketEndpoints.tail) [] = (.ok d, events) ∧
      d.schemas.keys = ["Basket", "Ware"] ∧ ∀ name ∈ d.schemas, d.ReachedFromPaths name := by
  obtain ⟨events, hrun⟩ := runFrom_assemble_baskets
  refine ⟨⟨events, hrun, by decide +kernel, (component_reached hrun).1⟩, ?_⟩
  let run := runFrom (assemble wares {} basketEndpoints.tail) []
  let d := run.1.toOption.get (by decide +kernel)
  have hok : run.1 = .ok d := toOption_eq_some.mp (Option.some_get _).symm
  have hsingle : run = (.ok d, run.2) := Prod.ext hok rfl
  have distinct : (basketEndpoints.tail.map fun e => (e.path, e.verb)).Nodup := by decide
  exact ⟨d, run.2, hsingle, by decide +kernel, (component_reached hsingle).2 distinct⟩

end ApiSurface.OpenApi
