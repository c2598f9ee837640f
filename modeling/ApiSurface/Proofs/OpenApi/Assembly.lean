import ApiSurface.Proofs.OpenApi.References

/-!
# No reference dangles

While a document is assembled, the catalog is closed between two operations, and the operations that
are kept refer to registered names. So in the end every name in the document has a schema.

Main definition: `Registered`. Main statement: `references_defined`.
-/
namespace ApiSurface.OpenApi
open Schema

/-- The operations of paths refer to registered names. -/
def Registered (paths : Paths) (c : Catalog) : Prop :=
  ∀ (path : String) (item : PathItem) (verb : Verb) (o : Operation), paths[path]? = some item →
    item verb = some o → ∀ n ∈ o.references, n ∈ c.registry

namespace Registered

theorem empty (c : Catalog) : Registered {} c := by
  intro path item verb o h
  simp at h

/-- Names stay registered. -/
theorem mono {paths : Paths} {c c' : Catalog} (h : Registered paths c)
    (hkept : ∀ name ∈ c.registry, name ∈ c'.registry) : Registered paths c' :=
  fun path item verb o hitem ho n hn => hkept n (h path item verb o hitem ho n hn)

/-- An operation whose names are registered may be added. -/
theorem insert {paths : Paths} {c : Catalog} {path : String} {verb : Verb} {o : Operation}
    (h : Registered paths c) (ho : ∀ n ∈ o.references, n ∈ c.registry) :
    Registered (paths.insert path ((itemOf paths path).insert verb o)) c := by
  intro other item v p hitem hp
  rw [Std.ExtTreeMap.getElem?_insert] at hitem
  split at hitem
  · cases hitem
    by_cases hv : v = verb
    · subst hv
      rw [PathItem.insert_self] at hp
      cases hp
      exact ho
    · rw [PathItem.insert_of_ne _ _ hv] at hp
      cases hold : paths[path]? with
      | none => simp [itemOf, hold, PathItem.empty] at hp
      | some old => exact h path old v p hold (by simpa [itemOf, hold] using hp)
  · exact h other item v p hitem hp

end Registered

/-- Adding operations keeps the catalog closed and their names registered. -/
theorem addOperations_closed {u : Universe} {markers : Markers} {es : List Endpoint}
    {paths paths' : Paths} {c c' : Catalog} (hc : c.Closed) (hp : Registered paths c)
    (h : runFrom (addOperations u markers paths es) c = (.ok paths', c')) :
    c'.Closed ∧ Registered paths' c' := by
  induction es generalizing paths c with
  | nil =>
    cases h
    exact ⟨hc, hp⟩
  | cons e es ih =>
    rw [addOperations, runFrom_bind] at h
    cases hmake : runFrom (make u markers (operationOf u e)) c with
    | mk result c₁ =>
      rw [hmake] at h
      cases result with
      | error fault => cases h
      | ok o =>
        obtain ⟨ho, hcompletes, hc₁⟩ := hc.make hmake
        have hp₁ := hp.mono hcompletes.registry_kept
        simp only [proceed_ok] at h
        split at h
        · -- The operation is dropped, and only an event is added.
          rw [runFrom_bind, runFrom_modify, proceed_ok] at h
          refine ih ?_ ?_ h
          · exact ⟨hc₁.finished, hc₁.refers⟩
          · exact hp₁
        · refine ih hc₁ (hp₁.insert fun n hn => ?_) h
          obtain ⟨r, hr, rfl⟩ := List.mem_map.mp ((operationOf_refers u e o ho n).mp hn)
          exact hcompletes.answered r hr

/-- A document has the operations and the schemas that are there when the last operation has been
added. -/
theorem assemble_eq_ok {u : Universe} {settings : Settings} {endpoints : List Endpoint}
    {d : Document} {events events' : List Event}
    (h : runFrom (assemble u settings endpoints) events = (.ok d, events')) :
    ∃ c, runFrom (addOperations u settings.markers {} endpoints) {} = (.ok d.paths, c) ∧
      d.schemas = c.schemas := by
  unfold assemble at h
  change runFrom (Reporting.reportAll
    (runFrom (addOperations u settings.markers {} endpoints) {}).2.events >>= fun _ =>
      Reporting.ofExcept (runFrom (addOperations u settings.markers {} endpoints) {}).1 >>=
        fun _ => pure _) events = _ at h
  rw [runFrom_bind, Reporting.reportAll, runFrom_modify, proceed_ok, runFrom_bind] at h
  cases hadd : runFrom (addOperations u settings.markers {} endpoints) {} with
  | mk outcome c =>
    rw [hadd] at h
    cases outcome with
    | error fault => cases h
    | ok paths =>
      cases h
      exact ⟨c, rfl, congrArg (·.2.schemas) hadd⟩

/-- Every name in the schemas of a document has a schema. -/
theorem mem_schemas_of_mem_references {u : Universe} {settings : Settings}
    {endpoints : List Endpoint} {d : Document} {events events' : List Event}
    (h : runFrom (assemble u settings endpoints) events = (.ok d, events')) :
    ∀ n ∈ d.references, n ∈ d.schemas := by
  obtain ⟨c, hadd, hd⟩ := assemble_eq_ok h
  obtain ⟨hc, hp⟩ := addOperations_closed .empty (.empty _) hadd
  intro n hn
  rw [hd]
  refine hc.finished n ?_
  rcases List.mem_append.mp hn with hn | hn
  · obtain ⟨o, ho, hn⟩ := List.mem_flatMap.mp hn
    obtain ⟨path, item, verb, hitem, ho⟩ := mem_operations.mp ho
    exact hp path item verb o hitem ho n hn
  · obtain ⟨⟨name, schema⟩, hs, hn⟩ := List.mem_flatMap.mp hn
    rw [hd, Std.ExtTreeMap.mem_toList_iff_getElem?_eq_some] at hs
    exact hc.refers name schema hs n hn

/-- **Every text in a document that refers to a schema refers to one of the document.** -/
theorem references_defined {u : Universe} {settings : Settings} {endpoints : List Endpoint}
    {d : Document} {events events' : List Event}
    (h : runFrom (assemble u settings endpoints) events = (.ok d, events')) :
    ∀ text ∈ d.toJson.referenceTexts, ∃ name ∈ d.schemas, text = referenceTo name := by
  intro text ht
  obtain ⟨name, hn, rfl⟩ := mem_referenceTexts_document.mp ht
  exact ⟨name, mem_schemas_of_mem_references h name hn, rfl⟩

/-! ## A class that refers to itself and a union -/

/-- A generic class that refers to itself, an interface with one class below it, and the enum that
tells which class it is. -/
def shapeRecords : List ClassRecord :=
  [.ofClass
      { name := "p/Node"
        signature := some "<T:Ljava/lang/Object;>Ljava/lang/Object;"
        fields := [
          { name := "next", descriptor := "Lp/Node;", signature := some "Lp/Node<TT;>;" },
          { name := "value", descriptor := "Ljava/lang/Object;", signature := some "TT;" }] },
    .ofClass { name := "p/Shape", flags := { isInterface := true } },
    .ofClass
      { name := "p/Circle"
        interfaces := ["p/Shape"]
        fields := [{ name := "kind", descriptor := "Lp/Kind;" }] },
    .ofClass
      { name := "p/Kind"
        interfaces := ["p/Tag"]
        flags := { isEnum := true }
        fields := [{ name := "type", descriptor := "Ljava/lang/Class;" }]
        methods := [{
          name := "<clinit>"
          descriptor := "()V"
          body := [⟨0, .constant (.string "CIRCLE")⟩, ⟨2, .constant (.classRef "p/Circle")⟩] }] }]

/-- The universe of the sample. -/
def shapes : Universe :=
  (Universe.ofRecords shapeRecords { types := ["p"] }).toOption.get (by decide +kernel)

/-- An endpoint that returns nodes of shapes. -/
def shapesEndpoint : Endpoint where
  verb := .get
  path := "/shapes"
  contentType := "application/json"
  status := .success
  parameters := []
  returns := some (.array (.object "p/Node" ["p/Shape"]))
  exceptions := []
  validations := []
  controller := "p/Controller"
  method := "shapes"

/-- The settings of the sample. -/
def shapesSettings : Settings := { markers := { discriminatorEnum := some "p/Tag" } }

/-- The document of the sample. -/
def shapesDocument : Document :=
  (runFrom (assemble shapes shapesSettings [shapesEndpoint]) []).1.toOption.get (by decide +kernel)

/-- The document of the sample is made, and none of its references dangles. -/
theorem references_defined_shapes : ∃ events,
    runFrom (assemble shapes shapesSettings [shapesEndpoint]) [] = (.ok shapesDocument, events) ∧
    shapesDocument.schemas.keys = ["Circle", "Kind", "Node__Shape", "Shape"] ∧
    ∀ text ∈ shapesDocument.toJson.referenceTexts,
      ∃ name ∈ shapesDocument.schemas, text = referenceTo name := by
  have hok : (runFrom (assemble shapes shapesSettings [shapesEndpoint]) []).1 =
      .ok shapesDocument := toOption_eq_some.mp (Option.some_get _).symm
  have hrun : runFrom (assemble shapes shapesSettings [shapesEndpoint]) [] =
      (.ok shapesDocument, _) := Prod.ext hok rfl
  exact ⟨_, hrun, by decide +kernel, references_defined hrun⟩

end ApiSurface.OpenApi
