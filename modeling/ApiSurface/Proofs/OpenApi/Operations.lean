import ApiSurface.Proofs.OpenApi.Assembly
import ApiSurface.Proofs.Schema.Reach

/-!
# The operations of a document

All operations of a document are made with one generator, whose catalog grows from endpoint to
endpoint. Still each is what a fresh generator makes of its endpoint, and the first endpoint of a
path and a verb is the one that is kept. An assembly fails only for what a fresh generator fails
for, or for two classes of one name that the endpoints lead to.

Main definitions: `freshOperation`, `KeepsFirst`. Main statement: `assemble_keeps_first`.
-/
namespace ApiSurface

/-- The endpoint has the path and the verb. -/
def Endpoint.isAt (path : String) (verb : Verb) (e : Endpoint) : Bool :=
  e.path = path ∧ e.verb = verb

theorem Endpoint.isAt_iff {path : String} {verb : Verb} {e : Endpoint} :
    e.isAt path verb = true ↔ e.path = path ∧ e.verb = verb := decide_eq_true_iff

namespace OpenApi
open Schema Requesting

/-- The operation that a fresh generator makes of an endpoint. -/
def freshOperation (u : Universe) (markers : Markers) (e : Endpoint) : Except Fault Operation :=
  freshly u markers (operationOf u e)

/-- What the operations of endpoints ask for. -/
def endpointRequests (u : Universe) (es : List Endpoint) : List Request :=
  es.flatMap fun e => (operationOf u e).requests

/-- Paths with an operation at the place of an endpoint, unless there is one. -/
def keepFirst (paths : Paths) (e : Endpoint) (o : Operation) : Paths :=
  match itemOf paths e.path e.verb with
  | some _ => paths
  | none => paths.insert e.path ((itemOf paths e.path).insert e.verb o)

theorem itemOf_insert (paths : Paths) (path : String) (item : PathItem) (other : String) :
    itemOf (paths.insert path item) other = if path = other then item else itemOf paths other := by
  unfold itemOf
  rw [Std.ExtTreeMap.getElem?_insert]
  by_cases h : path = other <;> simp [h]

theorem itemOf_keepFirst (paths : Paths) (e : Endpoint) (o : Operation) (path : String)
    (verb : Verb) :
    itemOf (keepFirst paths e o) path verb =
      (itemOf paths path verb).or (if e.isAt path verb then some o else none) := by
  unfold keepFirst
  by_cases hplace : e.path = path ∧ e.verb = verb
  · obtain ⟨rfl, rfl⟩ := hplace
    cases hitem : itemOf paths e.path e.verb with
    | some kept => simp [hitem]
    | none => simp [itemOf_insert, Endpoint.isAt]
  · have hother : e.isAt path verb = false := decide_eq_false hplace
    rw [hother]
    cases hitem : itemOf paths e.path e.verb with
    | some kept => simp
    | none =>
      rw [itemOf_insert]
      split
      · next heq =>
        obtain rfl := heq
        have hverb : verb ≠ e.verb := fun heq => hplace ⟨rfl, heq.symm⟩
        simp [PathItem.insert_of_ne _ _ hverb]
      · simp

variable {u : Universe} {markers : Markers} {paths paths' : Paths} {e : Endpoint}
  {es : List Endpoint} {c c₁ c' : Catalog}

/-! ## One endpoint after the other -/

/-- An endpoint whose operation is made leaves the others to be added. -/
theorem addOperations_cons {o : Operation}
    (made : runFrom (make u markers (operationOf u e)) c = (.ok o, c₁)) :
    ∃ events, runFrom (addOperations u markers paths (e :: es)) c =
      runFrom (addOperations u markers (keepFirst paths e o) es) { c₁ with events } := by
  rw [addOperations, runFrom_bind, made, proceed_ok, keepFirst]
  dsimp only
  cases itemOf paths e.path e.verb with
  | some kept => exact ⟨_, rfl⟩
  | none => exact ⟨c₁.events, rfl⟩

theorem addOperations_cons_error {fault : Fault}
    (failed : runFrom (make u markers (operationOf u e)) c = (.error fault, c₁)) :
    runFrom (addOperations u markers paths (e :: es)) c = (.error fault, c₁) := by
  rw [addOperations, runFrom_bind, failed, proceed_error]

/-- What has become of paths and a catalog when the operations of endpoints have been added. -/
structure Adds (u : Universe) (markers : Markers) (paths : Paths) (es : List Endpoint)
    (c : Catalog) (paths' : Paths) (c' : Catalog) : Prop where
  complete : Complete u markers c'
  grows : Grows c c'
  made : ∀ e ∈ es, ∃ o, (operationOf u e).outcome = .ok o
  held : ∀ e ∈ es, ∀ r ∈ (operationOf u e).requests, c'.Holds r
  item : ∀ path verb, itemOf paths' path verb = (itemOf paths path verb).or
    ((es.find? (·.isAt path verb)).bind fun e => (operationOf u e).outcome.toOption)

namespace Adds

theorem nil (h : Complete u markers c) : Adds u markers paths [] c paths c where
  complete := h
  grows := .refl _
  made := by simp
  held := by simp
  item := by simp

/-- The operation of one endpoint is made and kept before those of the others. -/
theorem cons {o : Operation} {events : List Event} (houtcome : (operationOf u e).outcome = .ok o)
    (hgrows : Grows c c₁) (hheld : ∀ r ∈ (operationOf u e).requests, c₁.Holds r)
    (rest : Adds u markers (keepFirst paths e o) es { c₁ with events } paths' c') :
    Adds u markers paths (e :: es) c paths' c' := by
  have hafter : Grows c₁ c' :=
    ⟨rest.grows.registry, rest.grows.named, rest.grows.schemas, rest.grows.keys⟩
  constructor
  case complete => exact rest.complete
  case grows => exact hgrows.trans hafter
  case made => exact List.forall_mem_cons.mpr ⟨⟨o, houtcome⟩, rest.made⟩
  case held =>
    refine List.forall_mem_cons.mpr ⟨fun r hr => ?_, rest.held⟩
    exact hafter.registry _ _ (hheld r hr)
  case item =>
    intro path verb
    rw [rest.item, itemOf_keepFirst, List.find?_cons, Option.or_assoc]
    cases e.isAt path verb <;> simp [houtcome, Except.toOption]

end Adds

/-- What adding operations does if it succeeds. -/
theorem addOperations_adds (hc : Complete u markers c)
    (h : runFrom (addOperations u markers paths es) c = (.ok paths', c')) :
    Adds u markers paths es c paths' c' := by
  induction es generalizing paths c with
  | nil =>
    cases h
    exact .nil hc
  | cons e es ih =>
    cases made : runFrom (make u markers (operationOf u e)) c with
    | mk result c₁ =>
      cases result with
      | error fault =>
        rw [addOperations_cons_error made] at h
        cases h
      | ok o =>
        obtain ⟨houtcome, hc₁, hgrows, hheld⟩ := hc.make made
        obtain ⟨events, hrest⟩ := addOperations_cons made
        rw [hrest] at h
        exact .cons houtcome hgrows hheld (ih (hc₁.withEvents events) h)

/-- Operations that ask for consistent requests can be added, and no others are registered. -/
theorem exists_addOperations {kind : Request → Prop} (consistent : Consistent u markers kind)
    (hmade : ∀ e ∈ es, ∃ o, (operationOf u e).outcome = .ok o)
    (hrequests : ∀ r ∈ endpointRequests u es, kind r) (hc : c.Within kind) :
    ∃ paths' c', runFrom (addOperations u markers paths es) c = (.ok paths', c') ∧
      c'.Within kind := by
  induction es generalizing paths c with
  | nil => exact ⟨paths, c, rfl, hc⟩
  | cons e es ih =>
    obtain ⟨⟨o, ho⟩, hmade⟩ := List.forall_mem_cons.mp hmade
    obtain ⟨c₁, made, hc₁⟩ :=
      consistent.make (fun r hr => hrequests r (List.mem_append_left _ hr)) hc
    rw [ho] at made
    obtain ⟨events, hrest⟩ := addOperations_cons made
    rw [hrest]
    exact ih hmade (fun r hr => hrequests r (List.mem_append_right _ hr)) hc₁

namespace Adds

theorem held_requests (adds : Adds u markers paths es c paths' c') :
    ∀ r ∈ endpointRequests u es, c'.Holds r := by
  intro r hr
  obtain ⟨e, he, hr⟩ := List.mem_flatMap.mp hr
  exact adds.held e he r hr

/-- The operation of each endpoint is what a fresh generator makes of it. -/
theorem fresh (adds : Adds u markers paths es c paths' c') (he : e ∈ es) {o : Operation}
    (ho : (operationOf u e).outcome = .ok o) : freshOperation u markers e = .ok o :=
  freshly_eq_ok.mpr ⟨ho, adds.complete.consistent_reached (adds.held e he)⟩

end Adds

/-- Only what the endpoints lead to is registered. -/
theorem addOperations_within
    (h : runFrom (addOperations u markers paths es) {} = (.ok paths', c')) :
    c'.Within (Reached u markers (endpointRequests u es)) := by
  have adds := addOperations_adds .empty h
  have consistent := adds.complete.consistent_reached adds.held_requests
  -- The run is the one on these requests, and that registers no others.
  obtain ⟨_, _, hrun, hwithin⟩ :=
    exists_addOperations consistent adds.made (fun _ hr => .asked hr) (.empty _)
  rw [h] at hrun
  cases hrun
  exact hwithin

/-- Endpoints can be assembled exactly when a fresh generator makes an operation of each and no two
requests that they lead to have one name. -/
theorem exists_addOperations_iff :
    (∃ paths' c', runFrom (addOperations u markers paths es) {} = (.ok paths', c')) ↔
      (∀ e ∈ es, ∃ o, freshOperation u markers e = .ok o) ∧
      ∀ r q, Reached u markers (endpointRequests u es) r →
        Reached u markers (endpointRequests u es) q → r.name = q.name → r = q := by
  constructor
  · rintro ⟨paths', c', h⟩
    have adds := addOperations_adds .empty h
    refine ⟨fun e he => ?_, (adds.complete.consistent_reached adds.held_requests).named⟩
    obtain ⟨o, ho⟩ := adds.made e he
    exact ⟨o, adds.fresh he ho⟩
  · rintro ⟨hfresh, hnamed⟩
    -- Fresh catalogs hold the requests one endpoint at a time; only names can clash between them.
    have consistent : Consistent u markers (Reached u markers (endpointRequests u es)) := by
      refine consistent_reached (fun r hr => ?_) hnamed
      obtain ⟨e, he, hr⟩ := List.mem_flatMap.mp hr
      obtain ⟨o, ho⟩ := hfresh e he
      obtain ⟨-, hcomplete, -, hheld⟩ := Complete.empty.make (Prod.ext ho rfl)
      exact ⟨_, hcomplete, hheld r hr⟩
    have hmade : ∀ e ∈ es, ∃ o, (operationOf u e).outcome = .ok o := by
      intro e he
      obtain ⟨o, ho⟩ := hfresh e he
      exact ⟨o, (freshly_eq_ok.mp ho).1⟩
    obtain ⟨paths', c', h, -⟩ :=
      exists_addOperations consistent hmade (fun _ hr => .asked hr) (.empty _)
    exact ⟨paths', c', h⟩

/-! ## Documents -/

/-- The operation at a path and a verb. -/
def Document.operation? (d : Document) (path : String) (verb : Verb) : Option Operation :=
  d.paths[path]?.bind fun item => item verb

theorem Document.operation?_eq_itemOf (d : Document) (path : String) (verb : Verb) :
    d.operation? path verb = itemOf d.paths path verb := by
  unfold operation? itemOf
  cases d.paths[path]? <;> rfl

/-- Each path and verb has the operation of its first endpoint, as a fresh generator makes it. -/
structure KeepsFirst (u : Universe) (markers : Markers) (endpoints : List Endpoint)
    (d : Document) : Prop where
  exists_iff : ∀ path verb, (∃ o, d.operation? path verb = some o) ↔
    ∃ e ∈ endpoints, e.path = path ∧ e.verb = verb
  first : ∀ path verb e, endpoints.find? (·.isAt path verb) = some e →
    ∃ o, freshOperation u markers e = .ok o ∧ d.operation? path verb = some o

variable {settings : Settings} {endpoints : List Endpoint} {events events' : List Event}

/-- Where there is an endpoint there is a first one. -/
theorem exists_first {path : String} {verb : Verb} (he : e ∈ es)
    (hplace : e.path = path ∧ e.verb = verb) :
    ∃ first, es.find? (·.isAt path verb) = some first :=
  Option.isSome_iff_exists.mp (List.find?_isSome.mpr ⟨e, he, Endpoint.isAt_iff.mpr hplace⟩)

/-- What has been added to nothing is in the document. -/
theorem Adds.keepsFirst {d : Document} (adds : Adds u markers {} es {} d.paths c') :
    KeepsFirst u markers es d := by
  have hfirst (path : String) (verb : Verb) (e : Endpoint)
      (he : es.find? (·.isAt path verb) = some e) :
      ∃ o, freshOperation u markers e = .ok o ∧ d.operation? path verb = some o := by
    have hmem := List.mem_of_find?_eq_some he
    obtain ⟨o, ho⟩ := adds.made e hmem
    refine ⟨o, adds.fresh hmem ho, ?_⟩
    rw [d.operation?_eq_itemOf, adds.item, he]
    simp [itemOf, PathItem.empty, ho, Except.toOption]
  refine ⟨fun path verb => ⟨?_, ?_⟩, hfirst⟩
  · rintro ⟨o, ho⟩
    rw [d.operation?_eq_itemOf, adds.item] at ho
    cases he : es.find? (·.isAt path verb) with
    | none => simp [he, itemOf, PathItem.empty] at ho
    | some e =>
      exact ⟨e, List.mem_of_find?_eq_some he, Endpoint.isAt_iff.mp (List.find?_some he)⟩
  · rintro ⟨e, he, hplace⟩
    obtain ⟨first, hfound⟩ := exists_first he hplace
    obtain ⟨o, -, ho⟩ := hfirst path verb first hfound
    exact ⟨o, ho⟩

/-- An assembly has a document when the operations have been added. -/
theorem runFrom_assemble {outcome : Except Fault Paths}
    (h : runFrom (addOperations u settings.markers {} endpoints) {} = (outcome, c)) :
    runFrom (assemble u settings endpoints) events =
      (outcome.map fun paths => { info := settings.document, paths, schemas := c.schemas },
        events ++ c.events) := by
  have hrun : (addOperations u settings.markers {} endpoints).run.run {} = (outcome, c) := h
  rw [assemble, hrun]
  cases outcome <;> rfl

/-- An assembly fails when the operations cannot be added. -/
theorem assemble_error_iff :
    (∃ fault, (runFrom (assemble u settings endpoints) events).1 = .error fault) ↔
      ¬ ∃ paths c, runFrom (addOperations u settings.markers {} endpoints) {} = (.ok paths, c) := by
  cases h : runFrom (addOperations u settings.markers {} endpoints) {} with
  | mk outcome c =>
    rw [runFrom_assemble h]
    cases outcome <;> simp [Except.map]

/-- **Assembling keeps the first operation of every path and verb, and loses none.** Each is what a
fresh generator makes of its endpoint. An assembly fails exactly when a fresh generator fails for
an endpoint or when the endpoints lead to two requests of one name. -/
theorem assemble_keeps_first (u : Universe) (settings : Settings) (endpoints : List Endpoint)
    (events : List Event) :
    (∀ d events', runFrom (assemble u settings endpoints) events = (.ok d, events') →
        KeepsFirst u settings.markers endpoints d) ∧
      ((∃ fault, (runFrom (assemble u settings endpoints) events).1 = .error fault) ↔
        (∃ e ∈ endpoints, ∃ fault, freshOperation u settings.markers e = .error fault) ∨
          ∃ r q, Reached u settings.markers (endpointRequests u endpoints) r ∧
            Reached u settings.markers (endpointRequests u endpoints) q ∧
            schemaName r.path r.generics = schemaName q.path q.generics ∧ r ≠ q) := by
  constructor
  · intro d events' h
    obtain ⟨c, hadd, -⟩ := assemble_eq_ok h
    exact (addOperations_adds .empty hadd).keepsFirst
  · rw [assemble_error_iff, exists_addOperations_iff, not_and_or]
    refine or_congr ?_ ?_
    · simp only [not_forall, not_exists_ok, exists_prop]
    · simp only [not_forall, exists_prop]
      rfl

/-! ## Wares of two packages -/

/-- A class that refers to another, and classes of one name in two packages. -/
def wareRecords : List ClassRecord :=
  [.ofClass { name := "p/Basket", fields := [{ name := "ware", descriptor := "Lp/Ware;" }] },
    .ofClass { name := "p/Ware" },
    .ofClass { name := "q/Ware" }]

/-- The universe of the sample. -/
def wares : Universe :=
  (Universe.ofRecords wareRecords {}).toOption.get (by decide +kernel)

/-- An endpoint that returns a class. -/
def wareEndpoint (verb : Verb) (method path : String) : Endpoint where
  verb := verb
  path := "/wares"
  contentType := "application/json"
  status := .success
  parameters := []
  returns := some (.object path [])
  exceptions := []
  validations := []
  controller := "p/Controller"
  method := method

/-- Two endpoints of one path and verb, and one of another verb. -/
def wareEndpoints : List Endpoint :=
  [wareEndpoint .get "basket" "p/Basket", wareEndpoint .get "ware" "p/Ware",
    wareEndpoint .put "store" "p/Ware"]

/-- The endpoints with one that returns a class of a name that is taken. -/
def crowdedEndpoints : List Endpoint := wareEndpoints ++ [wareEndpoint .post "other" "q/Ware"]

/-- The document of the sample has the operation of the first of the two endpoints, although the
third comes to its class after them. With one more endpoint there is no document, although a fresh
generator makes an operation of each. -/
theorem assemble_keeps_first_wares :
    (∃ d events, runFrom (assemble wares {} wareEndpoints) [] = (.ok d, events) ∧
      KeepsFirst wares {} wareEndpoints d ∧
      (d.operation? "/wares" .get).map (·.references) = some ["Basket"] ∧
      (d.operation? "/wares" .put).map (·.references) = some ["Ware"]) ∧
    (∃ fault, (runFrom (assemble wares {} crowdedEndpoints) []).1 = .error fault) ∧
      ∀ e ∈ crowdedEndpoints, (freshOperation wares {} e).isOk := by
  have hkeeps := (assemble_keeps_first wares {} wareEndpoints []).1
  have hfails := (assemble_keeps_first wares {} crowdedEndpoints []).2
  let run := runFrom (assemble wares {} wareEndpoints) []
  let d := run.1.toOption.get (by decide +kernel)
  have hok : run.1 = .ok d := toOption_eq_some.mp (Option.some_get _).symm
  have hrun : run = (.ok d, run.2) := Prod.ext hok rfl
  refine ⟨⟨d, run.2, hrun, hkeeps d run.2 hrun, by decide +kernel, by decide +kernel⟩, ?_,
    by decide +kernel⟩
  refine hfails.mpr (.inr ⟨⟨"p/Ware", []⟩, ⟨"q/Ware", []⟩, .asked ?_, .asked ?_, ?_⟩)
  · decide +kernel
  · decide +kernel
  · decide +kernel

end OpenApi

end ApiSurface
