import ApiSurface.Proofs.Endpoint.Paths
import ApiSurface.Proofs.Universe.Followed

/-!
# What is extracted

Controllers declare endpoints: each public method with a mapping of its own declares one for every
pair of a path of its class and a path of its own. Extraction goes through these declarations in
their order and leaves none out, and the endpoints of one method have all but their path in common.

Main definitions: `Declaration.ofRecord`, `Universe.AreControllers`, `Universe.DeclaresEndpoints`.
Main statement: `extracts_declared`.
-/
namespace ApiSurface

/-! ## Stages -/

namespace Reporting

variable {α β : Type}

/-- The stage ends with this, whatever has been reported before. -/
def Yields (stage : Reporting α) (result : Except Fault α) : Prop :=
  ∀ events, (runFrom stage events).1 = result

namespace Yields

theorem pure (a : α) : Yields (pure a) (.ok a) := fun _ => rfl

theorem ofExcept (result : Except Fault α) : Yields (Reporting.ofExcept result) result :=
  fun _ => rfl

theorem report (event : Event) : Yields (Reporting.report event) (.ok ()) := fun _ => rfl

theorem reportAll (events : List Event) : Yields (Reporting.reportAll events) (.ok ()) :=
  fun _ => rfl

theorem bind {x : Reporting α} {f : α → Reporting β} {result : Except Fault α}
    {g : α → Except Fault β} (hx : Yields x result) (hf : ∀ a, Yields (f a) (g a)) :
    Yields (x >>= f) (result >>= g) := by
  intro events
  have h := hx events
  rw [runFrom_bind]
  generalize runFrom x events = run at h ⊢
  obtain ⟨outcome, events'⟩ := run
  cases h
  cases outcome with
  | error fault => rfl
  | ok a => exact hf a events'

/-- A stage that only reports leaves the result to the next one. -/
theorem after {x : Reporting Unit} {f : Unit → Reporting β} {result : Except Fault β}
    (hx : Yields x (.ok ())) (hf : Yields (f ()) result) : Yields (x >>= f) result :=
  bind hx fun _ => hf

/-- So does a stage that only reports under a condition. -/
theorem afterIf {c : Prop} [Decidable c] {x : Reporting Unit} {y : Reporting β}
    {result : Except Fault β} (hx : Yields x (.ok ())) (hy : Yields y result) :
    Yields (if c then x >>= fun _ => y else y) result := by
  split
  · exact after hx hy
  · exact hy

end Yields

end Reporting

namespace Endpoint
open Reporting (Yields)

/-- What the endpoints of a mapped method have whatever their path. -/
def mappedEndpoint (u : Universe) (settings : Settings) (record : ClassRecord) (m : Method)
    (verb : Verb) (mapping : Annotation) : Except Fault Endpoint := do
  let location := (Frame.ofMethod record m).location
  let endpoint ← endpointOf u location record m verb mapping
  let status ← responseStatus m.annotations location
  let (outcome, walk) := Calls.walk u settings.markers settings.maxCallDepth record m
  outcome
  .ok { endpoint with
    status := status.getD .success
    exceptions := walk.exceptions
    validations := walk.validations }

/-- An endpoint at every pair of a path of the class and a path of the method. -/
def atAllPaths (e : Endpoint) (bases paths : List String) : List Endpoint :=
  bases.flatMap fun base => paths.map fun path => e.atPaths base path

variable {u : Universe} {settings : Settings} {record : ClassRecord}

/-- A mapped method has one endpoint for all its paths. -/
theorem methodEndpoints_yields (bases : List String) (m : Method) (verb : Verb)
    (mapping : Annotation) :
    Yields (methodEndpoints u settings record bases m verb mapping)
      (mappedEndpoint u settings record m verb mapping >>= fun e =>
        .ok (e.atAllPaths bases (mappingPaths mapping))) := by
  unfold methodEndpoints mappedEndpoint
  simp only [bind_assoc, ok_bind]
  refine .bind (.ofExcept _) fun endpoint => .afterIf (.report _) ?_
  refine .bind (.ofExcept _) fun status => .after (.reportAll _) ?_
  exact .bind (.ofExcept _) fun _ => .after (.report _) (.pure _)

/-- The endpoint of a method names its class, the method and the verb. -/
theorem endpointOf_eq_ok {location : String} {m : Method} {verb : Verb} {mapping : Annotation}
    {e : Endpoint} (h : endpointOf u location record m verb mapping = .ok e) :
    e.controller = record.path ∧ e.method = m.name ∧ e.verb = verb := by
  obtain ⟨erased, -, h⟩ := bind_eq_ok.mp h
  -- With a signature or without, with a result or without: each branch ends with one record.
  split at h
  case' h_2 => obtain ⟨read, -, h⟩ := bind_eq_ok.mp h
  all_goals
    obtain ⟨signature, -, h⟩ := bind_eq_ok.mp h
    obtain ⟨parameters, -, h⟩ := bind_eq_ok.mp h
    split at h
    all_goals
      obtain ⟨returns, -, h⟩ := bind_eq_ok.mp h
      cases h
      exact ⟨rfl, rfl, rfl⟩

theorem mappedEndpoint_eq_ok {m : Method} {verb : Verb} {mapping : Annotation} {e : Endpoint}
    (h : mappedEndpoint u settings record m verb mapping = .ok e) :
    e.controller = record.path ∧ e.method = m.name ∧ e.verb = verb := by
  obtain ⟨endpoint, hendpoint, h⟩ := bind_eq_ok.mp h
  obtain ⟨status, -, h⟩ := bind_eq_ok.mp h
  obtain ⟨_, -, h⟩ := bind_eq_ok.mp h
  cases h
  obtain ⟨hclass, hname, hverb⟩ := endpointOf_eq_ok hendpoint
  exact ⟨hclass, hname, hverb⟩

end Endpoint

/-! ## Declarations -/

theorem ClassRecord.info_eq_ok {record : ClassRecord} {c : Class} :
    record.info = .ok c ↔ record.content = .ok c := by
  unfold info
  cases record.content <;> simp [Fault.ofDecoding]

/-- The verb of an annotation that maps a method. -/
def Annotation.mappedVerb? (a : Annotation) : Option Verb :=
  if a.type = "Lorg/springframework/web/bind/annotation/GetMapping;" then some .get
  else if a.type = "Lorg/springframework/web/bind/annotation/PostMapping;" then some .post
  else if a.type = "Lorg/springframework/web/bind/annotation/PutMapping;" then some .put
  else if a.type = "Lorg/springframework/web/bind/annotation/DeleteMapping;" then some .delete
  else if a.type = "Lorg/springframework/web/bind/annotation/PatchMapping;" then some .patch
  else none

/-- The verb of a method and its mapping: the first of its annotations that maps it. -/
def Method.mapping? (m : Method) : Option (Verb × Annotation) :=
  m.annotations.findSome? fun a => a.mappedVerb?.map fun verb => (verb, a)

/-- The mapping of a class. -/
def Class.mapping? (c : Class) : Option Annotation :=
  c.annotations.find? (·.type = "Lorg/springframework/web/bind/annotation/RequestMapping;")

theorem classMapping?_eq (c : Class) : Endpoint.classMapping? c = c.mapping? := rfl

theorem methodMapping?_eq (m : Method) : Endpoint.methodMapping? m = m.mapping? := by
  have hverb (a : Annotation) : (Endpoint.verbMappings.find? (·.1 = a.type)).map
      (fun entry => (entry.2, a)) = a.mappedVerb?.map fun verb => (verb, a) := by
    unfold Annotation.mappedVerb?
    split_ifs with hget hpost hput hdelete hpatch
    · rw [hget]; rfl
    · rw [hpost]; rfl
    · rw [hput]; rfl
    · rw [hdelete]; rfl
    · rw [hpatch]; rfl
    · have hnone : ∀ entry ∈ Endpoint.verbMappings, ¬ decide (entry.1 = a.type) = true := by
        simp only [Endpoint.verbMappings, List.forall_mem_cons, decide_eq_true_eq]
        exact ⟨Ne.symm hget, Ne.symm hpost, Ne.symm hput, Ne.symm hdelete, Ne.symm hpatch, by simp⟩
      rw [List.find?_eq_none.mpr hnone]
      rfl
  exact congrArg (m.annotations.findSome? ·) (funext hverb)

/-- One endpoint that a class declares: a method of it at a path of the class and at a path of
its own. -/
structure Declaration where
  record : ClassRecord
  method : Method
  verb : Verb
  base : String
  path : String

/-- An endpoint by its class, its method, its verb and its path. -/
def Endpoint.key (e : Endpoint) : String × String × Verb × String :=
  (e.controller, e.method, e.verb, e.path)

namespace Declaration

/-- The endpoint that is declared: its path is that of the class joined with that of the method. -/
def key (d : Declaration) : String × String × Verb × String :=
  (d.record.path, d.method.name, d.verb, joinPaths d.base d.path)

section

variable (pathsOf : Annotation → List String) (record : ClassRecord)

/-- What a method declares at paths of its class: nothing unless it is public, no bridge, and
mapped. -/
def ofMethod (bases : List String) (m : Method) : List Declaration :=
  if m.flags.isPublic && ! m.flags.isBridge then
    match m.mapping? with
    | some (verb, mapping) =>
      bases.flatMap fun base => (pathsOf mapping).map fun path => ⟨record, m, verb, base, path⟩
    | none => []
  else []

/-- What the methods of a class declare: nothing unless the class is mapped. -/
def ofRecord : List Declaration :=
  match record.content with
  | .ok c =>
    match c.mapping? with
    | some mapping => c.methods.flatMap (ofMethod pathsOf record (pathsOf mapping))
    | none => []
  | .error _ => []

end

end Declaration

/-- The controllers of a universe: its classes in the packages of that subset, in ascending order
of their names. -/
structure Universe.AreControllers (u : Universe) (records : List ClassRecord) : Prop where
  ascending : records.Pairwise fun r s => r.path < s.path
  mem_iff : ∀ r, r ∈ records ↔
    u.find? r.path = some r ∧ u.contains .controllers r.path = true

theorem Universe.areControllers_recordsIn (u : Universe) :
    u.AreControllers (u.recordsIn .controllers) where
  ascending := u.recordsIn_ascending .controllers
  mem_iff _ := mem_recordsIn

namespace Endpoint

/-- What the endpoints of a method have in common, if it is mapped and can be followed. -/
def shared? (u : Universe) (settings : Settings) (record : ClassRecord) (m : Method) :
    Option Endpoint :=
  m.mapping?.bind fun (verb, mapping) => (mappedEndpoint u settings record m verb mapping).toOption

/-- The endpoints are those of the declarations, one for each and in their order. -/
structure Realizes (u : Universe) (settings : Settings) (declared : List Declaration)
    (endpoints : List Endpoint) : Prop where
  keys : endpoints.map key = declared.map Declaration.key
  facts : endpoints.map some = declared.map fun d =>
    (shared? u settings d.record d.method).map (·.atPaths d.base d.path)

/-- Whenever the stage ends with endpoints, these are those of the declarations. -/
def RealizedBy (u : Universe) (settings : Settings) (declared : List Declaration)
    (stage : Reporting (List Endpoint)) : Prop :=
  ∀ events endpoints events', runFrom stage events = (.ok endpoints, events') →
    Realizes u settings declared endpoints

namespace RealizedBy

theorem none : RealizedBy u settings [] (pure []) := by
  rintro events endpoints events' ⟨⟩
  exact ⟨rfl, rfl⟩

theorem append {declared others : List Declaration} {x y : Reporting (List Endpoint)}
    (hx : RealizedBy u settings declared x) (hy : RealizedBy u settings others y) :
    RealizedBy u settings (declared ++ others)
      (x >>= fun own => y >>= fun rest => pure (own ++ rest)) := by
  intro events endpoints events' h
  obtain ⟨own, events₁, hown, h⟩ := runFrom_bind_eq_ok h
  obtain ⟨rest, events₂, hrest, h⟩ := runFrom_bind_eq_ok h
  cases h
  have first := hx _ _ _ hown
  have second := hy _ _ _ hrest
  constructor
  · rw [List.map_append, List.map_append, first.keys, second.keys]
  · rw [List.map_append, List.map_append, first.facts, second.facts]

end RealizedBy

theorem methodEndpoints_realize (bases : List String) {m : Method} {verb : Verb}
    {mapping : Annotation} (hm : m.mapping? = some (verb, mapping)) :
    RealizedBy u settings
      (bases.flatMap fun base => (mappingPaths mapping).map fun path =>
        ⟨record, m, verb, base, path⟩)
      (methodEndpoints u settings record bases m verb mapping) := by
  intro events endpoints events' h
  have hall := congrArg Prod.fst h
  rw [methodEndpoints_yields] at hall
  obtain ⟨e, he, hall⟩ := bind_eq_ok.mp hall
  cases hall
  obtain ⟨hclass, hname, hverb⟩ := mappedEndpoint_eq_ok he
  have hshared : shared? u settings record m = some e := by
    rw [shared?, hm]
    exact toOption_eq_some.mpr he
  constructor
  · simp [atAllPaths, atPaths, List.map_flatMap, key, Declaration.key, Function.comp_def, *]
  · simp [atAllPaths, List.map_flatMap, Function.comp_def, hshared]

theorem methodsEndpoints_realize (bases : List String) (ms : List Method) :
    RealizedBy u settings (ms.flatMap (Declaration.ofMethod mappingPaths record bases))
      (methodsEndpoints u settings record bases ms) := by
  induction ms with
  | nil => exact .none
  | cons m ms ih =>
    rw [methodsEndpoints, methodMapping?_eq, List.flatMap_cons, Declaration.ofMethod]
    -- A method that is skipped declares nothing, and nothing comes before the others.
    split
    case isTrue =>
      cases hm : m.mapping? with
      | none => exact .append .none ih
      | some mapped => exact .append (methodEndpoints_realize bases hm) ih
    case isFalse => exact .append .none ih

theorem classEndpoints_realize (record : ClassRecord) :
    RealizedBy u settings (Declaration.ofRecord mappingPaths record)
      (classEndpoints u settings record) := by
  intro events endpoints events' h
  obtain ⟨c, events₁, hc, h⟩ := runFrom_bind_eq_ok h
  have hcontent : record.content = .ok c := ClassRecord.info_eq_ok.mp (congrArg Prod.fst hc)
  rw [classMapping?_eq] at h
  simp only [Declaration.ofRecord, hcontent]
  cases hm : c.mapping? with
  | none =>
    rw [hm] at h
    cases h
    exact ⟨rfl, rfl⟩
  | some mapping =>
    rw [hm] at h
    exact methodsEndpoints_realize _ _ _ _ _ h

theorem classesEndpoints_realize (records : List ClassRecord) :
    RealizedBy u settings (records.flatMap (Declaration.ofRecord mappingPaths))
      (classesEndpoints u settings records) := by
  induction records with
  | nil => exact .none
  | cons record records ih => exact .append (classEndpoints_realize record) ih

end Endpoint

/-! ## Extraction -/

/-- These are exactly the endpoints that the controllers of a universe declare: the controllers in
ascending order, their methods as they stand in the class, the paths of the class and the paths of
the method, each combination once and in this order. The endpoints of one method have all but the
path in common. -/
def Universe.DeclaresEndpoints (u : Universe) (endpoints : List Endpoint) : Prop :=
  ∃ (controllers : List ClassRecord) (pathsOf : Annotation → List String)
    (shared : ClassRecord → Method → Option Endpoint),
    let declared := controllers.flatMap (Declaration.ofRecord pathsOf)
    u.AreControllers controllers ∧ (∀ a : Annotation, a.DeclaresPaths (pathsOf a)) ∧
    endpoints.map Endpoint.key = declared.map Declaration.key ∧
    endpoints.map some = declared.map fun d =>
      (shared d.record d.method).map fun e => { e with path := joinPaths d.base d.path }

/-- **Extraction gives exactly the declared endpoints.** None is lost, added or out of its place,
and each of their paths is in its only form. -/
theorem extracts_declared {u : Universe} {settings : Settings} {endpoints : List Endpoint}
    {events events' : List Event}
    (extracted : runFrom (Endpoint.extract u settings) events = (.ok endpoints, events')) :
    u.DeclaresEndpoints endpoints ∧ ∀ e ∈ endpoints, NormalPath e.path := by
  have realized := Endpoint.classesEndpoints_realize _ _ _ _ extracted
  constructor
  · exact ⟨u.recordsIn .controllers, Endpoint.mappingPaths, Endpoint.shared? u settings,
      u.areControllers_recordsIn, Endpoint.declaresPaths_mappingPaths, realized.keys,
      realized.facts⟩
  · intro e he
    have hkey : e.key ∈ endpoints.map Endpoint.key := List.mem_map_of_mem he
    rw [realized.keys] at hkey
    obtain ⟨d, -, hd⟩ := List.mem_map.mp hkey
    have hpath : joinPaths d.base d.path = e.path := congrArg (·.2.2.2) hd
    exact hpath ▸ normalPath_joinPaths d.base d.path

/-! ## Mappings of every shape -/

/-- A public method without parameters and result. -/
def mappedMethod (name : String) (annotations : List Annotation) : Method :=
  { name, descriptor := "()V", flags := { isPublic := true }, annotations }

/-- A mapping of the type with one element. -/
def mappingOf (type name : String) (e : Element) : Annotation :=
  ⟨Endpoint.bindingType type, [(name, e)]⟩

/-- A controller with two paths, one of them nested deeper, and methods of every kind. -/
def orderController : Class :=
  { name := "p/Orders"
    annotations := [mappingOf "RequestMapping" "value"
      (.array [.constant (.string "/v1/"), .array [.constant (.string "v2//orders")]])]
    methods := [
      mappedMethod "find" [⟨"Ljava/lang/Deprecated;", []⟩,
        mappingOf "GetMapping" "value" (.array [.array [.constant (.string "/{id}")],
          .constant (.string "by-id/{id}/")]),
        mappingOf "PostMapping" "value" (.constant (.string "unread"))],
      { mappedMethod "find" [⟨Endpoint.bindingType "GetMapping", []⟩] with
        flags := { isPublic := true, isBridge := true } },
      { mappedMethod "internal" [⟨Endpoint.bindingType "GetMapping", []⟩] with flags := {} },
      mappedMethod "toString" [],
      mappedMethod "remove" [mappingOf "DeleteMapping" "path" (.constant (.string "all"))],
      mappedMethod "store" [⟨Endpoint.bindingType "PutMapping",
        [("path", .constant (.string "unread")), ("value", .array [])]⟩]] }

/-- The controller with one that comes before it, a class that is not mapped, and a mapped class
outside the package of the controllers. -/
def orderRecords : List ClassRecord :=
  [.ofClass orderController,
    .ofClass { name := "p/Plain", methods := orderController.methods },
    .ofClass { orderController with name := "q/Orders" },
    .ofClass
      { name := "p/Items"
        annotations := [⟨Endpoint.bindingType "RequestMapping", []⟩]
        methods := [mappedMethod "touch" [mappingOf "PatchMapping" "value"
          (.constant (.string "/"))]] }]

/-- The settings of the sample. -/
def orderSettings : Settings := { scope := { controllers := ["p"], traversal := ["p"] } }

/-- The endpoints of the sample: one of the first controller, eight of the second. -/
theorem extracts_declared_orders :
    ∃ u endpoints events, Universe.ofRecords orderRecords orderSettings.scope = .ok u ∧
      runFrom (Endpoint.extract u orderSettings) [] = (.ok endpoints, events) ∧
      endpoints.map Endpoint.key =
        [("p/Items", "touch", .patch, "/"),
          ("p/Orders", "find", .get, "/v1/{id}"),
          ("p/Orders", "find", .get, "/v1/by-id/{id}"),
          ("p/Orders", "find", .get, "/v2/orders/{id}"),
          ("p/Orders", "find", .get, "/v2/orders/by-id/{id}"),
          ("p/Orders", "remove", .delete, "/v1/all"),
          ("p/Orders", "remove", .delete, "/v2/orders/all"),
          ("p/Orders", "store", .put, "/v1"),
          ("p/Orders", "store", .put, "/v2/orders")] ∧
      u.DeclaresEndpoints endpoints ∧ ∀ e ∈ endpoints, NormalPath e.path := by
  let u := (Universe.ofRecords orderRecords orderSettings.scope).toOption.get (by decide +kernel)
  let run := runFrom (Endpoint.extract u orderSettings) []
  let endpoints := run.1.toOption.get (by decide +kernel)
  have hu : Universe.ofRecords orderRecords orderSettings.scope = .ok u :=
    toOption_eq_some.mp (Option.some_get _).symm
  have hrun : run.1 = .ok endpoints := toOption_eq_some.mp (Option.some_get _).symm
  have extracted : run = (.ok endpoints, run.2) := Prod.ext hrun rfl
  exact ⟨u, endpoints, run.2, hu, extracted, by decide +kernel, extracts_declared extracted⟩

end ApiSurface
