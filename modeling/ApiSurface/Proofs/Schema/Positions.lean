import ApiSurface.Endpoint.Types
import ApiSurface.Proofs.Schema.Order

/-!
# Types of endpoints and types of fields

The schema of a generic type is made in two places: that of a parameter or a result, and that of a
field. Both read the type on their own. For an endpoint the type is resolved against the universe
first, so that every class that a class is applied to has to be there; in a field these classes
only take part in the name of a schema. Apart from this the places agree.

Main definitions: `makeAtEndpoint`, `makeAtField`, `held?`. Main statement: `positions_agree`.
-/
namespace ApiSurface.Schema
open Endpoint Requesting

/-- Make the schema of a generic type in the place of a parameter or a result. -/
def makeAtEndpoint (u : Universe) (markers : Markers) (location : String) (t : GenericType) :
    Generating Schema := do
  let type ← Schema.ofExcept (endpointType u location t)
  endpointSchema u markers type

/-- Make the schema of a generic type in the place of a field, with no type variables bound. -/
def makeAtField (u : Universe) (markers : Markers) (owner location : String) (t : GenericType) :
    Generating Schema :=
  make u markers (fieldSchema ⟨owner, []⟩ location t)

/-- A class and the arguments that it is applied to. -/
structure Application where
  name : String
  arguments : List TypeArgument

namespace Application

/-- A scalar class is applied to classes only. -/
def Plain (a : Application) : Prop :=
  (BuiltIn.ofClass? a.name).isSome → ∀ x ∈ a.arguments, (argumentClass? x).isSome

/-- The classes that a class with a named schema is applied to. -/
def classes (a : Application) : List String :=
  if (BuiltIn.ofClass? a.name).isSome then [] else a.arguments.filterMap argumentClass?

end Application

mutual

/-- What a type holds at the end of its arrays and collections, if this is a class. -/
def held? : GenericType → Option Application
  | .base _ => none
  | .variable _ => none
  | .array component => held? component
  | .object name arguments =>
    if isCollection name then heldIn? arguments else some ⟨name, arguments⟩

/-- What the elements of a collection hold. -/
def heldIn? : List TypeArgument → Option Application
  | .exact t :: _ => held? t
  | .atMost t :: _ => held? t
  | _ => none

end

variable {u : Universe} {markers : Markers} {owner location place : String}

/-! ## Arguments -/

/-- Without type variables, an argument stands for the class that it names. -/
theorem argumentPath_unbound {type path : String} {argument : TypeArgument} :
    argumentPath ⟨owner, []⟩ location type argument = .ok path ↔
      argumentClass? argument = some path := by
  unfold argumentPath argumentClass?
  split <;> simp_all [Bindings.resolve]

theorem argumentPaths_unbound {type : String} {arguments : List TypeArgument}
    {paths : List String} :
    argumentPaths ⟨owner, []⟩ location type arguments = .ok paths ↔
      arguments.map argumentClass? = paths.map some := by
  induction arguments generalizing paths with
  | nil => cases paths <;> simp [argumentPaths]
  | cons argument arguments ih =>
    rw [argumentPaths, bind_eq_ok]
    simp only [argumentPath_unbound, bind_eq_ok, ih]
    cases paths <;> simp

/-- For an endpoint an argument stands for the class that it names, which has to be in the
universe. -/
theorem genericPaths_eq_ok {type : String} {arguments : List TypeArgument}
    {paths : List String} :
    genericPaths u location type arguments = .ok paths ↔
      arguments.map argumentClass? = paths.map some ∧ ∀ path ∈ paths, (u.find? path).isSome := by
  induction arguments generalizing paths with
  | nil => cases paths <;> simp [genericPaths]
  | cons argument arguments ih =>
    unfold genericPaths
    split
    · rename_i name nested hbound
      have hclass : argumentClass? argument = some name := by
        unfold argumentClass?
        rw [hbound]
      simp only [bind_eq_ok, ih, Universe.lookup_eq_ok, List.map_cons, hclass]
      constructor
      · rintro ⟨record, found, rest, ⟨hrest, hall⟩, heq⟩
        cases heq
        rw [Universe.path_of_find? found, hrest]
        exact ⟨rfl, List.forall_mem_cons.mpr ⟨by simp [found], hall⟩⟩
      · rintro ⟨hpaths, hall⟩
        cases paths with
        | nil => simp at hpaths
        | cons path rest =>
          obtain ⟨hpath, hrest⟩ := List.cons.inj hpaths
          cases hpath
          obtain ⟨hfound, hall⟩ := List.forall_mem_cons.mp hall
          obtain ⟨record, found⟩ := Option.isSome_iff_exists.mp hfound
          exact ⟨record, found, rest, ⟨hrest, hall⟩, by rw [Universe.path_of_find? found]⟩
    · rename_i hbound
      have hclass : argumentClass? argument = none := by
        unfold argumentClass?
        split
        · exact absurd ‹_› (hbound _ _)
        · rfl
      cases paths <;> simp [hclass]

/-! ## Types -/

theorem ofClass?_collection {name : String} (h : isCollection name) :
    BuiltIn.ofClass? name = none := by
  simp only [isCollection, Bool.or_eq_true, decide_eq_true_eq] at h
  rcases h with (rfl | rfl) | rfl <;> rfl

/-- Arguments that name classes name those of a list. -/
theorem exists_paths {arguments : List TypeArgument}
    (h : ∀ x ∈ arguments, (argumentClass? x).isSome) :
    ∃ paths : List String, arguments.map argumentClass? = paths.map some := by
  induction arguments with
  | nil => exact ⟨[], rfl⟩
  | cons x xs ih =>
    obtain ⟨path, hpath⟩ := Option.isSome_iff_exists.mp (h x List.mem_cons_self)
    obtain ⟨paths, hpaths⟩ := ih fun y hy => h y (List.mem_cons_of_mem _ hy)
    exact ⟨path :: paths, by rw [List.map_cons, List.map_cons, hpath, hpaths]⟩

theorem classes_eq {name : String} {arguments : List TypeArgument} {paths : List String}
    (hname : BuiltIn.ofClass? name = none) (h : arguments.map argumentClass? = paths.map some) :
    (Application.mk name arguments).classes = paths := by
  have hpaths : arguments.filterMap argumentClass? = paths := by
    have hmap : (arguments.map argumentClass?).filterMap id = (paths.map some).filterMap id := by
      rw [h]
    simpa [List.filterMap_map] using hmap
  simpa [Application.classes, hname] using hpaths

mutual

/-- A type that can be resolved has the same schema in both places. -/
theorem fieldSchema_eq {t : GenericType} {type : EndpointType}
    (h : endpointType u location t = .ok type) (plain : ∀ a ∈ held? t, a.Plain) :
    fieldSchema ⟨owner, []⟩ place t = typeSchema type := by
  match t with
  | .base p =>
    cases h
    rfl
  | .array component =>
    obtain ⟨items, hitems, h⟩ := bind_eq_ok.mp h
    cases h
    rw [fieldSchema, typeSchema, fieldSchema_eq hitems plain]
  | .variable name => cases h
  | .object name arguments =>
    unfold endpointType at h
    unfold held? at plain
    unfold fieldSchema
    by_cases hcollection : isCollection name
    · rw [ofClass?_collection hcollection, if_pos hcollection] at h
      obtain ⟨items, hitems, h⟩ := bind_eq_ok.mp h
      cases h
      rw [if_pos hcollection] at plain ⊢
      rw [elementSchema_eq hitems plain]
      rfl
    · rw [if_neg hcollection] at plain ⊢
      cases hscalar : BuiltIn.ofClass? name with
      | some scalar =>
        rw [hscalar] at h
        cases h
        obtain ⟨paths, hpaths⟩ := exists_paths (plain _ rfl (by simp [hscalar]))
        rw [argumentPaths_unbound.mpr hpaths, ofExcept_ok_bind, classSchema, hscalar]
        rfl
      | none =>
        rw [hscalar, if_neg hcollection] at h
        obtain ⟨record, found, h⟩ := bind_eq_ok.mp h
        obtain ⟨paths, hpaths, h⟩ := bind_eq_ok.mp h
        cases h
        rw [argumentPaths_unbound.mpr (genericPaths_eq_ok.mp hpaths).1, ofExcept_ok_bind,
          classSchema, hscalar, Universe.path_of_find? (Universe.lookup_eq_ok.mp found)]
        rfl

theorem elementSchema_eq {collection : String} {arguments : List TypeArgument}
    {type : EndpointType} (h : elementType u location collection arguments = .ok type)
    (plain : ∀ a ∈ heldIn? arguments, a.Plain) :
    elementSchema ⟨owner, []⟩ place collection arguments = typeSchema type := by
  match arguments with
  | [] => cases h
  | .any :: _ => cases h
  | .atLeast _ :: _ => cases h
  | .exact t :: _ => exact fieldSchema_eq h plain
  | .atMost t :: _ => exact fieldSchema_eq h plain

end

mutual

/-- The classes that a class is applied to are in the universe if the type can be resolved. -/
theorem find?_of_endpointType {t : GenericType} {type : EndpointType}
    (h : endpointType u location t = .ok type) :
    ∀ a ∈ held? t, ∀ path ∈ a.classes, (u.find? path).isSome := by
  match t with
  | .base p => simp [held?]
  | .array component =>
    obtain ⟨items, hitems, -⟩ := bind_eq_ok.mp h
    rw [held?]
    exact find?_of_endpointType hitems
  | .variable name => cases h
  | .object name arguments =>
    unfold endpointType at h
    unfold held?
    by_cases hcollection : isCollection name
    · rw [ofClass?_collection hcollection, if_pos hcollection] at h
      obtain ⟨items, hitems, -⟩ := bind_eq_ok.mp h
      rw [if_pos hcollection]
      exact find?_of_elementType hitems
    · rw [if_neg hcollection]
      rintro a ⟨⟩
      cases hscalar : BuiltIn.ofClass? name with
      | some scalar => simp [Application.classes, hscalar]
      | none =>
        rw [hscalar, if_neg hcollection] at h
        obtain ⟨record, -, h⟩ := bind_eq_ok.mp h
        obtain ⟨paths, hpaths, -⟩ := bind_eq_ok.mp h
        obtain ⟨hpaths, hall⟩ := genericPaths_eq_ok.mp hpaths
        rw [classes_eq hscalar hpaths]
        exact hall

theorem find?_of_elementType {collection : String} {arguments : List TypeArgument}
    {type : EndpointType} (h : elementType u location collection arguments = .ok type) :
    ∀ a ∈ heldIn? arguments, ∀ path ∈ a.classes, (u.find? path).isSome := by
  match arguments with
  | [] => cases h
  | .any :: _ => cases h
  | .atLeast _ :: _ => cases h
  | .exact t :: _ => exact find?_of_endpointType h
  | .atMost t :: _ => exact find?_of_endpointType h

end

mutual

/-- A type can be resolved if its schema can be made in the place of a field, and all classes that
this involves are in the universe. -/
theorem exists_endpointType {t : GenericType} {schema : Schema}
    (h : (fieldSchema ⟨owner, []⟩ place t).outcome = .ok schema)
    (asked : ∀ r ∈ (fieldSchema ⟨owner, []⟩ place t).requests, (u.find? r.path).isSome)
    (applied : ∀ a ∈ held? t, ∀ path ∈ a.classes, (u.find? path).isSome) :
    ∃ type, endpointType u location t = .ok type := by
  match t with
  | .base p => exact ⟨_, rfl⟩
  | .array component =>
    rw [fieldSchema, outcome_bind] at h
    obtain ⟨items, hitems, -⟩ := bind_eq_ok.mp h
    rw [fieldSchema, requests_bind_of_ok hitems] at asked
    obtain ⟨type, htype⟩ := exists_endpointType hitems
      (fun r hr => asked r (List.mem_append_left _ hr)) applied
    exact ⟨.array type, by rw [endpointType, htype]; rfl⟩
  | .variable name => cases h
  | .object name arguments =>
    unfold fieldSchema at h asked
    unfold held? at applied
    unfold endpointType
    by_cases hcollection : isCollection name
    · rw [if_pos hcollection] at h asked applied
      rw [outcome_bind] at h
      obtain ⟨items, hitems, -⟩ := bind_eq_ok.mp h
      rw [requests_bind_of_ok hitems] at asked
      obtain ⟨type, htype⟩ := exists_elementType hitems
        (fun r hr => asked r (List.mem_append_left _ hr)) applied
      rw [ofClass?_collection hcollection, if_pos hcollection, htype]
      exact ⟨.array type, rfl⟩
    · rw [if_neg hcollection] at h asked applied
      cases hscalar : BuiltIn.ofClass? name with
      | some scalar => exact ⟨.builtIn scalar, rfl⟩
      | none =>
        rw [outcome_bind] at h
        obtain ⟨paths, hpaths, -⟩ := bind_eq_ok.mp h
        rw [requests_bind_of_ok hpaths] at asked
        rw [outcome_ofExcept] at hpaths
        have hclasses := argumentPaths_unbound.mp hpaths
        have happlied := applied _ rfl
        rw [classes_eq hscalar hclasses] at happlied
        have hfound : (u.find? name).isSome := asked ⟨name, paths⟩ (by
          refine List.mem_append_right _ ?_
          rw [classSchema, hscalar]
          exact List.mem_cons_self)
        obtain ⟨record, found⟩ := Option.isSome_iff_exists.mp hfound
        rw [if_neg hcollection, Universe.lookup_eq_ok.mpr found,
          genericPaths_eq_ok.mpr ⟨hclasses, happlied⟩]
        exact ⟨.object record.path paths, rfl⟩

theorem exists_elementType {collection : String} {arguments : List TypeArgument}
    {schema : Schema}
    (h : (elementSchema ⟨owner, []⟩ place collection arguments).outcome = .ok schema)
    (asked : ∀ r ∈ (elementSchema ⟨owner, []⟩ place collection arguments).requests,
      (u.find? r.path).isSome)
    (applied : ∀ a ∈ heldIn? arguments, ∀ path ∈ a.classes, (u.find? path).isSome) :
    ∃ type, elementType u location collection arguments = .ok type := by
  match arguments with
  | [] => cases h
  | .any :: _ => cases h
  | .atLeast _ :: _ => cases h
  | .exact t :: _ => exact exists_endpointType h asked applied
  | .atMost t :: _ => exact exists_endpointType h asked applied

end

/-! ## Schemas in both places -/

/-- A run that succeeds finds the classes that it asks for. -/
theorem Answers.found {rs : List Request} {c c' : Catalog} {outcome : Except Fault Unit}
    (run : Answers u markers rs c outcome c') (h : outcome = .ok ()) :
    ∀ r ∈ rs, (u.find? r.path).isSome := by
  induction run with
  | done => exact fun r hr => (List.not_mem_nil hr).elim
  | missing => cases h
  | known found _ _ ih => exact List.forall_mem_cons.mpr ⟨by simp [found], ih h⟩
  | collision => cases h
  | stopped => cases h
  | unmade => cases h
  | made found _ _ _ _ _ ih => exact List.forall_mem_cons.mpr ⟨by simp [found], ih h⟩

theorem runFrom_makeAtEndpoint {t : GenericType} {type : EndpointType}
    (h : endpointType u location t = .ok type) (c : Catalog) :
    runFrom (makeAtEndpoint u markers location t) c =
      runFrom (make u markers (typeSchema type)) c := by
  rw [makeAtEndpoint, runFrom_bind, runFrom_ofExcept, h]
  rfl

theorem runFrom_makeAtEndpoint_error {t : GenericType} {fault : Fault}
    (h : endpointType u location t = .error fault) (c : Catalog) :
    runFrom (makeAtEndpoint u markers location t) c = (.error fault, c) := by
  rw [makeAtEndpoint, runFrom_bind, runFrom_ofExcept, h]
  rfl

/-- **Endpoints and fields agree on types.** The schema of a type that can be made for an endpoint
is the one that is made for a field. A schema that is made for a field can be made for an endpoint
if all classes that its class is applied to are in the universe; for want of any other than a
scalar it cannot. -/
theorem positions_agree (u : Universe) (markers : Markers) (owner location : String)
    (t : GenericType) (plain : ∀ a ∈ held? t, a.Plain) (c : Catalog) :
    (∀ schema c', runFrom (makeAtEndpoint u markers location t) c = (.ok schema, c') →
      runFrom (makeAtField u markers owner location t) c = (.ok schema, c')) ∧
    ((∀ a ∈ held? t, ∀ path ∈ a.classes, (u.find? path).isSome) →
      ∀ schema c', runFrom (makeAtField u markers owner location t) c = (.ok schema, c') →
        runFrom (makeAtEndpoint u markers location t) c = (.ok schema, c')) ∧
    ∀ a ∈ held? t, ∀ path ∈ a.classes, BuiltIn.ofClass? path = none → u.find? path = none →
      ∃ fault, runFrom (makeAtEndpoint u markers location t) c = (.error fault, c) := by
  refine ⟨fun schema c' h => ?_, fun applied schema c' h => ?_, fun a ha path hpath _ absent => ?_⟩
  · cases htype : endpointType u location t with
    | error fault =>
      rw [runFrom_makeAtEndpoint_error htype] at h
      cases h
    | ok type =>
      rw [runFrom_makeAtEndpoint htype] at h
      rw [makeAtField, fieldSchema_eq htype plain, h]
  · obtain ⟨outcome, c₁, run, hrun⟩ :=
      make_answers u markers (fieldSchema ⟨owner, []⟩ location t) c
    rw [makeAtField] at h
    rw [h, Prod.mk.injEq] at hrun
    obtain ⟨_, rfl, hschema⟩ := bind_eq_ok.mp hrun.1.symm
    have hexists : ∃ type, endpointType u location t = .ok type :=
      exists_endpointType hschema (run.found rfl) applied
    obtain ⟨type, htype⟩ := hexists
    rw [runFrom_makeAtEndpoint htype, ← h, fieldSchema_eq htype plain]
  · cases htype : endpointType u location t with
    | error fault => exact ⟨fault, runFrom_makeAtEndpoint_error htype c⟩
    | ok type =>
      have found := find?_of_endpointType htype a ha path hpath
      rw [absent] at found
      cases found

/-! ## A class applied to one that is in the universe, and to one that is not -/

/-- A class with a type variable, and a class that it can be applied to. -/
def shelfRecords : List ClassRecord :=
  [.ofClass {
      name := "p/Page"
      signature := some "<T:Ljava/lang/Object;>Ljava/lang/Object;"
      fields := [{ name := "number", descriptor := "I" }] },
    .ofClass { name := "p/Item" }]

/-- The universe of the sample. -/
def shelf : Universe :=
  (Universe.ofRecords shelfRecords {}).toOption.get (by decide +kernel)

/-- The generic class of the sample applied to a class. -/
def pageOf (path : String) : GenericType := .object "p/Page" [.exact (.object path [])]

/-- The schema of an array of pages of items is made in both places. -/
theorem positions_agree_pages :
    (∀ a ∈ held? (.array (pageOf "p/Item")), a.Plain) ∧
      (∀ a ∈ held? (.array (pageOf "p/Item")), ∀ path ∈ a.classes, (shelf.find? path).isSome) ∧
      ∃ c,
        runFrom (makeAtField shelf {} "p/Shelf" "p/Shelf.pages" (.array (pageOf "p/Item"))) {} =
          (.ok (.array (.reference "Page__Item")), c) ∧
        runFrom (makeAtEndpoint shelf {} "p/Shelf.pages" (.array (pageOf "p/Item"))) {} =
          (.ok (.array (.reference "Page__Item")), c) := by
  have hplain : ∀ a ∈ held? (.array (pageOf "p/Item")), a.Plain := by
    rintro a ⟨⟩ hscalar
    cases hscalar
  have happlied : ∀ a ∈ held? (.array (pageOf "p/Item")),
      ∀ path ∈ a.classes, (shelf.find? path).isSome := by
    rintro a ⟨⟩
    decide +kernel
  have hok : (runFrom (makeAtField shelf {} "p/Shelf" "p/Shelf.pages" (.array (pageOf "p/Item")))
      {}).1 = .ok (.array (.reference "Page__Item")) :=
    runFrom_make_eq_ok (by decide +kernel) rfl
  obtain ⟨-, hagree, -⟩ :=
    positions_agree shelf {} "p/Shelf" "p/Shelf.pages" (.array (pageOf "p/Item")) hplain {}
  have hrun : runFrom (makeAtField shelf {} "p/Shelf" "p/Shelf.pages" (.array (pageOf "p/Item")))
      {} = (.ok (.array (.reference "Page__Item")), _) := Prod.ext hok rfl
  exact ⟨hplain, happlied, _, hrun, hagree happlied _ _ hrun⟩

/-- A class applied to one that is not in the universe has a schema in the place of a field, but
none in that of an endpoint. A scalar class that is not applied to a class has one in that of an
endpoint only. -/
theorem positions_differ :
    ((runFrom (makeAtField shelf {} "p/Shelf" "p/Shelf.page" (pageOf "p/Missing")) {}).1 =
        .ok (.reference "Page__Missing") ∧
      (runFrom (makeAtEndpoint shelf {} "p/Shelf.page" (pageOf "p/Missing")) {}).1 =
        .error (.classNotFound "p/Missing")) ∧
    ((runFrom (makeAtEndpoint shelf {} "p/Shelf.page" (.object "java/lang/String" [.any])) {}).1 =
        .ok (.scalar .string) ∧
      (runFrom (makeAtField shelf {} "p/Shelf" "p/Shelf.page"
        (.object "java/lang/String" [.any])) {}).1 =
        .error (.unrecognized (.argumentForm .any "java/lang/String") "p/Shelf.page")) :=
  ⟨⟨runFrom_make_eq_ok (by decide +kernel) rfl, rfl⟩, rfl, rfl⟩

end ApiSurface.Schema
