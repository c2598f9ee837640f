import ApiSurface.Proofs.Descriptor.Reading
import ApiSurface.Proofs.Schema.Mapping
import ApiSurface.Proofs.Universe.Implementations
import ApiSurface.Proofs.Universe.Loading

/-!
# Discriminators of unions

The schema of an abstract class is a union of the schemas of the concrete classes below it. Each of
these classes has one field that tells its objects from those of the others, and these fields are
all of one enum. But they need not have one name, and a field that tells objects apart need not be
data. The property that the union names is that of the first class only, so that an alternative has
it exactly if its class has data of the enum under this name.

Main definitions: `UnionOf`, `Tells`, `Carries`. Main statements: `discriminator_told`,
`discriminator_untold`.
-/
namespace ApiSurface.Schema
open Requesting

/-- The field is the only one of the class whose type descends from the marker, and its type is the
enum. -/
structure Discriminates (u : Universe) (marker enum : String) (c : Class) (f : Field) : Prop where
  only : c.fields.filter (fun g => (isDiscriminator u marker g).toOption = some true) = [f]
  type : FieldType.ofDescriptor f.descriptor = .ok (.object enum)

/-- The alternatives of a union are the concrete classes below a class, in ascending order. Each of
them has one discriminator of the enum, and the property has the name of the first. -/
structure UnionOf (u : Universe) (markers : Markers) (target enum : String)
    (members : List ClassRecord) (alternatives : List String) (property : String) : Prop where
  ascending : members.Pairwise fun r s => r.path < s.path
  mem_iff : ∀ r, r ∈ members ↔ u.Implements .types target r
  named : alternatives = members.map fun r => schemaName r.path []
  isEnum : ∃ record c, u.find? enum = some record ∧ record.info = .ok c ∧ c.flags.isEnum = true
  discriminators : ∃ marker fields, markers.discriminatorEnum = some marker ∧
    List.Forall₂ (fun r f => ∃ c, r.info = .ok c ∧ Discriminates u marker enum c f) members fields ∧
    fields.head?.map (·.name) = some property

/-- The schema is that of an object, whose property refers to the schema of the enum. -/
def Tells (catalog : Catalog) (schema : Schema) (property enum : String) : Prop :=
  ∃ properties name, schema = .object properties ∧ (property, .reference name) ∈ properties ∧
    catalog.registry[name]? = some ⟨enum, []⟩

/-- The class is described as an object, and has data of the enum under the name of the property. -/
structure Carries (markers : Markers) (property enum : String) (c : Class) : Prop where
  plain : c.flags.isEnum = false
  named : BuiltIn.ofClass? enum = none
  data : ∃ f ∈ c.fields, isData markers f = true ∧ f.name = property ∧
    fieldType f = .ok (.object enum [])

variable {u : Universe} {markers : Markers} {marker location : String}

/-! ## The discriminators of classes -/

theorem Discriminates.classNameOf_eq {enum : String} {c : Class} {f : Field}
    (h : Discriminates u marker enum c f) : Descriptor.classNameOf f.descriptor = .ok enum := by
  obtain ⟨⟨hne, -⟩, heq⟩ := FieldType.ofDescriptor_eq_ok.mp h.type
  rw [heq, Descriptor.classNameOf_descriptor hne]

theorem onlyDiscriminator_eq_some {found : Option Field} {fields : List Field} {f : Field}
    (h : onlyDiscriminator u marker location found fields = .ok (some f)) :
    found.toList ++ fields.filter (fun g => (isDiscriminator u marker g).toOption = some true) =
      [f] := by
  induction fields generalizing found with
  | nil =>
    cases h
    rfl
  | cons g fields ih =>
    obtain ⟨b, hb, h⟩ := bind_eq_ok.mp h
    cases b with
    | true =>
      cases found with
      | some other => cases h
      | none => simpa [List.filter_cons, hb, Except.toOption] using ih h
    | false => simpa [List.filter_cons, hb, Except.toOption] using ih h

theorem discriminatorField_eq_ok {record : ClassRecord} {f : Field}
    (h : discriminatorField u marker record = .ok f) :
    ∃ c enum, record.info = .ok c ∧ Discriminates u marker enum c f := by
  obtain ⟨c, hinfo, h⟩ := bind_eq_ok.mp h
  obtain ⟨found, hfound, h⟩ := bind_eq_ok.mp h
  cases found with
  | none => cases h
  | some g =>
    cases h
    have only := onlyDiscriminator_eq_some hfound
    rw [Option.toList_none, List.nil_append] at only
    have hmem := (List.mem_filter.mp (only ▸ List.mem_singleton_self f)).2
    rw [decide_eq_true_iff, toOption_eq_some] at hmem
    unfold isDiscriminator at hmem
    split at hmem
    · cases hmem
    split at hmem
    next enum type => exact ⟨c, enum, hinfo, only, type⟩
    · cases hmem

theorem agreeOn_eq_ok {first f : Field} {records : List ClassRecord}
    (h : agreeOn u marker first records = .ok f) :
    f = first ∧ ∃ fields, List.Forall₂ (fun r g =>
      discriminatorField u marker r = .ok g ∧ g.descriptor = first.descriptor) records fields := by
  induction records with
  | nil =>
    cases h
    exact ⟨rfl, [], .nil⟩
  | cons record records ih =>
    obtain ⟨g, hg, h⟩ := bind_eq_ok.mp h
    split at h
    next heq =>
      obtain ⟨hf, fields, hfields⟩ := ih h
      exact ⟨hf, g :: fields, .cons ⟨hg, heq.symm⟩ hfields⟩
    · cases h

/-- The discriminator of a union is that of its first class, and the others have its type. -/
theorem commonDiscriminator_eq_ok {records : List ClassRecord} {f : Field}
    (h : commonDiscriminator u marker location records = .ok f) :
    ∃ fields, fields.head? = some f ∧ List.Forall₂ (fun r g =>
      discriminatorField u marker r = .ok g ∧ g.descriptor = f.descriptor) records fields := by
  cases records with
  | nil => cases h
  | cons record records =>
    obtain ⟨first, hfirst, h⟩ := bind_eq_ok.mp h
    obtain ⟨rfl, fields, hfields⟩ := agreeOn_eq_ok h
    exact ⟨f :: fields, rfl, .cons ⟨hfirst, rfl⟩ hfields⟩

/-! ## The schemas of unions -/

@[simp] theorem outcome_namesOf (records : List ClassRecord) :
    (namesOf records).outcome = .ok (records.map fun r => schemaName r.path []) := by
  induction records with
  | nil => rfl
  | cons record records ih => simp [namesOf, outcome_bind, ih]

theorem requests_namesOf (records : List ClassRecord) :
    (namesOf records).requests = records.map fun r => ⟨r.path, []⟩ := by
  induction records with
  | nil => rfl
  | cons record records ih => simp [namesOf, requests_bind, ih, Except.toOption]

/-- A mapping is read from an enum. -/
theorem isEnum_of_mappingOf {record : ClassRecord} {mapping : List (String × String)}
    (h : (mappingOf record).outcome = .ok mapping) :
    ∃ c, record.info = .ok c ∧ c.flags.isEnum = true := by
  unfold mappingOf at h
  rw [outcome_bind, outcome_ofExcept] at h
  obtain ⟨c, hinfo, h⟩ := bind_eq_ok.mp h
  refine ⟨c, hinfo, ?_⟩
  split at h
  · cases h
  · simp_all

/-- A union that is made is one of the concrete classes below its class, and asks for the names of
their schemas. -/
theorem unionOf_of_alternativesSchema {record : ClassRecord} {alternatives : List String}
    {property : String} {mapping : List (String × String)}
    (h : (alternativesSchema u markers record).outcome =
      .ok (.oneOf alternatives property mapping)) :
    ∃ enum members, UnionOf u markers record.path enum members alternatives property ∧
      ∀ r ∈ members, ⟨r.path, []⟩ ∈ (alternativesSchema u markers record).requests := by
  rw [alternativesSchema] at h ⊢
  rw [outcome_bind, outcome_ofExcept] at h
  obtain ⟨concrete, hconcrete, h⟩ := bind_eq_ok.mp h
  split at h
  · cases h
  next hne =>
    rw [outcome_bind, outcome_namesOf, ok_bind] at h
    split at h
    · cases h
    next marker hmarker =>
      simp only [outcome_bind, outcome_ofExcept] at h
      obtain ⟨common, hcommon, h⟩ := bind_eq_ok.mp h
      obtain ⟨enum, henum, h⟩ := bind_eq_ok.mp h
      obtain ⟨record, hrecord, h⟩ := bind_eq_ok.mp h
      obtain ⟨_, hmapping, h⟩ := bind_eq_ok.mp h
      cases h
      obtain ⟨ascending, mem_iff⟩ := Universe.implementations_eq_ok hconcrete
      obtain ⟨c, hinfo, isEnum⟩ := isEnum_of_mappingOf hmapping
      obtain ⟨fields, hfirst, hfields⟩ := commonDiscriminator_eq_ok hcommon
      refine ⟨enum, concrete, ⟨ascending, mem_iff, rfl,
        ⟨record, c, Universe.lookup_eq_ok.mp hrecord, hinfo, isEnum⟩,
        marker, fields, hmarker, hfields.imp fun r f hf => ?_, by rw [hfirst]; rfl⟩,
        fun r hr => ?_⟩
      · obtain ⟨hf, hdescriptor⟩ := hf
        obtain ⟨c, own, hinfo, discriminates⟩ := discriminatorField_eq_ok hf
        obtain rfl : own = enum := by
          have hown := discriminates.classNameOf_eq
          rw [hdescriptor] at hown
          rw [hown] at henum
          cases henum
          rfl
        exact ⟨c, hinfo, discriminates⟩
      · refine mem_requests_bind.mpr (.inr ⟨concrete, ?_, ?_⟩)
        · rw [outcome_ofExcept, hconcrete]
        · rw [if_neg hne]
          refine mem_requests_bind.mpr (.inl ?_)
          rw [requests_namesOf]
          exact List.mem_map_of_mem hr

/-! ## The properties of objects -/

/-- The property that a field becomes; the names that its schema needs are asked for. -/
structure Becomes (bindings : Bindings) (asked : List Request) (f : Field) (p : String × Schema) :
    Prop where
  name : p.1 = f.name
  made : ∃ t, fieldType f = .ok t ∧
    (fieldSchema bindings (bindings.owner ++ "." ++ f.name) t).outcome = .ok p.2 ∧
    ∀ q ∈ (fieldSchema bindings (bindings.owner ++ "." ++ f.name) t).requests, q ∈ asked

theorem Becomes.mono {bindings : Bindings} {asked more : List Request} {f : Field}
    {p : String × Schema} (h : Becomes bindings asked f p) (hmore : ∀ q ∈ asked, q ∈ more) :
    Becomes bindings more f p := by
  obtain ⟨t, htype, houtcome, hasked⟩ := h.made
  exact ⟨h.name, t, htype, houtcome, fun q hq => hmore q (hasked q hq)⟩

/-- Each field becomes a property, in order. -/
theorem becomes_of_propertySchemas {bindings : Bindings} {fields : List Field}
    {properties : List (String × Schema)}
    (h : (propertySchemas bindings fields).outcome = .ok properties) :
    List.Forall₂ (Becomes bindings (propertySchemas bindings fields).requests) fields
      properties := by
  induction fields generalizing properties with
  | nil =>
    cases h
    exact .nil
  | cons f fields ih =>
    rw [propertySchemas] at h ⊢
    simp only [outcome_bind, outcome_ofExcept] at h
    obtain ⟨t, htype, h⟩ := bind_eq_ok.mp h
    obtain ⟨schema, hschema, h⟩ := bind_eq_ok.mp h
    obtain ⟨later, hlater, h⟩ := bind_eq_ok.mp h
    cases h
    rw [htype, ofExcept_ok_bind]
    refine .cons ⟨rfl, t, htype, hschema, fun q hq => ?_⟩ ((ih hlater).imp fun g p hg => ?_)
    · exact mem_requests_bind.mpr (.inl hq)
    · refine hg.mono fun q hq => mem_requests_bind.mpr (.inr ⟨schema, hschema, ?_⟩)
      exact mem_requests_bind.mpr (.inl hq)

/-- A class of data is described as an object, with a property for each field that is data. -/
theorem becomes_of_objectSchema {record : ClassRecord} {c : Class} {generics : List String}
    {schema : Schema} (h : (objectSchema markers record c generics).outcome = .ok schema) :
    ∃ (parameters : List String) (properties : List (String × Schema)),
      schema = .object properties ∧ List.Forall₂ (Becomes ⟨record.path, parameters.zip generics⟩
          (objectSchema markers record c generics).requests) (c.fields.filter (isData markers))
        properties := by
  rw [objectSchema] at h ⊢
  simp only [outcome_bind, outcome_ofExcept] at h
  obtain ⟨parameters, hparameters, h⟩ := bind_eq_ok.mp h
  obtain ⟨properties, hproperties, h⟩ := bind_eq_ok.mp h
  cases h
  refine ⟨parameters, properties, rfl, (becomes_of_propertySchemas hproperties).imp fun f p hf => ?_⟩
  rw [hparameters, ofExcept_ok_bind]
  exact hf.mono fun q hq => mem_requests_bind.mpr (.inl hq)

/-- Where no type variables are bound, a schema that is a reference is that of a class, whose name
has been asked for. -/
theorem of_fieldSchema_reference {owner name : String} {t : GenericType}
    (h : (fieldSchema ⟨owner, []⟩ location t).outcome = .ok (.reference name)) :
    ∃ path arguments generics, t = .object path arguments ∧ BuiltIn.ofClass? path = none ∧
      argumentPaths ⟨owner, []⟩ location path arguments = .ok generics ∧
      name = schemaName path generics ∧
      ⟨path, generics⟩ ∈ (fieldSchema ⟨owner, []⟩ location t).requests := by
  match t with
  | .base p => cases h
  | .variable v =>
    rw [fieldSchema, outcome_bind, outcome_ofExcept] at h
    obtain ⟨_, hresolve, -⟩ := bind_eq_ok.mp h
    cases hresolve
  | .array component =>
    rw [fieldSchema, outcome_bind] at h
    obtain ⟨_, -, heq⟩ := bind_eq_ok.mp h
    cases heq
  | .object path arguments =>
    rw [fieldSchema] at h ⊢
    split at h
    · rw [outcome_bind] at h
      obtain ⟨_, -, heq⟩ := bind_eq_ok.mp h
      cases heq
    next hcollection =>
      rw [outcome_bind, outcome_ofExcept] at h
      obtain ⟨generics, hgenerics, h⟩ := bind_eq_ok.mp h
      rw [if_neg hcollection, hgenerics, ofExcept_ok_bind]
      rw [classSchema] at h ⊢
      split at h
      · cases h
      next scalar =>
        cases h
        exact ⟨path, arguments, generics, rfl, scalar, hgenerics, rfl, List.mem_cons_self⟩

/-- The schema of a class that is applied to none refers to it, unless it is a scalar. -/
theorem fieldSchema_plain {bindings : Bindings} {path : String} {schema : Schema}
    (scalar : BuiltIn.ofClass? path = none)
    (h : (fieldSchema bindings location (.object path [])).outcome = .ok schema) :
    schema = .reference (schemaName path []) ∧
      ⟨path, []⟩ ∈ (fieldSchema bindings location (.object path [])).requests := by
  rw [fieldSchema] at h ⊢
  split at h
  · cases h
  next hcollection =>
    rw [argumentPaths, ofExcept_ok_bind, classSchema, scalar] at h ⊢
    cases h
    rw [if_neg hcollection]
    exact ⟨rfl, List.mem_cons_self⟩

/-! ## Unions in a complete catalog -/

theorem exists_of_forall₂ {α β : Type} {R : α → β → Prop} {l : List α} {l' : List β}
    (h : List.Forall₂ R l l') {a : α} (ha : a ∈ l) : ∃ b ∈ l', R a b := by
  induction h with
  | nil => cases ha
  | cons hab _ ih =>
    rcases List.mem_cons.mp ha with rfl | ha
    · exact ⟨_, List.mem_cons_self, hab⟩
    · obtain ⟨b, hb, hr⟩ := ih ha
      exact ⟨b, List.mem_cons_of_mem _ hb, hr⟩

/-- An alternative tells by the property which class an object is of if its class carries the
property, and only then. -/
theorem Complete.tells_iff {catalog : Catalog} (complete : Complete u markers catalog)
    {r : ClassRecord} {c : Class} (held : catalog.Holds ⟨r.path, []⟩)
    (found : u.find? r.path = some r) (info : r.info = .ok c) (concrete : c.isConcrete = true)
    (property enum : String) :
    ∃ schema, catalog.schemas[schemaName r.path []]? = some schema ∧
      (Tells catalog schema property enum ↔ Carries markers property enum c) := by
  obtain ⟨record, schema, hrecord, success, hschema, asked⟩ := complete.settled _ held
  rw [found] at hrecord
  cases hrecord
  refine ⟨schema, hschema, ?_⟩
  rw [recordSchema, info, ofExcept_ok_bind] at success asked
  by_cases isEnum : c.flags.isEnum = true
  · rw [if_pos isEnum] at success
    cases success
    constructor
    · rintro ⟨_, _, hobject, -⟩
      cases hobject
    · intro carries
      exact absurd carries.plain (by simp [isEnum])
  · rw [if_neg isEnum, if_pos concrete] at success asked
    obtain ⟨parameters, properties, rfl, becomes⟩ := becomes_of_objectSchema success
    rw [List.zip_nil_right] at becomes
    constructor
    · rintro ⟨_, name, hobject, hmem, registered⟩
      cases hobject
      obtain ⟨f, hf, hbecomes⟩ := exists_of_forall₂ becomes.flip hmem
      obtain ⟨t, htype, houtcome, hasked⟩ := hbecomes.made
      obtain ⟨path, arguments, generics, rfl, scalar, hgenerics, rfl, hrequest⟩ :=
        of_fieldSchema_reference houtcome
      -- The name is registered for the class that the field asks for, and for the enum.
      have own := asked _ (hasked _ hrequest)
      rw [Request.name, registered] at own
      cases own
      obtain rfl : arguments = [] := by
        cases arguments with
        | nil => rfl
        | cons =>
          obtain ⟨_, -, h⟩ := bind_eq_ok.mp hgenerics
          obtain ⟨_, -, h⟩ := bind_eq_ok.mp h
          cases h
      obtain ⟨hfield, hdata⟩ := List.mem_filter.mp hf
      exact ⟨by simpa using isEnum, scalar, f, hfield, hdata, hbecomes.name.symm, htype⟩
    · rintro ⟨-, scalar, f, hfield, hdata, rfl, htype⟩
      obtain ⟨⟨_, s⟩, hmem, hbecomes⟩ :=
        exists_of_forall₂ becomes (List.mem_filter.mpr ⟨hfield, hdata⟩)
      obtain rfl := hbecomes.name
      obtain ⟨t, ht, houtcome, hasked⟩ := hbecomes.made
      rw [htype] at ht
      cases ht
      obtain ⟨rfl, hrequest⟩ := fieldSchema_plain scalar houtcome
      have registered := asked _ (hasked _ hrequest)
      exact ⟨properties, _, rfl, hmem, registered⟩

/-- A union is the outcome for a class that is not concrete. -/
theorem recordSchema_eq_alternativesSchema {record : ClassRecord}
    {generics alternatives : List String} {property : String} {mapping : List (String × String)}
    (h : (recordSchema u markers record generics).outcome =
      .ok (.oneOf alternatives property mapping)) :
    recordSchema u markers record generics = alternativesSchema u markers record := by
  rw [recordSchema] at h ⊢
  rw [outcome_bind, outcome_ofExcept] at h
  obtain ⟨c, hinfo, h⟩ := bind_eq_ok.mp h
  rw [hinfo, ofExcept_ok_bind]
  split at h
  · cases h
  next plain =>
    split at h
    · obtain ⟨_, _, hobject, -⟩ := becomes_of_objectSchema h
      cases hobject
    next abstract => rw [if_neg plain, if_neg abstract]

/-- **The discriminator need not be a property of an alternative.** Each alternative of a union has
one field of the same enum. But it has the property by which the union tells the alternatives apart
exactly if its class carries data of this enum under the name of the first of these fields. -/
theorem discriminator_told {ds : List Demand} (succeeds : Succeeds (session u markers ds {}).1)
    {name property : String} {alternatives : List String} {mapping : List (String × String)}
    (stored : (session u markers ds {}).2.schemas[name]? =
      some (.oneOf alternatives property mapping)) :
    ∃ target generics enum members,
      (session u markers ds {}).2.registry[name]? = some ⟨target, generics⟩ ∧
      UnionOf u markers target enum members alternatives property ∧
      ∀ r ∈ members, ∃ c schema, r.info = .ok c ∧
        (session u markers ds {}).2.schemas[schemaName r.path []]? = some schema ∧
        (Tells (session u markers ds {}).2 schema property enum ↔
          Carries markers property enum c) := by
  obtain ⟨complete, -, -⟩ := complete_of_succeeds succeeds
  cases registered : (session u markers ds {}).2.registry[name]? with
  | none =>
    rw [complete.schema_eq_none registered] at stored
    cases stored
  | some request =>
    obtain rfl := complete.name_eq registered
    obtain ⟨record, schema, found, success, hschema, asked⟩ := complete.settled request registered
    rw [hschema] at stored
    cases stored
    have heq := recordSchema_eq_alternativesSchema success
    rw [heq] at success asked
    obtain ⟨enum, members, union, hasked⟩ := unionOf_of_alternativesSchema success
    rw [Universe.path_of_find? found] at union
    refine ⟨request.path, request.generics, enum, members, rfl, union, fun r hr => ?_⟩
    have implements := (union.mem_iff r).mp hr
    obtain ⟨c, info, concrete⟩ := implements.concrete
    obtain ⟨own, hown, htells⟩ := complete.tells_iff (asked _ (hasked r hr)) implements.found info
      concrete property enum
    exact ⟨c, own, info, hown, htells⟩

/-! ## Two shapes that name their kinds alike, and two that do not -/

/-- A shape with a field that holds its kind. -/
def shapeWith (path field : String) : Class where
  name := path
  superclass := some "p/Shape"
  fields := [{ name := field, descriptor := "Lp/Kind;" }]

/-- The classes of a union of two shapes, where the square has this name for its kind. -/
def shapeClasses (field : String) : List Class :=
  [{ name := "p/Shape", flags := { isAbstract := true } }, shapeWith "p/Circle" "kind",
    shapeWith "p/Square" field,
    { name := "p/Tag", flags := { isInterface := true, isAbstract := true } }, labelledKinds]

/-- The universe of shapes that name their kinds alike. -/
def shapes : Universe :=
  (Universe.ofRecords ((shapeClasses "kind").map .ofClass) { types := ["p"] }).toOption.get
    (by decide +kernel)

/-- The universe of shapes that do not. -/
def mixedShapes : Universe :=
  (Universe.ofRecords ((shapeClasses "sort").map .ofClass) { types := ["p"] }).toOption.get
    (by decide +kernel)

/-- The markers of the samples. -/
def tagged : Markers := { discriminatorEnum := some "p/Tag" }

/-- The parts of a union. -/
def union? : Schema → Option (List String × String × List (String × String))
  | .oneOf alternatives property mapping => some (alternatives, property, mapping)
  | _ => none

theorem eq_oneOf_of_union? {schema : Option Schema} {alternatives : List String}
    {property : String} {mapping : List (String × String)}
    (h : schema.bind union? = some (alternatives, property, mapping)) :
    schema = some (.oneOf alternatives property mapping) := by
  obtain ⟨s, rfl, hs⟩ := Option.bind_eq_some_iff.mp h
  cases s <;> cases hs
  rfl

theorem find?_shapes {path : String} {r : ClassRecord} :
    shapes.find? path = some r ↔ r ∈ (shapeClasses "kind").map .ofClass ∧ r.path = path :=
  Universe.find?_ofRecords (toOption_eq_some.mp (Option.some_get _).symm)

theorem find?_mixedShapes {path : String} {r : ClassRecord} :
    mixedShapes.find? path = some r ↔ r ∈ (shapeClasses "sort").map .ofClass ∧ r.path = path :=
  Universe.find?_ofRecords (toOption_eq_some.mp (Option.some_get _).symm)

/-- The square is told by its kind. -/
theorem discriminator_told_shapes :
    Succeeds (session shapes tagged [.nameOf "p/Shape" []] {}).1 ∧
      (session shapes tagged [.nameOf "p/Shape" []] {}).2.schemas["Shape"]? =
        some (.oneOf ["Circle", "Square"] "kind" [("CIRCLE", "Circle"), ("SQUARE", "Square")]) ∧
      ∃ schema, (session shapes tagged [.nameOf "p/Shape" []] {}).2.schemas["Square"]? =
          some schema ∧
        Tells (session shapes tagged [.nameOf "p/Shape" []] {}).2 schema "kind" "p/Kind" := by
  obtain ⟨succeeds, hunion⟩ : Succeeds (session shapes tagged [.nameOf "p/Shape" []] {}).1 ∧
      (session shapes tagged [.nameOf "p/Shape" []] {}).2.schemas["Shape"]?.bind union? =
        some (["Circle", "Square"], "kind", [("CIRCLE", "Circle"), ("SQUARE", "Square")]) := by
    decide +kernel
  have stored := eq_oneOf_of_union? hunion
  have registered : (session shapes tagged [.nameOf "p/Shape" []] {}).2.registry["Shape"]? =
      some ⟨"p/Shape", []⟩ := (complete_of_succeeds succeeds).2.1 _ List.mem_cons_self
  refine ⟨succeeds, stored, ?_⟩
  obtain ⟨target, generics, enum, members, hregistered, union, told⟩ :=
    discriminator_told succeeds stored
  cases registered.symm.trans hregistered
  have implements : shapes.Implements .types "p/Shape" (.ofClass (shapeWith "p/Square" "kind")) := by
    have found : shapes.find? "p/Square" = some (.ofClass (shapeWith "p/Square" "kind")) :=
      find?_shapes.mpr ⟨List.mem_map_of_mem (by simp [shapeClasses]), rfl⟩
    exact ⟨found, by decide +kernel, by decide,
      .single ⟨_, _, found, rfl, List.mem_cons_self⟩, _, rfl, rfl⟩
  have hmem := (union.mem_iff _).mpr implements
  obtain ⟨c, schema, info, hschema, htells⟩ := told _ hmem
  cases info
  obtain ⟨marker, fields, -, discriminators, -⟩ := union.discriminators
  obtain ⟨f, -, _, info, discriminates⟩ := exists_of_forall₂ discriminators hmem
  cases info
  obtain rfl : enum = "p/Kind" := by
    have hf : f ∈ (shapeWith "p/Square" "kind").fields :=
      (List.mem_filter.mp (discriminates.only ▸ List.mem_singleton_self f)).1
    obtain rfl := List.mem_singleton.mp hf
    have type : FieldType.ofDescriptor "Lp/Kind;" = .ok (.object "p/Kind") := by decide
    cases type.symm.trans discriminates.type
    rfl
  exact ⟨schema, hschema, htells.mpr ⟨rfl, rfl, _, List.mem_cons_self, rfl, rfl, rfl⟩⟩

/-- **A discriminator can be missing.** The union tells the shapes apart by a property that the
square does not have. -/
theorem discriminator_untold :
    Succeeds (session mixedShapes tagged [.nameOf "p/Shape" []] {}).1 ∧
      (session mixedShapes tagged [.nameOf "p/Shape" []] {}).2.schemas["Shape"]? =
        some (.oneOf ["Circle", "Square"] "kind" [("CIRCLE", "Circle"), ("SQUARE", "Square")]) ∧
      (session mixedShapes tagged [.nameOf "p/Shape" []] {}).2.schemas["Square"]? =
        some (.object [("sort", .reference "Kind")]) := by
  obtain ⟨succeeds, union, held⟩ :
      Succeeds (session mixedShapes tagged [.nameOf "p/Shape" []] {}).1 ∧
        (session mixedShapes tagged [.nameOf "p/Shape" []] {}).2.schemas["Shape"]?.bind union? =
          some (["Circle", "Square"], "kind", [("CIRCLE", "Circle"), ("SQUARE", "Square")]) ∧
        (session mixedShapes tagged [.nameOf "p/Shape" []] {}).2.registry["Square"]? =
          some ⟨"p/Square", []⟩ := by
    decide +kernel
  refine ⟨succeeds, eq_oneOf_of_union? union, ?_⟩
  have square : mixedShapes.find? "p/Square" = some (.ofClass (shapeWith "p/Square" "sort")) :=
    find?_mixedShapes.mpr ⟨List.mem_map_of_mem (by simp [shapeClasses]), rfl⟩
  obtain ⟨record, schema, found, success, hschema, -⟩ :=
    (complete_of_succeeds succeeds).1.settled ⟨"p/Square", []⟩ held
  cases square.symm.trans found
  cases success
  exact hschema

end ApiSurface.Schema
