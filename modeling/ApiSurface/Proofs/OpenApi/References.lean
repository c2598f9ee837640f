import ApiSurface.OpenApi.Printer
import ApiSurface.Proofs.OpenApi.Operation
import ApiSurface.Proofs.Schema.Closed

/-!
# References in a document

A JSON document refers to a schema with the text of a `$ref` member, or with that of a member of
the mapping of a discriminator. In the document of an API these texts are the references to the
names in its schemas.

Main definitions: `Json.referenceTexts`, `Document.references`. Main statement:
`mem_referenceTexts_document`.
-/
namespace ApiSurface

namespace Json

/-- The text of a string. -/
def texts : Json → List String
  | string text => [text]
  | _ => []

/-- The texts of the members of an object. -/
def ownTexts : Json → List String
  | object members => members.flatMap (·.2.texts)
  | _ => []

/-- The texts that a discriminator maps to. -/
def mappedTexts : Json → List String
  | object members => members.flatMap fun (key, value) =>
    if key = "mapping" then value.ownTexts else []
  | _ => []

/-- The texts with which a member refers to schemas itself. -/
def memberTexts (key : String) (value : Json) : List String :=
  if key = "$ref" then value.texts
  else if key = "discriminator" then value.mappedTexts
  else []

mutual

/-- The texts that refer to schemas anywhere in a value. -/
def referenceTexts : Json → List String
  | array items => textsOfItems items
  | object members => textsOfMembers members
  | _ => []

/-- The texts that refer to schemas anywhere in items. -/
def textsOfItems : List Json → List String
  | [] => []
  | item :: items => item.referenceTexts ++ textsOfItems items

/-- The texts that refer to schemas anywhere in members. -/
def textsOfMembers : List (String × Json) → List String
  | [] => []
  | (key, value) :: members =>
    memberTexts key value ++ value.referenceTexts ++ textsOfMembers members

end

variable {text : String}

theorem mem_textsOfItems {items : List Json} :
    text ∈ textsOfItems items ↔ ∃ item ∈ items, text ∈ item.referenceTexts := by
  induction items with
  | nil => simp [textsOfItems]
  | cons item items ih => simp [textsOfItems, ih]

theorem mem_textsOfMembers {members : List (String × Json)} :
    text ∈ textsOfMembers members ↔
      ∃ m ∈ members, text ∈ memberTexts m.1 m.2 ∨ text ∈ m.2.referenceTexts := by
  induction members with
  | nil => simp [textsOfMembers]
  | cons m members ih => simp [textsOfMembers, ih, or_assoc]

@[simp] theorem mem_referenceTexts_array {items : List Json} :
    text ∈ (array items).referenceTexts ↔ ∃ item ∈ items, text ∈ item.referenceTexts := by
  rw [referenceTexts, mem_textsOfItems]

@[simp] theorem mem_referenceTexts_object {members : List (String × Json)} :
    text ∈ (object members).referenceTexts ↔
      ∃ m ∈ members, text ∈ memberTexts m.1 m.2 ∨ text ∈ m.2.referenceTexts := by
  rw [referenceTexts, mem_textsOfMembers]

@[simp] theorem referenceTexts_string (value : String) : (string value).referenceTexts = [] := rfl

@[simp] theorem referenceTexts_bool (value : Bool) : (bool value).referenceTexts = [] := rfl

@[simp] theorem referenceTexts_strings (values : List String) :
    (strings values).referenceTexts = [] := by
  refine List.eq_nil_iff_forall_not_mem.mpr fun text h => ?_
  simp [strings] at h

@[simp] theorem memberTexts_ref (value : Json) : memberTexts "$ref" value = value.texts := rfl

@[simp] theorem memberTexts_discriminator (value : Json) :
    memberTexts "discriminator" value = value.mappedTexts := rfl

@[simp] theorem memberTexts_of_ne {key : String} (href : key ≠ "$ref")
    (hdiscriminator : key ≠ "discriminator") (value : Json) : memberTexts key value = [] := by
  simp [memberTexts, href, hdiscriminator]

/-- A string refers to a schema with its own text, if at all. -/
theorem eq_of_mem_memberTexts_string {key value : String}
    (h : text ∈ memberTexts key (string value)) : value = text := by
  unfold memberTexts at h
  split at h
  · simpa [texts, eq_comm] using h
  · split at h <;> simp [mappedTexts] at h

/-- A member that does not refer to a schema itself has the texts of its value. -/
theorem textsOfMembers_cons {key : String} (href : key ≠ "$ref")
    (hdiscriminator : key ≠ "discriminator") (value : Json) (members : List (String × Json)) :
    textsOfMembers ((key, value) :: members) = value.referenceTexts ++ textsOfMembers members := by
  simp [textsOfMembers, href, hdiscriminator]

theorem referenceTexts_single {key : String} (href : key ≠ "$ref")
    (hdiscriminator : key ≠ "discriminator") (value : Json) :
    (object [(key, value)]).referenceTexts = value.referenceTexts := by
  rw [referenceTexts, textsOfMembers_cons href hdiscriminator, textsOfMembers, List.append_nil]

/-- An object without a mapping does not refer to a schema itself, whatever member it is. -/
theorem memberTexts_object {key : String} {members : List (String × Json)}
    (h : ∀ m ∈ members, m.1 ≠ "mapping") : memberTexts key (object members) = [] := by
  have hmapped : (object members).mappedTexts = [] := by
    refine List.flatMap_eq_nil_iff.mpr fun m hm => ?_
    simp [h m hm]
  unfold memberTexts
  split
  · rfl
  · split
    · exact hmapped
    · rfl

end Json

namespace Schema

open Json

/-- No schema is mistaken for a discriminator when a property is named like one. -/
@[simp] theorem memberTexts_toJson (key : String) (s : Schema) : memberTexts key s.toJson = [] := by
  cases s <;> exact memberTexts_object (by simp [Json.member?])

variable {text : String}

@[simp] theorem mem_referenceTexts_referenceJson {name : String} :
    text ∈ (referenceJson name).referenceTexts ↔ referenceTo name = text := by
  simp [referenceJson, texts, eq_comm]

mutual

/-- The texts of a schema are the references to the names in it. -/
theorem mem_referenceTexts_toJson (s : Schema) :
    text ∈ s.toJson.referenceTexts ↔ ∃ n ∈ s.references, referenceTo n = text := by
  match s with
  | .reference name => simp [toJson, references]
  | .scalar type => simp [toJson, references, Json.member?]
  | .array items => simp [toJson, references, mem_referenceTexts_toJson items]
  | .enumeration literals => simp [toJson, references]
  | .object properties =>
    have h := mem_propertiesJson properties
    rw [mem_textsOfMembers] at h
    simp [toJson, references, h]
  | .oneOf alternatives property mapping =>
    have hmapped : text ∈ mappedTexts (.object [("propertyName", .string property),
        ("mapping", .object (mapping.map fun (literal, name) =>
          (literal, .string (referenceTo name))))]) ↔
        ∃ m ∈ mapping, referenceTo m.2 = text := by
      simp [mappedTexts, ownTexts, texts, eq_comm]
    -- A literal may be named like a member that refers to a schema.
    have hnamed : (∃ m ∈ mapping, text ∈ memberTexts m.1 (.string (referenceTo m.2))) →
        ∃ m ∈ mapping, referenceTo m.2 = text :=
      fun ⟨m, hm, h⟩ => ⟨m, hm, eq_of_mem_memberTexts_string h⟩
    simp only [Prod.exists] at hmapped hnamed
    simp [toJson, references, hmapped, or_iff_left_of_imp hnamed, or_and_right, exists_or]
    grind

/-- The texts of properties are the references to the names in their schemas. -/
theorem mem_propertiesJson (properties : List (String × Schema)) :
    text ∈ textsOfMembers (propertiesJson properties) ↔
      ∃ n ∈ propertyReferences properties, referenceTo n = text := by
  match properties with
  | [] => simp [propertiesJson, textsOfMembers, propertyReferences]
  | (name, schema) :: properties =>
    simp only [propertiesJson, textsOfMembers, propertyReferences, memberTexts_toJson,
      List.nil_append, List.mem_append, mem_referenceTexts_toJson schema,
      mem_propertiesJson properties, or_and_right, exists_or]

end

end Schema

namespace OpenApi

open Json

variable {text : String}

/-! ## Operations -/

@[simp] theorem mem_referenceTexts_content {c : Content} :
    text ∈ c.toJson.referenceTexts ↔ ∃ n ∈ c.schema.references, referenceTo n = text := by
  simp [Content.toJson, memberTexts_object, Schema.mem_referenceTexts_toJson]

theorem mem_referenceTexts_response {r : Response} :
    text ∈ r.toJson.referenceTexts ↔ ∃ n ∈ contentReferences r.content, referenceTo n = text := by
  obtain ⟨description, content⟩ := r
  cases content <;> simp [Response.toJson, member?, contentReferences]

theorem mem_referenceTexts_parameter {p : RequestParameter} :
    text ∈ p.toJson.referenceTexts ↔ ∃ n ∈ p.schema.references, referenceTo n = text := by
  cases h : p.required <;> simp [RequestParameter.toJson, h, Schema.mem_referenceTexts_toJson]

theorem textsOfMembers_append (ms ns : List (String × Json)) :
    textsOfMembers (ms ++ ns) = textsOfMembers ms ++ textsOfMembers ns := by
  induction ms with
  | nil => rfl
  | cons m ms ih => simp [textsOfMembers, ih]

/-- Exceptions do not refer to schemas. -/
@[simp] theorem referenceTexts_exception (entry : ThrownEntry) :
    entry.toJson.referenceTexts = [] := by
  simp [ThrownEntry.toJson, referenceTexts, textsOfMembers]

@[simp] theorem referenceTexts_value (value : RuleValue) : value.toJson.referenceTexts = [] := by
  cases value <;> rfl

/-- A member that may be left out does not refer to a schema if no value of its kind does. -/
theorem textsOfMembers_member? {α : Type} {key : String} (href : key ≠ "$ref")
    (hdiscriminator : key ≠ "discriminator") {f : α → Json} (h : ∀ a, (f a).referenceTexts = [])
    (value : Option α) : textsOfMembers (member? key (value.map f)) = [] := by
  cases value with
  | none => rfl
  | some a => simp [member?, textsOfMembers, href, hdiscriminator, h]

/-- Rules do not refer to schemas. -/
@[simp] theorem referenceTexts_rule (entry : RuleEntry) : entry.toJson.referenceTexts = [] := by
  simp [RuleEntry.toJson, RuleEntry.arguments, referenceTexts, textsOfMembers_append,
    textsOfMembers, textsOfMembers_member? _ _ referenceTexts_value,
    textsOfMembers_member? _ _ referenceTexts_string]

@[simp] theorem memberTexts_response (key : String) (r : Response) :
    memberTexts key r.toJson = [] := by
  obtain ⟨description, content⟩ := r
  cases content <;> exact memberTexts_object (by simp [member?])

/-- The lists that are left out when they are empty do not refer to schemas. -/
theorem textsOfMembers_listMember {key : String} {items : List Json} (href : key ≠ "$ref")
    (hdiscriminator : key ≠ "discriminator") (h : ∀ item ∈ items, item.referenceTexts = []) :
    textsOfMembers (listMember key items) = [] := by
  unfold listMember
  split
  · rfl
  · refine List.eq_nil_iff_forall_not_mem.mpr fun text ht => ?_
    simp [textsOfMembers, href, hdiscriminator] at ht
    obtain ⟨item, hi, ht⟩ := ht
    simp [h item hi] at ht

theorem mem_referenceTexts_operation {o : Operation} :
    text ∈ o.toJson.referenceTexts ↔ ∃ n ∈ o.references, referenceTo n = text := by
  have hparameters : text ∈ textsOfMembers [("tags", Json.strings o.tags),
      ("parameters", .array (o.parameters.map RequestParameter.toJson))] ↔
      ∃ n ∈ parameterReferences o.parameters, referenceTo n = text := by
    simp [textsOfMembers, mem_referenceTexts_parameter, parameterReferences]
    grind
  have hbody : text ∈ textsOfMembers (member? "requestBody"
      (o.requestBody.map fun c => .object [("content", c.toJson)])) ↔
      ∃ n ∈ contentReferences o.requestBody, referenceTo n = text := by
    cases o.requestBody <;> simp [member?, textsOfMembers, contentReferences]
  have hresponses : text ∈ textsOfMembers [("responses", responsesJson o.responses)] ↔
      ∃ n ∈ responseReferences o.responses, referenceTo n = text := by
    simp [textsOfMembers, responsesJson, mem_referenceTexts_response, responseReferences]
    grind
  have hexceptions : textsOfMembers
      (listMember "x-thrown-exceptions" (o.thrownExceptions.map ThrownEntry.toJson)) = [] :=
    textsOfMembers_listMember (by decide) (by decide) (by simp)
  have hrules : textsOfMembers
      (listMember "x-validation-rules" (o.validationRules.map RuleEntry.toJson)) = [] :=
    textsOfMembers_listMember (by decide) (by decide) (by simp)
  simp only [Operation.toJson, referenceTexts, textsOfMembers_append, hparameters, hbody,
    hresponses, hexceptions, hrules, Operation.references, List.mem_append, or_and_right,
    exists_or, List.not_mem_nil, or_false]

/-! ## Documents -/

/-- The operations of a document. -/
def Document.operations (d : Document) : List Operation :=
  d.paths.toList.flatMap fun (_, item) => Verb.all.flatMap fun verb => (item verb).toList

/-- The names in the schemas of a document: those of its operations and those that have names. -/
def Document.references (d : Document) : List String :=
  d.operations.flatMap Operation.references ++ d.schemas.toList.flatMap (·.2.references)

theorem mem_operations {d : Document} {o : Operation} :
    o ∈ d.operations ↔ ∃ (path : String) (item : PathItem) (verb : Verb),
      d.paths[path]? = some item ∧ item verb = some o := by
  simp [Document.operations, Std.ExtTreeMap.mem_toList_iff_getElem?_eq_some, Verb.mem_all]

@[simp] theorem memberTexts_verb (verb : Verb) (value : Json) :
    memberTexts verb.key value = [] := by
  cases verb <;> rfl

@[simp] theorem memberTexts_item (key : String) (item : PathItem) :
    memberTexts key item.toJson = [] := by
  refine memberTexts_object fun m hm => ?_
  obtain ⟨verb, -, hm⟩ := List.mem_filterMap.mp hm
  obtain ⟨o, -, rfl⟩ := Option.map_eq_some_iff.mp hm
  cases verb <;> simp [Verb.key]

theorem mem_referenceTexts_item {item : PathItem} :
    text ∈ item.toJson.referenceTexts ↔
      ∃ verb o, item verb = some o ∧ ∃ n ∈ o.references, referenceTo n = text := by
  simp [PathItem.toJson, Verb.mem_all, mem_referenceTexts_operation]

theorem mem_referenceTexts_paths {d : Document} :
    text ∈ (pathsJson d.paths).referenceTexts ↔
      ∃ n ∈ d.operations.flatMap Operation.references, referenceTo n = text := by
  simp only [pathsJson, mem_referenceTexts_object, List.mem_map, Prod.exists,
    Std.ExtTreeMap.mem_toList_iff_getElem?_eq_some, List.mem_flatMap, mem_operations]
  constructor
  · rintro ⟨path, _, ⟨_, item, hitem, ⟨⟩⟩, ht⟩
    rw [memberTexts_item, mem_referenceTexts_item] at ht
    obtain ⟨verb, o, ho, n, hn, rfl⟩ := ht.resolve_left List.not_mem_nil
    exact ⟨n, ⟨o, ⟨path, item, verb, hitem, ho⟩, hn⟩, rfl⟩
  · rintro ⟨n, ⟨o, ⟨path, item, verb, hitem, ho⟩, hn⟩, rfl⟩
    exact ⟨path, _, ⟨path, item, hitem, rfl⟩,
      .inr (mem_referenceTexts_item.mpr ⟨verb, o, ho, n, hn, rfl⟩)⟩

theorem mem_referenceTexts_schemas {schemas : Std.ExtTreeMap String Schema} :
    text ∈ (schemasJson schemas).referenceTexts ↔
      ∃ n ∈ schemas.toList.flatMap (·.2.references), referenceTo n = text := by
  simp [schemasJson, Schema.mem_referenceTexts_toJson]
  grind

/-- The texts of a document that refer to schemas are the references to the names in its
schemas. -/
theorem mem_referenceTexts_document {d : Document} :
    text ∈ d.toJson.referenceTexts ↔ ∃ n ∈ d.references, referenceTo n = text := by
  have hservers : text ∉ (Json.array (d.info.servers.map serverJson)).referenceTexts := by
    simp [serverJson]
  have hinfo : text ∉ (Json.object [("title", .string d.info.title),
      ("version", .string d.info.version)]).referenceTexts := by simp
  rw [Document.toJson, referenceTexts]
  repeat rw [textsOfMembers_cons (by decide) (by decide)]
  rw [referenceTexts_single (by decide) (by decide)]
  simp only [List.mem_append, referenceTexts_string, textsOfMembers, hinfo, hservers,
    mem_referenceTexts_paths, mem_referenceTexts_schemas, Document.references, List.not_mem_nil,
    false_or, or_false, or_and_right, exists_or]

end OpenApi

end ApiSurface
