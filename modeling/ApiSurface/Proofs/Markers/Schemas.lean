import ApiSurface.OpenApi.Assembly
import ApiSurface.Proofs.Markers.Unmarked
import ApiSurface.Proofs.Schema.Requests

/-!
# Schemas and documents without markers

A schema looks at one body only: the initializer of a discriminator enum, of which it takes the
calls and the literals. So the schemas of classes, and with them the document of given endpoints,
are the same without markers.

Main statements: `recordSchema_unmarked`, `make_unmarked`, `assemble_unmarked`.
-/
namespace ApiSurface

namespace Schema

variable (u : Universe)

/-! ## Alternatives -/

@[simp] theorem isDiscriminator_unmarked (marker : String) (f : Field) :
    isDiscriminator u.unmarked marker f = isDiscriminator u marker f := by
  unfold isDiscriminator
  simp only [Universe.find?_unmarked, Option.isSome_map, Universe.descends_unmarked]

@[simp] theorem onlyDiscriminator_unmarked (marker location : String) (found : Option Field)
    (fields : List Field) :
    onlyDiscriminator u.unmarked marker location found fields =
      onlyDiscriminator u marker location found fields := by
  induction fields generalizing found with
  | nil => rfl
  | cons f fields ih => simp only [onlyDiscriminator, isDiscriminator_unmarked, ih]

@[simp] theorem discriminatorField_unmarked (marker : String) (record : ClassRecord) :
    discriminatorField u.unmarked marker record.unmarked =
      discriminatorField u marker record := by
  unfold discriminatorField
  rw [ClassRecord.info_unmarked]
  cases record.info with
  | error fault => rfl
  | ok c =>
    simp only [Except.map, ok_bind, Class.unmarked_fields, ClassRecord.unmarked_path,
      onlyDiscriminator_unmarked]

@[simp] theorem agreeOn_unmarked (marker : String) (first : Field) (records : List ClassRecord) :
    agreeOn u.unmarked marker first (records.map ClassRecord.unmarked) =
      agreeOn u marker first records := by
  induction records with
  | nil => rfl
  | cons record records ih =>
    simp only [List.map_cons, agreeOn, discriminatorField_unmarked, ih, ClassRecord.unmarked_path]

@[simp] theorem commonDiscriminator_unmarked (marker location : String)
    (records : List ClassRecord) :
    commonDiscriminator u.unmarked marker location (records.map ClassRecord.unmarked) =
      commonDiscriminator u marker location records := by
  cases records with
  | nil => rfl
  | cons record records =>
    simp only [List.map_cons, commonDiscriminator, discriminatorField_unmarked, agreeOn_unmarked]

/-- Reading an initializer passes over its markers. -/
theorem mineMapping_realPart (location : String) (typeIndex loads : Nat) (name : Option String)
    (body : List Instruction) :
    mineMapping location typeIndex loads name ((realPart body).map (·.payload)) =
      mineMapping location typeIndex loads name (body.map (·.payload)) := by
  induction body generalizing loads name with
  | nil => rfl
  | cons i body ih =>
    obtain ⟨offset, payload⟩ := i
    cases payload with
    | constant value =>
      change mineMapping location typeIndex loads name
          (.constant value :: (realPart body).map (·.payload)) =
        mineMapping location typeIndex loads name (.constant value :: body.map (·.payload))
      simp only [mineMapping, ih]
    | call call => exact ih _ _
    | _ => exact ih _ _

@[simp] theorem mappingOf_unmarked (record : ClassRecord) :
    mappingOf record.unmarked = mappingOf record := by
  unfold mappingOf
  rw [ClassRecord.info_unmarked]
  cases record.info with
  | error fault => simp only [Except.map, Requesting.ofExcept_error_bind]
  | ok c =>
    have htype : typeIndex? c.unmarked = typeIndex? c := rfl
    simp only [Except.map, Requesting.ofExcept_ok_bind, Class.unmarked_flags, htype,
      Class.method?_unmarked, ClassRecord.unmarked_path]
    cases c.method? "<clinit>" none with
    | none => rfl
    | some initializer => simp only [Option.map_some, Method.unmarked_body, mineMapping_realPart]

@[simp] theorem namesOf_unmarked (records : List ClassRecord) :
    namesOf (records.map ClassRecord.unmarked) = namesOf records := by
  induction records with
  | nil => rfl
  | cons record records ih => simp only [List.map_cons, namesOf, ih, ClassRecord.unmarked_path]

@[simp] theorem alternativesSchema_unmarked (markers : Markers) (record : ClassRecord) :
    alternativesSchema u.unmarked markers record.unmarked =
      alternativesSchema u markers record := by
  have hmapping (path : String) (next : List (String × String) → Requesting Schema) :
      (Requesting.ofExcept (u.unmarked.lookup path) >>= fun enum => mappingOf enum >>= next) =
        (Requesting.ofExcept (u.lookup path) >>= fun enum => mappingOf enum >>= next) := by
    rw [Universe.lookup_unmarked]
    cases u.lookup path with
    | error fault => rfl
    | ok enum => exact congrArg (· >>= next) (mappingOf_unmarked enum)
  unfold alternativesSchema
  rw [ClassRecord.unmarked_path, Universe.implementations_unmarked]
  cases u.implementations .types record.path with
  | error fault => simp only [Except.map, Requesting.ofExcept_error_bind]
  | ok concrete =>
    simp only [Except.map, Requesting.ofExcept_ok_bind, List.isEmpty_map, namesOf_unmarked,
      commonDiscriminator_unmarked, hmapping]

/-! ## Schemas of classes -/

@[simp] theorem objectSchema_unmarked (markers : Markers) (record : ClassRecord) (c : Class)
    (generics : List String) :
    objectSchema markers record.unmarked c.unmarked generics =
      objectSchema markers record c generics := rfl

/-- The schema of a class asks for the same names, and ends the same, without markers. -/
@[simp] theorem recordSchema_unmarked (markers : Markers) (record : ClassRecord)
    (generics : List String) :
    recordSchema u.unmarked markers record.unmarked generics =
      recordSchema u markers record generics := by
  unfold recordSchema
  rw [ClassRecord.info_unmarked]
  cases record.info with
  | error fault => simp only [Except.map, Requesting.ofExcept_error_bind]
  | ok c =>
    rw [Except.map, Requesting.ofExcept_ok_bind, Requesting.ofExcept_ok_bind,
      Class.unmarked_flags, Class.unmarked_fields, Class.isConcrete_unmarked,
      objectSchema_unmarked, alternativesSchema_unmarked]

@[simp] theorem universeArguments_unmarked :
    universeArguments u.unmarked = universeArguments u := by
  have harguments (r : ClassRecord) : fieldArguments r.unmarked = fieldArguments r := by
    unfold fieldArguments
    rw [ClassRecord.info_unmarked]
    cases r.info <;> rfl
  have hlist : u.unmarked.records.toList =
      u.records.toList.map fun p => (p.1, p.2.unmarked) := Std.ExtTreeMap.toList_map
  unfold universeArguments
  simp only [hlist, List.map_map, List.flatMap_map, Function.comp_def, harguments]

@[simp] theorem nameBound_unmarked (generics : List String) :
    nameBound u.unmarked generics = nameBound u generics := by
  unfold nameBound argumentClasses argumentWidth
  rw [universeArguments_unmarked, Universe.size_unmarked]

theorem Generating.ofExcept_ok_bind {α β : Type} (a : α) (f : α → Generating β) :
    (Schema.ofExcept (.ok a) >>= f) = f a := rfl

theorem Generating.ofExcept_error_bind {α β : Type} (fault : Fault) (f : α → Generating β) :
    (Schema.ofExcept (.error fault) >>= f) = throw fault := rfl

theorem generateWithin_unmarked (markers : Markers) (budget : Nat) (r : Request) :
    generateWithin u.unmarked markers budget r = generateWithin u markers budget r := by
  induction budget generalizing r with
  | zero =>
    unfold generateWithin
    rw [Universe.lookup_unmarked]
    cases u.lookup r.path with
    | error fault => simp only [Except.map, Generating.ofExcept_error_bind]
    | ok record =>
      rw [Except.map, Generating.ofExcept_ok_bind, Generating.ofExcept_ok_bind,
        ClassRecord.unmarked_path]
  | succ budget ih =>
    unfold generateWithin
    rw [Universe.lookup_unmarked]
    cases u.lookup r.path with
    | error fault => simp only [Except.map, Generating.ofExcept_error_bind]
    | ok record =>
      rw [Except.map, Generating.ofExcept_ok_bind, Generating.ofExcept_ok_bind,
        ClassRecord.unmarked_path]
      simp only [recordSchema_unmarked, funext ih]

/-- Names are generated alike without markers. -/
@[simp] theorem make_unmarked {α : Type} (markers : Markers) (x : Requesting α) :
    make u.unmarked markers x = make u markers x := by
  unfold make generate
  simp only [generateWithin_unmarked, nameBound_unmarked]

end Schema

namespace OpenApi
open Schema (make)

variable (u : Universe)

/-! ## Documents -/

theorem statusFrom_unmarked (budget : Nat) (record : ClassRecord) :
    statusFrom u.unmarked budget record.unmarked = statusFrom u budget record := by
  induction budget generalizing record with
  | zero =>
    unfold statusFrom
    rw [ClassRecord.info_unmarked]
    cases record.info with
    | error fault => rfl
    | ok c =>
      simp only [Except.map, ok_bind, ClassRecord.unmarked_path, Class.unmarked_annotations]
  | succ budget ih =>
    unfold statusFrom
    rw [ClassRecord.info_unmarked]
    cases record.info with
    | error fault => rfl
    | ok c =>
      have hsuper : c.superclass.bind u.unmarked.find? =
          (c.superclass.bind u.find?).map ClassRecord.unmarked := by
        cases c.superclass with
        | none => rfl
        | some parent => exact u.find?_unmarked parent
      simp only [Except.map, ok_bind, ClassRecord.unmarked_path, Class.unmarked_annotations,
        Class.unmarked_superclass, hsuper]
      cases c.superclass.bind u.find? with
      | none => rfl
      | some parent => simp only [Option.map_some, ih]

@[simp] theorem exceptionStatus_unmarked (type : String) :
    exceptionStatus u.unmarked type = exceptionStatus u type := by
  unfold exceptionStatus
  rw [Universe.find?_unmarked, Universe.size_unmarked]
  cases u.find? type with
  | none => rfl
  | some record => exact statusFrom_unmarked u u.size record

@[simp] theorem addExceptions_unmarked (responses : Responses)
    (exceptions : List ThrownException) :
    addExceptions u.unmarked responses exceptions = addExceptions u responses exceptions := by
  induction exceptions generalizing responses with
  | nil => rfl
  | cons e es ih => simp only [addExceptions, exceptionStatus_unmarked, ih]

@[simp] theorem operationOf_unmarked (e : Endpoint) :
    operationOf u.unmarked e = operationOf u e := by
  unfold operationOf
  simp only [addExceptions_unmarked]

@[simp] theorem addOperations_unmarked (markers : Markers) (paths : Paths)
    (endpoints : List Endpoint) :
    addOperations u.unmarked markers paths endpoints = addOperations u markers paths endpoints := by
  induction endpoints generalizing paths with
  | nil => rfl
  | cons e es ih => simp only [addOperations, Schema.make_unmarked, operationOf_unmarked, ih]

/-- The document of given endpoints is the same without markers. -/
@[simp] theorem assemble_unmarked (settings : Settings) (endpoints : List Endpoint) :
    assemble u.unmarked settings endpoints = assemble u settings endpoints := by
  unfold assemble
  rw [addOperations_unmarked]

end OpenApi

end ApiSurface
