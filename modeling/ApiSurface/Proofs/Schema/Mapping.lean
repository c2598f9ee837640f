import ApiSurface.Proofs.Markers.Schemas
import ApiSurface.Proofs.Schema.Order

/-!
# The classes that enum constants stand for

The initializer of an enum makes its constants one after the other: it pushes the name, the ordinal
and a literal for each member field, and calls the constructor. The classes that the constants
stand for are mined from it by counting the constants that are loaded, and not by counting the
literals that are pushed. So the class of a constant is found where it is sought exactly if as many
constants are loaded for it as there are member fields before the class; a literal that is part of
its instruction is none.

Main definitions: `EnumConstant`, `Initializes`. Main statements: `mapping_complete`,
`mapping_lost`.
-/
namespace ApiSurface.Schema
open Requesting

/-- What the initializer of an enum pushes for a constant, and the class that it stands for. -/
structure EnumConstant where
  name : String
  ordinal : Payload
  /-- The pushes of the values of the member fields. -/
  arguments : List Payload
  /-- The descriptor of the constructor. -/
  descriptor : String
  type : String

/-- The fields of an enum that each of its constants has. -/
def memberFields (c : Class) : List Field :=
  c.fields.filter fun f => ! f.flags.isStatic && ! f.flags.isEnum

namespace EnumConstant

/-- The instructions that make the constant of an enum. -/
def construction (path : String) (k : EnumConstant) : List Payload :=
  [.type Opcode.newObject path, .op Opcode.dup, .constant (.string k.name), k.ordinal] ++
    k.arguments ++ [.call ⟨.special, path, "<init>", k.descriptor⟩,
      .field ⟨Opcode.putstatic, path, k.name, "L" ++ path ++ ";"⟩]

/-- The ordinal is an integer that is part of its instruction, and each member field is given a
literal, the one of the index the class. -/
structure Fits (c : Class) (typeIndex : Nat) (k : EnumConstant) : Prop where
  ordinal : (∃ opcode, k.ordinal = .op opcode) ∨ ∃ opcode value, k.ordinal = .push opcode value
  literals : ∀ p ∈ k.arguments, p.literal?.isSome = true
  complete : k.arguments.length = (memberFields c).length
  type : k.arguments[typeIndex]? = some (.constant (.classRef k.type))

/-- The request for the class that the constant stands for. -/
def request (k : EnumConstant) : Request := ⟨k.type, []⟩

end EnumConstant

/-- The class is an enum, the member field of the index holds the class of each constant, and the
initializer makes these constants and loads none after that. -/
structure Initializes (record : ClassRecord) (c : Class) (typeIndex : Nat)
    (constants : List EnumConstant) : Prop where
  info : record.info = .ok c
  isEnum : c.flags.isEnum = true
  position : (memberFields c).findIdx? isTypeField = some typeIndex
  fits : ∀ k ∈ constants, k.Fits c typeIndex
  code : ∃ initializer rest, c.method? "<clinit>" none = some initializer ∧
    (realPart initializer.body).map (·.payload) =
      constants.flatMap (EnumConstant.construction record.path) ++ rest ∧
    ∀ p ∈ rest, ∀ value, p ≠ .constant value

/-! ## What is taken for the class of a constant -/

/-- The constants that are loaded. -/
def loaded (pushes : List Payload) : List Constant :=
  pushes.filterMap fun
    | .constant value => some value
    | _ => none

/-- What is taken for the class of a constant. -/
def takenAt (typeIndex : Nat) (k : EnumConstant) : Option Constant :=
  (loaded k.arguments)[typeIndex]?

/-- Map a constant to what is taken for its class, and go on; without such it is left out. -/
def mapConstant (location name : String) (taken : Option Constant)
    (later : Requesting (List (String × String))) : Requesting (List (String × String)) :=
  match taken with
  | none => later
  | some (.classRef path) => do
    let schema ← .nameOf path []
    let mapping ← later
    pure ((name, schema) :: mapping)
  | some other => .fail (.unrecognized (.discriminatorClass other) location)

/-- Map constants one after the other. -/
def mapConstants (location : String) (taken : EnumConstant → Option Constant) :
    List EnumConstant → Requesting (List (String × String))
  | [] => pure []
  | k :: ks => mapConstant location k.name (taken k) (mapConstants location taken ks)

variable {u : Universe} {markers : Markers} {location path : String} {typeIndex : Nat}
  {name : Option String} {rest : List Payload}

/-- Where no constants are loaded, nothing is mapped. -/
theorem mineMapping_unloaded (h : ∀ p ∈ rest, ∀ value, p ≠ .constant value) (loads : Nat) :
    mineMapping location typeIndex loads name rest = pure [] := by
  induction rest generalizing loads with
  | nil => rfl
  | cons p rest ih =>
    obtain ⟨hp, hrest⟩ := List.forall_mem_cons.mp h
    cases p with
    | constant value => exact absurd rfl (hp value)
    | call call => exact ih hrest _
    | _ => exact ih hrest _

/-- A constant that is loaded is taken for the class if it is the one that is sought. -/
theorem mineMapping_constant (j : Nat) (value : Constant) (literal : String) :
    mineMapping location typeIndex (j + 1) (some literal) (.constant value :: rest) =
      mapConstant location literal (if j = typeIndex then some value else none)
        (mineMapping location typeIndex (j + 2) (some literal) rest) := by
  by_cases h : j = typeIndex
  · subst h
    cases value <;> simp [mineMapping, mapConstant]
  · cases value <;> simp [mineMapping, mapConstant, h]

/-- The literals after the class are passed over. -/
theorem mineMapping_past {pushes : List Payload} {call : Call} {literal : String} {j : Nat}
    (constructor : call.isConstructor = true) (h : ∀ p ∈ pushes, p.literal?.isSome = true)
    (past : typeIndex < j) :
    mineMapping location typeIndex (j + 1) (some literal) (pushes ++ .call call :: rest) =
      mineMapping location typeIndex 0 (some literal) rest := by
  induction pushes generalizing j with
  | nil => rw [List.nil_append, mineMapping, if_pos constructor]
  | cons p pushes ih =>
    obtain ⟨hp, hpushes⟩ := List.forall_mem_cons.mp h
    cases p with
    | op opcode => exact ih hpushes past
    | push opcode value => exact ih hpushes past
    | constant value =>
      rw [List.cons_append, mineMapping_constant, if_neg (by omega)]
      exact ih hpushes (by omega)
    | _ => simp [Payload.literal?] at hp

/-- After `j` constants that are loaded, the class is the one that is `d` further on. -/
theorem mineMapping_arguments {pushes : List Payload} {call : Call} {literal : String} {j d : Nat}
    (constructor : call.isConstructor = true) (h : ∀ p ∈ pushes, p.literal?.isSome = true)
    (sought : typeIndex = j + d) :
    mineMapping location typeIndex (j + 1) (some literal) (pushes ++ .call call :: rest) =
      mapConstant location literal (loaded pushes)[d]?
        (mineMapping location typeIndex 0 (some literal) rest) := by
  induction pushes generalizing j d with
  | nil =>
    rw [List.nil_append, mineMapping, if_pos constructor]
    rfl
  | cons p pushes ih =>
    obtain ⟨hp, hpushes⟩ := List.forall_mem_cons.mp h
    cases p with
    | op opcode => exact ih hpushes sought
    | push opcode value => exact ih hpushes sought
    | constant value =>
      have hloaded : loaded (.constant value :: pushes) = value :: loaded pushes := rfl
      rw [List.cons_append, mineMapping_constant, hloaded]
      cases d with
      | zero =>
        rw [if_pos (by omega), mineMapping_past constructor hpushes (by omega),
          List.getElem?_cons_zero]
      | succ d =>
        rw [if_neg (by omega), List.getElem?_cons_succ]
        exact ih hpushes (by omega)
    | _ => simp [Payload.literal?] at hp

/-- The instructions that make a constant map it to what is taken for its class. -/
theorem mineMapping_construction {c : Class} {k : EnumConstant} (fits : k.Fits c typeIndex) :
    mineMapping location typeIndex 0 name (k.construction path ++ rest) =
      mapConstant location k.name (takenAt typeIndex k)
        (mineMapping location typeIndex 0 (some k.name) rest) := by
  have hordinal (pushes : List Payload) :
      mineMapping location typeIndex 1 (some k.name) (k.ordinal :: pushes) =
        mineMapping location typeIndex 1 (some k.name) pushes := by
    rcases fits.ordinal with ⟨opcode, h⟩ | ⟨opcode, value, h⟩ <;> rw [h] <;> rfl
  calc
    mineMapping location typeIndex 0 name (k.construction path ++ rest) =
        mineMapping location typeIndex 1 (some k.name) (k.ordinal :: (k.arguments ++
          .call ⟨.special, path, "<init>", k.descriptor⟩ ::
            .field ⟨Opcode.putstatic, path, k.name, "L" ++ path ++ ";"⟩ :: rest)) := by
      simp [EnumConstant.construction, mineMapping]
    _ = mapConstant location k.name (takenAt typeIndex k)
          (mineMapping location typeIndex 0 (some k.name)
            (.field ⟨Opcode.putstatic, path, k.name, "L" ++ path ++ ";"⟩ :: rest)) := by
      rw [hordinal]
      exact mineMapping_arguments rfl fits.literals (Nat.zero_add typeIndex).symm

/-- The instructions that make constants map them one after the other. -/
theorem mineMapping_constructions {c : Class} {constants : List EnumConstant}
    (fits : ∀ k ∈ constants, k.Fits c typeIndex)
    (unloaded : ∀ p ∈ rest, ∀ value, p ≠ .constant value) :
    mineMapping location typeIndex 0 name (constants.flatMap (·.construction path) ++ rest) =
      mapConstants location (takenAt typeIndex) constants := by
  induction constants generalizing name with
  | nil => exact mineMapping_unloaded unloaded 0
  | cons k ks ih =>
    obtain ⟨hk, hks⟩ := List.forall_mem_cons.mp fits
    rw [List.flatMap_cons, List.append_assoc, mineMapping_construction hk, ih hks]
    rfl

/-- The mapping of an enum maps its constants one after the other. -/
theorem Initializes.mappingOf_eq {record : ClassRecord} {c : Class} {constants : List EnumConstant}
    (h : Initializes record c typeIndex constants) :
    mappingOf record = mapConstants record.path (takenAt typeIndex) constants := by
  obtain ⟨initializer, rest, hmethod, hcode, unloaded⟩ := h.code
  have hindex : typeIndex? c = some typeIndex := h.position
  simp only [mappingOf, h.info, ofExcept_ok_bind, h.isEnum, hindex, hmethod]
  rw [← mineMapping_realPart, hcode]
  exact mineMapping_constructions h.fits unloaded

/-! ## Mappings that are complete -/

/-- What constants are mapped to if each is mapped to its class. -/
def completeMapping (constants : List EnumConstant) : List (String × String) :=
  constants.map fun k => (k.name, schemaName k.type [])

/-- The class that a constant stands for. -/
def ownClass (k : EnumConstant) : Option Constant := some (.classRef k.type)

theorem mapConstants_congr {taken taken' : EnumConstant → Option Constant}
    {constants : List EnumConstant} (h : ∀ k ∈ constants, taken k = taken' k) :
    mapConstants location taken constants = mapConstants location taken' constants := by
  induction constants with
  | nil => rfl
  | cons k ks ih =>
    obtain ⟨hk, hks⟩ := List.forall_mem_cons.mp h
    rw [mapConstants, mapConstants, hk, ih hks]

/-- Constants that are mapped to their classes ask for these, and the mapping is complete. -/
theorem mapConstants_ownClass (location : String) (constants : List EnumConstant) :
    (mapConstants location ownClass constants).requests = constants.map EnumConstant.request ∧
      (mapConstants location ownClass constants).outcome = .ok (completeMapping constants) := by
  induction constants with
  | nil => exact ⟨rfl, rfl⟩
  | cons k ks ih =>
    obtain ⟨hrequests, houtcome⟩ := ih
    constructor
    · simp [mapConstants, mapConstant, ownClass, requests_bind, hrequests, houtcome,
        EnumConstant.request, Except.toOption]
    · simp [mapConstants, mapConstant, ownClass, outcome_bind, houtcome, completeMapping]

/-- A constant is mapped at most once. -/
theorem length_le_of_outcome {taken : EnumConstant → Option Constant}
    {constants : List EnumConstant} {mapping : List (String × String)}
    (h : (mapConstants location taken constants).outcome = .ok mapping) :
    mapping.length ≤ constants.length := by
  induction constants generalizing mapping with
  | nil =>
    cases h
    exact le_rfl
  | cons k ks ih =>
    rw [mapConstants] at h
    unfold mapConstant at h
    split at h
    · exact Nat.le_succ_of_le (ih h)
    · rw [outcome_bind, outcome_nameOf, ok_bind, outcome_bind] at h
      obtain ⟨later, hlater, h⟩ := bind_eq_ok.mp h
      cases h
      exact Nat.succ_le_succ (ih hlater)
    · cases h

/-- In a complete mapping something is taken for the class of each constant, and it has the name of
the class. -/
theorem exists_taken_of_outcome {taken : EnumConstant → Option Constant}
    {constants : List EnumConstant}
    (h : (mapConstants location taken constants).outcome = .ok (completeMapping constants)) :
    ∀ k ∈ constants, ∃ path, taken k = some (.classRef path) ∧
      ⟨path, []⟩ ∈ (mapConstants location taken constants).requests ∧
      schemaName path [] = schemaName k.type [] := by
  induction constants with
  | nil => simp
  | cons k ks ih =>
    rw [mapConstants] at h ⊢
    unfold mapConstant at h ⊢
    split at h
    · have hle := length_le_of_outcome h
      simp [completeMapping] at hle
    · next path htaken =>
      rw [outcome_bind, outcome_nameOf, ok_bind, outcome_bind] at h
      obtain ⟨later, hlater, h⟩ := bind_eq_ok.mp h
      simp only [completeMapping, List.map_cons, outcome_pure, Except.ok.injEq, List.cons.injEq,
        Prod.mk.injEq, true_and] at h
      obtain ⟨hname, rfl⟩ := h
      refine List.forall_mem_cons.mpr ⟨⟨path, htaken, List.mem_cons_self, hname⟩, fun q hq => ?_⟩
      obtain ⟨other, hother, hmem, heq⟩ := ih hlater q hq
      refine ⟨other, hother, mem_requests_bind.mpr (.inr ⟨_, outcome_nameOf path [], ?_⟩), heq⟩
      exact mem_requests_bind.mpr (.inl hmem)
    · cases h

/-- A constant stands where it is pushed if all that is pushed before it is loaded. -/
theorem loaded_getElem? {pushes : List Payload} {i : Nat} {value : Constant}
    (before : ∀ p ∈ pushes.take i, ∃ v, p = .constant v)
    (h : pushes[i]? = some (.constant value)) : (loaded pushes)[i]? = some value := by
  induction pushes generalizing i with
  | nil => simp at h
  | cons p pushes ih =>
    cases i with
    | zero =>
      obtain rfl : p = .constant value := by simpa using h
      rfl
    | succ i =>
      obtain ⟨⟨v, rfl⟩, hbefore⟩ := List.forall_mem_cons.mp before
      exact ih hbefore (by simpa using h)

/-- **The mapping of an enum is complete** exactly if the class of each constant is loaded right
where it is sought among what is loaded for the constant, and so it is if all literals before the
class are loaded. -/
theorem mapping_complete {record : ClassRecord} {c : Class} {constants : List EnumConstant}
    (h : Initializes record c typeIndex constants) {catalog catalog' : Catalog}
    (types : runFrom (askAll (nameFor u markers) (constants.map EnumConstant.request)) catalog =
      (.ok (), catalog')) :
    (runFrom (make u markers (mappingOf record)) catalog =
        (.ok (completeMapping constants), catalog') ↔
      ∀ k ∈ constants, (loaded k.arguments)[typeIndex]? = some (.classRef k.type)) ∧
    ((∀ k ∈ constants, ∀ p ∈ k.arguments.take typeIndex, ∃ value, p = .constant value) →
      runFrom (make u markers (mappingOf record)) catalog =
        (.ok (completeMapping constants), catalog')) := by
  have own : runFrom (make u markers (mapConstants record.path ownClass constants)) catalog =
      (.ok (completeMapping constants), catalog') := by
    obtain ⟨hrequests, houtcome⟩ := mapConstants_ownClass record.path constants
    rw [runFrom_make, hrequests, types, proceed_ok, houtcome]
  have complete (taken : ∀ k ∈ constants, takenAt typeIndex k = ownClass k) :
      runFrom (make u markers (mappingOf record)) catalog =
        (.ok (completeMapping constants), catalog') := by
    rw [h.mappingOf_eq, mapConstants_congr taken, own]
  refine ⟨⟨fun run k hk => ?_, complete⟩, fun loads => complete fun k hk => ?_⟩
  · rw [h.mappingOf_eq] at run
    obtain ⟨answers, houtcome⟩ := answers_of_make run
    obtain ⟨path, htaken, hmem, hname⟩ := exists_taken_of_outcome houtcome k hk
    -- Both classes are registered for one name, so they are the same.
    have hpath := (answers.settles rfl).answered _ hmem
    have htype := ((answers_of_make own).1.settles rfl).answered k.request <| by
      rw [(mapConstants_ownClass record.path constants).1]
      exact List.mem_map_of_mem hk
    rw [Request.name, hname] at hpath
    obtain ⟨rfl, -⟩ := Request.mk.inj (Option.some.inj (hpath.symm.trans htype))
    exact htaken
  · exact loaded_getElem? (loads k hk) (h.fits k hk).type

/-! ## Kinds of shape, with a label or with a code -/

/-- An initializer that makes the constants of an enum and returns. -/
def initializerOf (path : String) (constants : List EnumConstant) : Method where
  name := "<clinit>"
  descriptor := "()V"
  flags := { isStatic := true }
  body := (constants.flatMap (EnumConstant.construction path) ++ [Payload.op 0xb1]).map (⟨0, ·⟩)

/-- An enum with these constants and these member fields. -/
def kindsOf (constants : List EnumConstant) (members : List Field) : Class where
  name := "p/Kind"
  superclass := some "java/lang/Enum"
  interfaces := ["p/Tag"]
  flags := { isEnum := true }
  fields := constants.map (fun k => {
      name := k.name, descriptor := "Lp/Kind;", flags := { isStatic := true, isEnum := true } }) ++
    members
  methods := [initializerOf "p/Kind" constants]

/-- The member field that holds the classes. -/
def typeField : Field := { name := "type", descriptor := "Ljava/lang/Class;" }

/-- Two constants, with a label before the class and a small number after it. -/
def labelled : List EnumConstant :=
  [⟨"CIRCLE", .op Opcode.iconst0,
      [.constant (.string "round"), .constant (.classRef "p/Circle"), .op Opcode.iconstM1],
      "(Ljava/lang/String;ILjava/lang/String;Ljava/lang/Class;I)V", "p/Circle"⟩,
    ⟨"SQUARE", .op 0x04,
      [.constant (.string "edged"), .constant (.classRef "p/Square"), .push Opcode.bipush 10],
      "(Ljava/lang/String;ILjava/lang/String;Ljava/lang/Class;I)V", "p/Square"⟩]

/-- The enum of these constants. -/
def labelledKinds : Class :=
  kindsOf labelled [{ name := "label", descriptor := "Ljava/lang/String;" }, typeField,
    { name := "code", descriptor := "I" }]

/-- Two constants, with a small number before the class. -/
def coded : List EnumConstant :=
  [⟨"CIRCLE", .op Opcode.iconst0, [.op Opcode.iconstM1, .constant (.classRef "p/Circle")],
      "(Ljava/lang/String;IILjava/lang/Class;)V", "p/Circle"⟩,
    ⟨"SQUARE", .op 0x04, [.push Opcode.bipush 10, .constant (.classRef "p/Square")],
      "(Ljava/lang/String;IILjava/lang/Class;)V", "p/Square"⟩]

/-- The enum of these constants. -/
def codedKinds : Class := kindsOf coded [{ name := "code", descriptor := "I" }, typeField]

theorem labelledKinds_initializes :
    Initializes (.ofClass labelledKinds) labelledKinds 1 labelled where
  info := rfl
  isEnum := rfl
  position := rfl
  fits := by
    intro k hk
    rcases List.mem_pair.mp hk with rfl | rfl <;>
      exact ⟨.inl ⟨_, rfl⟩, by decide, rfl, rfl⟩
  code := ⟨_, [.op 0xb1], rfl, rfl, by simp⟩

theorem codedKinds_initializes : Initializes (.ofClass codedKinds) codedKinds 1 coded where
  info := rfl
  isEnum := rfl
  position := rfl
  fits := by
    intro k hk
    rcases List.mem_pair.mp hk with rfl | rfl <;>
      exact ⟨.inl ⟨_, rfl⟩, by decide, rfl, rfl⟩
  code := ⟨_, [.op 0xb1], rfl, rfl, by simp⟩

/-- The universe of the shapes. -/
def plainShapes : Universe :=
  (Universe.ofRecords [.ofClass { name := "p/Circle" }, .ofClass { name := "p/Square" }]
    {}).toOption.get (by decide +kernel)

/-- Both constants are mapped: the labels are loaded, and what comes after the classes does not
matter. -/
theorem mapping_complete_labelled :
    Initializes (.ofClass labelledKinds) labelledKinds 1 labelled ∧
      ∃ catalog, runFrom (askAll (nameFor plainShapes {}) (labelled.map EnumConstant.request)) {} =
          (.ok (), catalog) ∧
        runFrom (make plainShapes {} (mappingOf (.ofClass labelledKinds))) {} =
          (.ok [("CIRCLE", "Circle"), ("SQUARE", "Square")], catalog) := by
  have types : runFrom (askAll (nameFor plainShapes {}) (labelled.map EnumConstant.request)) {} =
      (.ok (), _) := Prod.ext (eq_ok_of_isOk (by decide +kernel)) rfl
  refine ⟨labelledKinds_initializes, _, types, ?_⟩
  refine (mapping_complete labelledKinds_initializes types).2 fun k hk => ?_
  rcases List.mem_pair.mp hk with rfl | rfl <;> simp

/-- **Constants can be lost.** The small numbers before the classes are not loaded, and the mapping
is empty, although both classes have schemas. -/
theorem mapping_lost :
    Initializes (.ofClass codedKinds) codedKinds 1 coded ∧
      (runFrom (askAll (nameFor plainShapes {}) (coded.map EnumConstant.request)) {}).1 = .ok () ∧
      completeMapping coded = [("CIRCLE", "Circle"), ("SQUARE", "Square")] ∧
      (runFrom (make plainShapes {} (mappingOf (.ofClass codedKinds))) {}).1 = .ok [] :=
  ⟨codedKinds_initializes, eq_ok_of_isOk (by decide +kernel), rfl, rfl⟩

end ApiSurface.Schema
