import ApiSurface.Endpoint.Parameters
import ApiSurface.Proofs.Outcome
import Mathlib.Algebra.GroupWithZero.Nat

/-!
# The parameters of a method, one by one

The erased types, the generic types, the annotations, the kept names and the local variables of the
parameters of a method stand in five lists, which need not have the same length, and the local
variables are numbered by slots and not by parameters. `IsParameter` says what the parameter at an
index is, without the parameters before it; reading all parameters gives exactly these.

Main definitions: `firstSlot`, `HasName`, `HasType`, `IsParameter`, `Nameless`. Main statements:
`readParameters_eq_ok`, `parameters_one_to_one`.
-/
namespace ApiSurface.Endpoint

/-! ## One parameter -/

/-- The slots of a local variable: two for a wide primitive type. -/
def width (t : FieldType) : Nat := if t = .base .long ∨ t = .base .double then 2 else 1

/-- The slot at which the parameter at an index begins. The object that the method belongs to and
the parameters before come first. -/
def firstSlot (m : Method) (erased : List FieldType) (i : Nat) : Nat :=
  (if m.flags.isStatic then 0 else 1) + ((erased.take i).map width).sum

/-- The variable holds the slot when the method starts. -/
def HoldsAtStart (slot : Nat) (v : LocalVariable) : Prop := v.index = slot ∧ v.start = 0

/-- The name of the parameter at an index that begins at a slot: the name that its annotations
declare, or the kept name, or else the name of the first variable that holds the slot when the
method starts. -/
inductive HasName (m : Method) (i slot : Nat) : Option String → String → Prop
  | declared {name : String} : HasName m i slot (some name) name
  | kept {name : String} (kept : m.parameterNames[i]? = some (some name)) :
      HasName m i slot none name
  | slot {v : LocalVariable} {before after : List LocalVariable}
      (unkept : ∀ name, m.parameterNames[i]? ≠ some (some name))
      (locals : m.locals = before ++ v :: after) (holds : HoldsAtStart slot v)
      (first : ∀ w ∈ before, ¬ HoldsAtStart slot w) : HasName m i slot none v.name

/-- The generic type of the parameter at an index: that of the signature, if it has as many
parameters as the descriptor, and the erased type otherwise. -/
inductive HasType (erased : List FieldType) (signature : Option GenericMethod) (i : Nat) :
    GenericType → Prop
  | generic {s : GenericMethod} {t : GenericType} (signed : signature = some s)
      (same : s.parameters.length = erased.length) (type : s.parameters[i]? = some t) :
      HasType erased signature i t
  | erased {t : FieldType}
      (unsigned : ∀ s, signature = some s → s.parameters.length ≠ erased.length)
      (type : erased[i]? = some t) : HasType erased signature i (.ofErased t)

/-- The annotations of the parameter at an index. -/
def annotationsAt (m : Method) (i : Nat) : List Annotation := (m.parameterAnnotations[i]?).getD []

/-- The parameter is the one at an index of the method. -/
structure IsParameter (u : Universe) (m : Method) (location : String) (erased : List FieldType)
    (signature : Option GenericMethod) (i : Nat) (p : Parameter) : Prop where
  named : ∃ declared, inputSource location (annotationsAt m i) = .ok (p.source, declared) ∧
    HasName m i (firstSlot m erased i) declared p.name
  typed : ∃ t, HasType erased signature i t ∧ endpointType u location t = .ok p.type

/-- The parameter at an index has no name anywhere. -/
structure Nameless (m : Method) (location : String) (erased : List FieldType) (i : Nat) :
    Prop where
  inside : i < erased.length
  undeclared : ∃ source, inputSource location (annotationsAt m i) = .ok (source, none)
  unkept : ∀ name, m.parameterNames[i]? ≠ some (some name)
  unheld : ∀ v ∈ m.locals, ¬ HoldsAtStart (firstSlot m erased i) v

variable {u : Universe} {m : Method} {location : String} {erased : List FieldType}
  {signature : Option GenericMethod} {t : GenericType} {i slot : Nat} {p : Parameter}

theorem slots_eq_width (t : FieldType) : t.slots = width t := by
  unfold FieldType.slots
  split
  · rfl
  · rfl
  next long double =>
    refine (if_neg ?_).symm
    rintro (rfl | rfl)
    · exact long rfl
    · exact double rfl

/-! ## Reading one parameter -/

theorem kept_eq_some {names : List (Option String)} {name : String} :
    (names[i]?).join = some name ↔ names[i]? = some (some name) := by
  simp [Option.join_eq_some_iff]

theorem holdsAtStart_iff {v : LocalVariable} :
    (v.index = slot && v.start = 0) = true ↔ HoldsAtStart slot v := by
  simp [HoldsAtStart]

/-- The name that the compiler kept stands in one of two places. -/
theorem compiledName?_eq_some {name : String} :
    compiledName? m i slot = some name ↔ HasName m i slot none name := by
  unfold compiledName?
  split
  next other kept =>
    rw [kept_eq_some] at kept
    constructor
    · rintro ⟨⟩
      exact .kept kept
    · rintro (_ | kept' | unkept)
      · rw [kept] at kept'
        exact Option.some.inj kept'
      · exact absurd kept (unkept other)
  next unkept =>
    have hunkept : ∀ name, m.parameterNames[i]? ≠ some (some name) := by
      intro name kept
      simp [kept_eq_some.mpr kept] at unkept
    simp only [Option.map_eq_some_iff, List.find?_eq_some_iff_append, Bool.not_eq_true',
      ← Bool.not_eq_true, holdsAtStart_iff]
    constructor
    · rintro ⟨v, ⟨holds, before, after, locals, first⟩, rfl⟩
      exact .slot hunkept locals holds first
    · rintro (_ | kept' | ⟨-, locals, holds, first⟩)
      · exact absurd kept' (hunkept name)
      · exact ⟨_, ⟨holds, _, _, locals, first⟩, rfl⟩

/-- Without a kept name and a variable in its slot a parameter has no name. -/
theorem compiledName?_eq_none (unkept : ∀ name, m.parameterNames[i]? ≠ some (some name))
    (unheld : ∀ v ∈ m.locals, ¬ HoldsAtStart slot v) : compiledName? m i slot = none := by
  rw [Option.eq_none_iff_forall_ne_some]
  intro name h
  cases compiledName?_eq_some.mp h with
  | kept kept => exact unkept name kept
  | slot _ locals holds _ => exact unheld _ (by simp [locals]) holds

/-- The parameter at an index that begins at a slot and is of a generic type. -/
structure Reads (u : Universe) (m : Method) (location : String) (t : GenericType) (i slot : Nat)
    (p : Parameter) : Prop where
  named : ∃ declared, inputSource location (annotationsAt m i) = .ok (p.source, declared) ∧
    HasName m i slot declared p.name
  typed : endpointType u location t = .ok p.type

theorem readParameter_eq_ok :
    readParameter u m location t i slot = .ok p ↔ Reads u m location t i slot p := by
  unfold readParameter
  constructor
  · intro h
    obtain ⟨⟨source, declared⟩, hsource, h⟩ := bind_eq_ok.mp h
    cases declared with
    | some name =>
      obtain ⟨_, ⟨⟩, h⟩ := bind_eq_ok.mp h
      obtain ⟨type, typed, h⟩ := bind_eq_ok.mp h
      cases h
      exact ⟨⟨_, hsource, .declared⟩, typed⟩
    | none =>
      cases compiled : compiledName? m i slot with
      | some name =>
        simp only [compiled] at h
        obtain ⟨_, ⟨⟩, h⟩ := bind_eq_ok.mp h
        obtain ⟨type, typed, h⟩ := bind_eq_ok.mp h
        cases h
        exact ⟨⟨_, hsource, compiledName?_eq_some.mp compiled⟩, typed⟩
      | none => simp [compiled] at h
  · rintro ⟨⟨declared, hsource, named⟩, typed⟩
    rw [annotationsAt] at hsource
    cases declared with
    | some name =>
      cases named
      simp [hsource, typed]
    | none => simp [hsource, compiledName?_eq_some.mpr named, typed]

/-- A parameter without a name is refused, and the fault says which it is. -/
theorem readParameter_nameless
    (undeclared : ∃ source, inputSource location (annotationsAt m i) = .ok (source, none))
    (unkept : ∀ name, m.parameterNames[i]? ≠ some (some name))
    (unheld : ∀ v ∈ m.locals, ¬ HoldsAtStart slot v) :
    readParameter u m location t i slot =
      .error (.unrecognized (.parameterName i) location) := by
  obtain ⟨source, hsource⟩ := undeclared
  rw [annotationsAt] at hsource
  simp [readParameter, hsource, compiledName?_eq_none unkept unheld]

/-! ## Reading all parameters -/

variable {types : List (FieldType × GenericType)} {index : Nat} {ps : List Parameter}

/-- The slots that the first types of a list take. -/
def slotsBefore (types : List (FieldType × GenericType)) (i : Nat) : Nat :=
  ((types.take i).map (·.1.slots)).sum

@[simp] theorem slotsBefore_zero : slotsBefore types 0 = 0 := rfl

@[simp] theorem slotsBefore_succ {type : FieldType × GenericType} :
    slotsBefore (type :: types) (i + 1) = type.1.slots + slotsBefore types i := rfl

/-- **The parameters that are read are one for each type**, each at its own index and slot. -/
theorem readParameters_eq_ok :
    readParameters u m location index slot types = .ok ps ↔ ps.length = types.length ∧
      ∀ i p type, ps[i]? = some p → types[i]? = some type →
        Reads u m location type.2 (index + i) (slot + slotsBefore types i) p := by
  induction types generalizing index slot ps with
  | nil => cases ps <;> simp [readParameters]
  | cons type types ih =>
    rw [readParameters]
    constructor
    · intro h
      obtain ⟨p, hp, h⟩ := bind_eq_ok.mp h
      obtain ⟨others, hothers, h⟩ := bind_eq_ok.mp h
      cases h
      obtain ⟨length, each⟩ := ih.mp hothers
      refine ⟨by simp [length], fun i q type' hq htype => ?_⟩
      cases i with
      | zero =>
        cases hq
        cases htype
        exact readParameter_eq_ok.mp hp
      | succ i =>
        have reads := each i q type' hq htype
        rwa [Nat.add_right_comm, Nat.add_assoc slot] at reads
    · rintro ⟨length, each⟩
      cases ps with
      | nil => cases length
      | cons p others =>
        have hp : Reads u m location type.2 index slot p := each 0 p type rfl rfl
        have hothers : readParameters u m location (index + 1) (slot + type.1.slots) types =
            .ok others := by
          refine ih.mpr ⟨by simpa using length, fun i q type' hq htype => ?_⟩
          have reads := each (i + 1) q type' hq htype
          rwa [slotsBefore_succ, ← Nat.add_assoc slot, ← Nat.add_assoc index,
            Nat.add_right_comm index] at reads
        rw [readParameter_eq_ok.mpr hp, ok_bind, hothers, ok_bind]

/-- The fault of a parameter ends the reading if those before it are read. -/
theorem readParameters_error {fault : Fault} {type : FieldType × GenericType}
    (inside : types[i]? = some type)
    (fails : readParameter u m location type.2 (index + i) (slot + slotsBefore types i) =
      .error fault)
    (before : ∀ j < i, ∀ type, types[j]? = some type →
      ∃ p, Reads u m location type.2 (index + j) (slot + slotsBefore types j) p) :
    readParameters u m location index slot types = .error fault := by
  induction types generalizing index slot i with
  | nil => cases inside
  | cons first types ih =>
    rw [readParameters]
    cases i with
    | zero =>
      cases inside
      simp only [Nat.add_zero, slotsBefore_zero] at fails
      rw [fails, error_bind]
    | succ i =>
      obtain ⟨p, hp⟩ := before 0 (Nat.succ_pos i) first rfl
      rw [Nat.add_zero, slotsBefore_zero, Nat.add_zero] at hp
      rw [readParameter_eq_ok.mpr hp, ok_bind, ih inside, error_bind]
      · rwa [Nat.add_right_comm, Nat.add_assoc slot]
      · intro j hj type' htype
        have reads := before (j + 1) (Nat.succ_lt_succ hj) type' htype
        rwa [slotsBefore_succ, ← Nat.add_assoc slot, ← Nat.add_assoc index,
          Nat.add_right_comm index] at reads

/-! ## The parameters of a method -/

theorem length_parameterTypes : (parameterTypes erased signature).length = erased.length := by
  unfold parameterTypes
  split
  · split
    · assumption
    · simp
  · simp

theorem getElem?_parameterTypes :
    (parameterTypes erased signature)[i]? = some t ↔ HasType erased signature i t := by
  have erasedType (unsigned : ∀ s, signature = some s → s.parameters.length ≠ erased.length) :
      (erased.map GenericType.ofErased)[i]? = some t ↔ HasType erased signature i t := by
    rw [List.getElem?_map, Option.map_eq_some_iff]
    constructor
    · rintro ⟨e, type, rfl⟩
      exact .erased unsigned type
    · rintro (⟨signed, same, -⟩ | ⟨-, type⟩)
      · exact absurd same (unsigned _ signed)
      · exact ⟨_, type, rfl⟩
  unfold parameterTypes
  split
  next s =>
    split
    next same =>
      constructor
      · exact .generic rfl same
      · rintro (⟨⟨⟩, -, type⟩ | ⟨unsigned, -⟩)
        · exact type
        · exact absurd same (unsigned s rfl)
    next different =>
      refine erasedType fun s' hs => ?_
      cases hs
      exact different
  next => exact erasedType nofun

/-- The types of the parameters, in both forms. -/
theorem getElem?_zip_parameterTypes {type : FieldType × GenericType} :
    (erased.zip (parameterTypes erased signature))[i]? = some type ↔
      erased[i]? = some type.1 ∧ HasType erased signature i type.2 := by
  rw [List.getElem?_zip_eq_some, getElem?_parameterTypes]

theorem slotsBefore_zip :
    slotsBefore (erased.zip (parameterTypes erased signature)) i =
      ((erased.take i).map width).sum := by
  have fst : (erased.zip (parameterTypes erased signature)).map Prod.fst = erased :=
    List.map_fst_zip (Nat.le_of_eq length_parameterTypes.symm)
  calc slotsBefore (erased.zip (parameterTypes erased signature)) i
      = ((((erased.zip (parameterTypes erased signature)).map Prod.fst).take i).map
          FieldType.slots).sum := by
        rw [← List.map_take, List.map_map]
        rfl
    _ = ((erased.take i).map width).sum := by
        rw [fst, funext slots_eq_width]

/-- A parameter has one type. -/
theorem HasType.unique {t' : GenericType} (h : HasType erased signature i t)
    (h' : HasType erased signature i t') : t = t' :=
  Option.some.inj ((getElem?_parameterTypes.mpr h).symm.trans (getElem?_parameterTypes.mpr h'))

/-- There is a type for every parameter of the descriptor. -/
theorem exists_hasType (signature : Option GenericMethod) (inside : i < erased.length) :
    ∃ t, HasType erased signature i t := by
  have bound : i < (parameterTypes erased signature).length := by rwa [length_parameterTypes]
  exact ⟨_, getElem?_parameterTypes.mp (List.getElem?_eq_getElem bound)⟩

/-- The parameter at an index is what is read there. -/
theorem isParameter_iff (hasType : HasType erased signature i t) :
    IsParameter u m location erased signature i p ↔
      Reads u m location t i (firstSlot m erased i) p := by
  constructor
  · rintro ⟨named, t', hasType', typed⟩
    obtain rfl := hasType.unique hasType'
    exact ⟨named, typed⟩
  · rintro ⟨named, typed⟩
    exact ⟨named, t, hasType, typed⟩

theorem parametersOf_eq_ok :
    parametersOf u m location erased signature = .ok ps ↔ ps.length = erased.length ∧
      ∀ i p, ps[i]? = some p → IsParameter u m location erased signature i p := by
  rw [parametersOf, readParameters_eq_ok, List.length_zip, length_parameterTypes, Nat.min_self]
  refine and_congr_right fun length => ?_
  simp only [slotsBefore_zip, Nat.zero_add, getElem?_zip_parameterTypes]
  constructor
  · intro each i p hp
    have inside : i < erased.length := length ▸ (List.getElem?_eq_some_iff.mp hp).1
    obtain ⟨t, hasType⟩ := exists_hasType signature inside
    exact (isParameter_iff hasType).mpr
      (each i p (erased[i], t) hp ⟨List.getElem?_eq_getElem inside, hasType⟩)
  · rintro each i p type hp ⟨-, hasType⟩
    exact (isParameter_iff hasType).mp (each i p hp)

/-- A parameter without a name is none. -/
theorem Nameless.not_isParameter (h : Nameless m location erased i) :
    ¬ IsParameter u m location erased signature i p := by
  obtain ⟨name, source, type⟩ := p
  rintro ⟨⟨declared, hsource, named⟩, -⟩
  obtain ⟨_, undeclared⟩ := h.undeclared
  rw [undeclared] at hsource
  obtain ⟨-, rfl⟩ := Prod.mk.inj (Except.ok.inj hsource)
  cases named with
  | kept kept => exact h.unkept _ kept
  | slot _ locals holds _ => exact h.unheld _ (by simp [locals]) holds

/-- **Parameters are read one for each parameter of the descriptor, each on its own.** They are read
exactly if there is a parameter at each index: its type is that of the signature if this has as many
as the descriptor, and the erased type otherwise; a name that is neither declared nor kept is that
of the first variable that holds the parameter's own slot when the method starts. Without a name
there is no parameter, and the reading fails, with this fault if the parameters before are read. -/
theorem parameters_one_to_one (u : Universe) (m : Method) (location : String)
    (erased : List FieldType) (signature : Option GenericMethod) :
    (∀ ps, parametersOf u m location erased signature = .ok ps ↔ ps.length = erased.length ∧
      ∀ i p, ps[i]? = some p → IsParameter u m location erased signature i p) ∧
    ∀ i, Nameless m location erased i →
      (∃ fault, parametersOf u m location erased signature = .error fault) ∧
      ((∀ j < i, ∃ p, IsParameter u m location erased signature j p) →
        parametersOf u m location erased signature =
          .error (.unrecognized (.parameterName i) location)) := by
  refine ⟨fun ps => parametersOf_eq_ok, fun i nameless => ⟨?_, fun before => ?_⟩⟩
  · apply not_exists_ok.mp
    rintro ⟨ps, hps⟩
    obtain ⟨length, each⟩ := parametersOf_eq_ok.mp hps
    have inside : i < ps.length := length ▸ nameless.inside
    exact nameless.not_isParameter (each i ps[i] (List.getElem?_eq_getElem inside))
  · obtain ⟨t, hasType⟩ := exists_hasType signature nameless.inside
    have inside : (erased.zip (parameterTypes erased signature))[i]? =
        some (erased.get ⟨i, nameless.inside⟩, t) :=
      getElem?_zip_parameterTypes.mpr ⟨List.getElem?_eq_getElem _, hasType⟩
    refine readParameters_error inside ?_ ?_
    · rw [slotsBefore_zip, Nat.zero_add]
      exact readParameter_nameless nameless.undeclared nameless.unkept nameless.unheld
    · intro j hj type htype
      obtain ⟨p, hp⟩ := before j hj
      rw [slotsBefore_zip, Nat.zero_add]
      exact ⟨p, (isParameter_iff (getElem?_zip_parameterTypes.mp htype).2).mp hp⟩

/-- A method of an object with two wide parameters. The slot of the last one is taken from another
variable, whose entry comes first but does not start with the method. -/
def wideMethod : Method where
  name := "search"
  descriptor := "(JLjava/lang/String;DI)V"
  parameterAnnotations := [[], [⟨bindingType "RequestParam", [("value", .constant (.string "q"))]⟩]]
  locals := [⟨"this", "Lp/Shelf;", 0, 0, 9⟩, ⟨"from", "J", 1, 0, 9⟩, ⟨"rate", "D", 4, 0, 9⟩,
    ⟨"rest", "I", 6, 5, 4⟩, ⟨"page", "I", 6, 0, 5⟩]

/-- The erased types of its parameters. -/
def wideTypes : List FieldType :=
  [.base .long, .object "java/lang/String", .base .double, .base .int]

/-- The method without the entry for its last parameter. -/
def strippedMethod : Method := { wideMethod with locals := wideMethod.locals.take 4 }

/-- A universe without classes. -/
def noClasses : Universe := (Universe.ofRecords [] {}).toOption.get (by decide +kernel)

/-- The names are found behind the wide parameters, although the annotations of two parameters are
missing; and without the last entry the last parameter has no name. -/
theorem parameters_one_to_one_wide :
    (∃ ps, parametersOf noClasses wideMethod "p/Shelf#search" wideTypes none = .ok ps ∧
      ps.map (·.name) = ["from", "q", "rate", "page"] ∧ ps.length = wideTypes.length ∧
      ∀ i p, ps[i]? = some p →
        IsParameter noClasses wideMethod "p/Shelf#search" wideTypes none i p) ∧
    Nameless strippedMethod "p/Shelf#search" wideTypes 3 ∧
    ∃ fault, parametersOf noClasses strippedMethod "p/Shelf#search" wideTypes none =
      .error fault := by
  have read : parametersOf noClasses wideMethod "p/Shelf#search" wideTypes none =
      .ok [⟨"from", .query, .builtIn .long⟩, ⟨"q", .query, .builtIn .string⟩,
        ⟨"rate", .query, .builtIn .double⟩, ⟨"page", .query, .builtIn .integer⟩] := by rfl
  have nameless : Nameless strippedMethod "p/Shelf#search" wideTypes 3 := by
    refine ⟨by decide, ⟨.query, rfl⟩, by simp [strippedMethod, wideMethod], ?_⟩
    have slot : firstSlot strippedMethod wideTypes 3 = 6 := by decide
    rw [slot]
    simp [strippedMethod, wideMethod, HoldsAtStart]
  obtain ⟨exact, -⟩ := parameters_one_to_one noClasses wideMethod "p/Shelf#search" wideTypes none
  obtain ⟨length, each⟩ := (exact _).mp read
  obtain ⟨-, missing⟩ :=
    parameters_one_to_one noClasses strippedMethod "p/Shelf#search" wideTypes none
  exact ⟨⟨_, read, rfl, length, each⟩, nameless, (missing 3 nameless).1⟩

end ApiSurface.Endpoint
