import ApiSurface.Proofs.Signature.Reading

/-!
# Descriptors are signatures

A signature extends a descriptor by what is generic, so the descriptor of an erased type is one way
to write its generic form: a class is written as the only part of its name, without arguments. It
makes no difference then whether a signature was stored or not.

What it takes is that no letter in the name of a class has a meaning of its own in a signature. The
name of a class that is read from a signature never has a dot or an angle bracket in it, so nothing
weaker would do.

Main definitions: `FieldType.Plain`, `MethodType.Plain`. Main statements:
`Signature.exists_written`, `descriptors_are_signatures`.
-/
namespace ApiSurface
open Descriptor Signature

/-- The classes in the type have names without dots and angle brackets. -/
def FieldType.Plain : FieldType → Prop
  | .base _ => True
  | .object name => '.' ∉ name.toList ∧ '<' ∉ name.toList
  | .array component => component.Plain

/-- The classes in the parameters and in the returned type have such names. -/
def MethodType.Plain (m : MethodType) : Prop :=
  (∀ t ∈ m.parameters, t.Plain) ∧ ∀ t ∈ m.returns, t.Plain

instance FieldType.decidablePlain : (t : FieldType) → Decidable t.Plain
  | .base _ => inferInstanceAs (Decidable True)
  | .object name => inferInstanceAs (Decidable ('.' ∉ name.toList ∧ '<' ∉ name.toList))
  | .array component => component.decidablePlain

instance (m : MethodType) : Decidable m.Plain :=
  inferInstanceAs (Decidable ((∀ t ∈ m.parameters, t.Plain) ∧ ∀ t ∈ m.returns, t.Plain))

namespace Signature

variable {letters rest : List Char} {count bound : Nat}

/-! ## Descriptors are read as signatures -/

/-- The descriptor of a type is one way to write its generic form. -/
theorem exists_written {t : FieldType} (named : t.Named) (plain : t.Plain) :
    ∃ w : WrittenType, w.spelling = t.spelling ∧ w.type = .ofErased t := by
  induction t with
  | base p => exact ⟨.base p, by rw [WrittenType.spelling, FieldType.spelling], by
      rw [WrittenType.type, GenericType.ofErased]⟩
  | object name =>
    obtain ⟨nonempty, semicolon⟩ := named
    obtain ⟨dot, bracket⟩ := plain
    have letters : ∀ c ∈ name.toList, c ≠ '<' ∧ c ≠ ';' ∧ c ≠ '.' := fun c hc =>
      ⟨ne_of_mem_of_not_mem hc bracket, ne_of_mem_of_not_mem hc semicolon,
        ne_of_mem_of_not_mem hc dot⟩
    refine ⟨.object (.mk ⟨name, nonempty, letters⟩ []) [], ?_, ?_⟩
    · simp [WrittenType.spelling, WrittenPart.spelling, nestedSpelling, FieldType.spelling]
    · simp [WrittenType.type, WrittenPart.name, WrittenPart.arguments, nestedArguments,
        argumentTypes, GenericType.ofErased]
  | array component ih =>
    obtain ⟨w, hspelling, htype⟩ := ih named plain
    refine ⟨.array w, ?_, ?_⟩
    · rw [WrittenType.spelling, hspelling, FieldType.spelling]
    · rw [WrittenType.type, htype, GenericType.ofErased]

theorem readsBack_ofErased {t : FieldType} (named : t.Named) (plain : t.Plain) (bound : Nat) :
    ReadsBack (readType bound) FieldType.spelling GenericType.ofErased bound t := by
  obtain ⟨w, hspelling, htype⟩ := exists_written named plain
  refine ⟨t.exists_spelling, fun rest short => ?_⟩
  rw [← hspelling] at short ⊢
  rw [← htype]
  exact readType_spelling w bound rest short

/-! ## Names that are read from signatures -/

/-- No letter in a name ends a segment if none does in its first segment and in the rest. -/
theorem not_endsSegment_append {segment inner : String}
    (hsegment : ∀ c ∈ segment.toList, endsSegment c = false)
    (hinner : ∀ c ∈ inner.toList, endsSegment c = false) :
    ∀ c ∈ (segment ++ "$" ++ inner).toList, endsSegment c = false := by
  intro c hc
  rw [String.toList_append, String.toList_append, List.mem_append, List.mem_append] at hc
  rcases hc with (hc | hc) | hc
  · exact hsegment c hc
  · obtain rfl : c = '$' := by simpa using hc
    rfl
  · exact hinner c hc

/-- The name of a class is joined from segments, and in a segment no letter ends one. -/
theorem not_endsSegment_of_readClass {kept arguments : List TypeArgument} {name : String}
    (h : readClass count kept letters = .ok ((name, arguments), rest)) :
    ∀ c ∈ name.toList, endsSegment c = false := by
  induction count generalizing kept letters name arguments rest with
  | zero =>
    unfold readClass at h
    dsimp only at h
    split at h
    · cases h
    · cases h
    next heq _ => cases heq
  | succ count ih =>
    have hsegment : ∀ c ∈ (String.ofList (letters.takeWhile (! endsSegment ·))).toList,
        endsSegment c = false := by
      intro c hc
      rw [String.toList_ofList] at hc
      simpa using List.mem_takeWhile_imp hc
    unfold readClass at h
    dsimp only at h
    split at h
    · cases h
    · cases h
    next heq hdrop =>
      obtain rfl := Nat.succ.inj heq
      split at h
      · cases h
        exact hsegment
      split at h
      · obtain ⟨⟨⟨inner, given⟩, after⟩, hinner, h⟩ := bind_eq_ok.mp h
        cases h
        exact not_endsSegment_append hsegment (ih hinner)
      · obtain ⟨⟨given, after⟩, -, h⟩ := bind_eq_ok.mp h
        dsimp only at h
        split at h
        · cases h
          exact hsegment
        · obtain ⟨⟨⟨inner, given⟩, after⟩, hinner, h⟩ := bind_eq_ok.mp h
          cases h
          exact not_endsSegment_append hsegment (ih hinner)
        · cases h

/-- What a type can be read as. -/
theorem readType_cases {g : GenericType} (h : readType count letters = .ok (g, rest)) :
    (∃ p, g = .base p) ∨ (∃ name, g = .variable name) ∨
      (∃ n more component, readType n more = .ok (component, rest) ∧ g = .array component) ∨
      ∃ n more name arguments, readClass n [] more = .ok ((name, arguments), rest) ∧
        g = .object name arguments := by
  unfold readType at h
  split at h
  · cases h
  · cases h
  next n c more =>
    unfold readHeaded at h
    split at h
    · obtain ⟨⟨⟨name, arguments⟩, after⟩, hclass, h⟩ := bind_eq_ok.mp h
      cases h
      exact .inr (.inr (.inr ⟨n, more, name, arguments, hclass, rfl⟩))
    split at h
    · obtain ⟨after, -, h⟩ := bind_eq_ok.mp h
      cases h
      exact .inr (.inl ⟨_, rfl⟩)
    split at h
    · obtain ⟨⟨component, after⟩, hcomponent, h⟩ := bind_eq_ok.mp h
      cases h
      exact .inr (.inr (.inl ⟨n, more, component, hcomponent, rfl⟩))
    split at h
    next p _ =>
      cases h
      exact .inl ⟨p, rfl⟩
    · cases h

/-- An erased type that is read from a signature has plain names. -/
theorem plain_of_readType {t : FieldType}
    (h : readType count letters = .ok (.ofErased t, rest)) : t.Plain := by
  induction t generalizing count letters with
  | base p => trivial
  | object name =>
    rcases readType_cases h with ⟨_, heq⟩ | ⟨_, heq⟩ | ⟨_, _, _, -, heq⟩ | ⟨_, _, _, _, hclass, heq⟩
    · cases heq
    · cases heq
    · cases heq
    · cases heq
      have hname := not_endsSegment_of_readClass hclass
      refine ⟨fun hdot => ?_, fun hbracket => ?_⟩
      · exact absurd (hname '.' hdot) (by decide)
      · exact absurd (hname '<' hbracket) (by decide)
  | array component ih =>
    rcases readType_cases h with ⟨_, heq⟩ | ⟨_, heq⟩ | ⟨_, _, _, hread, heq⟩ | ⟨_, _, _, _, -, heq⟩
    · cases heq
    · cases heq
    · cases heq
      exact ih hread
    · cases heq

theorem plain_of_readParameters {ts : List FieldType}
    (h : readParameters (readType bound) count letters = .ok (ts.map .ofErased, rest)) :
    ∀ t ∈ ts, t.Plain := by
  induction count generalizing letters ts with
  | zero => cases h
  | succ count ih =>
    unfold readParameters at h
    split at h
    · cases h
    · obtain rfl : ts = [] := by simpa using (congrArg Prod.fst (Except.ok.inj h)).symm
      simp
    next heq _ =>
      obtain rfl := Nat.succ.inj heq
      obtain ⟨⟨g, more⟩, hfirst, h⟩ := bind_eq_ok.mp h
      obtain ⟨⟨others, after⟩, hothers, h⟩ := bind_eq_ok.mp h
      cases ts with
      | nil => cases h
      | cons t ts =>
        cases h
        exact List.forall_mem_cons.mpr ⟨plain_of_readType hfirst, ih hothers⟩

theorem plain_of_readReturn {returned : Option FieldType}
    (h : readReturn (readType bound) letters = .ok (returned.map .ofErased, rest)) :
    ∀ t ∈ returned, t.Plain := by
  rintro t rfl
  unfold readReturn at h
  split at h
  · cases h
  · obtain ⟨⟨g, more⟩, hread, h⟩ := bind_eq_ok.mp h
    cases h
    exact plain_of_readType hread

end Signature

/-! ## Texts -/

/-- The descriptor of a type is a signature of its generic form exactly if its names are plain. -/
theorem GenericType.ofSignature_descriptor {t : FieldType} (named : t.Named) :
    GenericType.ofSignature t.descriptor = .ok (.ofErased t) ↔ t.Plain := by
  rw [ofSignature, FieldType.descriptor, String.toList_ofList]
  constructor
  · intro h
    obtain ⟨⟨g, rest⟩, hread, h⟩ := bind_eq_ok.mp h
    obtain ⟨-, -, h⟩ := bind_eq_ok.mp h
    cases h
    exact plain_of_readType hread
  · intro plain
    have hback := readsBack_ofErased named plain (t.spelling ++ []).length
    have hread := hback.reads [] (Nat.le_refl _)
    rw [List.append_nil] at hread
    rw [hread]
    rfl

/-- The descriptor of a method is a signature of its generic form exactly if its names are plain. -/
theorem GenericMethod.ofSignature_descriptor {m : MethodType} (named : m.Named) :
    GenericMethod.ofSignature m.descriptor =
      .ok ⟨m.parameters.map .ofErased, m.returns.map .ofErased⟩ ↔ m.Plain := by
  have hdeclared : readDeclaration m.spelling = .ok ([], m.spelling) := rfl
  rw [ofSignature, MethodType.descriptor, String.toList_ofList, hdeclared, ok_bind]
  constructor
  · intro h
    obtain ⟨⟨⟨parameters, returns⟩, rest⟩, hread, h⟩ := bind_eq_ok.mp h
    cases h
    obtain ⟨inner, -, hread⟩ := bind_eq_ok.mp hread
    obtain ⟨⟨parameters, after⟩, hparameters, hread⟩ := bind_eq_ok.mp hread
    obtain ⟨⟨result, last⟩, hresult, hread⟩ := bind_eq_ok.mp hread
    cases hread
    exact ⟨plain_of_readParameters hparameters, plain_of_readReturn hresult⟩
  · rintro ⟨parametersPlain, returnsPlain⟩
    have hread := readMethod_append []
      (fun t ht => readsBack_ofErased (named.1 t ht) (parametersPlain t ht) m.spelling.length)
      (fun t ht => readsBack_ofErased (named.2 t ht) (returnsPlain t ht) m.spelling.length)
      (by simp [MethodType.spelling])
    rw [List.append_nil] at hread
    dsimp only
    rw [MethodType.spelling] at hread ⊢
    rw [hread]
    rfl

/-- **Descriptors are signatures.** What is read as an erased type from a descriptor is read as its
generic form from the same text taken as a signature, and the same holds of methods, with the
parameters in their order and nothing returned where nothing is. The one condition is that the names
of classes have no dots and angle brackets, and under it alone both readings agree. -/
theorem descriptors_are_signatures (text : String) :
    (∀ t, FieldType.ofDescriptor text = .ok t →
      (GenericType.ofSignature text = .ok (.ofErased t) ↔ t.Plain)) ∧
      ∀ m, MethodType.ofDescriptor text = .ok m →
        (GenericMethod.ofSignature text =
          .ok ⟨m.parameters.map .ofErased, m.returns.map .ofErased⟩ ↔ m.Plain) := by
  constructor
  · intro t h
    obtain ⟨named, rfl⟩ := FieldType.ofDescriptor_eq_ok.mp h
    exact GenericType.ofSignature_descriptor named
  · intro m h
    obtain ⟨named, rfl⟩ := MethodType.ofDescriptor_eq_ok.mp h
    exact GenericMethod.ofSignature_descriptor named

/-- An array of nested classes and a method with a wide parameter are read in both ways alike. A
class with a dot in its name is not: a signature takes it for a nested one. -/
theorem descriptors_are_signatures_samples :
    (FieldType.ofDescriptor "[[Ljava/util/Map$Entry;" =
        .ok (.array (.array (.object "java/util/Map$Entry"))) ∧
      GenericType.ofSignature "[[Ljava/util/Map$Entry;" =
        .ok (.array (.array (.object "java/util/Map$Entry" [])))) ∧
    (MethodType.ofDescriptor "(J[Lp/Item;)Lp/Page;" =
        .ok ⟨[.base .long, .array (.object "p/Item")], some (.object "p/Page")⟩ ∧
      GenericMethod.ofSignature "(J[Lp/Item;)Lp/Page;" =
        .ok ⟨[.base .long, .array (.object "p/Item" [])], some (.object "p/Page" [])⟩) ∧
    FieldType.ofDescriptor "Lp/Map.Entry;" = .ok (.object "p/Map.Entry") ∧
      GenericType.ofSignature "Lp/Map.Entry;" ≠ .ok (.object "p/Map.Entry" []) := by
  have hentry : FieldType.ofDescriptor "[[Ljava/util/Map$Entry;" =
      .ok (.array (.array (.object "java/util/Map$Entry"))) :=
    toOption_eq_some.mp (by decide +kernel)
  have hpage : MethodType.ofDescriptor "(J[Lp/Item;)Lp/Page;" =
      .ok ⟨[.base .long, .array (.object "p/Item")], some (.object "p/Page")⟩ :=
    toOption_eq_some.mp (by decide +kernel)
  have hdot : FieldType.ofDescriptor "Lp/Map.Entry;" = .ok (.object "p/Map.Entry") :=
    toOption_eq_some.mp (by decide +kernel)
  refine ⟨⟨hentry, ?_⟩, ⟨hpage, ?_⟩, hdot, ?_⟩
  · have plain : (FieldType.array (.array (.object "java/util/Map$Entry"))).Plain := by
      decide +kernel
    exact ((descriptors_are_signatures _).1 _ hentry).mpr plain
  · have plain : MethodType.Plain
        ⟨[.base .long, .array (.object "p/Item")], some (.object "p/Page")⟩ := by
      decide +kernel
    exact ((descriptors_are_signatures _).2 _ hpage).mpr plain
  · have dotted : ¬ (FieldType.object "p/Map.Entry").Plain := by decide +kernel
    exact fun h => dotted (((descriptors_are_signatures _).1 _ hdot).mp h)

end ApiSurface
