import ApiSurface.Proofs.Descriptor.Reading
import Mathlib.Algebra.BigOperators.Group.List.Basic

/-!
# What method types are read from

The parameters of a method stand in brackets with nothing between them, so a list of them is read in
one way only: no type starts with the closing bracket, and none with the letter of a method that
returns nothing. The same holds of every reader whose items keep away from these two letters.

Main definitions: `MethodType.Named`, `Descriptor.ReadsBack`. Main statements:
`Descriptor.readMethod_append`, `MethodType.ofDescriptor_eq_ok`, `descriptors_exact`.
-/
namespace ApiSurface

/-- The classes in the parameters and in the returned type have proper names. -/
def MethodType.Named (m : MethodType) : Prop :=
  (∀ t ∈ m.parameters, t.Named) ∧ ∀ t ∈ m.returns, t.Named

/-- No type is mistaken for the end of a list of parameters, or for none. -/
theorem FieldType.exists_spelling (t : FieldType) :
    ∃ c letters, t.spelling = c :: letters ∧ c ≠ ')' ∧ c ≠ 'V' := by
  cases t with
  | base p => exact ⟨p.letter, [], rfl, by cases p <;> decide⟩
  | object name => exact ⟨'L', _, rfl, by decide⟩
  | array component => exact ⟨'[', _, rfl, by decide⟩

namespace Descriptor

variable {α β : Type} {item : Reader α} {spell : β → List Char} {value : β → α} {bound : Nat}
  {letters rest : List Char}

/-! ## Reading what has been spelled -/

/-- As long as no more letters are left than the bound says, the spelling of an item is read as its
value, and it starts with no letter that has a meaning of its own among parameters. -/
structure ReadsBack (item : Reader α) (spell : β → List Char) (value : β → α) (bound : Nat)
    (b : β) : Prop where
  starts : ∃ c letters, spell b = c :: letters ∧ c ≠ ')' ∧ c ≠ 'V'
  reads : ∀ rest, (spell b ++ rest).length ≤ bound → item (spell b ++ rest) = .ok (value b, rest)

/-- Items whose spellings have letters are outnumbered by these letters. -/
theorem length_le_length_flatMap {bs : List β} (h : ∀ b ∈ bs, spell b ≠ []) :
    bs.length ≤ (bs.flatMap spell).length := by
  rw [List.length_flatMap, ← List.length_map fun b => (spell b).length]
  refine List.length_le_sum_of_one_le _ fun n hn => ?_
  obtain ⟨b, hb, rfl⟩ := List.mem_map.mp hn
  exact List.length_pos_of_ne_nil (h b hb)

theorem readParameters_append {bs : List β} (each : ∀ b ∈ bs, ReadsBack item spell value bound b)
    {count : Nat} (enough : bs.length < count)
    (short : (bs.flatMap spell ++ ')' :: rest).length ≤ bound) :
    readParameters item count (bs.flatMap spell ++ ')' :: rest) = .ok (bs.map value, rest) := by
  induction bs generalizing count with
  | nil =>
    obtain ⟨count, rfl⟩ := Nat.exists_eq_succ_of_ne_zero (Nat.ne_of_gt enough)
    rfl
  | cons b bs ih =>
    obtain ⟨count, rfl⟩ := Nat.exists_eq_succ_of_ne_zero (Nat.ne_of_gt (Nat.zero_lt_of_lt enough))
    obtain ⟨first, others⟩ := List.forall_mem_cons.mp each
    obtain ⟨c, letters, hspell, hc, -⟩ := first.starts
    rw [List.flatMap_cons, List.append_assoc] at short ⊢
    have hfirst := first.reads _ short
    rw [List.length_append] at short
    have hrest := ih others (Nat.lt_of_succ_lt_succ enough) (by omega)
    rw [hspell, List.cons_append] at hfirst ⊢
    rw [readParameters]
    · rw [hfirst, ok_bind]
      dsimp only
      rw [hrest]
      rfl
    · rintro _ ⟨⟩
      exact hc rfl

theorem readReturn_append {returned : Option β}
    (each : ∀ b ∈ returned, ReadsBack item spell value bound b)
    (short : (returned.elim ['V'] spell ++ rest).length ≤ bound) :
    readReturn item (returned.elim ['V'] spell ++ rest) = .ok (returned.map value, rest) := by
  cases returned with
  | none => rfl
  | some b =>
    have hb := each b rfl
    obtain ⟨c, letters, hspell, -, hc⟩ := hb.starts
    have hread := hb.reads rest short
    rw [Option.elim_some]
    rw [hspell, List.cons_append] at hread ⊢
    rw [readReturn]
    · rw [hread]
      rfl
    · rintro _ ⟨⟩
      exact hc rfl

/-- **Parameters in brackets and a returned type are read back**, whatever follows them. -/
theorem readMethod_append (rest : List Char) {bs : List β} {returned : Option β}
    (parameters : ∀ b ∈ bs, ReadsBack item spell value bound b)
    (returns : ∀ b ∈ returned, ReadsBack item spell value bound b)
    (short : (bs.flatMap spell ++ ')' :: (returned.elim ['V'] spell ++ rest)).length ≤ bound) :
    readMethod item ('(' :: (bs.flatMap spell ++ ')' :: (returned.elim ['V'] spell ++ rest))) =
      .ok ((bs.map value, returned.map value), rest) := by
  have hlength : bs.length ≤ (bs.flatMap spell).length := by
    refine length_le_length_flatMap fun b hb => ?_
    obtain ⟨c, letters, hspell, -⟩ := (parameters b hb).starts
    exact hspell ▸ List.cons_ne_nil c letters
  rw [readMethod, expect_eq_ok.mpr rfl, ok_bind, readParameters_append parameters ?_ short, ok_bind]
  · dsimp only
    rw [readReturn_append returns]
    · rfl
    · simp only [List.length_append, List.length_cons] at short ⊢
      omega
  · simp only [List.length_append, List.length_cons]
    omega

/-! ## What has been read -/

theorem FieldType.readsBack {t : FieldType} (named : t.Named) (bound : Nat) :
    ReadsBack readFieldType FieldType.spelling id bound t where
  starts := t.exists_spelling
  reads := fun _ _ => readFieldType_eq_ok.mpr ⟨named, rfl⟩

/-- Parameters are read from their spellings, and from nothing else. -/
theorem of_readParameters {count : Nat} {ts : List FieldType}
    (h : readParameters readFieldType count letters = .ok (ts, rest)) :
    (∀ t ∈ ts, t.Named) ∧ letters = ts.flatMap FieldType.spelling ++ ')' :: rest := by
  induction count generalizing letters ts with
  | zero => cases h
  | succ count ih =>
    unfold readParameters at h
    split at h
    · cases h
    · cases h
      simp
    next heq _ =>
      obtain rfl := Nat.succ.inj heq
      obtain ⟨⟨t, more⟩, ht, h⟩ := bind_eq_ok.mp h
      obtain ⟨⟨others, rest⟩, hothers, h⟩ := bind_eq_ok.mp h
      cases h
      obtain ⟨named, rfl⟩ := readFieldType_eq_ok.mp ht
      obtain ⟨allNamed, rfl⟩ := ih hothers
      exact ⟨List.forall_mem_cons.mpr ⟨named, allNamed⟩, by simp⟩

theorem of_readReturn {returned : Option FieldType}
    (h : readReturn readFieldType letters = .ok (returned, rest)) :
    (∀ t ∈ returned, t.Named) ∧ letters = returned.elim ['V'] FieldType.spelling ++ rest := by
  unfold readReturn at h
  split at h
  · cases h
    simp
  · obtain ⟨⟨t, more⟩, ht, h⟩ := bind_eq_ok.mp h
    cases h
    obtain ⟨named, rfl⟩ := readFieldType_eq_ok.mp ht
    exact ⟨by rintro _ ⟨⟩; exact named, rfl⟩

/-- A method is read from letters that start with the spelling of its type. -/
theorem readMethod_eq_ok {ts : List FieldType} {returned : Option FieldType} :
    readMethod readFieldType letters = .ok ((ts, returned), rest) ↔
      MethodType.Named ⟨ts, returned⟩ ∧ letters = MethodType.spelling ⟨ts, returned⟩ ++ rest := by
  constructor
  · intro h
    obtain ⟨inner, hopen, h⟩ := bind_eq_ok.mp h
    obtain ⟨⟨parameters, after⟩, hparameters, h⟩ := bind_eq_ok.mp h
    obtain ⟨⟨result, last⟩, hresult, h⟩ := bind_eq_ok.mp h
    cases h
    obtain rfl := expect_eq_ok.mp hopen
    obtain ⟨parametersNamed, rfl⟩ := of_readParameters hparameters
    obtain ⟨resultNamed, rfl⟩ := of_readReturn hresult
    exact ⟨⟨parametersNamed, resultNamed⟩, by simp [MethodType.spelling]⟩
  · rintro ⟨⟨parametersNamed, resultNamed⟩, rfl⟩
    have hread := readMethod_append rest
      (fun t ht => FieldType.readsBack (parametersNamed t ht) _)
      (fun t ht => FieldType.readsBack (resultNamed t ht) _) (Nat.le_refl _)
    simpa [MethodType.spelling] using hread

end Descriptor

/-- **A text is the descriptor of the method type that it is read as.** -/
theorem MethodType.ofDescriptor_eq_ok {text : String} {m : MethodType} :
    MethodType.ofDescriptor text = .ok m ↔ m.Named ∧ text = m.descriptor := by
  rw [MethodType.ofDescriptor, bind_eq_ok]
  simp only [Prod.exists, Descriptor.readMethod_eq_ok, bind_eq_ok, Descriptor.finish_eq_ok]
  constructor
  · rintro ⟨parameters, returns, rest, ⟨named, htext⟩, -, rfl, heq⟩
    cases heq
    rw [List.append_nil] at htext
    exact ⟨named, by rw [MethodType.descriptor, ← htext, String.ofList_toList]⟩
  · rintro ⟨named, rfl⟩
    exact ⟨m.parameters, m.returns, [], ⟨named, by simp [MethodType.descriptor]⟩, (), rfl, rfl⟩

/-- The descriptor of a method type from those of its parts. -/
theorem MethodType.descriptor_eq (m : MethodType) :
    m.descriptor = "(" ++ String.join (m.parameters.map FieldType.descriptor) ++ ")" ++
      m.returns.elim "V" FieldType.descriptor := by
  obtain ⟨parameters, returns⟩ := m
  have hspelling (t : FieldType) : t.descriptor.toList = t.spelling := String.toList_ofList
  rw [← String.toList_inj, descriptor, String.toList_ofList, spelling]
  cases returns <;>
    simp [String.toList_append, String.toList_join, List.flatMap_map, hspelling]

/-- **Descriptors are read exactly.** A text is read as a type if and only if it is the descriptor
of that type and the classes in it have proper names; that of a method has the descriptors of its
parameters in brackets, and then that of the returned type, or `V` if nothing is returned. -/
theorem descriptors_exact (text : String) :
    (∀ t, FieldType.ofDescriptor text = .ok t ↔ text = t.descriptor ∧ t.Named) ∧
      ∀ m, MethodType.ofDescriptor text = .ok m ↔
        text = "(" ++ String.join (m.parameters.map FieldType.descriptor) ++ ")" ++
            m.returns.elim "V" FieldType.descriptor ∧
          (∀ t ∈ m.parameters, t.Named) ∧ ∀ t ∈ m.returns, t.Named := by
  constructor
  · intro t
    rw [FieldType.ofDescriptor_eq_ok, and_comm]
  · intro m
    rw [MethodType.ofDescriptor_eq_ok, m.descriptor_eq, and_comm]
    rfl

end ApiSurface
