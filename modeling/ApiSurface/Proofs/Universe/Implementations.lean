import ApiSurface.Proofs.Universe.Ascent

/-!
# The implementations of a type

The look-up for the implementations of a type gives the concrete classes of a subset that have the
type above themselves, each once and in ascending order. Where no class is on a cycle it fails only
for a class that could not be decoded.

Main definition: `Implements`. Main statements: `implementations_eq_ok`,
`undecoded_of_implementations`, `exists_implementations`, `implementations_of_sole`.
-/
namespace ApiSurface.Universe

variable {u : Universe} {subset : Subset} {target : String}

/-- The class is a concrete one of the subset that has the type above itself. -/
structure Implements (u : Universe) (subset : Subset) (target : String) (record : ClassRecord) :
    Prop where
  found : u.find? record.path = some record
  contains : u.contains subset record.path = true
  other : record.path ≠ target
  above : u.Above record.path target
  concrete : ∃ c, record.info = .ok c ∧ c.isConcrete = true

/-! ## What the look-ups give -/

/-- A search that has an answer decides what is above a class. -/
theorem above_iff_of_descends {path : String} {b : Bool} (h : u.descends path target = .ok b) :
    b = true ↔ u.Above path target := by
  have run := searches_descends u path target
  rw [h] at run
  cases b with
  | true =>
    obtain ⟨_, hmem, habove⟩ := run.above_of_true rfl
    obtain rfl := List.mem_singleton.mp hmem
    exact iff_of_true rfl habove
  | false => exact iff_of_false (by simp) (run.ends_of_false rfl path List.mem_cons_self).2

/-- The classes that are found below a type are those of the subset that have it above themselves,
in the order of the subset. -/
theorem typesBelow_eq_ok {below : List ClassRecord} (h : u.typesBelow subset target = .ok below) :
    below.Sublist (u.recordsIn subset) ∧
      ∀ r, r ∈ below ↔ r ∈ u.recordsIn subset ∧ r.path ≠ target ∧ u.Above r.path target := by
  obtain ⟨decided, rfl⟩ := filterM_eq_ok h
  refine ⟨List.filter_sublist, fun r => ?_⟩
  rw [List.mem_filter, decide_eq_true_iff, toOption_eq_some]
  refine and_congr_right fun hr => ?_
  by_cases other : r.path = target
  · simp [other]
  · obtain ⟨b, hb⟩ := decided r hr
    rw [if_neg other] at hb ⊢
    rw [hb, ← above_iff_of_descends hb]
    simp [other]

/-- **The implementations that are found are all of them**, each once and in ascending order. -/
theorem implementations_eq_ok {found : List ClassRecord}
    (h : u.implementations subset target = .ok found) :
    (found.Pairwise fun r s => r.path < s.path) ∧
      ∀ r, r ∈ found ↔ u.Implements subset target r := by
  obtain ⟨below, hbelow, hfound⟩ := bind_eq_ok.mp h
  obtain ⟨hsublist, hmem⟩ := typesBelow_eq_ok hbelow
  obtain ⟨-, rfl⟩ := filterM_eq_ok hfound
  refine ⟨(recordsIn_ascending u subset).sublist (List.filter_sublist.trans hsublist), fun r => ?_⟩
  have hconcrete : ((do let c ← r.info; .ok c.isConcrete : Except Fault Bool) = .ok true) ↔
      ∃ c, r.info = .ok c ∧ c.isConcrete = true := by
    rw [bind_eq_ok]
    simp
  rw [List.mem_filter, decide_eq_true_iff, toOption_eq_some, hconcrete, hmem, mem_recordsIn]
  constructor
  · rintro ⟨⟨⟨found, contains⟩, other, above⟩, concrete⟩
    exact ⟨found, contains, other, above, concrete⟩
  · rintro ⟨found, contains, other, above, concrete⟩
    exact ⟨⟨⟨found, contains⟩, other, above⟩, concrete⟩

/-! ## When they fail -/

/-- Without cycles, a search fails with the fault of a class above the one that it starts from. -/
theorem undecoded_of_descends (acyclic : ∀ c, ¬ u.OnCycle c) {path : String} {fault : Fault}
    (h : u.descends path target = .error fault) :
    ∃ other record, u.Above path other ∧ u.find? other = some record ∧
      record.info = .error fault := by
  have run := searches_descends u path target
  rw [h] at run
  rcases run.cases_of_error rfl (by simp) with
    ⟨start, _, c, rest, -, hsteps, front, cycle, hclosed⟩ | ⟨start, hmem, hundecoded⟩
  · have chain : IsCycleChain u start c (start :: rest) :=
      ⟨rfl, hsteps, front, cycle, hclosed⟩
    exact absurd chain.onCycle (acyclic c)
  · obtain rfl := List.mem_singleton.mp hmem
    exact hundecoded

/-- Without cycles, the look-up for implementations fails with the fault of a class that a class of
the subset has above itself. -/
theorem undecoded_of_implementations (acyclic : ∀ c, ¬ u.OnCycle c) {fault : Fault}
    (h : u.implementations subset target = .error fault) :
    ∃ path other record, u.contains subset path = true ∧ u.Above path other ∧
      u.find? other = some record ∧ record.info = .error fault := by
  rcases bind_eq_error.mp h with h | ⟨below, hbelow, h⟩
  · obtain ⟨r, hr, hsearch⟩ := filterM_eq_error h
    split at hsearch
    · cases hsearch
    · obtain ⟨other, record, hundecoded⟩ := undecoded_of_descends acyclic hsearch
      exact ⟨r.path, other, record, (mem_recordsIn.mp hr).2, hundecoded⟩
  · obtain ⟨r, hr, hinfo⟩ := filterM_eq_error h
    obtain ⟨found, contains⟩ := mem_recordsIn.mp (((typesBelow_eq_ok hbelow).2 r).mp hr).1
    rcases bind_eq_error.mp hinfo with hinfo | ⟨c, -, hinfo⟩
    · exact ⟨r.path, r.path, r, contains, .refl, found, hinfo⟩
    · cases hinfo

/-- **The look-up for implementations gives all of them**, each once and in ascending order, if all
classes can be decoded and none is on a cycle. -/
theorem exists_implementations (decodes : u.Decodes) (acyclic : ∀ c, ¬ u.OnCycle c)
    (subset : Subset) (target : String) :
    ∃ found, u.implementations subset target = .ok found ∧
      (found.Pairwise fun r s => r.path < s.path) ∧
      ∀ r, r ∈ found ↔ u.Implements subset target r := by
  cases h : u.implementations subset target with
  | error fault =>
    obtain ⟨_, other, record, _, _, found, info⟩ := undecoded_of_implementations acyclic h
    obtain ⟨c, hc⟩ := decodes other record found
    cases info.symm.trans hc
  | ok found => exact ⟨found, rfl, implementations_eq_ok h⟩

/-- A type with one implementation has this one found. -/
theorem implementations_of_sole (decodes : u.Decodes) (acyclic : ∀ c, ¬ u.OnCycle c)
    {record : ClassRecord} (implements : u.Implements subset target record)
    (sole : ∀ other, u.Implements subset target other → other = record) :
    u.implementations subset target = .ok [record] := by
  obtain ⟨found, hfound, ascending, hmem⟩ := exists_implementations decodes acyclic subset target
  have hperm : found.Perm [record] := by
    have distinct : found.Nodup := ascending.imp fun h => by
      rintro rfl
      exact String.lt_irrefl _ h
    refine (List.perm_ext_iff_of_nodup distinct (by simp)).mpr fun r => ?_
    rw [hmem, List.mem_singleton]
    exact ⟨sole r, fun h => h ▸ implements⟩
  rw [hfound, List.perm_singleton.mp hperm]

end ApiSurface.Universe
