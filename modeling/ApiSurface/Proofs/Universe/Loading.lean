import ApiSurface.Endpoint.Extraction
import ApiSurface.OpenApi.Assembly
import ApiSurface.Proofs.Universe.Followed
import Mathlib.Data.List.Nodup

/-!
# Loading classes

Records are loaded one after the other, and the first whose name is taken ends the loading. What
comes out does not depend on the order: if no two records have one name, the universe holds each
record under its name; otherwise one of the names that occur twice is refused.

Nothing else of a list of records reaches an analysis, so endpoints and documents are the same for
every order.

Main definitions: `LoadAlike`, `LoadRefused`. Main statements: `Universe.find?_ofRecords`,
`Universe.ofRecords_perm`, `load_order_irrelevant`.
-/
namespace ApiSurface

namespace Universe

variable {records all : Std.ExtTreeMap String ClassRecord} {rs rs' : List ClassRecord}

/-! ## Adding records to a map -/

theorem insertAll_cons_of_mem {r : ClassRecord} (taken : r.path ∈ records) :
    insertAll records (r :: rs) = .error (.duplicateClass r.path) := by
  rw [insertAll, if_pos (Std.ExtTreeMap.contains_iff_mem.mpr taken)]

theorem insertAll_cons_of_not_mem {r : ClassRecord} (free : r.path ∉ records) :
    insertAll records (r :: rs) = insertAll (records.insert r.path r) rs := by
  rw [insertAll, if_neg fun h => free (Std.ExtTreeMap.contains_iff_mem.mp h)]

theorem mem_insert_path {r : ClassRecord} {path : String} :
    path ∈ records.insert r.path r ↔ r.path = path ∨ path ∈ records := by
  simp [Std.ExtTreeMap.mem_insert]

/-- Records can be added exactly when their names are distinct and none of them is taken. -/
theorem exists_insertAll_iff :
    (∃ all, insertAll records rs = .ok all) ↔
      (rs.map (·.path)).Nodup ∧ ∀ r ∈ rs, r.path ∉ records := by
  induction rs generalizing records with
  | nil => exact ⟨fun _ => by simp, fun _ => ⟨records, rfl⟩⟩
  | cons r rest ih =>
    by_cases taken : r.path ∈ records
    · rw [insertAll_cons_of_mem taken]
      simp [taken]
    · rw [insertAll_cons_of_not_mem taken, ih]
      simp only [mem_insert_path, List.map_cons, List.nodup_cons, List.mem_map,
        List.forall_mem_cons]
      grind

/-- A name that is refused stands twice, once in the map or both times among the records. -/
theorem eq_duplicateClass_of_insertAll {fault : Fault}
    (h : insertAll records rs = .error fault) :
    ∃ path, fault = .duplicateClass path ∧
      (2 ≤ (rs.map (·.path)).count path ∨
        path ∈ records ∧ 1 ≤ (rs.map (·.path)).count path) := by
  induction rs generalizing records with
  | nil => cases h
  | cons r rest ih =>
    by_cases taken : r.path ∈ records
    · rw [insertAll_cons_of_mem taken] at h
      cases h
      exact ⟨r.path, rfl, .inr ⟨taken, by simp⟩⟩
    · rw [insertAll_cons_of_not_mem taken] at h
      obtain ⟨path, rfl, htwice⟩ := ih h
      refine ⟨path, rfl, ?_⟩
      rcases htwice with htwice | ⟨hmem, honce⟩
      · exact .inl (Nat.le_trans htwice List.count_le_count_cons)
      rcases mem_insert_path.mp hmem with rfl | hmem
      · exact .inl (by simpa using honce)
      · exact .inr ⟨hmem, Nat.le_trans honce List.count_le_count_cons⟩

/-- What is in the map stays there. -/
theorem getElem?_insertAll_of_some (h : insertAll records rs = .ok all) {path : String}
    {r : ClassRecord} (hr : records[path]? = some r) : all[path]? = some r := by
  induction rs generalizing records with
  | nil =>
    cases h
    exact hr
  | cons q rest ih =>
    have free := (exists_insertAll_iff.mp ⟨all, h⟩).2 q List.mem_cons_self
    rw [insertAll_cons_of_not_mem free] at h
    have hne : q.path ≠ path := by
      rintro rfl
      exact free (Std.ExtTreeMap.mem_iff_isSome_getElem?.mpr (by simp [hr]))
    exact ih h (by simpa [Std.ExtTreeMap.getElem?_insert, hne] using hr)

/-- Every record that is added stands under its name. -/
theorem getElem?_insertAll_of_mem (h : insertAll records rs = .ok all) {r : ClassRecord}
    (hr : r ∈ rs) : all[r.path]? = some r := by
  induction rs generalizing records with
  | nil => cases hr
  | cons q rest ih =>
    have free := (exists_insertAll_iff.mp ⟨all, h⟩).2 q List.mem_cons_self
    rw [insertAll_cons_of_not_mem free] at h
    rcases List.mem_cons.mp hr with rfl | hr
    · exact getElem?_insertAll_of_some h (by simp)
    · exact ih h hr

/-! ## Universes of records -/

variable {u : Universe} {scope : Scope}

theorem ofRecords_eq_ok :
    ofRecords rs scope = .ok u ↔ insertAll {} rs = .ok u.records ∧ u.scope = scope := by
  unfold ofRecords
  split
  · next all hall =>
    constructor
    · rintro ⟨⟩
      exact ⟨hall, rfl⟩
    · obtain ⟨own, ownScope, keyed⟩ := u
      rintro ⟨hown, rfl⟩
      cases hall.symm.trans hown
      rfl
  · next fault hfault => simp [hfault]

theorem ofRecords_eq_error {fault : Fault} :
    ofRecords rs scope = .error fault ↔ insertAll {} rs = .error fault := by
  unfold ofRecords
  split
  · next h => simp [h]
  · next h => simp [h]

/-- A universe holds the records that it is made of, each under its name, and no others. -/
theorem find?_ofRecords (h : ofRecords rs scope = .ok u) {path : String} {r : ClassRecord} :
    u.find? path = some r ↔ r ∈ rs ∧ r.path = path := by
  constructor
  · exact fun hr => ⟨mem_of_ofRecords h hr, path_of_find? hr⟩
  · rintro ⟨hr, rfl⟩
    exact getElem?_insertAll_of_mem (ofRecords_eq_ok.mp h).1 hr

/-- Records make a universe exactly when their names are distinct. -/
theorem exists_ofRecords_iff (scope : Scope) :
    (∃ u, ofRecords rs scope = .ok u) ↔ (rs.map (·.path)).Nodup := by
  have hempty : (∃ all, insertAll {} rs = .ok all) ↔ (rs.map (·.path)).Nodup := by
    simp [exists_insertAll_iff]
  rw [← hempty]
  constructor
  · rintro ⟨u, hu⟩
    exact ⟨u.records, (ofRecords_eq_ok.mp hu).1⟩
  · rintro ⟨all, hall⟩
    cases h : ofRecords rs scope with
    | ok u => exact ⟨u, rfl⟩
    | error fault =>
      rw [ofRecords_eq_error, hall] at h
      cases h

/-- **A universe does not depend on the order of its records.** -/
theorem ofRecords_perm (order : rs.Perm rs') (distinct : (rs.map (·.path)).Nodup)
    (scope : Scope) : ofRecords rs scope = ofRecords rs' scope := by
  obtain ⟨u, hu⟩ := (exists_ofRecords_iff scope).mpr distinct
  obtain ⟨u', hu'⟩ := (exists_ofRecords_iff scope).mpr ((order.map _).nodup_iff.mp distinct)
  -- A map is known by its look-ups, and these do not speak of an order.
  have hrecords : u.records = u'.records := by
    refine Std.ExtTreeMap.ext_getElem? fun path => Option.ext fun r => ?_
    have hfound : u.find? path = some r ↔ r ∈ rs ∧ r.path = path := find?_ofRecords hu
    rw [order.mem_iff, ← find?_ofRecords hu'] at hfound
    exact hfound
  rw [hu]
  refine (ofRecords_eq_ok.mpr ⟨?_, (ofRecords_eq_ok.mp hu).2⟩).symm
  rw [hrecords]
  exact (ofRecords_eq_ok.mp hu').1

/-- Records two of which have one name make no universe: a name that occurs twice is refused. -/
theorem ofRecords_of_not_nodup (repeated : ¬ (rs.map (·.path)).Nodup) (scope : Scope) :
    ∃ path, ofRecords rs scope = .error (.duplicateClass path) ∧
      2 ≤ (rs.map (·.path)).count path := by
  cases h : ofRecords rs scope with
  | ok u => exact absurd ((exists_ofRecords_iff scope).mp ⟨u, h⟩) repeated
  | error fault =>
    obtain ⟨path, rfl, htwice | ⟨hmem, -⟩⟩ :=
      eq_duplicateClass_of_insertAll (ofRecords_eq_error.mp h)
    · exact ⟨path, rfl, htwice⟩
    · simp at hmem

end Universe

/-! ## Analyses of loaded classes -/

/-- Two lists of records load as the same classes: each makes a universe, which holds the records
under their names, and an analysis does the same in both. -/
def LoadAlike (records records' : List ClassRecord) (settings : Settings) : Prop :=
  ∃ u u', Universe.ofRecords records settings.scope = .ok u ∧
    Universe.ofRecords records' settings.scope = .ok u' ∧
    (∀ path r, u.find? path = some r ↔ r ∈ records ∧ r.path = path) ∧
    (∀ events, runFrom (Endpoint.extract u settings) events =
      runFrom (Endpoint.extract u' settings) events) ∧
    ∀ endpoints events, runFrom (OpenApi.assemble u settings endpoints) events =
      runFrom (OpenApi.assemble u' settings endpoints) events

/-- Loading a list of records is refused for a name that occurs at least twice in it. -/
def LoadRefused (records : List ClassRecord) (settings : Settings) : Prop :=
  ∃ path, Universe.ofRecords records settings.scope = .error (.duplicateClass path) ∧
    2 ≤ (records.map (·.path)).count path

/-- **The order in which classes are loaded does not matter.** Records with distinct names load as
the same classes in every order, and records of which two have one name are refused in every
order. -/
theorem load_order_irrelevant {records records' : List ClassRecord}
    (order : records.Perm records') (settings : Settings) :
    ((records.map (·.path)).Nodup → LoadAlike records records' settings) ∧
      (¬ (records.map (·.path)).Nodup →
        LoadRefused records settings ∧ LoadRefused records' settings) := by
  constructor
  · intro distinct
    obtain ⟨u, hu⟩ := (Universe.exists_ofRecords_iff settings.scope).mpr distinct
    have hu' : Universe.ofRecords records' settings.scope = .ok u := by
      rw [← Universe.ofRecords_perm order distinct, hu]
    exact ⟨u, u, hu, hu', fun _ _ => Universe.find?_ofRecords hu, fun _ => rfl, fun _ _ => rfl⟩
  · intro repeated
    refine ⟨Universe.ofRecords_of_not_nodup repeated _, Universe.ofRecords_of_not_nodup ?_ _⟩
    exact fun distinct => repeated ((order.map _).nodup_iff.mpr distinct)

/-! ## Two controllers and a common type -/

/-- A controller that answers at a path with an item. -/
def itemController (name path : String) : ClassRecord :=
  .ofClass
    { name
      annotations := [
        ⟨Endpoint.bindingType "RequestMapping", [("value", .constant (.string path))]⟩]
      methods := [
        { name := "get"
          descriptor := "()Lp/Item;"
          flags := { isPublic := true }
          annotations := [⟨Endpoint.bindingType "GetMapping", []⟩] }] }

/-- Two controllers of one path, and the class of their results. -/
def itemRecords : List ClassRecord :=
  [itemController "p/B" "items", .ofClass { name := "p/Item" }, itemController "p/A" "items"]

/-- The records of the sample with another class of one of their names. -/
def repeatedRecords : List ClassRecord := itemRecords ++ [.ofClass { name := "p/A" }]

/-- The settings of the sample. -/
def itemSettings : Settings := { scope := { controllers := ["p"], traversal := ["p"] } }

/-- The controllers of the sample are looked at in the order of their names, whichever is loaded
first, and a second class of one of these names is refused wherever it stands. -/
theorem load_order_irrelevant_items :
    itemRecords.Perm itemRecords.reverse ∧
      LoadAlike itemRecords itemRecords.reverse itemSettings ∧
      (∃ u, Universe.ofRecords itemRecords.reverse itemSettings.scope = .ok u ∧
        (Endpoint.extract u itemSettings).outcome.toOption.map (·.map (·.controller)) =
          some ["p/A", "p/B"]) ∧
      repeatedRecords.Perm repeatedRecords.reverse ∧
      LoadRefused repeatedRecords itemSettings ∧
      LoadRefused repeatedRecords.reverse itemSettings := by
  have order : itemRecords.Perm itemRecords.reverse := itemRecords.reverse_perm.symm
  have alike := (load_order_irrelevant order itemSettings).1 (by decide)
  have again : repeatedRecords.Perm repeatedRecords.reverse := repeatedRecords.reverse_perm.symm
  have refused := (load_order_irrelevant again itemSettings).2 (by decide)
  refine ⟨order, alike, ?_, again, refused⟩
  refine ⟨(Universe.ofRecords itemRecords.reverse itemSettings.scope).toOption.get
    (by decide +kernel), toOption_eq_some.mp (Option.some_get _).symm, by decide +kernel⟩

end ApiSurface
