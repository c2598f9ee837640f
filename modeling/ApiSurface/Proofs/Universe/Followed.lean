import ApiSurface.Proofs.Outcome
import ApiSurface.Universe.Hierarchy
import ApiSurface.Universe.Resolution

/-!
# Followed classes and the methods found on them

A class is followed if it is in the universe and in the packages of the traversal subset. Every
method that a look-up finds, up the superclasses or on the interfaces, is declared by a followed
class as long as the search starts at one.

Main definitions: `Universe.Declares`, `Universe.MethodsDistinct`, `Universe.Follows`.
-/
namespace ApiSurface.Universe

variable {u : Universe}

/-- The class is in the universe and declares the method. -/
def Declares (u : Universe) (record : ClassRecord) (m : Method) : Prop :=
  u.find? record.path = some record ∧ ∃ c, record.info = .ok c ∧ m ∈ c.methods

/-- No class declares two methods of one name and descriptor. -/
def MethodsDistinct (u : Universe) : Prop :=
  ∀ (record : ClassRecord) (c : Class), u.find? record.path = some record →
    record.info = .ok c → (c.methods.map fun m => (m.name, m.descriptor)).Nodup

/-- The class is in the universe and its methods are followed. -/
def Follows (u : Universe) (record : ClassRecord) : Prop :=
  u.find? record.path = some record ∧ u.contains .traversal record.path = true

/-! ## Looking up classes -/

theorem mem_of_insertAll {records all : Std.ExtTreeMap String ClassRecord} {rs : List ClassRecord}
    (h : insertAll records rs = .ok all) {path : String} {r : ClassRecord}
    (hr : all[path]? = some r) : r ∈ rs ∨ records[path]? = some r := by
  induction rs generalizing records with
  | nil =>
    cases h
    exact .inr hr
  | cons first rest ih =>
    simp only [insertAll] at h
    split at h
    · cases h
    · rcases ih h with hm | hm
      · exact .inl (List.mem_cons_of_mem _ hm)
      · rw [Std.ExtTreeMap.getElem?_insert] at hm
        split at hm
        · cases hm
          exact .inl List.mem_cons_self
        · exact .inr hm

/-- The classes of a universe are the records it was made of. -/
theorem mem_of_ofRecords {records : List ClassRecord} {scope : Scope}
    (h : ofRecords records scope = .ok u) {path : String} {r : ClassRecord}
    (hr : u.find? path = some r) : r ∈ records := by
  unfold ofRecords at h
  split at h
  · cases h
    rcases mem_of_insertAll ‹_› hr with hm | hm
    · exact hm
    · simp at hm
  · cases h

/-- Methods are distinct in a universe if they are in each of the records it was made of. -/
theorem methodsDistinct_ofRecords {records : List ClassRecord} {scope : Scope}
    (h : ofRecords records scope = .ok u)
    (hd : ∀ r ∈ records, ∀ c, r.info = .ok c →
      (c.methods.map fun m => (m.name, m.descriptor)).Nodup) : u.MethodsDistinct :=
  fun r c hr hc => hd r (mem_of_ofRecords h hr) c hc

theorem path_of_find? {path : String} {record : ClassRecord} (h : u.find? path = some record) :
    record.path = path :=
  u.keyed path record h

/-- The names of a universe are those of its classes. -/
theorem mem_paths {path : String} : path ∈ u.paths ↔ ∃ record, u.find? path = some record := by
  rw [paths, Std.ExtTreeMap.mem_keys, Std.ExtTreeMap.mem_iff_isSome_getElem?,
    Option.isSome_iff_exists]
  rfl

@[simp] theorem length_paths (u : Universe) : u.paths.length = u.size := by
  simp [paths, size]

theorem lookup_eq_ok {path : String} {record : ClassRecord} :
    u.lookup path = .ok record ↔ u.find? path = some record := by
  unfold lookup
  cases u.find? path <;> simp

/-- A class that is looked up by a name among the followed ones is followed. -/
theorem follows_of_find? {path : String} {record : ClassRecord}
    (hc : u.contains .traversal path = true) (h : u.find? path = some record) :
    u.Follows record := by
  have hp := path_of_find? h
  subst hp
  exact ⟨h, hc⟩

theorem mem_recordsIn {subset : Subset} {record : ClassRecord} :
    record ∈ u.recordsIn subset ↔
      u.find? record.path = some record ∧ u.contains subset record.path = true := by
  simp only [recordsIn, List.mem_map, List.mem_filter, Prod.exists,
    Std.ExtTreeMap.mem_toList_iff_getElem?_eq_some]
  constructor
  · rintro ⟨path, r, ⟨hr, hc⟩, rfl⟩
    have hp : r.path = path := path_of_find? hr
    subst hp
    exact ⟨hr, hc⟩
  · rintro ⟨hr, hc⟩
    exact ⟨record.path, record, ⟨hr, hc⟩, rfl⟩

/-- The classes of a subset come in ascending order. -/
theorem recordsIn_ascending (u : Universe) (subset : Subset) :
    (u.recordsIn subset).Pairwise fun r s => r.path < s.path := by
  refine List.pairwise_map.mpr (List.Pairwise.filter _ ?_)
  refine Std.ExtTreeMap.ordered_keys_toList.imp_of_mem ?_
  rintro ⟨path, r⟩ ⟨path', s⟩ hr hs h
  rw [Std.ExtTreeMap.mem_toList_iff_getElem?_eq_some] at hr hs
  rw [u.keyed path r hr, u.keyed path' s hs]
  exact compareOfLessAndEq_eq_lt.mp h

/-- The implementations that a look-up gives are concrete classes of the subset. -/
theorem mem_implementations {subset : Subset} {target : String} {found : List ClassRecord}
    (h : u.implementations subset target = .ok found) {record : ClassRecord}
    (hm : record ∈ found) :
    u.find? record.path = some record ∧ u.contains subset record.path = true := by
  obtain ⟨below, hb, hconcrete⟩ := bind_eq_ok.mp h
  obtain ⟨-, rfl⟩ := filterM_eq_ok hconcrete
  obtain ⟨-, rfl⟩ := filterM_eq_ok hb
  exact mem_recordsIn.mp (List.mem_filter.mp (List.mem_filter.mp hm).1).1

/-! ## Looking up methods -/

/-- The superclass that a look-up goes on to is followed. -/
theorem follows_followedSuper {c : Class} {parent : ClassRecord}
    (h : u.followedSuper? c = some parent) : u.Follows parent := by
  obtain ⟨path, -, h⟩ := Option.bind_eq_some_iff.mp h
  split at h
  · exact follows_of_find? ‹_› h
  · cases h

theorem mem_methods_of_method? {c : Class} {name : String} {descriptor : Option String}
    {m : Method} (h : c.method? name descriptor = some m) : m ∈ c.methods :=
  List.mem_of_find?_eq_some h

theorem resolveFrom_followed {name : String} {descriptor : Option String} {budget : Nat}
    {seen : List String} {start record : ClassRecord} {m : Method} (hs : u.Follows start)
    (h : u.resolveFrom name descriptor budget seen start = .ok (some (record, m))) :
    u.Follows record ∧ u.Declares record m := by
  induction budget generalizing seen start with
  | zero =>
    unfold resolveFrom at h
    split at h <;> cases h
  | succ budget ih =>
    unfold resolveFrom at h
    split at h
    · cases h
    obtain ⟨c, hc, h⟩ := bind_eq_ok.mp h
    split at h
    · cases h
      exact ⟨hs, hs.1, c, hc, mem_methods_of_method? ‹_›⟩
    · split at h
      · cases h
      · exact ih (follows_followedSuper ‹_›) h

/-- A look-up up the superclasses of a followed class finds a method of a followed class. -/
theorem resolveMethod_followed {name : String} {descriptor : Option String}
    {start record : ClassRecord} {m : Method} (hs : u.Follows start)
    (h : u.resolveMethod start name descriptor = .ok (some (record, m))) :
    u.Follows record ∧ u.Declares record m :=
  resolveFrom_followed hs h

theorem mem_methods_of_defaultMethod? {c : Class} {name descriptor : String} {m : Method}
    (h : defaultMethod? c name descriptor = some m) : m ∈ c.methods := by
  unfold defaultMethod? at h
  split at h
  · exact List.mem_of_find?_eq_some h
  · cases h

theorem contains_of_mem_unseenSupers {parents : List String} {seen : List String} {path : String}
    (h : path ∈ u.unseenSupers seen parents) : u.contains .traversal path = true := by
  induction parents generalizing seen with
  | nil => cases h
  | cons parent parents ih =>
    unfold unseenSupers at h
    split at h
    · rcases List.mem_cons.mp h with rfl | h
      · exact ‹_ ∧ _›.1
      · exact ih h
    · exact ih h

theorem defaultFrom_followed {name descriptor : String} {budget : Nat} {queue : List ClassRecord}
    {seen : List String} {record : ClassRecord} {m : Method} (hq : ∀ r ∈ queue, u.Follows r)
    (h : u.defaultFrom name descriptor budget queue seen = .ok (some (record, m))) :
    u.Follows record ∧ u.Declares record m := by
  induction budget generalizing queue seen with
  | zero => cases queue <;> cases h
  | succ budget ih =>
    cases queue with
    | nil => cases h
    | cons first queue =>
      obtain ⟨c, hc, h⟩ := bind_eq_ok.mp h
      have hfirst := hq first List.mem_cons_self
      split at h
      · cases h
        exact ⟨hfirst, hfirst.1, c, hc, mem_methods_of_defaultMethod? ‹_›⟩
      · refine ih ?_ h
        intro r hr
        rcases List.mem_append.mp hr with hr | hr
        · exact hq r (List.mem_cons_of_mem _ hr)
        · obtain ⟨path, hpath, hfind⟩ := List.mem_filterMap.mp hr
          exact follows_of_find? (contains_of_mem_unseenSupers hpath) hfind

/-- A default method that a followed class inherits is one of a followed class. -/
theorem resolveDefaultMethod_followed {name descriptor : String} {start record : ClassRecord}
    {m : Method} (hs : u.Follows start)
    (h : u.resolveDefaultMethod start name descriptor = .ok (some (record, m))) :
    u.Follows record ∧ u.Declares record m :=
  defaultFrom_followed (by simpa using hs) h

end ApiSurface.Universe
