import ApiSurface.Proofs.Schema.Requests
import ApiSurface.Proofs.Universe.Followed
import Mathlib.Data.List.MinMax
import Mathlib.Tactic.Ring

/-!
# The names that a request can lead to

Whatever a request leads to, the classes are applied to classes of a fixed list, and to a bounded
number of them at once. The requests of this form for classes of the universe are finitely many,
and `nameBound` bounds their number.

Main definitions: `Bounded`, `pool`. Main statements: `recordSchema_bounded`, `length_pool_le`.
-/
namespace ApiSurface.Schema
open Requesting

/-- Type arguments that a request for a class applied to `generics` can lead to. -/
structure Bounded (u : Universe) (generics applied : List String) : Prop where
  classes : applied ⊆ argumentClasses u generics
  width : applied.length ≤ argumentWidth u generics

variable {u : Universe} {generics : List String}

namespace Bounded

theorem nil : Bounded u generics [] := ⟨List.nil_subset _, Nat.zero_le _⟩

/-- The arguments of the request itself. -/
theorem self : Bounded u generics generics :=
  ⟨List.subset_append_right _ _, List.le_max_of_le' 0 List.mem_cons_self le_rfl⟩

end Bounded

/-! ## What classes are applied to -/

namespace Requesting

variable {α β : Type}

/-- A computation only makes requests of a kind. -/
def AsksOnly (kind : Request → Prop) (x : Requesting α) : Prop := ∀ r ∈ x.requests, kind r

variable {kind : Request → Prop}

namespace AsksOnly

theorem pure (a : α) : (pure a : Requesting α).AsksOnly kind := by simp [AsksOnly]

theorem fail (fault : Fault) : (fail fault : Requesting α).AsksOnly kind := by simp [AsksOnly]

theorem bind {x : Requesting α} {f : α → Requesting β} (hx : x.AsksOnly kind)
    (hf : ∀ a, x.outcome = .ok a → (f a).AsksOnly kind) : (x >>= f).AsksOnly kind := by
  intro r hr
  rcases mem_requests_bind.mp hr with hr | ⟨a, ha, hr⟩
  · exact hx r hr
  · exact hf a ha r hr

theorem ofExcept {result : Except Fault α} {f : α → Requesting β}
    (h : ∀ a, result = .ok a → (f a).AsksOnly kind) : (ofExcept result >>= f).AsksOnly kind :=
  bind (by simp [AsksOnly]) (by simpa using h)

theorem nameOf {path : String} {applied : List String} (h : kind ⟨path, applied⟩) :
    (nameOf path applied).AsksOnly kind := by simpa [AsksOnly] using h

end AsksOnly

end Requesting

/-- A variable stands for one of the classes that its class is applied to. -/
theorem mem_of_resolve {bindings : Bindings} {name path : String}
    (h : bindings.resolve name = .ok path) : path ∈ bindings.pairs.map (·.2) := by
  unfold Bindings.resolve at h
  split at h
  · cases h
    exact List.mem_map.mpr ⟨_, List.mem_of_find?_eq_some ‹_›, rfl⟩
  · cases h

/-- An argument stands for the class that it names, or for the one that its variable does. -/
theorem argumentPath_eq_ok {bindings : Bindings} {location type path : String}
    {argument : TypeArgument} (h : argumentPath bindings location type argument = .ok path) :
    argumentClass? argument = some path ∨ path ∈ bindings.pairs.map (·.2) := by
  unfold argumentPath at h
  unfold argumentClass?
  split at h
  · exact .inr (mem_of_resolve h)
  · cases h
    simp [*]
  · cases h

/-- Each argument stands for one class. -/
theorem argumentPaths_eq_ok {bindings : Bindings} {location type : String}
    {arguments : List TypeArgument} {paths : List String}
    (h : argumentPaths bindings location type arguments = .ok paths) :
    paths.length = arguments.length ∧ ∀ path ∈ paths,
      path ∈ arguments.filterMap argumentClass? ∨ path ∈ bindings.pairs.map (·.2) := by
  induction arguments generalizing paths with
  | nil =>
    cases h
    simp
  | cons argument arguments ih =>
    obtain ⟨path, hpath, h⟩ := bind_eq_ok.mp h
    obtain ⟨rest, hrest, h⟩ := bind_eq_ok.mp h
    cases h
    obtain ⟨hlength, hall⟩ := ih hrest
    refine ⟨by simp [hlength], List.forall_mem_cons.mpr ⟨?_, fun p hp => ?_⟩⟩
    · refine (argumentPath_eq_ok hpath).imp_left fun hclass => ?_
      exact List.mem_filterMap.mpr ⟨argument, List.mem_cons_self, hclass⟩
    · refine (hall p hp).imp_left fun hm => ?_
      obtain ⟨a, ha, hclass⟩ := List.mem_filterMap.mp hm
      exact List.mem_filterMap.mpr ⟨a, List.mem_cons_of_mem _ ha, hclass⟩

/-- A request that the fields of a class make: its class is applied to nothing, or as one of the
lists of type arguments says. -/
def AppliedAsIn (bindings : Bindings) (lists : List (List TypeArgument)) (r : Request) : Prop :=
  r.generics = [] ∨ ∃ arguments ∈ lists, ∃ location type,
    argumentPaths bindings location type arguments = .ok r.generics

theorem AppliedAsIn.mono {bindings : Bindings} {lists more : List (List TypeArgument)} {r : Request}
    (h : AppliedAsIn bindings lists r) (hl : lists ⊆ more) : AppliedAsIn bindings more r := by
  rcases h with h | ⟨arguments, hm, h⟩
  · exact .inl h
  · exact .inr ⟨arguments, hl hm, h⟩

theorem classSchema_asksOnly {kind : Request → Prop} {path : String} {applied : List String}
    (h : kind ⟨path, applied⟩) : (classSchema path applied).AsksOnly kind := by
  unfold classSchema
  split
  · exact .pure _
  · exact .bind (.nameOf h) fun _ _ => .pure _

mutual

theorem fieldSchema_asksOnly (bindings : Bindings) (location : String) (type : GenericType) :
    (fieldSchema bindings location type).AsksOnly (AppliedAsIn bindings (argumentLists type)) := by
  match type with
  | .base p => exact .pure _
  | .array component =>
    exact .bind (fieldSchema_asksOnly bindings location component) fun _ _ => .pure _
  | .variable name => exact .ofExcept fun path _ => classSchema_asksOnly (.inl rfl)
  | .object name arguments =>
    unfold fieldSchema argumentLists
    split
    · refine .bind (fun r hr => ?_) fun _ _ => .pure _
      exact (elementSchema_asksOnly bindings location name arguments r hr).mono
        (List.subset_cons_self _ _)
    · refine .ofExcept fun applied h => classSchema_asksOnly (.inr ?_)
      exact ⟨arguments, List.mem_cons_self, location, name, h⟩

theorem elementSchema_asksOnly (bindings : Bindings) (location collection : String)
    (arguments : List TypeArgument) :
    (elementSchema bindings location collection arguments).AsksOnly
      (AppliedAsIn bindings (nestedLists arguments)) := by
  match arguments with
  | [] => exact .fail _
  | .any :: _ => exact .fail _
  | .atLeast _ :: _ => exact .fail _
  | .exact t :: _ =>
    intro r hr
    exact (fieldSchema_asksOnly bindings location t r hr).mono (List.subset_append_left _ _)
  | .atMost t :: _ =>
    intro r hr
    exact (fieldSchema_asksOnly bindings location t r hr).mono (List.subset_append_left _ _)

end

theorem mem_universeArguments {record : ClassRecord} {path : String} {c : Class} {f : Field}
    {type : GenericType} (hr : u.find? path = some record) (hc : record.info = .ok c)
    (hf : f ∈ c.fields) (ht : fieldType f = .ok type) :
    argumentLists type ⊆ universeArguments u := by
  intro arguments h
  refine List.mem_flatMap.mpr ⟨record, List.mem_map.mpr ⟨(path, record), ?_, rfl⟩, ?_⟩
  · exact Std.ExtTreeMap.mem_toList_iff_getElem?_eq_some.mpr hr
  · simp only [fieldArguments, hc]
    exact List.mem_flatMap.mpr ⟨f, hf, by simpa [ht] using h⟩

theorem propertySchemas_asksOnly {bindings : Bindings} {lists : List (List TypeArgument)}
    {fields : List Field}
    (h : ∀ f ∈ fields, ∀ type, fieldType f = .ok type → argumentLists type ⊆ lists) :
    (propertySchemas bindings fields).AsksOnly (AppliedAsIn bindings lists) := by
  induction fields with
  | nil => exact .pure _
  | cons f fields ih =>
    refine .ofExcept fun type ht => .bind (fun r hr => ?_) fun _ _ => ?_
    · exact (fieldSchema_asksOnly _ _ _ r hr).mono (h f List.mem_cons_self type ht)
    · exact .bind (ih fun g hg => h g (List.mem_cons_of_mem _ hg)) fun _ _ => .pure _

theorem bounded_of_appliedAsIn {bindings : Bindings} {r : Request}
    (h : AppliedAsIn bindings (universeArguments u) r)
    (hb : bindings.pairs.map (·.2) ⊆ argumentClasses u generics) :
    Bounded u generics r.generics := by
  rcases h with h | ⟨arguments, hm', location, type, h⟩
  · rw [h]
    exact .nil
  obtain ⟨hlength, hall⟩ := argumentPaths_eq_ok h
  constructor
  · intro path hpath
    rcases hall path hpath with hm | hm
    · obtain ⟨argument, ha, hclass⟩ := List.mem_filterMap.mp hm
      refine List.mem_append_left _ (List.mem_filterMap.mpr ⟨argument, ?_, hclass⟩)
      exact List.mem_flatten.mpr ⟨arguments, hm', ha⟩
    · exact hb hm
  · rw [hlength]
    exact List.le_max_of_le' 0 (List.mem_cons_of_mem _ (List.mem_map_of_mem hm')) le_rfl

theorem objectSchema_bounded {markers : Markers} {record : ClassRecord} {path : String} {c : Class}
    {applied : List String} (hr : u.find? path = some record) (hc : record.info = .ok c)
    (hb : Bounded u generics applied) :
    (objectSchema markers record c applied).AsksOnly fun r => Bounded u generics r.generics := by
  refine .ofExcept fun parameters _ => .bind ?_ fun _ _ => .pure _
  intro r hr'
  refine bounded_of_appliedAsIn (propertySchemas_asksOnly ?_ r hr') ?_
  · intro f hf type ht
    exact mem_universeArguments hr hc (List.mem_filter.mp hf).1 ht
  · intro path hpath
    obtain ⟨⟨name, path⟩, hm, rfl⟩ := List.mem_map.mp hpath
    exact hb.classes (List.of_mem_zip hm).2

theorem namesOf_asksOnly {kind : Request → Prop} (h : ∀ path, kind ⟨path, []⟩)
    (records : List ClassRecord) : (namesOf records).AsksOnly kind := by
  induction records with
  | nil => exact .pure _
  | cons record records ih =>
    exact .bind (.nameOf (h record.path)) fun _ _ => .bind ih fun _ _ => .pure _

theorem mineMapping_asksOnly {kind : Request → Prop} (h : ∀ path, kind ⟨path, []⟩)
    (location : String) (typeIndex loads : Nat) (name : Option String) (payloads : List Payload) :
    (mineMapping location typeIndex loads name payloads).AsksOnly kind := by
  fun_induction mineMapping location typeIndex loads name payloads with
  | case1 => exact .pure _
  | case2 _ _ _ _ ih => exact ih
  | case3 _ _ _ ih => exact ih
  | case4 => exact .fail _
  | case5 _ _ _ _ ih => exact .bind (.nameOf (h _)) fun _ _ => .bind ih fun _ _ => .pure _
  | case6 => exact .fail _
  | case7 => exact .fail _
  | case8 _ _ _ _ _ _ ih => exact ih
  | case9 _ _ _ _ _ _ ih => exact ih

theorem mappingOf_asksOnly {kind : Request → Prop} (h : ∀ path, kind ⟨path, []⟩)
    (record : ClassRecord) : (mappingOf record).AsksOnly kind := by
  refine .ofExcept fun c _ => ?_
  split
  · exact .fail _
  split
  · exact .fail _
  split
  · exact .fail _
  · exact mineMapping_asksOnly h _ _ _ _ _

/-- The schema of an abstract class asks for classes that are applied to nothing. -/
theorem alternativesSchema_asksOnly {kind : Request → Prop} (h : ∀ path, kind ⟨path, []⟩)
    (markers : Markers) (record : ClassRecord) :
    (alternativesSchema u markers record).AsksOnly kind := by
  refine .ofExcept fun concrete _ => ?_
  split
  · exact .fail _
  refine .bind (namesOf_asksOnly h concrete) fun names _ => ?_
  split
  · exact .fail _
  refine .ofExcept fun common _ => .ofExcept fun path _ => .ofExcept fun enum _ => ?_
  exact .bind (mappingOf_asksOnly h enum) fun _ _ => .pure _

/-- What the schema of a class asks for is bounded if the class is applied to bounded arguments. -/
theorem recordSchema_bounded {markers : Markers} {record : ClassRecord} {path : String}
    {applied : List String} (hr : u.find? path = some record) (hb : Bounded u generics applied) :
    (recordSchema u markers record applied).AsksOnly fun r => Bounded u generics r.generics := by
  refine .ofExcept fun c hc => ?_
  split
  · exact .pure _
  split
  · exact objectSchema_bounded hr hc hb
  · exact alternativesSchema_asksOnly (fun _ => .nil) markers record

/-! ## Counting -/

/-- The lists of at most so many members from a list. -/
def listsOver {α : Type} (members : List α) : Nat → List (List α)
  | 0 => [[]]
  | width + 1 => [] :: members.flatMap fun a => (listsOver members width).map (a :: ·)

theorem mem_listsOver {α : Type} {members l : List α} {width : Nat} (h : l ⊆ members)
    (hw : l.length ≤ width) : l ∈ listsOver members width := by
  induction width generalizing l with
  | zero =>
    obtain rfl := List.length_eq_zero_iff.mp (Nat.le_zero.mp hw)
    exact List.mem_singleton_self _
  | succ width ih =>
    cases l with
    | nil => exact List.mem_cons_self
    | cons a l =>
      obtain ⟨ha, hl⟩ := List.cons_subset.mp h
      refine List.mem_cons_of_mem _ (List.mem_flatMap.mpr ⟨a, ha, List.mem_map_of_mem (ih hl ?_)⟩)
      simpa using hw

theorem length_listsOver_le {α : Type} (members : List α) (width : Nat) :
    (listsOver members width).length ≤ (members.length + 1) ^ width := by
  induction width with
  | zero => simp [listsOver]
  | succ width ih =>
    have hpos : 1 ≤ (members.length + 1) ^ width := Nat.one_le_pow _ _ (Nat.succ_pos _)
    calc (listsOver members (width + 1)).length
        = 1 + members.length * (listsOver members width).length := by
          simp [listsOver, List.length_flatMap, Nat.add_comm]
      _ ≤ (members.length + 1) ^ width + members.length * (members.length + 1) ^ width :=
          Nat.add_le_add hpos (Nat.mul_le_mul_left _ ih)
      _ = (members.length + 1) ^ (width + 1) := by ring

/-- The requests that a request for a class applied to `generics` can lead to, as far as their
classes are in the universe. -/
def pool (u : Universe) (generics : List String) : List Request :=
  u.paths.flatMap fun path =>
    (listsOver (argumentClasses u generics) (argumentWidth u generics)).map (Request.mk path)

theorem mem_pool {r : Request} {record : ClassRecord} (hr : u.find? r.path = some record)
    (hb : Bounded u generics r.generics) : r ∈ pool u generics := by
  refine List.mem_flatMap.mpr ⟨r.path, ?_, List.mem_map.mpr ⟨r.generics, ?_, rfl⟩⟩
  · exact Universe.mem_paths.mpr ⟨record, hr⟩
  · exact mem_listsOver hb.classes hb.width

/-- **A request leads to no more than `nameBound` others.** -/
theorem length_pool_le (u : Universe) (generics : List String) :
    (pool u generics).length ≤ nameBound u generics := by
  simp only [pool, List.length_flatMap, List.length_map, List.map_const', List.sum_replicate_nat,
    Universe.length_paths]
  exact Nat.mul_le_mul_left _ (length_listsOver_le _ _)

end ApiSurface.Schema
