import ApiSurface.Proofs.Settings.InternalName
import ApiSurface.Proofs.Settings.Scope
import Mathlib.Data.Finset.Max

/-!
# Settings that are normalized again

Normalizing settings twice is the same as normalizing them once for most settings, but not for all.
It fails for a name that hides a blank behind the separators at its end, wherever in the settings
the name stands, and for the packages that are derived: the first two segments of a controllers'
package are taken after the package was brought into internal form, and may end with a slash or a
blank themselves. Nothing else makes a second pass differ, also not that names of validators become
one.

Main definitions: `Settings.names`. Main statements: `normalizeValidators_normalizeValidators_iff`,
`Scope.normalize_idempotent_iff`, `Settings.normalize_normalize_iff`.
-/
namespace ApiSurface

theorem map_internalName_eq_self_iff {names : List String} :
    names.map internalName = names ↔ ∀ name ∈ names, IsInternal name := by
  simp only [← internalName_eq_self_iff]
  simpa using List.map_inj_left (l := names) (f := internalName) (g := id)

/-! ## Validators -/

section Validators

variable {validators : Validators} {name key : String}

theorem foldl_insert_internalName (entries : List (String × ValidatorShape))
    (map : Validators) :
    entries.foldl (fun map (name, shape) => map.insert (internalName name) shape) map =
      map.insertMany (entries.map fun entry => (internalName entry.1, entry.2)) := by
  induction entries generalizing map with
  | nil => simp
  | cons entry entries ih => rw [List.foldl_cons, ih, List.map_cons, Std.ExtTreeMap.insertMany_cons]

theorem normalizeValidators_eq_ofList (validators : Validators) :
    normalizeValidators validators =
      .ofList (validators.toList.map fun entry => (internalName entry.1, entry.2)) := by
  rw [normalizeValidators, foldl_insert_internalName, Std.ExtTreeMap.ofList_eq_insertMany_empty]

theorem mem_normalizeValidators :
    key ∈ normalizeValidators validators ↔ ∃ name ∈ validators, internalName name = key := by
  rw [normalizeValidators_eq_ofList, Std.ExtTreeMap.mem_ofList]
  simp [← Std.ExtTreeMap.mem_keys, ← Std.ExtTreeMap.map_fst_toList_eq_keys]

theorem ofList_toList (validators : Validators) : .ofList validators.toList = validators := by
  refine Std.ExtTreeMap.ext_getElem? fun key => ?_
  cases h : validators[key]? with
  | none =>
    refine Std.ExtTreeMap.getElem?_eq_none fun hkey => ?_
    rw [Std.ExtTreeMap.mem_ofList, Std.ExtTreeMap.map_fst_toList_eq_keys, List.contains_iff_mem,
      Std.ExtTreeMap.mem_keys, Std.ExtTreeMap.mem_iff_isSome_getElem?, h] at hkey
    cases hkey
  | some shape =>
    exact Std.ExtTreeMap.getElem?_ofList_of_mem Std.ReflCmp.compare_self
      Std.ExtTreeMap.distinct_keys_toList (Std.ExtTreeMap.mem_toList_iff_getElem?_eq_some.mpr h)

theorem normalizeValidators_eq_self (internal : ∀ name ∈ validators, IsInternal name) :
    normalizeValidators validators = validators := by
  have unchanged : validators.toList.map (fun entry => (internalName entry.1, entry.2)) =
      validators.toList := by
    refine (List.map_congr_left fun entry hentry => ?_).trans (List.map_id _)
    have hname : entry.1 ∈ validators := by
      rw [← Std.ExtTreeMap.mem_keys, ← Std.ExtTreeMap.map_fst_toList_eq_keys]
      exact List.mem_map_of_mem hentry
    rw [internalName_eq_self_iff.mpr (internal entry.1 hname)]
    rfl
  rw [normalizeValidators_eq_ofList, unchanged, ofList_toList]

/-- Names of validators that stay as they are together stay as they are one by one: the longest of
those that are not in internal form would have come from a longer one. -/
theorem isInternal_of_normalizeValidators_eq_self
    (same : normalizeValidators validators = validators)
    (dotless : ∀ name ∈ validators, '.' ∉ name.toList) :
    ∀ name ∈ validators, IsInternal name := by
  classical
  by_contra other
  have some : (validators.keys.toFinset.filter (¬ IsInternal ·)).Nonempty := by
    simpa [Finset.filter_nonempty_iff] using other
  obtain ⟨longest, hlongest, atMost⟩ :=
    Finset.exists_max_image _ (fun name : String => name.toList.length) some
  simp only [Finset.mem_filter, List.mem_toFinset, Std.ExtTreeMap.mem_keys] at hlongest atMost
  obtain ⟨origin, horigin, rfl⟩ : ∃ name ∈ validators, internalName name = longest :=
    mem_normalizeValidators.mp (by rw [same]; exact hlongest.1)
  have changed : ¬ IsInternal origin := fun internal =>
    hlongest.2 (by rwa [internalName_eq_self_iff.mpr internal])
  exact absurd (length_internalName_lt (dotless origin horigin) changed)
    (Nat.not_lt.mpr (atMost origin ⟨horigin, changed⟩))

theorem normalizeValidators_normalizeValidators_iff :
    normalizeValidators (normalizeValidators validators) = normalizeValidators validators ↔
      ∀ name ∈ validators, ¬ HidesBlank name := by
  simp only [← isInternal_internalName_iff]
  constructor
  · intro same name hname
    refine isInternal_of_normalizeValidators_eq_self same ?_ _
      (mem_normalizeValidators.mpr ⟨name, hname, rfl⟩)
    intro key hkey
    obtain ⟨name, -, rfl⟩ := mem_normalizeValidators.mp hkey
    exact dotless_internalName name
  · intro internal
    refine normalizeValidators_eq_self fun key hkey => ?_
    obtain ⟨name, hname, rfl⟩ := mem_normalizeValidators.mp hkey
    exact internal name hname

end Validators

/-! ## Scopes -/

namespace Scope

variable {s : Scope}

theorem ext_packages {s t : Scope} : s = t ↔ ∀ subset, s.packages subset = t.packages subset := by
  constructor
  · rintro rfl subset
    rfl
  · intro h
    obtain ⟨_, _, _⟩ := s
    obtain ⟨_, _, _⟩ := t
    exact Scope.mk.injEq .. ▸ ⟨h .controllers, h .types, h .traversal⟩

theorem controllers_eq_nil_of_packages_normalize {subset : Subset}
    (h : s.normalize.packages subset = []) : s.controllers = [] := by
  have unselected : ∀ root, ¬ s.Prefix subset root := fun root hroot => by
    simpa [h] using mem_packages_normalize.mpr hroot
  have leftOut : s.packages subset = [] :=
    List.eq_nil_iff_forall_not_mem.mpr fun _ given => unselected _ (.listed given)
  exact List.eq_nil_iff_forall_not_mem.mpr fun _ controlled =>
    unselected _ (.derived leftOut controlled)

/-- A second pass rewrites the packages that the first one gave, the derived ones among them. -/
theorem packages_normalize_normalize (s : Scope) (subset : Subset) :
    s.normalize.normalize.packages subset = (s.normalize.packages subset).map internalName := by
  rw [packages_normalize]
  split
  · next empty =>
    rw [List.isEmpty_iff] at empty
    have none : s.normalize.controllers = [] := by
      rw [normalize, controllers_eq_nil_of_packages_normalize empty, List.map_nil]
    rw [none, empty]
    rfl
  · rfl

theorem normalize_idempotent_iff :
    s.normalize.normalize = s.normalize ↔
      (∀ subset, ∀ package ∈ s.packages subset, ¬ HidesBlank package) ∧
        ∀ subset, s.packages subset = [] → ∀ package ∈ s.controllers,
          IsInternal (rootPackage (internalName package)) := by
  have internal : s.normalize.normalize = s.normalize ↔
      ∀ subset root, s.Prefix subset root → IsInternal root := by
    simp only [ext_packages, packages_normalize_normalize, map_internalName_eq_self_iff,
      mem_packages_normalize]
  simp only [internal, ← isInternal_internalName_iff]
  constructor
  · intro h
    exact ⟨fun subset _ given => h subset _ (.listed given),
      fun subset leftOut _ controlled => h subset _ (.derived leftOut controlled)⟩
  · rintro ⟨listed, derived⟩ subset _ (given | ⟨leftOut, controlled⟩)
    · exact listed subset _ given
    · exact derived subset leftOut _ controlled

end Scope

/-! ## Markers -/

/-- The names among the markers. -/
def Markers.names (m : Markers) : List String :=
  m.validatorBase.toList ++ m.discriminatorEnum.toList ++ [m.jsonIgnore, m.functionalInterface] ++
    m.lambdaBases ++ m.validators.keys

theorem Markers.normalize_idempotent_iff {m : Markers} :
    m.normalize.normalize = m.normalize ↔ ∀ name ∈ m.names, ¬ HidesBlank name := by
  have optional (name? : Option String) :
      (name?.map internalName).map internalName = name?.map internalName ↔
        ∀ name ∈ name?, ¬ HidesBlank name := by
    cases name? <;> simp [internalName_internalName_iff]
  have list (names : List String) :
      (names.map internalName).map internalName = names.map internalName ↔
        ∀ name ∈ names, ¬ HidesBlank name := by
    simp [List.map_inj_left, internalName_internalName_iff]
  simp only [normalize, Markers.mk.injEq, normalizeValidators_normalizeValidators_iff,
    internalName_internalName_iff, optional, list]
  simp only [names, List.forall_mem_append, List.forall_mem_cons, Std.ExtTreeMap.mem_keys,
    Option.mem_toList, and_assoc]
  simp

/-! ## Settings -/

/-- The names in settings that normalizing brings into internal form. -/
def Settings.names (s : Settings) : List String :=
  s.scope.controllers ++ s.scope.types ++ s.scope.traversal ++ s.markers.names

/-- **Normalizing again changes nothing, unless a name hides a blank or a derived package is not in
internal form.** -/
theorem Settings.normalize_normalize_iff (s : Settings) :
    s.normalize.normalize = s.normalize ↔
      (∀ name ∈ s.names, ¬ HidesBlank name) ∧
        ∀ subset, s.scope.packages subset = [] → ∀ package ∈ s.scope.controllers,
          IsInternal (rootPackage (internalName package)) := by
  have parts : s.normalize.normalize = s.normalize ↔
      s.scope.normalize.normalize = s.scope.normalize ∧
        s.markers.normalize.normalize = s.markers.normalize := by
    simp [normalize]
  have packages : (∀ name ∈ s.scope.controllers ++ s.scope.types ++ s.scope.traversal,
      ¬ HidesBlank name) ↔ ∀ subset, ∀ package ∈ s.scope.packages subset, ¬ HidesBlank package := by
    simp only [List.forall_mem_append, and_assoc]
    constructor
    · rintro ⟨controllers, types, traversal⟩ (_ | _ | _)
      · exact controllers
      · exact types
      · exact traversal
    · exact fun h => ⟨h .controllers, h .types, h .traversal⟩
  rw [parts, Scope.normalize_idempotent_iff, Markers.normalize_idempotent_iff, names,
    List.forall_mem_append, packages, and_right_comm]

/-! ## Settings that a second pass changes -/

/-- Settings with one package of controllers. -/
def settingsOf (package : String) : Settings := { scope := { controllers := [package] } }

/-- A blank before the last dot is left at the end of a package, and a second pass drops it. A
package with an empty second segment has a root that ends with a slash, which a second pass drops as
well. -/
theorem Settings.normalize_normalize_ne :
    (settingsOf "com.acme.web .").normalize.scope =
        ⟨["com/acme/web "], ["com/acme"], ["com/acme"]⟩ ∧
      (settingsOf "com.acme.web .").normalize.normalize.scope =
        ⟨["com/acme/web"], ["com/acme"], ["com/acme"]⟩ ∧
      (settingsOf "com.acme.web .").normalize.normalize ≠
        (settingsOf "com.acme.web .").normalize ∧
      (settingsOf "com..web").normalize.scope = ⟨["com//web"], ["com/"], ["com/"]⟩ ∧
      (settingsOf "com..web").normalize.normalize.scope = ⟨["com//web"], ["com"], ["com"]⟩ ∧
      (settingsOf "com..web").normalize.normalize ≠ (settingsOf "com..web").normalize := by
  have once : (settingsOf "com.acme.web .").normalize.scope =
      ⟨["com/acme/web "], ["com/acme"], ["com/acme"]⟩ := by decide +kernel
  have twice : (settingsOf "com.acme.web .").normalize.normalize.scope =
      ⟨["com/acme/web"], ["com/acme"], ["com/acme"]⟩ := by decide +kernel
  have derivedOnce : (settingsOf "com..web").normalize.scope =
      ⟨["com//web"], ["com/"], ["com/"]⟩ := by decide +kernel
  have derivedTwice : (settingsOf "com..web").normalize.normalize.scope =
      ⟨["com//web"], ["com"], ["com"]⟩ := by decide +kernel
  refine ⟨once, twice, fun same => ?_, derivedOnce, derivedTwice, fun same => ?_⟩
  · rw [same, once] at twice
    exact absurd twice (by decide)
  · rw [same, derivedOnce] at derivedTwice
    exact absurd derivedTwice (by decide)

end ApiSurface
