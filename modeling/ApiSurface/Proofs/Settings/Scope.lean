import ApiSurface.Proofs.Text.Segments
import ApiSurface.Proofs.Universe.Loading

/-!
# Scopes of settings

A subset of a universe holds the classes whose names begin with one of the subset's prefixes and a
slash. Where settings name no prefixes for types or for traversal, these are the first two segments
of the controllers' packages. However a package is written, a class in it is also below its first
two segments, so the controllers are among the types and among the followed classes.

Main definitions: `Scope.Prefix`, `Settings.Selects`. Main statements: `isInPackage_rootPackage`,
`Scope.mem_packages_normalize`, `Universe.contains_ofRecords`, `scope_selects`.
-/
namespace ApiSurface

/-! ## Packages -/

theorem isInPackage_iff {path package : String} :
    isInPackage path package = true ↔ ∃ rest, path = package ++ "/" ++ rest := by
  rw [isInPackage, List.isPrefixOf_iff_prefix]
  constructor
  · rintro ⟨rest, h⟩
    exact ⟨String.ofList rest, String.toList_inj.mp (by simp [← h])⟩
  · rintro ⟨rest, rfl⟩
    exact ⟨rest.toList, by rw [String.toList_append, String.toList_append]; rfl⟩

/-- The root of a package is the package or all of it up to one of its slashes. -/
theorem eq_rootPackage_or_isInPackage (package : String) :
    package = rootPackage package ∨ isInPackage package (rootPackage package) = true := by
  have h := Text.joinSegments_take '/' (Nat.succ_ne_zero 1) (Text.segments '/' package.toList)
  rw [Text.joinSegments_segments] at h
  rcases h with h | ⟨rest, h⟩
  · exact .inl (String.toList_inj.mp (by rw [rootPackage, String.toList_ofList]; exact h))
  · refine .inr ?_
    rw [isInPackage, List.isPrefixOf_iff_prefix, rootPackage, String.toList_ofList]
    exact ⟨rest, by rw [List.append_assoc, List.singleton_append, ← h]⟩

theorem isInPackage_trans {path package outer : String} (h : isInPackage path package = true)
    (within : isInPackage package outer = true) : isInPackage path outer = true := by
  obtain ⟨rest, rfl⟩ := isInPackage_iff.mp h
  obtain ⟨inner, rfl⟩ := isInPackage_iff.mp within
  exact isInPackage_iff.mpr ⟨inner ++ "/" ++ rest, by simp only [String.append_assoc]⟩

/-- **A class in a package is in the root of the package.** -/
theorem isInPackage_rootPackage {path package : String} (h : isInPackage path package = true) :
    isInPackage path (rootPackage package) = true := by
  rcases eq_rootPackage_or_isInPackage package with same | within
  · rw [← same]
    exact h
  · exact isInPackage_trans h within

@[simp] theorem mem_insertAscending {name other : String} {names : List String} :
    other ∈ insertAscending name names ↔ other = name ∨ other ∈ names := by
  induction names with
  | nil => simp [insertAscending]
  | cons first rest ih =>
    unfold insertAscending
    split
    · simp_all
    · split
      · simp
      · simp [ih, or_left_comm]

theorem mem_rootPackages {root : String} {packages : List String} :
    root ∈ rootPackages packages ↔ ∃ package ∈ packages, rootPackage package = root := by
  unfold rootPackages
  induction packages with
  | nil => simp
  | cons first rest ih => simp [ih, eq_comm]

/-! ## Prefixes of a scope -/

namespace Scope

variable {s : Scope} {subset : Subset} {root package : String}

/-- The prefixes that a scope stands for, as it is written: the packages that are given for a
subset in internal form and, for a subset without any, the roots of the controllers' packages. -/
inductive Prefix (s : Scope) (subset : Subset) : String → Prop
  | listed {package : String} (given : package ∈ s.packages subset) :
    Prefix s subset (internalName package)
  | derived {package : String} (leftOut : s.packages subset = [])
    (controlled : package ∈ s.controllers) : Prefix s subset (rootPackage (internalName package))

theorem packages_normalize (s : Scope) (subset : Subset) :
    s.normalize.packages subset =
      if (s.packages subset).isEmpty then rootPackages (s.controllers.map internalName)
      else (s.packages subset).map internalName := by
  cases subset with
  | controllers =>
    -- Without controllers there are no roots either.
    obtain ⟨_ | ⟨_, _⟩, _, _⟩ := s <;> rfl
  | types => rfl
  | traversal => rfl

theorem mem_packages_normalize : root ∈ s.normalize.packages subset ↔ s.Prefix subset root := by
  rw [packages_normalize]
  by_cases leftOut : s.packages subset = []
  · rw [if_pos (List.isEmpty_iff.mpr leftOut), mem_rootPackages]
    constructor
    · rintro ⟨named, h, rfl⟩
      obtain ⟨package, controlled, rfl⟩ := List.mem_map.mp h
      exact .derived leftOut controlled
    · rintro (given | ⟨-, controlled⟩)
      · simp [leftOut] at given
      · exact ⟨_, List.mem_map_of_mem controlled, rfl⟩
  · rw [if_neg fun h => leftOut (List.isEmpty_iff.mp h), List.mem_map]
    constructor
    · rintro ⟨package, given, rfl⟩
      exact .listed given
    · rintro (given | ⟨empty, -⟩)
      · exact ⟨_, given, rfl⟩
      · exact absurd empty leftOut

/-- A subset that is left out has every class that lies in a package of the controllers. -/
theorem exists_prefix_of_controllers {path : String} (leftOut : s.packages subset = [])
    (h : ∃ package ∈ s.normalize.packages .controllers, isInPackage path package = true) :
    ∃ package ∈ s.normalize.packages subset, isInPackage path package = true := by
  obtain ⟨package, hpackage, hpath⟩ := h
  cases mem_packages_normalize.mp hpackage with
  | listed controlled =>
    exact ⟨_, mem_packages_normalize.mpr (.derived leftOut controlled),
      isInPackage_rootPackage hpath⟩
  | derived empty controlled => simp [show s.controllers = [] from empty] at controlled

end Scope

/-! ## Subsets of a universe -/

namespace Universe

variable {u : Universe} {records : List ClassRecord} {scope : Scope} {subset other : Subset}
  {path : String}

/-- A subset of a universe has the loaded classes in the packages of the subset. -/
theorem contains_ofRecords (h : ofRecords records scope = .ok u) :
    u.contains subset path = true ↔
      (∃ r ∈ records, r.path = path) ∧
        ∃ package ∈ scope.packages subset, isInPackage path package = true := by
  rw [contains, Bool.and_eq_true, List.any_eq_true, (ofRecords_eq_ok.mp h).2,
    Std.ExtTreeMap.contains_iff_mem, ← Std.ExtTreeMap.mem_keys]
  have loaded : path ∈ u.paths ↔ ∃ r ∈ records, r.path = path := by
    simp only [mem_paths, find?_ofRecords h]
  exact and_congr_left' loaded

/-- A subset with more classes has them in the same order. -/
theorem recordsIn_sublist
    (h : ∀ path, u.contains subset path = true → u.contains other path = true) :
    (u.recordsIn subset).Sublist (u.recordsIn other) :=
  (List.monotone_filter_right _ fun entry hentry => h entry.1 hentry).map _

end Universe

/-- What the scope of settings selects from the classes of a universe. -/
structure Settings.Selects (s : Settings) (records : List ClassRecord) (u : Universe) : Prop where
  /-- A subset has the classes whose names go on behind one of its prefixes with a slash. -/
  selected : ∀ subset path, u.contains subset path = true ↔
    (∃ r ∈ records, r.path = path) ∧
      ∃ package ∈ s.normalize.scope.packages subset, ∃ rest, path = package ++ "/" ++ rest
  /-- The prefixes are the given packages or, where none are given, the controllers' roots. -/
  prefixes : ∀ subset package,
    package ∈ s.normalize.scope.packages subset ↔ s.scope.Prefix subset package
  /-- A subset without given packages has all controllers. -/
  covers : ∀ subset, s.scope.packages subset = [] → ∀ path,
    u.contains .controllers path = true → u.contains subset path = true
  /-- The controllers are among its classes in their order. -/
  inOrder : ∀ subset, s.scope.packages subset = [] →
    (u.recordsIn .controllers).Sublist (u.recordsIn subset)

/-- **Derived scopes cover the controllers.** Classes with distinct names load with the normalized
scope of any settings. A class is then in a subset exactly if its name begins with a prefix of the
subset and a slash, and a subset whose packages were left out has every controller. -/
theorem scope_selects (s : Settings) {records : List ClassRecord}
    (distinct : (records.map (·.path)).Nodup) :
    ∃ u, Universe.ofRecords records s.normalize.scope = .ok u ∧ s.Selects records u := by
  obtain ⟨u, hu⟩ := (Universe.exists_ofRecords_iff s.normalize.scope).mpr distinct
  have covers : ∀ subset, s.scope.packages subset = [] → ∀ path,
      u.contains .controllers path = true → u.contains subset path = true := by
    intro subset leftOut path controlled
    obtain ⟨loaded, inside⟩ := (Universe.contains_ofRecords hu).mp controlled
    exact (Universe.contains_ofRecords hu).mpr
      ⟨loaded, Scope.exists_prefix_of_controllers leftOut inside⟩
  refine ⟨u, hu, ?_, fun _ _ => Scope.mem_packages_normalize, covers, ?_⟩
  · intro subset path
    simp only [Universe.contains_ofRecords hu, isInPackage_iff]
  · exact fun subset leftOut => Universe.recordsIn_sublist (covers subset leftOut)

/-! ## Packages in odd forms -/

/-- Controllers in packages with an empty segment, with blanks and a dot around it, with a single
segment and with a slash at its end. The packages of the types are left out. -/
def shopScope : Scope :=
  { controllers := ["com..web", " org.acme.shop. ", "lone", "net/acme/"]
    traversal := ["org.acme.shop.cart"] }

/-- Classes in these packages, beside them, and in packages whose names only begin alike. -/
def shopRecords : List ClassRecord :=
  ["com//web/A", "com//B", "com/C", "org/acme/shop/D", "org/acme/E", "org/acmes/F", "lone/G",
    "lonely/H", "net/acme/I", "org/acme/shop/cart/J"].map fun name => .ofClass { name }

/-- Every controller of the sample is among its types, also below the empty segment; classes in
`com` itself, which is not the root `com/`, are not. The subset that is given keeps to its
package. -/
theorem scope_selects_shop :
    (shopRecords.map (·.path)).Nodup ∧
      ∃ u, Universe.ofRecords shopRecords shopScope.normalize = .ok u ∧
        ({ scope := shopScope } : Settings).Selects shopRecords u ∧
        (u.recordsIn .controllers).map (·.path) =
          ["com//web/A", "lone/G", "net/acme/I", "org/acme/shop/D", "org/acme/shop/cart/J"] ∧
        (u.recordsIn .types).map (·.path) =
          ["com//B", "com//web/A", "lone/G", "net/acme/I", "org/acme/E", "org/acme/shop/D",
            "org/acme/shop/cart/J"] ∧
        (u.recordsIn .traversal).map (·.path) = ["org/acme/shop/cart/J"] := by
  have distinct : (shopRecords.map (·.path)).Nodup := by decide
  obtain ⟨u, hu, selects⟩ := scope_selects { scope := shopScope } distinct
  have listed : (Universe.ofRecords shopRecords shopScope.normalize).toOption.map
      (fun u => [Subset.controllers, .types, .traversal].map
        fun subset => (u.recordsIn subset).map (·.path)) =
      some [["com//web/A", "lone/G", "net/acme/I", "org/acme/shop/D", "org/acme/shop/cart/J"],
        ["com//B", "com//web/A", "lone/G", "net/acme/I", "org/acme/E", "org/acme/shop/D",
          "org/acme/shop/cart/J"],
        ["org/acme/shop/cart/J"]] := by
    decide +kernel
  rw [show Universe.ofRecords shopRecords shopScope.normalize = .ok u from hu] at listed
  simp only [Except.toOption, Option.map_some, List.map_cons, List.map_nil, Option.some.injEq,
    List.cons.injEq, and_true] at listed
  obtain ⟨controllers, types, traversal⟩ := listed
  exact ⟨distinct, u, hu, selects, controllers, types, traversal⟩

end ApiSurface
