import ApiSurface.OpenApi.Assembly
import ApiSurface.Proofs.Universe.Ascent
import ApiSurface.Validation.Shape
import Mathlib.Data.Finset.Card

/-!
# Look-ups along a chain of superclasses

The shape of a validator and the status of an exception are looked for on a type, then on its
superclass, and so on, for as many steps as there are classes. A chain that ends has no more types
than that, apart from a missing one that may end it; and a chain that comes back to a class has
shown all of its types by then. So no type of a chain is left out, in hierarchies with cycles as in
others.

Both look-ups are `askUp` with a test of their own.

Main definitions: `superAt?`, `FirstAlong`, `AllAlong`, `askUp`. Main statements:
`exists_superAt?_le_size`, `super_chains_exhausted`.
-/
namespace ApiSurface.Universe

variable {u : Universe} {start path parent : String}

/-! ## The chain -/

/-- The superclass of a type, if it is a class of the universe that could be decoded. -/
def superOf? (u : Universe) (path : String) : Option String :=
  (u.find? path).bind fun record => record.info.toOption.bind (·.superclass)

/-- The type so many steps up the chain of superclasses. A type that is not in the universe ends the
chain, and so does a class without a superclass; above a cycle there is no end. -/
def superAt? (u : Universe) : (start : String) → Nat → Option String
  | start, 0 => some start
  | start, n + 1 => (u.superOf? start).bind (u.superAt? · n)

/-- The first type of the chain that has something to tell tells this; the ones before it are
silent. -/
def FirstAlong (u : Universe) (start : String) (silent tells : String → Prop) : Prop :=
  ∃ n path, u.superAt? start n = some path ∧ tells path ∧
    ∀ k < n, ∀ other, u.superAt? start k = some other → silent other

/-- Every type of the chain has a property. -/
def AllAlong (u : Universe) (start : String) (p : String → Prop) : Prop :=
  ∀ n path, u.superAt? start n = some path → p path

theorem superOf?_of_info {record : ClassRecord} {c : Class} (found : u.find? path = some record)
    (info : record.info = .ok c) : u.superOf? path = c.superclass := by
  simp [superOf?, found, info, Except.toOption]

theorem superOf?_of_absent (absent : u.find? path = none) : u.superOf? path = none := by
  simp [superOf?, absent]

theorem superAt?_succ {n : Nat} : u.superAt? start (n + 1) = some path ↔
    ∃ parent, u.superOf? start = some parent ∧ u.superAt? parent n = some path := by
  rw [superAt?, Option.bind_eq_some_iff]

/-- The chain of a type goes on like that of any type on it. -/
theorem superAt?_add {m : Nat} (h : u.superAt? start m = some path) (i : Nat) :
    u.superAt? start (m + i) = u.superAt? path i := by
  induction m generalizing start with
  | zero =>
    obtain rfl := Option.some.inj h
    rw [Nat.zero_add]
  | succ m ih =>
    obtain ⟨parent, next, h⟩ := superAt?_succ.mp h
    rw [Nat.succ_add, superAt?, next, Option.bind_some, ih h]

/-- Before a type of the chain there are only classes of the universe. -/
theorem exists_superAt?_lt {n k : Nat} (h : u.superAt? start n = some path) (hk : k < n) :
    ∃ other ∈ u.paths, u.superAt? start k = some other := by
  induction k generalizing start n with
  | zero =>
    obtain ⟨n, rfl⟩ := Nat.exists_eq_add_of_lt hk
    obtain ⟨parent, next, -⟩ := superAt?_succ.mp h
    obtain ⟨record, found, -⟩ := Option.bind_eq_some_iff.mp next
    exact ⟨start, mem_paths.mpr ⟨record, found⟩, rfl⟩
  | succ k ih =>
    obtain ⟨n, rfl⟩ := Nat.exists_eq_add_of_lt hk
    obtain ⟨parent, next, h⟩ := superAt?_succ.mp h
    obtain ⟨other, hmem, hother⟩ := ih h (by omega)
    exact ⟨other, hmem, superAt?_succ.mpr ⟨parent, next, hother⟩⟩

/-- A chain with more steps than there are classes comes back to a class. -/
theorem exists_superAt?_eq {n : Nat} (h : u.superAt? start n = some path) (long : u.size < n) :
    ∃ i j other, i < j ∧ j < n ∧ u.superAt? start i = some other ∧
      u.superAt? start j = some other := by
  have few : (u.paths.map some).toFinset.card < (Finset.range n).card := by
    refine Nat.lt_of_le_of_lt (List.toFinset_card_le _) ?_
    simpa using long
  have inside : ∀ k ∈ Finset.range n, u.superAt? start k ∈ (u.paths.map some).toFinset := by
    intro k hk
    obtain ⟨other, hmem, hother⟩ := exists_superAt?_lt h (Finset.mem_range.mp hk)
    simpa [hother] using hmem
  obtain ⟨i, hi, j, hj, hne, heq⟩ := Finset.exists_ne_map_eq_of_card_lt_of_maps_to few inside
  rw [Finset.mem_range] at hi hj
  obtain ⟨other, -, hother⟩ := exists_superAt?_lt h hi
  rcases Nat.lt_or_gt_of_ne hne with hlt | hlt
  · exact ⟨i, j, other, hlt, hj, hother, heq ▸ hother⟩
  · exact ⟨j, i, other, hlt, hi, heq ▸ hother, hother⟩

/-- **Every type of a chain stands within as many steps as there are classes.** -/
theorem exists_superAt?_le_size {n : Nat} (h : u.superAt? start n = some path) :
    ∃ k ≤ u.size, u.superAt? start k = some path := by
  induction n using Nat.strongRecOn with
  | ind n ih =>
    rcases Nat.lt_or_ge u.size n with long | short
    · -- The way from the first visit of a class to the second can be left out.
      obtain ⟨i, j, other, hij, hj, first, again⟩ := exists_superAt?_eq h long
      obtain ⟨rest, rfl⟩ := Nat.exists_eq_add_of_le (Nat.le_of_lt hj)
      refine ih (i + rest) (by omega) ?_
      rw [superAt?_add first, ← superAt?_add again, h]
    · exact ⟨n, short, h⟩

/-! ## The first type that tells something -/

section

variable {silent tells tells' : String → Prop}

theorem FirstAlong.here (h : tells start) : u.FirstAlong start silent tells :=
  ⟨0, start, rfl, h, by simp⟩

/-- What is first on the chain above a silent type is first on the chain of the type. -/
theorem FirstAlong.up (quiet : silent start) (next : u.superOf? start = some parent)
    (h : u.FirstAlong parent silent tells) : u.FirstAlong start silent tells := by
  obtain ⟨n, path, hpath, htells, before⟩ := h
  refine ⟨n + 1, path, superAt?_succ.mpr ⟨parent, next, hpath⟩, htells, fun k hk other h => ?_⟩
  cases k with
  | zero =>
    obtain rfl := Option.some.inj h
    exact quiet
  | succ k =>
    obtain ⟨_, next', h⟩ := superAt?_succ.mp h
    obtain rfl := Option.some.inj (next.symm.trans next')
    exact before k (Nat.lt_of_succ_lt_succ hk) other h

/-- There is one first type: what it tells agrees with all else that is first, if a type that tells
something is not silent. -/
theorem FirstAlong.exists_both (h : u.FirstAlong start silent tells)
    (h' : u.FirstAlong start silent tells') (loud : ∀ path, tells path → ¬ silent path)
    (loud' : ∀ path, tells' path → ¬ silent path) : ∃ path, tells path ∧ tells' path := by
  obtain ⟨n, path, hpath, htells, before⟩ := h
  obtain ⟨n', path', hpath', htells', before'⟩ := h'
  rcases Nat.lt_trichotomy n n' with hlt | rfl | hlt
  · exact absurd (before' n hlt path hpath) (loud path htells)
  · obtain rfl := Option.some.inj (hpath.symm.trans hpath')
    exact ⟨path, htells, htells'⟩
  · exact absurd (before n' hlt path' hpath') (loud' path' htells')

end

/-! ## Going up a chain with a test -/

variable {α : Type} {test : String → Except Fault (Option α)} {outcome : Except Fault (Option α)}

/-- The first answer of a test on the way up a chain, within so many steps. -/
def askUp (u : Universe) (test : String → Except Fault (Option α)) :
    (budget : Nat) → (path : String) → Except Fault (Option α)
  | 0, path => test path
  | budget + 1, path => do
    match ← test path, u.superOf? path with
    | none, some parent => askUp u test budget parent
    | answer, _ => .ok answer

/-- The way up goes on from a type at which the test is silent. -/
theorem askUp_up {budget : Nat} (silent : test path = .ok none)
    (next : u.superOf? path = some parent) :
    u.askUp test (budget + 1) path = u.askUp test budget parent := by
  rw [askUp, silent, ok_bind, next]

/-- The way up ends with a type at which the test is not silent, or above which there is none. -/
theorem askUp_here {budget : Nat} (last : test path ≠ .ok none ∨ u.superOf? path = none) :
    u.askUp test budget path = test path := by
  cases budget with
  | zero => rfl
  | succ budget =>
    rw [askUp]
    match answer : test path, above : u.superOf? path with
    | .error _, _ => rfl
    | .ok (some _), _ => rfl
    | .ok none, none => rfl
    | .ok none, some _ => simp [answer, above] at last

/-- A way up without an answer has found the test silent within its steps. -/
theorem silent_of_askUp {budget k : Nat} (h : u.askUp test budget start = .ok none)
    (hk : k ≤ budget) (hpath : u.superAt? start k = some path) : test path = .ok none := by
  induction k generalizing start budget with
  | zero =>
    obtain rfl := Option.some.inj hpath
    by_contra loud
    exact loud (askUp_here (.inl loud) ▸ h)
  | succ k ih =>
    obtain ⟨budget, rfl⟩ := Nat.exists_eq_add_of_le' (Nat.lt_of_lt_of_le (Nat.succ_pos k) hk)
    obtain ⟨parent, next, hpath⟩ := superAt?_succ.mp hpath
    by_cases silent : test start = .ok none
    · exact ih (askUp_up silent next ▸ h) (Nat.le_of_succ_le_succ hk) hpath
    · exact absurd (askUp_here (.inl silent) ▸ h) silent

/-- An answer is that of the first type with one. -/
theorem firstAlong_askUp {budget : Nat} (loud : u.askUp test budget start ≠ .ok none) :
    u.FirstAlong start (test · = .ok none) (test · = u.askUp test budget start) := by
  induction budget generalizing start with
  | zero => exact .here rfl
  | succ budget ih =>
    by_cases last : test start ≠ .ok none ∨ u.superOf? start = none
    · exact .here (askUp_here last).symm
    · rw [not_or, not_not, ← ne_eq, Option.ne_none_iff_exists'] at last
      obtain ⟨silent, parent, next⟩ := last
      rw [askUp_up silent next] at loud ⊢
      exact .up silent next (ih loud)

variable {budget : Nat}

/-- With as many steps as there are classes, no answer means that no type of the chain has one. -/
theorem askUp_eq_none_iff (enough : u.size ≤ budget) :
    u.askUp test budget start = .ok none ↔ u.AllAlong start (test · = .ok none) := by
  constructor
  · intro h n path hpath
    obtain ⟨k, hk, hpath⟩ := exists_superAt?_le_size hpath
    exact silent_of_askUp h (Nat.le_trans hk enough) hpath
  · intro all
    by_contra loud
    obtain ⟨n, path, hpath, answer, -⟩ := firstAlong_askUp loud
    exact loud (answer.symm.trans (all n path hpath))

/-- With as many steps as there are classes, the answer is that of the first type with one. -/
theorem askUp_eq_iff (enough : u.size ≤ budget) (ne : outcome ≠ .ok none) :
    u.askUp test budget start = outcome ↔
      u.FirstAlong start (test · = .ok none) (test · = outcome) := by
  constructor
  · rintro rfl
    exact firstAlong_askUp ne
  · intro first
    have loud : u.askUp test budget start ≠ .ok none := by
      intro h
      obtain ⟨n, path, hpath, answer, -⟩ := first
      exact ne (answer.symm.trans ((askUp_eq_none_iff enough).mp h n path hpath))
    obtain ⟨path, answer, answer'⟩ := first.exists_both (firstAlong_askUp loud)
      (fun _ h h' => ne (h.symm.trans h')) (fun _ h h' => loud (h.symm.trans h'))
    exact answer'.symm.trans answer

theorem askUp_eq_some_iff (enough : u.size ≤ budget) {a : α} :
    u.askUp test budget start = .ok (some a) ↔
      u.FirstAlong start (test · = .ok none) (test · = .ok (some a)) :=
  askUp_eq_iff enough nofun

theorem askUp_eq_error_iff (enough : u.size ≤ budget) {fault : Fault} :
    u.askUp test budget start = .error fault ↔
      u.FirstAlong start (test · = .ok none) (test · = .error fault) :=
  askUp_eq_iff enough nofun

/-- More steps than there are classes change nothing. -/
theorem askUp_eq_askUp_size (enough : u.size ≤ budget) :
    u.askUp test budget start = u.askUp test u.size start := by
  by_cases silent : u.askUp test u.size start = .ok none
  · rw [silent, askUp_eq_none_iff enough]
    exact (askUp_eq_none_iff (Nat.le_refl _)).mp silent
  · exact (askUp_eq_iff enough silent).mpr (firstAlong_askUp silent)

/-! ## The two look-ups -/

/-- A shape is looked for by its table of names. -/
theorem shapeFrom_eq_askUp (decodes : u.Decodes) (validators : Validators) (budget : Nat)
    (path : String) : Validation.shapeFrom u validators budget path =
      u.askUp (fun path => .ok validators[path]?) budget path := by
  induction budget generalizing path with
  | zero =>
    rw [Validation.shapeFrom.eq_def, askUp]
    cases configured : validators[path]? <;> simp [configured]
  | succ budget ih =>
    rw [Validation.shapeFrom.eq_def]
    cases configured : validators[path]? with
    | some shape => simp [askUp, configured]
    | none =>
      cases found : u.find? path with
      | none => simp [askUp, configured, found, superOf?_of_absent found]
      | some record =>
        obtain ⟨c, info⟩ := decodes path record found
        cases next : c.superclass with
        | none => simp [askUp, configured, found, superOf?_of_info found info, info, next]
        | some parent =>
          simp [askUp, configured, found, superOf?_of_info found info, info, next, ih]

/-- What the annotations of a class say about a status; a type that is not in the universe says
nothing. -/
def annotatedStatus (u : Universe) (path : String) : Except Fault (Option Status) :=
  match u.find? path with
  | none => .ok none
  | some record => do
    let c ← record.info
    responseStatus c.annotations record.path

theorem annotatedStatus_of_absent (absent : u.find? path = none) :
    u.annotatedStatus path = .ok none := by
  rw [annotatedStatus, absent]

theorem annotatedStatus_of_info {record : ClassRecord} {c : Class}
    (found : u.find? path = some record) (info : record.info = .ok c) :
    u.annotatedStatus path = responseStatus c.annotations path := by
  rw [annotatedStatus, found]
  simp only [info, ok_bind, path_of_find? found]

/-- A status is looked for in the annotations. -/
theorem statusFrom_eq_askUp (decodes : u.Decodes) (budget : Nat) {record : ClassRecord}
    (found : u.find? path = some record) :
    OpenApi.statusFrom u budget record = u.askUp u.annotatedStatus budget path := by
  induction budget generalizing path record with
  | zero =>
    obtain ⟨c, info⟩ := decodes path record found
    rw [OpenApi.statusFrom.eq_def, askUp, annotatedStatus_of_info found info]
    simp only [info, ok_bind, path_of_find? found]
    cases responseStatus c.annotations path with
    | error fault => rfl
    | ok status => cases status <;> rfl
  | succ budget ih =>
    obtain ⟨c, info⟩ := decodes path record found
    rw [OpenApi.statusFrom.eq_def, askUp, annotatedStatus_of_info found info,
      superOf?_of_info found info]
    simp only [info, ok_bind, path_of_find? found]
    cases responseStatus c.annotations path with
    | error fault => rfl
    | ok status =>
      cases status with
      | some status => rfl
      | none =>
        cases next : c.superclass with
        | none => rfl
        | some parent =>
          cases above : u.find? parent with
          | some record => simp [above, ih above]
          | none =>
            have last : u.askUp u.annotatedStatus budget parent = u.annotatedStatus parent :=
              askUp_here (.inr (superOf?_of_absent above))
            simp [above, last, annotatedStatus_of_absent above]

/-- The annotations of a class of the universe come to an outcome when a status is read off them. -/
def Annotates (u : Universe) (path : String) (outcome : Except Fault (Option Status)) : Prop :=
  ∃ record c, u.find? path = some record ∧ record.info = .ok c ∧
    responseStatus c.annotations path = outcome

/-- The type is not in the universe, or its annotations yield no status. -/
def Unannotated (u : Universe) (path : String) : Prop :=
  ∀ outcome, u.Annotates path outcome → outcome = .ok none

theorem annotates_iff {record : ClassRecord} {c : Class} {outcome : Except Fault (Option Status)}
    (found : u.find? path = some record) (info : record.info = .ok c) :
    u.Annotates path outcome ↔ u.annotatedStatus path = outcome := by
  rw [annotatedStatus_of_info found info]
  constructor
  · rintro ⟨record', c', found', info', h⟩
    obtain rfl := Option.some.inj (found.symm.trans found')
    obtain rfl := Except.ok.inj (info.symm.trans info')
    exact h
  · intro h
    exact ⟨record, c, found, info, h⟩

theorem annotatedStatus_eq_iff (decodes : u.Decodes) {outcome : Except Fault (Option Status)}
    (ne : outcome ≠ .ok none) : u.annotatedStatus path = outcome ↔ u.Annotates path outcome := by
  cases found : u.find? path with
  | none => simp [annotatedStatus, Annotates, found, ne.symm]
  | some record =>
    obtain ⟨c, info⟩ := decodes path record found
    exact (annotates_iff found info).symm

theorem annotatedStatus_eq_none_iff (decodes : u.Decodes) :
    u.annotatedStatus path = .ok none ↔ u.Unannotated path := by
  cases found : u.find? path with
  | none => simp [annotatedStatus, Unannotated, Annotates, found]
  | some record =>
    obtain ⟨c, info⟩ := decodes path record found
    simp [Unannotated, annotates_iff found info]

theorem exceptionStatus_eq_askUp (decodes : u.Decodes) (type : String) :
    OpenApi.exceptionStatus u type = u.askUp u.annotatedStatus u.size type := by
  rw [OpenApi.exceptionStatus]
  cases found : u.find? type with
  | none => rw [askUp_here (.inr (superOf?_of_absent found)), annotatedStatus_of_absent found]
  | some record => exact statusFrom_eq_askUp decodes u.size found

/-- The shape of a validator is that of the first type on its chain that has one. -/
structure HasChainShape (u : Universe) (markers : Markers) (validator location : String) :
    Prop where
  found_iff : ∀ shape, Validation.shapeOf u markers validator location = .ok shape ↔
    u.FirstAlong validator (markers.validators[·]? = none) (markers.validators[·]? = some shape)
  /-- The look-up fails if no type has a shape. -/
  missing_iff : Validation.shapeOf u markers validator location =
      .error (.unrecognized (.shapeMissing validator) location) ↔
    u.AllAlong validator (markers.validators[·]? = none)
  /-- It does not fail otherwise. -/
  fault_eq : ∀ fault, Validation.shapeOf u markers validator location = .error fault →
    fault = .unrecognized (.shapeMissing validator) location
  /-- More steps up would change nothing. -/
  unbounded : ∀ budget, u.size ≤ budget →
    Validation.shapeFrom u markers.validators budget validator =
      Validation.shapeFrom u markers.validators u.size validator

/-- The status of an exception is that of the first class on its chain whose annotations yield
one. -/
structure HasChainStatus (u : Universe) (type : String) : Prop where
  found_iff : ∀ status, OpenApi.exceptionStatus u type = .ok (some status) ↔
    u.FirstAlong type u.Unannotated (u.Annotates · (.ok (some status)))
  none_iff : OpenApi.exceptionStatus u type = .ok none ↔ u.AllAlong type u.Unannotated
  /-- The look-up fails if the annotations of a class do before a status is found. -/
  fault_iff : ∀ fault, OpenApi.exceptionStatus u type = .error fault ↔
    u.FirstAlong type u.Unannotated (u.Annotates · (.error fault))
  /-- More steps up would change nothing. -/
  unbounded : ∀ record budget, u.find? type = some record → u.size ≤ budget →
    OpenApi.statusFrom u budget record = OpenApi.exceptionStatus u type

theorem hasChainShape (decodes : u.Decodes) (markers : Markers) (validator location : String) :
    u.HasChainShape markers validator location := by
  have answer (budget : Nat) := shapeFrom_eq_askUp decodes markers.validators budget validator
  have enough := Nat.le_refl u.size
  have found (shape : ValidatorShape) :
      Validation.shapeFrom u markers.validators u.size validator = .ok (some shape) ↔
        u.FirstAlong validator (markers.validators[·]? = none)
          (markers.validators[·]? = some shape) := by
    simp only [answer, askUp_eq_some_iff enough, Except.ok.injEq]
  have missing : Validation.shapeFrom u markers.validators u.size validator = .ok none ↔
      u.AllAlong validator (markers.validators[·]? = none) := by
    simp only [answer, askUp_eq_none_iff enough, Except.ok.injEq]
  have harmless (fault : Fault) :
      Validation.shapeFrom u markers.validators u.size validator ≠ .error fault := by
    intro h
    rw [answer, askUp_eq_error_iff enough] at h
    obtain ⟨_, _, _, ⟨⟩, _⟩ := h
  constructor
  case unbounded =>
    intro budget enough
    rw [answer, answer, askUp_eq_askUp_size enough]
  all_goals unfold Validation.shapeOf
  case found_iff =>
    intro shape
    rw [← found]
    match h : Validation.shapeFrom u markers.validators u.size validator with
    | .error _ => simp
    | .ok none => simp
    | .ok (some _) => simp
  case missing_iff =>
    rw [← missing]
    match h : Validation.shapeFrom u markers.validators u.size validator with
    | .error fault => exact absurd h (harmless fault)
    | .ok none => simp
    | .ok (some _) => simp
  case fault_eq =>
    intro fault
    match h : Validation.shapeFrom u markers.validators u.size validator with
    | .error fault => exact absurd h (harmless fault)
    | .ok none => simp [eq_comm]
    | .ok (some _) => simp

theorem hasChainStatus (decodes : u.Decodes) (type : String) : u.HasChainStatus type := by
  have enough := Nat.le_refl u.size
  have answer := exceptionStatus_eq_askUp decodes type
  have silent (path : String) : u.annotatedStatus path = .ok none ↔ u.Unannotated path :=
    annotatedStatus_eq_none_iff decodes
  have tells (outcome : Except Fault (Option Status)) (ne : outcome ≠ .ok none) (path : String) :
      u.annotatedStatus path = outcome ↔ u.Annotates path outcome :=
    annotatedStatus_eq_iff decodes ne
  constructor
  case found_iff =>
    intro status
    rw [answer, askUp_eq_some_iff enough]
    simp only [silent, tells (.ok (some status)) nofun]
  case none_iff =>
    rw [answer, askUp_eq_none_iff enough]
    simp only [silent]
  case fault_iff =>
    intro fault
    rw [answer, askUp_eq_error_iff enough]
    simp only [silent, tells (.error fault) nofun]
  case unbounded =>
    intro record budget found enough
    rw [statusFrom_eq_askUp decodes budget found, askUp_eq_askUp_size enough, answer]

/-- **No chain of superclasses is cut short.** In a universe whose classes could be decoded, with
cycles or without, the shape of a validator is that of the first type on its chain that has one, a
missing type at the end included, and the status of an exception is that of the first class on its
chain whose annotations yield one. There is none exactly if there is none on the whole chain. -/
theorem super_chains_exhausted (decodes : u.Decodes) (markers : Markers) :
    (∀ validator location, u.HasChainShape markers validator location) ∧
      ∀ type, u.HasChainStatus type :=
  ⟨hasChainShape decodes markers, hasChainStatus decodes⟩

/-! ## A chain that leaves its universe, and one that comes back -/

/-- Two validators below a type that is missing. -/
def rangeRecords : List ClassRecord :=
  [.ofClass { name := "p/Age", superclass := some "p/Range" },
    .ofClass { name := "p/Range", superclass := some "q/Between" }]

/-- The annotation of a status by its name. -/
def strayMark (name : String) : Annotation :=
  ⟨responseStatusType, [("value", .enumConstant statusEnum name)]⟩

/-- An exception whose annotation names no status. -/
def oddStray : Class :=
  { name := "p/Odd", superclass := some "p/Lost", annotations := [strayMark "ODD"] }

/-- Two exceptions that are each other's superclass, and the odd one below them. -/
def strayRecords : List ClassRecord :=
  [.ofClass { name := "p/Lost", superclass := some "p/Strayed" }, .ofClass oddStray,
    .ofClass
      { name := "p/Strayed", superclass := some "p/Lost", annotations := [strayMark "NOT_FOUND"] }]

/-- The universe of the validators. -/
def ranges : Universe := (ofRecords rangeRecords {}).toOption.get (by decide +kernel)

/-- The universe of the exceptions. -/
def strays : Universe := (ofRecords strayRecords {}).toOption.get (by decide +kernel)

/-- The missing type has a shape. -/
def rangeMarkers : Markers := { validators := ({} : Validators).insert "q/Between" .between }

theorem ranges_decodes : ranges.Decodes := by
  have h : ofRecords rangeRecords {} = .ok ranges := toOption_eq_some.mp (Option.some_get _).symm
  apply decodes_ofRecords h
  simp [rangeRecords, ClassRecord.ofClass, ClassRecord.info, Fault.ofDecoding]

theorem strays_decodes : strays.Decodes := by
  have h : ofRecords strayRecords {} = .ok strays := toOption_eq_some.mp (Option.some_get _).symm
  apply decodes_ofRecords h
  simp [strayRecords, ClassRecord.ofClass, ClassRecord.info, Fault.ofDecoding]

theorem oddStray_annotates :
    strays.Annotates "p/Odd" (.error (.unrecognized (.statusName "ODD") "p/Odd")) := by
  refine ⟨.ofClass oddStray, oddStray, by rfl, rfl, ?_⟩
  have unknown : Status.ofName? "ODD" = none := by decide +kernel
  simp [responseStatus, oddStray, strayMark, Annotation.value?, unknown]

/-- In a universe of two classes the third type of a chain is looked at, and on a cycle the class
that comes last. A fault on the way hides the status above it. -/
theorem super_chains_exhausted_samples :
    (ranges.Decodes ∧ ranges.size = 2 ∧
      Validation.shapeOf ranges rangeMarkers "p/Age" "p/Main" = .ok .between ∧
      ranges.FirstAlong "p/Age" (rangeMarkers.validators[·]? = none)
        (rangeMarkers.validators[·]? = some .between)) ∧
    strays.Decodes ∧
    (OpenApi.exceptionStatus strays "p/Lost" = .ok (some ⟨404, "NOT_FOUND"⟩) ∧
      strays.FirstAlong "p/Lost" strays.Unannotated
        (strays.Annotates · (.ok (some ⟨404, "NOT_FOUND"⟩)))) ∧
    OpenApi.exceptionStatus strays "p/Odd" =
      .error (.unrecognized (.statusName "ODD") "p/Odd") ∧
    Validation.shapeOf strays rangeMarkers "p/Lost" "p/Main" =
      .error (.unrecognized (.shapeMissing "p/Lost") "p/Main") ∧
    strays.AllAlong "p/Lost" (rangeMarkers.validators[·]? = none) := by
  have left := (super_chains_exhausted ranges_decodes rangeMarkers).1 "p/Age" "p/Main"
  obtain ⟨shapes, statuses⟩ := super_chains_exhausted strays_decodes rangeMarkers
  have shape : Validation.shapeOf ranges rangeMarkers "p/Age" "p/Main" = .ok .between :=
    toOption_eq_some.mp (by decide +kernel)
  have found : OpenApi.exceptionStatus strays "p/Lost" = .ok (some ⟨404, "NOT_FOUND"⟩) :=
    toOption_eq_some.mp (by decide +kernel)
  have missing : Validation.shapeOf strays rangeMarkers "p/Lost" "p/Main" =
      .error (.unrecognized (.shapeMissing "p/Lost") "p/Main") := by rfl
  exact ⟨⟨ranges_decodes, by rfl, shape, (left.found_iff _).mp shape⟩, strays_decodes,
    ⟨found, ((statuses "p/Lost").found_iff _).mp found⟩,
    ((statuses "p/Odd").fault_iff _).mpr (.here oddStray_annotates), missing,
    (shapes "p/Lost" "p/Main").missing_iff.mp missing⟩

end ApiSurface.Universe
