import ApiSurface.Proofs.Universe.Ascent

/-!
# The look-up of a method up the superclasses

A method is looked for on a class, then on its superclass, and so on while the superclass is
followed. `LooksUp` is this look-up without a budget. It looks at no class twice, so it ends by
itself, in one of three ways: with the first method on the way up, with nothing where the way up
ends, or with a fault where the way up comes back to a class. `SuperAt` is the chain of classes on
the way up, whatever they declare.

Main definitions: `LooksUp`, `FirstUp`, `SuperAt`, `Revisits`. Main statements: `looksUp_iff`,
`firstUp_of_resolveMethod`, `resolveMethod_nearest`.
-/
namespace ApiSurface

variable {name : String} {descriptor : Option String} {m : Method}

/-! ## Methods by name and descriptor -/

/-- The method has the name, and the descriptor if one is given. -/
def Method.Answers (m : Method) (name : String) (descriptor : Option String) : Prop :=
  m.name = name ∧ ∀ d, descriptor = some d → m.descriptor = d

theorem Method.answers_iff :
    m.Answers name descriptor ↔ (m.name = name && descriptor.all (· = m.descriptor)) = true := by
  cases descriptor with
  | none => simp [Answers]
  | some d => simp [Answers, eq_comm (a := d)]

/-- The first method of the class, in table order, that has the name and the descriptor. -/
def Class.FirstAnswer (c : Class) (name : String) (descriptor : Option String) (m : Method) :
    Prop :=
  ∃ before after, c.methods = before ++ m :: after ∧ m.Answers name descriptor ∧
    ∀ n ∈ before, ¬ n.Answers name descriptor

theorem Class.method?_eq_some {c : Class} :
    c.method? name descriptor = some m ↔ c.FirstAnswer name descriptor m := by
  simp only [method?, FirstAnswer, Method.answers_iff, List.find?_eq_some_iff_append,
    Bool.not_eq_true', Bool.not_eq_true]
  constructor
  · rintro ⟨answers, before, after, methods, first⟩
    exact ⟨before, after, methods, answers, first⟩
  · rintro ⟨before, after, methods, answers, first⟩
    exact ⟨answers, before, after, methods, first⟩

theorem Class.method?_eq_none {c : Class} :
    c.method? name descriptor = none ↔ ∀ m ∈ c.methods, ¬ m.Answers name descriptor := by
  simp only [method?, List.find?_eq_none, Method.answers_iff]

theorem Class.FirstAnswer.unique {c : Class} {m' : Method} (h : c.FirstAnswer name descriptor m)
    (h' : c.FirstAnswer name descriptor m') : m = m' :=
  Option.some.inj ((method?_eq_some.mpr h).symm.trans (method?_eq_some.mpr h'))

namespace Universe

variable {u : Universe}

/-! ## The look-up without a budget -/

/-- Looking for a method from a class up, when the classes of `seen` have been looked at, ends with
this outcome. -/
inductive LooksUp (u : Universe) (name : String) (descriptor : Option String) :
    List String → ClassRecord → Except Fault (Option (ClassRecord × Method)) → Prop
  /-- The class has been looked at. -/
  | again {seen : List String} {record : ClassRecord} (mem : record.path ∈ seen) :
      LooksUp u name descriptor seen record
        (.error (.hierarchyCycle record.path (u.paths.filter (· ∈ seen))))
  /-- The class could not be decoded. -/
  | undecoded {seen : List String} {record : ClassRecord} {fault : Fault}
      (fresh : record.path ∉ seen) (info : record.info = .error fault) :
      LooksUp u name descriptor seen record (.error fault)
  /-- The class declares the method. -/
  | here {seen : List String} {record : ClassRecord} {c : Class} {m : Method}
      (fresh : record.path ∉ seen) (info : record.info = .ok c)
      (declares : c.method? name descriptor = some m) :
      LooksUp u name descriptor seen record (.ok (some (record, m)))
  /-- The class does not, and its superclass is followed. -/
  | up {seen : List String} {record parent : ClassRecord} {c : Class}
      {outcome : Except Fault (Option (ClassRecord × Method))} (fresh : record.path ∉ seen)
      (info : record.info = .ok c) (absent : c.method? name descriptor = none)
      (next : u.followedSuper? c = some parent)
      (rest : LooksUp u name descriptor (record.path :: seen) parent outcome) :
      LooksUp u name descriptor seen record outcome
  /-- The class does not, and the way up ends with it. -/
  | top {seen : List String} {record : ClassRecord} {c : Class} (fresh : record.path ∉ seen)
      (info : record.info = .ok c) (absent : c.method? name descriptor = none)
      (last : u.followedSuper? c = none) : LooksUp u name descriptor seen record (.ok none)

/-- A look-up has one outcome. -/
theorem LooksUp.unique {seen : List String} {record : ClassRecord}
    {outcome outcome' : Except Fault (Option (ClassRecord × Method))}
    (run : LooksUp u name descriptor seen record outcome)
    (run' : LooksUp u name descriptor seen record outcome') : outcome = outcome' := by
  induction run generalizing outcome' <;> cases run' <;> grind

theorem resolveFrom_again {budget : Nat} {seen : List String} {record : ClassRecord}
    (mem : record.path ∈ seen) :
    u.resolveFrom name descriptor budget seen record =
      .error (.hierarchyCycle record.path (u.paths.filter (· ∈ seen))) := by
  unfold resolveFrom
  simp [mem]

theorem resolveFrom_succ {budget : Nat} {seen : List String} {record : ClassRecord}
    (fresh : record.path ∉ seen) :
    u.resolveFrom name descriptor (budget + 1) seen record = record.info >>= fun c =>
      match c.method? name descriptor with
      | some m => .ok (some (record, m))
      | none => match u.followedSuper? c with
        | none => .ok none
        | some parent => u.resolveFrom name descriptor budget (record.path :: seen) parent := by
  rw [resolveFrom]
  exact if_neg fresh

/-- **A look-up is not ended by its budget** if the classes that have not been looked at do not
outnumber it. -/
theorem looksUp_resolveFrom {budget : Nat} {seen : List String} {record : ClassRecord}
    (distinct : seen.Nodup) (classes : seen ⊆ u.paths)
    (enough : u.size < budget + seen.length) (there : u.find? record.path = some record) :
    LooksUp u name descriptor seen record
      (u.resolveFrom name descriptor budget seen record) := by
  induction budget generalizing seen record with
  | zero =>
    by_cases mem : record.path ∈ seen
    · rw [resolveFrom_again mem]
      exact .again mem
    · have hlt := length_lt_size distinct classes mem there
      omega
  | succ budget ih =>
    by_cases mem : record.path ∈ seen
    · rw [resolveFrom_again mem]
      exact .again mem
    rw [resolveFrom_succ mem]
    cases info : record.info with
    | error fault => exact .undecoded mem info
    | ok c =>
      rw [ok_bind]
      cases declares : c.method? name descriptor with
      | some m => exact .here mem info declares
      | none =>
        cases next : u.followedSuper? c with
        | none => exact .top mem info declares next
        | some parent =>
          refine .up mem info declares next (ih (List.nodup_cons.mpr ⟨mem, distinct⟩) ?_ ?_
            (follows_followedSuper next).1)
          · exact List.cons_subset.mpr ⟨mem_paths.mpr ⟨record, there⟩, classes⟩
          · rw [List.length_cons]
            omega

/-- The look-up without a budget is the look-up. -/
theorem looksUp_iff {record : ClassRecord} (there : u.find? record.path = some record)
    {outcome : Except Fault (Option (ClassRecord × Method))} :
    LooksUp u name descriptor [] record outcome ↔
      u.resolveMethod record name descriptor = outcome := by
  have run : LooksUp u name descriptor [] record (u.resolveMethod record name descriptor) :=
    looksUp_resolveFrom List.nodup_nil (List.nil_subset _) (by simp) there
  constructor
  · intro run'
    exact run.unique run'
  · rintro rfl
    exact run

/-- The first method on the way up from a class by followed superclasses, with its class. -/
inductive FirstUp (u : Universe) (name : String) (descriptor : Option String) :
    ClassRecord → Option (ClassRecord × Method) → Prop
  /-- The class declares the method. -/
  | here {record : ClassRecord} {c : Class} {m : Method} (info : record.info = .ok c)
      (declares : c.method? name descriptor = some m) :
      FirstUp u name descriptor record (some (record, m))
  /-- The class does not, and its superclass is followed. -/
  | up {record parent : ClassRecord} {c : Class} {found : Option (ClassRecord × Method)}
      (info : record.info = .ok c) (absent : c.method? name descriptor = none)
      (next : u.followedSuper? c = some parent) (rest : FirstUp u name descriptor parent found) :
      FirstUp u name descriptor record found
  /-- The class does not, and the way up ends with it. -/
  | top {record : ClassRecord} {c : Class} (info : record.info = .ok c)
      (absent : c.method? name descriptor = none) (last : u.followedSuper? c = none) :
      FirstUp u name descriptor record none

theorem LooksUp.firstUp {seen : List String} {record : ClassRecord}
    {outcome : Except Fault (Option (ClassRecord × Method))}
    {found : Option (ClassRecord × Method)} (run : LooksUp u name descriptor seen record outcome)
    (h : outcome = .ok found) : FirstUp u name descriptor record found := by
  induction run with
  | again => cases h
  | undecoded => cases h
  | here _ info declares =>
    cases h
    exact .here info declares
  | up _ info absent next _ ih => exact .up info absent next (ih h)
  | top _ info absent last =>
    cases h
    exact .top info absent last

/-- **A look-up gives the first method on the way up.** -/
theorem firstUp_of_resolveMethod {record : ClassRecord} {found : Option (ClassRecord × Method)}
    (there : u.find? record.path = some record)
    (h : u.resolveMethod record name descriptor = .ok found) :
    FirstUp u name descriptor record found :=
  ((looksUp_iff there).mpr h).firstUp rfl

/-! ## The chain of superclasses -/

/-- The class stands on the chain of superclasses of another class, so many steps up. The chain goes
on as long as the superclass is followed and in the universe; above a cycle it has no end. -/
inductive SuperAt (u : Universe) (start : ClassRecord) : Nat → ClassRecord → Prop
  | start : SuperAt u start 0 start
  | up {n : Nat} {record parent : ClassRecord} {c : Class} {path : String}
      (below : SuperAt u start n record) (info : record.info = .ok c)
      (superclass : c.superclass = some path) (followed : u.contains .traversal path = true)
      (found : u.find? path = some parent) : SuperAt u start (n + 1) parent

/-- The chain comes back to one of its classes. -/
def Revisits (u : Universe) (start : ClassRecord) : Prop :=
  ∃ m n record, m < n ∧ SuperAt u start m record ∧ SuperAt u start n record

/-- The chain comes back to a class after so many steps, and not to any class before. -/
structure FirstRevisit (u : Universe) (start : ClassRecord) (n : Nat) (record : ClassRecord) :
    Prop where
  again : SuperAt u start n record
  before : ∃ m < n, SuperAt u start m record
  distinct : ∀ j k r, j < k → k < n → SuperAt u start j r → ¬ SuperAt u start k r

variable {start record parent : ClassRecord} {c : Class} {m n : Nat}

theorem followedSuper?_eq_some :
    u.followedSuper? c = some parent ↔ ∃ path, c.superclass = some path ∧
      u.contains .traversal path = true ∧ u.find? path = some parent := by
  simp [followedSuper?, Option.bind_eq_some_iff]

namespace SuperAt

/-- Only one class stands at a place of the chain. -/
theorem unique {other : ClassRecord} (h : SuperAt u start n record)
    (h' : SuperAt u start n other) : record = other := by
  induction h generalizing other with
  | start =>
    cases h'
    rfl
  | up _ info superclass _ found ih =>
    cases h' with
    | up below' info' superclass' _ found' =>
      obtain rfl := ih below'
      obtain rfl := Except.ok.inj (info.symm.trans info')
      obtain rfl := Option.some.inj (superclass.symm.trans superclass')
      exact Option.some.inj (found.symm.trans found')

/-- The next class of the chain is the superclass that a look-up goes on to. -/
theorem succ_iff (here : SuperAt u start n record) (info : record.info = .ok c) :
    SuperAt u start (n + 1) parent ↔ u.followedSuper? c = some parent := by
  rw [followedSuper?_eq_some]
  constructor
  · rintro (_ | ⟨below, info', superclass, followed, found⟩)
    obtain rfl := here.unique below
    obtain rfl := Except.ok.inj (info.symm.trans info')
    exact ⟨_, superclass, followed, found⟩
  · rintro ⟨path, superclass, followed, found⟩
    exact .up here info superclass followed found

/-- The chain has a class at every place before one where it has a class. -/
theorem exists_below (h : SuperAt u start n record) {k : Nat} (hk : k ≤ n) :
    ∃ r, SuperAt u start k r := by
  induction h with
  | start =>
    obtain rfl := Nat.le_zero.mp hk
    exact ⟨_, .start⟩
  | @up n _ _ _ _ below info superclass followed found ih =>
    rcases Nat.lt_or_ge n k with hlt | hle
    · obtain rfl := Nat.le_antisymm hk hlt
      exact ⟨_, .up below info superclass followed found⟩
    · exact ih hle

/-- The classes of a chain are in the universe if the first is. -/
theorem find?_path (there : u.find? start.path = some start) (h : SuperAt u start n record) :
    u.find? record.path = some record := by
  cases h with
  | start => exact there
  | up _ _ _ _ found => rwa [path_of_find? found]

/-- What comes after a class does not hang on the place where it stands. -/
theorem shift {other : ClassRecord} {i : Nat} (here : SuperAt u start m record)
    (there : SuperAt u start n record) (h : SuperAt u start (m + i) other) :
    SuperAt u start (n + i) other := by
  induction i generalizing other with
  | zero => rwa [← here.unique h]
  | succ i ih =>
    cases h with
    | up below info superclass followed found =>
      exact .up (ih below) info superclass followed found

end SuperAt

/-- All classes of a chain that comes back stand before the place where it does. -/
theorem SuperAt.exists_lt {other : ClassRecord} {k : Nat} (h : SuperAt u start k other)
    (hlt : m < n) (first : SuperAt u start m record) (again : SuperAt u start n record) :
    ∃ j < n, SuperAt u start j other := by
  induction k using Nat.strongRecOn with
  | ind k ih =>
    rcases Nat.lt_or_ge k n with hk | hk
    · exact ⟨k, hk, h⟩
    · obtain ⟨i, rfl⟩ := Nat.exists_eq_add_of_le hk
      exact ih (m + i) (by omega) (again.shift first h)

/-- A chain that comes back has no end. -/
theorem Revisits.endless (h : u.Revisits start) (k : Nat) : ∃ r, SuperAt u start k r := by
  obtain ⟨m, n, record, hlt, first, again⟩ := h
  induction k using Nat.strongRecOn with
  | ind k ih =>
    rcases Nat.le_total k n with hk | hk
    · exact again.exists_below hk
    · obtain ⟨i, rfl⟩ := Nat.exists_eq_add_of_le hk
      obtain ⟨r, hr⟩ := ih (m + i) (by omega)
      exact ⟨r, first.shift again hr⟩

/-- A chain that comes back does so first at some place. -/
theorem FirstRevisit.revisits (h : FirstRevisit u start n record) : u.Revisits start := by
  obtain ⟨m, hlt, first⟩ := h.before
  exact ⟨m, n, record, hlt, first, h.again⟩

/-- The names of the classes of a universe are in ascending order. -/
theorem paths_ascending (u : Universe) : u.paths.Pairwise (· < ·) := by
  have ordered := Std.ExtTreeMap.ordered_keys (t := u.records)
  exact ordered.imp compareOfLessAndEq_eq_lt.mp

end Universe

/-! ## What a look-up comes to -/

/-- The first method of the class, in table order, that has the name and the descriptor. -/
def ClassRecord.FirstAnswer (record : ClassRecord) (name : String) (descriptor : Option String)
    (m : Method) : Prop :=
  ∃ c, record.info = .ok c ∧ c.FirstAnswer name descriptor m

/-- No method of the class has the name and the descriptor. -/
def ClassRecord.Lacks (record : ClassRecord) (name : String) (descriptor : Option String) : Prop :=
  ∃ c, record.info = .ok c ∧ ∀ m ∈ c.methods, ¬ m.Answers name descriptor

theorem ClassRecord.FirstAnswer.not_lacks {record : ClassRecord}
    (h : record.FirstAnswer name descriptor m) : ¬ record.Lacks name descriptor := by
  rintro ⟨c, info, lacks⟩
  obtain ⟨c', info', before, after, methods, answers, -⟩ := h
  obtain rfl := Except.ok.inj (info.symm.trans info')
  exact lacks m (by simp [methods]) answers

theorem ClassRecord.FirstAnswer.unique {record : ClassRecord} {m' : Method}
    (h : record.FirstAnswer name descriptor m) (h' : record.FirstAnswer name descriptor m') :
    m = m' := by
  obtain ⟨c, info, first⟩ := h
  obtain ⟨c', info', first'⟩ := h'
  obtain rfl := Except.ok.inj (info.symm.trans info')
  exact first.unique first'

namespace Universe

variable {u : Universe} {start record holder : ClassRecord} {n : Nat}

/-- No class of the chain has the method. -/
def Absent (u : Universe) (start : ClassRecord) (name : String) (descriptor : Option String) :
    Prop :=
  ∀ n record, SuperAt u start n record → record.Lacks name descriptor

/-- The class stands on the chain so many steps up, the method is its first of the name and the
descriptor, and no class before it has one. -/
structure FoundAt (u : Universe) (start : ClassRecord) (name : String)
    (descriptor : Option String) (n : Nat) (holder : ClassRecord) (m : Method) : Prop where
  here : SuperAt u start n holder
  first : holder.FirstAnswer name descriptor m
  nearest : ∀ k < n, ∀ record, SuperAt u start k record → record.Lacks name descriptor

/-- The names, in ascending order, are those of the classes of the chain. -/
structure NamesChain (u : Universe) (start : ClassRecord) (names : List String) : Prop where
  ascending : names.Pairwise (· < ·)
  mem_iff : ∀ path, path ∈ names ↔ ∃ n record, SuperAt u start n record ∧ record.path = path

/-- A look-up from a class comes to the outcome. -/
inductive ComesTo (u : Universe) (start : ClassRecord) (name : String)
    (descriptor : Option String) : Except Fault (Option (ClassRecord × Method)) → Prop
  | found {n : Nat} {holder : ClassRecord} {m : Method}
      (found : FoundAt u start name descriptor n holder m) :
      ComesTo u start name descriptor (.ok (some (holder, m)))
  | ended {n : Nat} (last : ∀ record, ¬ SuperAt u start n record)
      (absent : Absent u start name descriptor) : ComesTo u start name descriptor (.ok none)
  | closed {n : Nat} {record : ClassRecord} {names : List String}
      (revisit : FirstRevisit u start n record) (absent : Absent u start name descriptor)
      (names_eq : NamesChain u start names) :
      ComesTo u start name descriptor (.error (.hierarchyCycle record.path names))

/-- A look-up has come to a class after so many steps, and has looked at all classes before. -/
structure Climbed (u : Universe) (start : ClassRecord) (name : String)
    (descriptor : Option String) (n : Nat) (seen : List String) (record : ClassRecord) : Prop where
  here : SuperAt u start n record
  mem_seen : ∀ path, path ∈ seen ↔ ∃ k < n, ∃ r, SuperAt u start k r ∧ r.path = path
  lacks : ∀ k < n, ∀ r, SuperAt u start k r → r.Lacks name descriptor
  distinct : ∀ j k r, j < k → k < n → SuperAt u start j r → ¬ SuperAt u start k r

namespace Climbed

variable {seen : List String} {c : Class} {parent : ClassRecord}

theorem initial : Climbed u record name descriptor 0 [] record where
  here := .start
  mem_seen := by simp
  lacks := by simp
  distinct := by simp

/-- A class that has not been looked at is not on the chain before. -/
theorem not_superAt (h : Climbed u start name descriptor n seen record)
    (fresh : record.path ∉ seen) {k : Nat} (hk : k < n) : ¬ SuperAt u start k record :=
  fun hrecord => fresh ((h.mem_seen record.path).mpr ⟨k, hk, record, hrecord, rfl⟩)

/-- The look-up goes on from a class without the method to the next one. -/
theorem up (h : Climbed u start name descriptor n seen record) (fresh : record.path ∉ seen)
    (info : record.info = .ok c) (absent : c.method? name descriptor = none)
    (next : u.followedSuper? c = some parent) :
    Climbed u start name descriptor (n + 1) (record.path :: seen) parent where
  here := (h.here.succ_iff info).mpr next
  mem_seen path := by
    constructor
    · intro hpath
      rcases List.mem_cons.mp hpath with rfl | hpath
      · exact ⟨n, Nat.lt_succ_self n, record, h.here, rfl⟩
      · obtain ⟨k, hk, hr⟩ := (h.mem_seen path).mp hpath
        exact ⟨k, Nat.lt_succ_of_lt hk, hr⟩
    · rintro ⟨k, hk, r, hr, rfl⟩
      rcases Nat.lt_succ_iff_lt_or_eq.mp hk with hk | rfl
      · exact List.mem_cons_of_mem _ ((h.mem_seen _).mpr ⟨k, hk, r, hr, rfl⟩)
      · rw [hr.unique h.here]
        exact List.mem_cons_self
  lacks k hk r hr := by
    rcases Nat.lt_succ_iff_lt_or_eq.mp hk with hk | rfl
    · exact h.lacks k hk r hr
    · rw [hr.unique h.here]
      exact ⟨c, info, Class.method?_eq_none.mp absent⟩
  distinct j k r hj hk hr hr' := by
    rcases Nat.lt_succ_iff_lt_or_eq.mp hk with hk | rfl
    · exact h.distinct j k r hj hk hr hr'
    · obtain rfl := hr'.unique h.here
      exact h.not_superAt fresh hj hr

end Climbed

/-- **A look-up that ends has come to its outcome.** -/
theorem LooksUp.comesTo {seen : List String}
    {outcome : Except Fault (Option (ClassRecord × Method))}
    (run : LooksUp u name descriptor seen record outcome) (decodes : u.Decodes)
    (there : u.find? start.path = some start)
    (h : Climbed u start name descriptor n seen record) :
    ComesTo u start name descriptor outcome := by
  induction run generalizing n with
  | @again seen record mem =>
    obtain ⟨k, hk, r, hr, hpath⟩ := (h.mem_seen record.path).mp mem
    -- A class that is met again by its name is the same class.
    have hrecord : r = record := by
      have found := hr.find?_path there
      rw [hpath, h.here.find?_path there] at found
      exact (Option.some.inj found).symm
    subst hrecord
    have before {i : Nat} {s : ClassRecord} (hs : SuperAt u start i s) :
        ∃ j < n, SuperAt u start j s := hs.exists_lt hk hr h.here
    refine .closed ⟨h.here, ⟨k, hk, hr⟩, h.distinct⟩ ?absent ⟨u.paths_ascending.filter _, ?names⟩
    case absent =>
      intro i s hs
      obtain ⟨j, hj, hs⟩ := before hs
      exact h.lacks j hj s hs
    case names =>
      intro path
      rw [List.mem_filter, decide_eq_true_iff, h.mem_seen]
      constructor
      · rintro ⟨-, j, -, s, hs, rfl⟩
        exact ⟨j, s, hs, rfl⟩
      · rintro ⟨i, s, hs, rfl⟩
        obtain ⟨j, hj, hs⟩ := before hs
        exact ⟨mem_paths.mpr ⟨s, hs.find?_path there⟩, j, hj, s, hs, rfl⟩
  | undecoded _ info =>
    obtain ⟨c, hc⟩ := decodes _ _ (h.here.find?_path there)
    rw [info] at hc
    cases hc
  | here _ info declares =>
    exact .found ⟨h.here, ⟨_, info, Class.method?_eq_some.mp declares⟩, h.lacks⟩
  | up fresh info absent next _ ih => exact ih (h.up fresh info absent next)
  | @top seen record c fresh info absent last =>
    have hlast (r : ClassRecord) : ¬ SuperAt u start (n + 1) r := by
      rw [h.here.succ_iff info, last]
      exact nofun
    refine .ended hlast fun k r hr => ?_
    rcases Nat.lt_trichotomy k n with hk | rfl | hk
    · exact h.lacks k hk r hr
    · rw [hr.unique h.here]
      exact ⟨c, info, Class.method?_eq_none.mp absent⟩
    · obtain ⟨s, hs⟩ := hr.exists_below hk
      exact absurd hs (hlast s)

/-- What a look-up comes to. -/
theorem comesTo_resolveMethod (decodes : u.Decodes) (there : u.find? record.path = some record)
    (name : String) (descriptor : Option String) :
    ComesTo u record name descriptor (u.resolveMethod record name descriptor) :=
  ((looksUp_iff there).mpr rfl).comesTo decodes there .initial

/-- A method that is found is not absent. -/
theorem FoundAt.not_absent {m : Method} (h : FoundAt u start name descriptor n holder m) :
    ¬ Absent u start name descriptor :=
  fun absent => h.first.not_lacks (absent n holder h.here)

/-- Only one method is the nearest. -/
theorem FoundAt.unique {k : Nat} {holder' : ClassRecord} {m m' : Method}
    (h : FoundAt u start name descriptor n holder m)
    (h' : FoundAt u start name descriptor k holder' m') : holder = holder' ∧ m = m' := by
  rcases Nat.lt_trichotomy n k with hlt | rfl | hlt
  · exact absurd (h'.nearest n hlt holder h.here) h.first.not_lacks
  · obtain rfl := h.here.unique h'.here
    exact ⟨rfl, h.first.unique h'.first⟩
  · exact absurd (h.nearest k hlt holder' h'.here) h'.first.not_lacks

/-- **A look-up finds the nearest method up the superclasses**, in every hierarchy, with cycles or
without. The look-up without a budget has exactly one outcome. It is the first class of the chain
that has the method, with the first such method of its table; or nothing, exactly if the chain has
an end and no class of it has the method; or a fault, exactly if the chain comes back to a class
and no class of it has the method. The fault says which class the chain comes back to first, and
what classes are on the chain. -/
theorem resolveMethod_nearest (decodes : u.Decodes) (there : u.find? record.path = some record)
    (name : String) (descriptor : Option String) :
    (∀ outcome, LooksUp u name descriptor [] record outcome ↔
      u.resolveMethod record name descriptor = outcome) ∧
    (∀ holder m, u.resolveMethod record name descriptor = .ok (some (holder, m)) ↔
      ∃ n, FoundAt u record name descriptor n holder m) ∧
    (u.resolveMethod record name descriptor = .ok none ↔
      (∃ n, ∀ r, ¬ SuperAt u record n r) ∧ Absent u record name descriptor) ∧
    ((∃ path names, u.resolveMethod record name descriptor =
        .error (.hierarchyCycle path names)) ↔
      u.Revisits record ∧ Absent u record name descriptor) ∧
    ∀ fault, u.resolveMethod record name descriptor = .error fault →
      ∃ n r names, fault = .hierarchyCycle r.path names ∧ FirstRevisit u record n r ∧
        NamesChain u record names := by
  have comesTo := comesTo_resolveMethod decodes there name descriptor
  refine ⟨fun _ => looksUp_iff there, ?_⟩
  generalize u.resolveMethod record name descriptor = outcome at comesTo
  -- Each outcome excludes what the other two need.
  cases comesTo with
  | @found n holder m found =>
    refine ⟨fun holder' m' => ⟨?_, ?_⟩, ?_, ?_, ?_⟩
    · rintro ⟨⟩
      exact ⟨n, found⟩
    · rintro ⟨k, found'⟩
      obtain ⟨rfl, rfl⟩ := found.unique found'
      rfl
    · simp [found.not_absent]
    · simp [found.not_absent]
    · intro fault h
      cases h
  | @ended n last absent =>
    refine ⟨fun holder m => ⟨nofun, ?_⟩, ?_, ?_, ?_⟩
    · rintro ⟨k, found⟩
      exact absurd absent found.not_absent
    · simpa using ⟨⟨n, last⟩, absent⟩
    · constructor
      · rintro ⟨_, _, ⟨⟩⟩
      · rintro ⟨revisits, -⟩
        obtain ⟨r, hr⟩ := revisits.endless n
        exact absurd hr (last r)
    · intro fault h
      cases h
  | @closed n r names revisit absent names_eq =>
    refine ⟨fun holder m => ⟨nofun, ?_⟩, ⟨nofun, ?_⟩, ?_, ?_⟩
    · rintro ⟨k, found⟩
      exact absurd absent found.not_absent
    · rintro ⟨⟨k, last⟩, -⟩
      obtain ⟨s, hs⟩ := revisit.revisits.endless k
      exact absurd hs (last s)
    · simpa using ⟨revisit.revisits, absent⟩
    · rintro fault ⟨⟩
      exact ⟨n, r, names, rfl, revisit, names_eq⟩

/-! ## Chains with and without an end -/

/-- A method of the sample. -/
def soundMethod (name descriptor : String) : Method := { name, descriptor }

/-- A class above which two classes are each other's superclass. -/
def roof : Class where
  name := "p/Roof"
  superclass := "p/Tower"
  methods := [soundMethod "rest" "()V"]

/-- A class on a cycle with two methods of one name. -/
def tower : Class where
  name := "p/Tower"
  superclass := "p/Keep"
  methods := [soundMethod "ring" "()V", soundMethod "ring" "(I)V"]

/-- A class whose superclass is in the universe but not followed. -/
def shed : Class := { name := "p/Shed", superclass := "q/Wall" }

/-- The records of the sample. -/
def towerRecords : List ClassRecord :=
  [roof, tower, { name := "p/Keep", superclass := "p/Tower" }, shed,
    { name := "q/Wall", methods := [soundMethod "ring" "()V"] }].map .ofClass

/-- The universe of the sample. -/
def towers : Universe :=
  (ofRecords towerRecords { traversal := ["p"] }).toOption.get (by decide +kernel)

theorem towers_decodes : towers.Decodes := by
  have h : ofRecords towerRecords { traversal := ["p"] } = .ok towers :=
    toOption_eq_some.mp (Option.some_get _).symm
  apply decodes_ofRecords h
  simp [towerRecords, ClassRecord.ofClass, ClassRecord.info, Fault.ofDecoding]

/-- Below a cycle a method is found on the cycle, by its descriptor also one that is not the first
of its name, and a method that no class has ends in a fault that names the cycle. Where the way up
leaves the followed classes there is no method, although the class above has one. -/
theorem resolveMethod_nearest_towers :
    towers.Decodes ∧
    (∃ n, FoundAt towers (.ofClass roof) "ring" none n (.ofClass tower)
      (soundMethod "ring" "()V")) ∧
    (∃ n, FoundAt towers (.ofClass roof) "ring" (some "(I)V") n (.ofClass tower)
      (soundMethod "ring" "(I)V")) ∧
    towers.resolveMethod (.ofClass roof) "climb" none =
      .error (.hierarchyCycle "p/Tower" ["p/Keep", "p/Roof", "p/Tower"]) ∧
    (towers.Revisits (.ofClass roof) ∧ Absent towers (.ofClass roof) "climb" none) ∧
    ((∃ n, ∀ r, ¬ SuperAt towers (.ofClass shed) n r) ∧
      Absent towers (.ofClass shed) "ring" none) := by
  have hroof : towers.find? (ClassRecord.ofClass roof).path = some (.ofClass roof) := by rfl
  have hshed : towers.find? (ClassRecord.ofClass shed).path = some (.ofClass shed) := by rfl
  obtain ⟨-, byName, -⟩ := resolveMethod_nearest towers_decodes hroof "ring" none
  obtain ⟨-, byDescriptor, -⟩ := resolveMethod_nearest towers_decodes hroof "ring" (some "(I)V")
  obtain ⟨-, -, -, cyclic, -⟩ := resolveMethod_nearest towers_decodes hroof "climb" none
  obtain ⟨-, -, ended, -⟩ := resolveMethod_nearest towers_decodes hshed "ring" none
  have fault : towers.resolveMethod (.ofClass roof) "climb" none =
      .error (.hierarchyCycle "p/Tower" ["p/Keep", "p/Roof", "p/Tower"]) := by rfl
  exact ⟨towers_decodes, (byName _ _).mp (by rfl), (byDescriptor _ _).mp (by rfl), fault,
    cyclic.mp ⟨_, _, fault⟩, ended.mp (by rfl)⟩

end Universe

end ApiSurface
