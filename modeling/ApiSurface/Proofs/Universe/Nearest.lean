import ApiSurface.Proofs.Universe.Breadth

/-!
# The search for a default method is complete

A class waits in the queue of the search once at most, whatever cycles the hierarchy has, so the
search ends by itself: `Explores` is the search without a budget, and it is what the look-up does.
It ends with nothing only when all that is reached from the class by followed types has been looked
at, and with an interface only when no nearer one gives the method.

Main definitions: `Explores`, `Offers`, `Inherits`. Main statements: `explores_iff`,
`inherits_of_resolveDefaultMethod`, `not_gives_of_resolveDefaultMethod`, `default_method_nearest`.
-/
namespace ApiSurface.Universe

variable {u : Universe} {name descriptor : String}

/-! ## The search without a budget -/

/-- Looking for a default method on the classes of a queue, with the types of `seen` not to be
queued again, ends with this outcome. -/
inductive Explores (u : Universe) (name descriptor : String) :
    List ClassRecord → List String → Except Fault (Option (ClassRecord × Method)) → Prop
  | nowhere {seen : List String} : Explores u name descriptor [] seen (.ok none)
  /-- The class could not be decoded. -/
  | undecoded {record : ClassRecord} {queue : List ClassRecord} {seen : List String} {fault : Fault}
      (info : record.info = .error fault) :
      Explores u name descriptor (record :: queue) seen (.error fault)
  /-- The class gives the method. -/
  | here {record : ClassRecord} {queue : List ClassRecord} {seen : List String} {c : Class}
      {m : Method} (info : record.info = .ok c) (gives : defaultMethod? c name descriptor = some m) :
      Explores u name descriptor (record :: queue) seen (.ok (some (record, m)))
  /-- The class does not give the method; its followed supertypes wait behind all others. -/
  | further {record : ClassRecord} {queue : List ClassRecord} {seen : List String} {c : Class}
      {outcome : Except Fault (Option (ClassRecord × Method))} (info : record.info = .ok c)
      (absent : defaultMethod? c name descriptor = none)
      (rest : Explores u name descriptor
        (queue ++ (u.unseenSupers seen c.supertypes).filterMap u.find?)
        (u.unseenSupers seen c.supertypes ++ seen) outcome) :
      Explores u name descriptor (record :: queue) seen outcome

/-- A search has one outcome. -/
theorem Explores.unique {queue : List ClassRecord} {seen : List String}
    {outcome outcome' : Except Fault (Option (ClassRecord × Method))}
    (run : Explores u name descriptor queue seen outcome)
    (run' : Explores u name descriptor queue seen outcome') : outcome = outcome' := by
  induction run generalizing outcome' <;> cases run' <;> grind

theorem nodup_unseenSupers {seen parents : List String} (h : seen.Nodup) :
    (u.unseenSupers seen parents ++ seen).Nodup := by
  induction parents generalizing seen with
  | nil => exact h
  | cons parent parents ih =>
    unfold unseenSupers
    split
    next hparent =>
      have hrest := ih (List.nodup_cons.mpr ⟨hparent.2, h⟩)
      exact List.perm_middle.nodup_iff.mp hrest
    next => exact ih h

/-- The supertypes that are queued are classes of the universe. -/
theorem unseenSupers_subset_paths (seen parents : List String) :
    u.unseenSupers seen parents ⊆ u.paths := by
  intro path hpath
  exact mem_paths.mpr (exists_find?_of_contains (contains_of_mem_unseenSupers hpath))

/-- **A search is not ended by its budget** if the classes that may still be queued and those that
wait do not outnumber it. All that has ever been queued has been seen, and nothing twice. -/
theorem explores_defaultFrom {budget : Nat} {queue : List ClassRecord} {seen : List String}
    (distinct : seen.Nodup) (classes : seen ⊆ u.paths)
    (enough : u.size + queue.length < budget + seen.length) :
    Explores u name descriptor queue seen (u.defaultFrom name descriptor budget queue seen) := by
  induction budget generalizing queue seen with
  | zero =>
    have hle := (List.subperm_of_subset distinct classes).length_le
    rw [length_paths] at hle
    omega
  | succ budget ih =>
    cases queue with
    | nil => exact .nowhere
    | cons record queue =>
      rw [defaultFrom]
      cases info : record.info with
      | error fault => exact .undecoded info
      | ok c =>
        rw [ok_bind]
        cases gives : defaultMethod? c name descriptor with
        | some m => exact .here info gives
        | none =>
          have queued : ((u.unseenSupers seen c.supertypes).filterMap u.find?).length ≤
              (u.unseenSupers seen c.supertypes).length := List.length_filterMap_le _ _
          refine .further info gives (ih (nodup_unseenSupers distinct) ?_ ?_)
          · exact List.append_subset.mpr ⟨unseenSupers_subset_paths _ _, classes⟩
          · simp only [List.length_append, List.length_cons] at enough ⊢
            omega

variable {record holder : ClassRecord} {m : Method}

/-- The search without a budget is the look-up. -/
theorem explores_iff (found : u.find? record.path = some record)
    {outcome : Except Fault (Option (ClassRecord × Method))} :
    Explores u name descriptor [record] [record.path] outcome ↔
      u.resolveDefaultMethod record name descriptor = outcome := by
  have run : Explores u name descriptor [record] [record.path]
      (u.resolveDefaultMethod record name descriptor) := by
    refine explores_defaultFrom (List.nodup_singleton _) ?_ (by simp)
    simpa using mem_paths.mpr ⟨record, found⟩
  constructor
  · intro run'
    exact run.unique run'
  · rintro rfl
    exact run

/-! ## What the outcomes mean -/

/-- At the end of a search all that can be climbed to is done. -/
theorem Frontier.done_of_climbs {start : String} {done : List Stop} {seen : List String}
    (frontier : Frontier u start name descriptor done [] seen) {route : Route} {path : String}
    (climbs : Climbs u start route path) : ∃ d ∈ done, d.path = path := by
  induction climbs with
  | here => exact ⟨_, by simpa using frontier.root, rfl⟩
  | up _ found info position followed ih =>
    obtain ⟨d, hd, rfl⟩ := ih
    obtain ⟨s, hs, hpath, -⟩ := frontier.closed d hd _ _ _ _ found info position followed
    exact ⟨s, by simpa using hs, hpath⟩

/-- A search that ends with nothing has passed over all that can be climbed to. -/
theorem Explores.not_gives {start : String} {queue : List ClassRecord} {seen : List String}
    {outcome : Except Fault (Option (ClassRecord × Method))}
    (run : Explores u name descriptor queue seen outcome) (h : outcome = .ok none)
    {done waiting : List Stop} (frontier : Frontier u start name descriptor done waiting seen)
    (hqueue : queue = Stop.queue u waiting) {route : Route} {path : String}
    (climbs : Climbs u start route path) : ¬ u.GivesDefault name descriptor path := by
  induction run generalizing done waiting with
  | nowhere =>
    cases waiting with
    | nil =>
      obtain ⟨d, hd, rfl⟩ := frontier.done_of_climbs climbs
      exact frontier.passed d hd
    | cons head rest =>
      obtain ⟨record, found⟩ := frontier.found head (by simp)
      simp [Stop.queue, found] at hqueue
  | undecoded => cases h
  | here => cases h
  | @further record queue seen c outcome info absent _ ih =>
    cases waiting with
    | nil => cases hqueue
    | cons head rest =>
      obtain ⟨other, found⟩ := frontier.found head (by simp)
      have hsplit : Stop.queue u (head :: rest) = other :: Stop.queue u rest := by
        simp [Stop.queue, found]
      rw [hsplit] at hqueue
      obtain ⟨rfl, rfl⟩ := List.cons.inj hqueue
      have passed : ¬ u.GivesDefault name descriptor head.path := by
        rw [givesDefault_iff found info, absent]
        simp
      exact ih h (frontier.advance found info passed) (queue_append_further _ _ _ _).symm

/-- The class is an interface that gives the method to the classes below it. -/
structure Offers (c : Class) (name descriptor : String) (m : Method) : Prop where
  isInterface : c.flags.isInterface = true
  mem : m ∈ c.methods
  named : m.name = name ∧ m.descriptor = descriptor
  inherited : m.flags.isAbstract = false ∧ m.flags.isStatic = false

theorem offers_of_defaultMethod? {c : Class} (h : defaultMethod? c name descriptor = some m) :
    Offers c name descriptor m := by
  unfold defaultMethod? at h
  split at h
  next isInterface =>
    have hm := List.find?_some h
    simp only [Bool.and_eq_true, decide_eq_true_eq, Bool.not_eq_true'] at hm
    exact ⟨isInterface, List.mem_of_find?_eq_some h, hm.1.1, hm.1.2, hm.2⟩
  next => cases h

/-- A search finds a method of a class of the universe that offers it. -/
theorem Explores.offers {queue : List ClassRecord} {seen : List String}
    {outcome : Except Fault (Option (ClassRecord × Method))}
    (run : Explores u name descriptor queue seen outcome) (h : outcome = .ok (some (holder, m)))
    (classes : ∀ r ∈ queue, u.find? r.path = some r) :
    u.find? holder.path = some holder ∧ ∃ c, holder.info = .ok c ∧ Offers c name descriptor m := by
  induction run with
  | nowhere => cases h
  | undecoded => cases h
  | @here record queue seen c m' info gives =>
    cases h
    exact ⟨classes _ List.mem_cons_self, c, info, offers_of_defaultMethod? gives⟩
  | further _ _ _ ih =>
    refine ih h fun r hr => ?_
    rcases List.mem_append.mp hr with hr | hr
    · exact classes r (List.mem_cons_of_mem _ hr)
    · obtain ⟨path, -, found⟩ := List.mem_filterMap.mp hr
      rwa [path_of_find? found]

/-- A class inherits the method of an interface that is climbed to on the first of all routes to
interfaces that give the method. -/
structure Inherits (u : Universe) (name descriptor start : String) (holder : ClassRecord)
    (m : Method) : Prop where
  found : u.find? holder.path = some holder
  offers : ∃ c, holder.info = .ok c ∧ Offers c name descriptor m
  first : ∃ route, Climbs u start route holder.path ∧ ∀ other path, Climbs u start other path →
    u.GivesDefault name descriptor path → route.rank ≤ other.rank

/-- What the look-up finds is inherited. -/
theorem inherits_of_resolveDefaultMethod (found : u.find? record.path = some record)
    (h : u.resolveDefaultMethod record name descriptor = .ok (some (holder, m))) :
    u.Inherits name descriptor record.path holder m := by
  obtain ⟨hholder, hoffers⟩ := ((explores_iff found).mpr h).offers rfl (by simpa using found)
  have hqueue : Stop.queue u [⟨[], record.path⟩] = [record] := by simp [Stop.queue, found]
  rw [resolveDefaultMethod, ← hqueue] at h
  obtain ⟨route, hclimbs, -, hfirst⟩ := defaultFrom_first (Frontier.initial found) h
  exact ⟨hholder, hoffers, route, hclimbs, hfirst⟩

/-- Where the look-up finds nothing, no interface that can be climbed to gives the method. -/
theorem not_gives_of_resolveDefaultMethod (found : u.find? record.path = some record)
    (h : u.resolveDefaultMethod record name descriptor = .ok none) {route : Route} {path : String}
    (climbs : Climbs u record.path route path) : ¬ u.GivesDefault name descriptor path := by
  refine ((explores_iff found).mpr h).not_gives rfl (Frontier.initial found) ?_ climbs
  simp [Stop.queue, found]

/-- A route that comes first is a shortest one. -/
theorem Route.length_le_of_rank_le {a b : Route} (h : a.rank ≤ b.rank) : a.length ≤ b.length := by
  rcases lt_or_eq_of_le h with h | h
  · rcases Route.rank_lt.mp h with h | h
    · exact Nat.le_of_lt h
    · exact Nat.le_of_eq h.1
  · exact Nat.le_of_eq (congrArg List.length (Route.rank_injective h))

/-- An interface that is inherited from gives the method. -/
theorem Inherits.gives {start : String} (h : u.Inherits name descriptor start holder m) :
    u.GivesDefault name descriptor holder.path := by
  obtain ⟨c, info, offers⟩ := h.offers
  exact ⟨holder, c, h.found, info, offers.isInterface, m, offers.mem, offers.named.1,
    offers.named.2, offers.inherited.1, offers.inherited.2⟩

/-- **The search for a default method ends, looks at everything, and finds a nearest interface**,
in every hierarchy, with cycles or without. The search without a budget has exactly one outcome, and
it is no fault. There is none to find only if no interface on any route up gives the method; and
one that is found offers it, and no route to an interface that does is shorter. -/
theorem default_method_nearest (decodes : u.Decodes) (found : u.find? record.path = some record)
    (name descriptor : String) :
    (∃ outcome, u.resolveDefaultMethod record name descriptor = .ok outcome ∧
      ∀ result, Explores u name descriptor [record] [record.path] result ↔ result = .ok outcome) ∧
    (u.resolveDefaultMethod record name descriptor = .ok none ↔
      ∀ route path, Climbs u record.path route path → ¬ u.GivesDefault name descriptor path) ∧
    ∀ holder m, u.resolveDefaultMethod record name descriptor = .ok (some (holder, m)) →
      u.find? holder.path = some holder ∧
      (∃ c, holder.info = .ok c ∧ Offers c name descriptor m) ∧
      ∃ route, Climbs u record.path route holder.path ∧
        ∀ other path, Climbs u record.path other path → u.GivesDefault name descriptor path →
          route.length ≤ other.length := by
  obtain ⟨outcome, houtcome⟩ : ∃ outcome,
      u.resolveDefaultMethod record name descriptor = .ok outcome :=
    exists_defaultFrom decodes _ (by simpa using decodes _ _ found) _
  refine ⟨⟨outcome, houtcome, fun result => ?ends⟩, ⟨?passed, ?empty⟩, ?nearest⟩
  case ends => rw [explores_iff found, houtcome, eq_comm]
  case passed => exact fun h _ _ climbs => not_gives_of_resolveDefaultMethod found h climbs
  case empty =>
    intro absent
    cases outcome with
    | none => exact houtcome
    | some n =>
      have inherits := inherits_of_resolveDefaultMethod found houtcome
      obtain ⟨route, climbs, -⟩ := inherits.first
      exact absurd inherits.gives (absent route _ climbs)
  case nearest =>
    intro holder m h
    obtain ⟨hholder, hoffers, route, climbs, hfirst⟩ := inherits_of_resolveDefaultMethod found h
    exact ⟨hholder, hoffers, route, climbs, fun other path hother hgives =>
      Route.length_le_of_rank_le (hfirst other path hother hgives)⟩

/-! ## Interfaces that extend each other -/

/-- A method with a body. -/
def closeMethod : Method := { name := "close", descriptor := "()V", body := [⟨0, .op 0xb1⟩] }

/-- A class with two interfaces, which extend each other. One of them gives a method. -/
def latch : Class := { name := "p/Latch", interfaces := ["p/Bolt", "p/Missing"] }

/-- An interface on a cycle that gives nothing. -/
def bolt : Class where
  name := "p/Bolt"
  interfaces := ["p/Catch"]
  flags := { isInterface := true, isAbstract := true }

/-- An interface on a cycle that gives a method. -/
def catchInterface : Class where
  name := "p/Catch"
  interfaces := ["p/Bolt"]
  flags := { isInterface := true, isAbstract := true }
  methods := [closeMethod]

/-- The records of the sample. -/
def latchRecords : List ClassRecord := [latch, bolt, catchInterface].map .ofClass

/-- The universe of the sample. -/
def latches : Universe :=
  (ofRecords latchRecords { traversal := ["p"] }).toOption.get (by decide +kernel)

theorem latches_eq : ofRecords latchRecords { traversal := ["p"] } = .ok latches :=
  toOption_eq_some.mp (Option.some_get _).symm

theorem latches_decodes : latches.Decodes := by
  apply decodes_ofRecords latches_eq
  simp [latchRecords, ClassRecord.ofClass, ClassRecord.info, Fault.ofDecoding]

/-- Below a cycle the method is found on the interface that gives it, two steps up, and one that no
interface gives is not found. -/
theorem default_method_nearest_cycle :
    latches.Decodes ∧ latches.find? "p/Latch" = some (.ofClass latch) ∧ latches.OnCycle "p/Bolt" ∧
      latches.resolveDefaultMethod (.ofClass latch) "close" "()V" =
        .ok (some (.ofClass catchInterface, closeMethod)) ∧
      (∃ route, Climbs latches "p/Latch" route "p/Catch" ∧ route.length ≤ 2) ∧
      ∀ route path, Climbs latches "p/Latch" route path →
        ¬ latches.GivesDefault "open" "()V" path := by
  have find {c : Class} (h : c ∈ [latch, bolt, catchInterface]) :
      latches.find? c.name = some (.ofClass c) :=
    (find?_ofRecords latches_eq).mpr ⟨List.mem_map_of_mem h, rfl⟩
  have found : latches.find? (ClassRecord.ofClass latch).path = some (.ofClass latch) :=
    find (by simp)
  have hclose : latches.resolveDefaultMethod (.ofClass latch) "close" "()V" =
      .ok (some (.ofClass catchInterface, closeMethod)) := by rfl
  have hopen : latches.resolveDefaultMethod (.ofClass latch) "open" "()V" = .ok none := by rfl
  have toBolt : Climbs latches "p/Latch" [1] "p/Bolt" :=
    .up .here found rfl (by rfl) (by decide +kernel)
  have toCatch : Climbs latches "p/Latch" [1, 1] "p/Catch" :=
    .up toBolt (find (c := bolt) (by simp)) rfl (by rfl) (by decide +kernel)
  have bolts : latches.StepsUp "p/Bolt" "p/Catch" :=
    (stepsUp_iff (find (c := bolt) (by simp)) rfl).mpr (by decide)
  have catches : latches.StepsUp "p/Catch" "p/Bolt" :=
    (stepsUp_iff (find (c := catchInterface) (by simp)) rfl).mpr (by decide)
  obtain ⟨-, -, nearest⟩ := default_method_nearest latches_decodes found "close" "()V"
  obtain ⟨-, absent, -⟩ := default_method_nearest latches_decodes found "open" "()V"
  obtain ⟨hcatch, ⟨c, info, offers⟩, route, climbs, shortest⟩ := nearest _ _ hclose
  have gives : latches.GivesDefault "close" "()V" "p/Catch" :=
    (inherits_of_resolveDefaultMethod found hclose).gives
  exact ⟨latches_decodes, found, .head bolts (.single catches), hclose,
    ⟨route, climbs, shortest _ _ toCatch gives⟩, absent.mp hopen⟩

end ApiSurface.Universe
