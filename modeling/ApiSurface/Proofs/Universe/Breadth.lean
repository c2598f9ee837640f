import ApiSurface.Proofs.Universe.Ascent
import ApiSurface.Proofs.Universe.Loading
import Mathlib.Data.List.Lex
import Mathlib.Data.Prod.Lex

/-!
# The search for a default method

A route up the hierarchy says at each step which of the supertypes is taken. The search looks at
classes in the order of the first routes that lead to them: shorter routes come first, and of routes
of one length the one that takes an earlier supertype at the first step where they part. So the
interface that it finds is the first in this order among all that give a default method; an
interface that refines another one may come after it.

`Frontier` is the invariant of the search, with the routes of the classes that it has looked at and
of those that wait in its queue.

Main definitions: `Route`, `Climbs`, `GivesDefault`, `Frontier`. Main statements: `Frontier.least`,
`Frontier.advance`, `default_method_first`, `default_method_overridden`.
-/
namespace ApiSurface.Universe

/-! ## Routes -/

/-- A way up the hierarchy: for each step the position of a type among the supertypes. -/
abbrev Route := List Nat

namespace Route

/-- The place of a route in the order of the search. -/
def rank (route : Route) : ℕ ×ₗ List ℕ := toLex (route.length, route)

variable {a b : Route}

theorem rank_injective (h : a.rank = b.rank) : a = b := congrArg (fun r => (ofLex r).2) h

theorem rank_lt : a.rank < b.rank ↔ a.length < b.length ∨ a.length = b.length ∧ a < b := by
  simp [rank, Prod.Lex.toLex_lt_toLex]

theorem lt_append_of_lt {c d : Route} (hlength : a.length = b.length) (h : a < b) :
    a ++ c < b ++ d := by
  induction a generalizing b with
  | nil =>
    cases b with
    | nil => exact absurd h (lt_irrefl _)
    | cons => cases hlength
  | cons x a ih =>
    cases b with
    | nil => cases hlength
    | cons y b =>
      rw [List.cons_append, List.cons_append]
      rw [List.cons_lt_cons_iff] at h ⊢
      rcases h with h | ⟨rfl, h⟩
      · exact .inl h
      · exact .inr ⟨rfl, ih (Nat.succ.inj hlength) h⟩

theorem rank_nil_le (a : Route) : rank [] ≤ a.rank := by
  cases a with
  | nil => exact le_refl _
  | cons => exact le_of_lt (rank_lt.mpr (.inl (by simp)))

/-- A route comes before those that go on from it. -/
theorem rank_lt_append {c : Route} (a : Route) (hc : c ≠ []) : a.rank < rank (a ++ c) :=
  rank_lt.mpr (.inl (by simpa [List.length_pos_iff] using hc))

/-- Going on by a step keeps the order of two routes. -/
theorem rank_snoc_lt_snoc (h : a.rank < b.rank) (i j : Nat) :
    rank (a ++ [i]) < rank (b ++ [j]) := by
  rw [rank_lt] at h ⊢
  rcases h with h | ⟨hlength, h⟩
  · left
    simpa using h
  · right
    exact ⟨by simpa using hlength, lt_append_of_lt hlength h⟩

theorem rank_snoc_lt {i j : Nat} (a : Route) (h : i < j) :
    rank (a ++ [i]) < rank (a ++ [j]) := by
  rw [rank_lt]
  right
  refine ⟨by simp, ?_⟩
  induction a with
  | nil => simpa [List.cons_lt_cons_iff] using h
  | cons x a ih => simpa [List.cons_lt_cons_iff] using ih

theorem rank_snoc_le {i j : Nat} (a : Route) (h : i ≤ j) :
    rank (a ++ [i]) ≤ rank (a ++ [j]) := by
  rcases Nat.lt_or_eq_of_le h with h | rfl
  · exact le_of_lt (rank_snoc_lt a h)
  · exact le_refl _

theorem rank_snoc_le_snoc (h : a.rank ≤ b.rank) (i : Nat) :
    rank (a ++ [i]) ≤ rank (b ++ [i]) := by
  rcases lt_or_eq_of_le h with h | h
  · exact le_of_lt (rank_snoc_lt_snoc h i i)
  · rw [rank_injective h]

end Route

variable {u : Universe} {start name descriptor : String}

/-- A route leads from a class up to a type, by types that are followed. -/
inductive Climbs (u : Universe) (start : String) : Route → String → Prop
  | here : Climbs u start [] start
  | up {route : Route} {path parent : String} {record : ClassRecord} {c : Class} {i : Nat}
      (below : Climbs u start route path) (found : u.find? path = some record)
      (info : record.info = .ok c) (position : c.supertypes[i]? = some parent)
      (followed : u.contains .traversal parent = true) :
      Climbs u start (route ++ [i]) parent

/-- The type is an interface of the universe that declares the method, neither abstract nor
static. -/
def GivesDefault (u : Universe) (name descriptor path : String) : Prop :=
  ∃ record c, u.find? path = some record ∧ record.info = .ok c ∧ c.flags.isInterface = true ∧
    ∃ m ∈ c.methods, m.name = name ∧ m.descriptor = descriptor ∧ m.flags.isAbstract = false ∧
      m.flags.isStatic = false

/-- A route leads to one type. -/
theorem Climbs.unique {route : Route} {path path' : String} (h : Climbs u start route path)
    (h' : Climbs u start route path') : path = path' := by
  induction h generalizing path' with
  | here =>
    generalize hroute : ([] : Route) = route at h'
    cases h' with
    | here => rfl
    | up => simp at hroute
  | @up route path parent record c i _ found info position _ ih =>
    generalize hroute : route ++ [i] = route' at h'
    cases h' with
    | here => simp at hroute
    | up below' found' info' position' =>
      obtain ⟨rfl, hi⟩ := List.append_inj' hroute rfl
      obtain rfl : i = _ := by simpa using hi
      obtain rfl := ih below'
      obtain rfl := Option.some.inj (found.symm.trans found')
      obtain rfl := Except.ok.inj (info.symm.trans info')
      exact Option.some.inj (position.symm.trans position')

/-- An interface gives a default method exactly when one is found in it. -/
theorem givesDefault_iff {path : String} {record : ClassRecord} {c : Class}
    (found : u.find? path = some record) (info : record.info = .ok c) :
    u.GivesDefault name descriptor path ↔ ∃ m, defaultMethod? c name descriptor = some m := by
  have hiff : (∃ m, defaultMethod? c name descriptor = some m) ↔ c.flags.isInterface = true ∧
      ∃ m ∈ c.methods, m.name = name ∧ m.descriptor = descriptor ∧ m.flags.isAbstract = false ∧
        m.flags.isStatic = false := by
    unfold defaultMethod?
    rw [← Option.isSome_iff_exists]
    split <;> simp_all [and_assoc]
  rw [hiff]
  constructor
  · rintro ⟨record', c', found', info', h⟩
    obtain rfl := Option.some.inj (found.symm.trans found')
    obtain rfl := Except.ok.inj (info.symm.trans info')
    exact h
  · intro h
    exact ⟨record, c, found, info, h⟩

/-- A class of a subset is in the universe. -/
theorem exists_find?_of_contains {subset : Subset} {path : String}
    (h : u.contains subset path = true) : ∃ record, u.find? path = some record := by
  rw [contains, Bool.and_eq_true, Std.ExtTreeMap.contains_eq_isSome_getElem?] at h
  exact Option.isSome_iff_exists.mp h.1

/-! ## Supertypes that are queued -/

/-- The followed supertypes that have not been seen, with their positions from `i` on. -/
def unseenAt (u : Universe) : (i : Nat) → (seen : List String) → List String → List (Nat × String)
  | _, _, [] => []
  | i, seen, parent :: parents =>
    if u.contains .traversal parent ∧ parent ∉ seen then
      (i, parent) :: unseenAt u (i + 1) (parent :: seen) parents
    else unseenAt u (i + 1) seen parents

section Unseen

variable {i : Nat} {seen parents : List String}

theorem map_snd_unseenAt (i : Nat) (seen parents : List String) :
    (u.unseenAt i seen parents).map (·.2) = u.unseenSupers seen parents := by
  induction parents generalizing i seen with
  | nil => rfl
  | cons parent parents ih =>
    unfold unseenAt unseenSupers
    split <;> simp [ih]

/-- What is queued stands at its position and is followed. -/
theorem mem_unseenAt {j : Nat} {path : String} (h : (j, path) ∈ u.unseenAt i seen parents) :
    ∃ k, j = i + k ∧ parents[k]? = some path ∧ u.contains .traversal path = true := by
  induction parents generalizing i seen with
  | nil => cases h
  | cons parent parents ih =>
    have further {seen : List String} (h : (j, path) ∈ u.unseenAt (i + 1) seen parents) :
        ∃ k, j = i + k ∧ (parent :: parents)[k]? = some path ∧
          u.contains .traversal path = true := by
      obtain ⟨k, rfl, hk⟩ := ih h
      exact ⟨k + 1, by omega, by simpa using hk⟩
    unfold unseenAt at h
    split at h
    next hparent =>
      rcases List.mem_cons.mp h with h | h
      · cases h
        exact ⟨0, rfl, rfl, hparent.1⟩
      · exact further h
    next => exact further h

theorem pairwise_unseenAt (i : Nat) (seen parents : List String) :
    (u.unseenAt i seen parents).Pairwise fun a b => a.1 < b.1 := by
  induction parents generalizing i seen with
  | nil => exact .nil
  | cons parent parents ih =>
    unfold unseenAt
    split
    · refine .cons ?_ (ih _ _)
      rintro ⟨j, path⟩ h
      obtain ⟨k, rfl, -⟩ := mem_unseenAt h
      dsimp only
      omega
    · exact ih _ _

/-- A followed supertype has been seen or is queued at its position or before it. -/
theorem exists_unseenAt {k : Nat} {path : String} (hk : parents[k]? = some path)
    (followed : u.contains .traversal path = true) :
    path ∈ seen ∨ ∃ j ≤ i + k, (j, path) ∈ u.unseenAt i seen parents := by
  induction parents generalizing i seen k with
  | nil => cases hk
  | cons parent parents ih =>
    unfold unseenAt
    cases k with
    | zero =>
      obtain rfl : parent = path := by simpa using hk
      by_cases hseen : parent ∈ seen
      · exact .inl hseen
      · rw [if_pos ⟨followed, hseen⟩]
        exact .inr ⟨i, Nat.le_refl _, List.mem_cons_self⟩
    | succ k =>
      have hk' : parents[k]? = some path := by simpa using hk
      split
      next hparent =>
        have further : path ∈ parent :: seen ∨
            ∃ j ≤ i + 1 + k, (j, path) ∈ u.unseenAt (i + 1) (parent :: seen) parents := ih hk'
        rcases further with hseen | ⟨j, hj, hmem⟩
        · rcases List.mem_cons.mp hseen with rfl | hseen
          · exact .inr ⟨i, by omega, List.mem_cons_self⟩
          · exact .inl hseen
        · exact .inr ⟨j, by omega, List.mem_cons_of_mem _ hmem⟩
      next =>
        have further : path ∈ seen ∨
            ∃ j ≤ i + 1 + k, (j, path) ∈ u.unseenAt (i + 1) seen parents := ih hk'
        rcases further with hseen | ⟨j, hj, hmem⟩
        · exact .inl hseen
        · exact .inr ⟨j, by omega, hmem⟩

end Unseen

/-! ## The invariant of the search -/

/-- A class that the search has come to, with the route on which it did. -/
structure Stop where
  route : Route
  path : String

/-- The supertypes that are queued when a class has been looked at. -/
def Stop.further (u : Universe) (s : Stop) (seen : List String) (c : Class) : List Stop :=
  (u.unseenAt 0 seen c.supertypes).map fun (i, path) => ⟨s.route ++ [i], path⟩

/-- The search has looked at the classes of `done`; those of `waiting` are in its queue. -/
structure Frontier (u : Universe) (start name descriptor : String) (done waiting : List Stop)
    (seen : List String) : Prop where
  root : ⟨[], start⟩ ∈ done ++ waiting
  climbs : ∀ s ∈ done ++ waiting, Climbs u start s.route s.path
  found : ∀ s ∈ done ++ waiting, ∃ record, u.find? s.path = some record
  /-- What has been seen is done or waits. -/
  known : ∀ path ∈ seen, ∃ s ∈ done ++ waiting, s.path = path
  sorted : waiting.Pairwise fun s t => s.route.rank < t.route.rank
  /-- What waits was queued by a class that is done. -/
  grown : ∀ s ∈ waiting, s.route = [] ∨ ∃ d ∈ done, ∃ i, s.route = d.route ++ [i]
  earlier : ∀ d ∈ done, ∀ s ∈ waiting, d.route.rank < s.route.rank
  /-- The supertypes of what is done have been come to, and not later than from there. -/
  closed : ∀ d ∈ done, ∀ record c i parent, u.find? d.path = some record → record.info = .ok c →
    c.supertypes[i]? = some parent → u.contains .traversal parent = true →
    ∃ s ∈ done ++ waiting, s.path = parent ∧ s.route.rank ≤ Route.rank (d.route ++ [i])
  /-- Nothing that is done gives the method. -/
  passed : ∀ d ∈ done, ¬ u.GivesDefault name descriptor d.path

namespace Frontier

variable {done rest : List Stop} {head : Stop} {seen : List String}

/-- The search starts with one class in its queue. -/
theorem initial {record : ClassRecord} (found : u.find? start = some record) :
    Frontier u start name descriptor [] [⟨[], start⟩] [start] where
  root := List.mem_cons_self
  climbs s hs := by
    obtain rfl := List.mem_singleton.mp hs
    exact .here
  found s hs := by
    obtain rfl := List.mem_singleton.mp hs
    exact ⟨record, found⟩
  known path hpath := ⟨⟨[], start⟩, List.mem_cons_self, (List.mem_singleton.mp hpath).symm⟩
  sorted := List.pairwise_singleton _ _
  grown s hs := by
    obtain rfl := List.mem_singleton.mp hs
    exact .inl rfl
  earlier := nofun
  closed := nofun
  passed := nofun

/-- The first class of the queue comes before the rest of it, or is it. -/
theorem head_le (frontier : Frontier u start name descriptor done (head :: rest) seen) {s : Stop}
    (hs : s ∈ head :: rest) : head.route.rank ≤ s.route.rank := by
  rcases List.mem_cons.mp hs with rfl | hs
  · exact le_refl _
  · exact le_of_lt ((List.pairwise_cons.mp frontier.sorted).1 s hs)

/-- **Every route leads to a class that is done, or comes no earlier than the queue.** A class that
is done was come to on a route that is no later. -/
theorem least (frontier : Frontier u start name descriptor done (head :: rest) seen)
    {route : Route} {path : String} (climbs : Climbs u start route path) :
    (∃ d ∈ done, d.path = path ∧ d.route.rank ≤ route.rank) ∨ head.route.rank ≤ route.rank := by
  have settle {s : Stop} (hs : s ∈ done ++ head :: rest) {route : Route}
      (hle : s.route.rank ≤ route.rank) :
      (∃ d ∈ done, d.path = s.path ∧ d.route.rank ≤ route.rank) ∨
        head.route.rank ≤ route.rank := by
    rcases List.mem_append.mp hs with hs | hs
    · exact .inl ⟨s, hs, rfl, hle⟩
    · exact .inr (le_trans (frontier.head_le hs) hle)
  induction climbs with
  | here => exact settle frontier.root (le_refl _)
  | @up route path parent record c i _ found info position followed ih =>
    rcases ih with ⟨d, hd, rfl, hle⟩ | hle
    · obtain ⟨s, hs, rfl, hs'⟩ :=
        frontier.closed d hd record c i parent found info position followed
      exact settle hs (le_trans hs' (Route.rank_snoc_le_snoc hle i))
    · exact .inr (le_trans hle (le_of_lt (Route.rank_lt_append route (by simp))))

/-- All that has been come to is earlier than a further step from the first class of the queue. -/
theorem lt_further (frontier : Frontier u start name descriptor done (head :: rest) seen) {s : Stop}
    (hs : s ∈ done ++ head :: rest) (i : Nat) :
    s.route.rank < Route.rank (head.route ++ [i]) := by
  have hhead := Route.rank_lt_append head.route (c := [i]) (by simp)
  rcases List.mem_append.mp hs with hs | hs
  · exact lt_trans (frontier.earlier s hs head List.mem_cons_self) hhead
  · rcases frontier.grown s hs with hnil | ⟨d, hd, j, hj⟩
    · rw [hnil]
      exact lt_of_le_of_lt (Route.rank_nil_le _) hhead
    · rw [hj]
      exact Route.rank_snoc_lt_snoc (frontier.earlier d hd head List.mem_cons_self) j i

/-- **Looking at a class that does not give the method keeps the invariant.** -/
theorem advance (frontier : Frontier u start name descriptor done (head :: rest) seen)
    {record : ClassRecord} {c : Class} (found : u.find? head.path = some record)
    (info : record.info = .ok c) (absent : ¬ u.GivesDefault name descriptor head.path) :
    Frontier u start name descriptor (done ++ [head]) (rest ++ head.further u seen c)
      (u.unseenSupers seen c.supertypes ++ seen) := by
  have hnew {s : Stop} (hs : s ∈ head.further u seen c) : ∃ i, s.route = head.route ++ [i] ∧
      c.supertypes[i]? = some s.path ∧ u.contains .traversal s.path = true := by
    obtain ⟨⟨i, path⟩, hmem, rfl⟩ := List.mem_map.mp hs
    obtain ⟨k, rfl, hk, hfollowed⟩ := mem_unseenAt hmem
    exact ⟨0 + k, rfl, by simpa using hk, hfollowed⟩
  have hmem {s : Stop} : s ∈ (done ++ [head]) ++ (rest ++ head.further u seen c) ↔
      s ∈ done ++ head :: rest ∨ s ∈ head.further u seen c := by
    simp [or_assoc]
  constructor
  case root => exact hmem.mpr (.inl frontier.root)
  case climbs =>
    intro s hs
    rcases hmem.mp hs with hs | hs
    · exact frontier.climbs s hs
    · obtain ⟨i, hroute, hposition, hfollowed⟩ := hnew hs
      rw [hroute]
      exact .up (frontier.climbs head (by simp)) found info hposition hfollowed
  case found =>
    intro s hs
    rcases hmem.mp hs with hs | hs
    · exact frontier.found s hs
    · obtain ⟨i, -, -, hfollowed⟩ := hnew hs
      exact exists_find?_of_contains hfollowed
  case known =>
    intro path hpath
    rcases List.mem_append.mp hpath with hpath | hpath
    · rw [← map_snd_unseenAt 0] at hpath
      obtain ⟨⟨i, _⟩, hi, rfl⟩ := List.mem_map.mp hpath
      exact ⟨⟨head.route ++ [i], _⟩, hmem.mpr (.inr (List.mem_map.mpr ⟨_, hi, rfl⟩)), rfl⟩
    · obtain ⟨s, hs, hpath⟩ := frontier.known path hpath
      exact ⟨s, hmem.mpr (.inl hs), hpath⟩
  case sorted =>
    refine List.pairwise_append.mpr ⟨(List.pairwise_cons.mp frontier.sorted).2, ?_, ?_⟩
    · exact List.pairwise_map.mpr ((pairwise_unseenAt 0 seen c.supertypes).imp fun h =>
        Route.rank_snoc_lt head.route h)
    · intro s hs t ht
      obtain ⟨i, hroute, -⟩ := hnew ht
      rw [hroute]
      exact frontier.lt_further (by simp [hs]) i
  case grown =>
    intro s hs
    rcases List.mem_append.mp hs with hs | hs
    · rcases frontier.grown s (List.mem_cons_of_mem _ hs) with hnil | ⟨d, hd, i, hroute⟩
      · exact .inl hnil
      · exact .inr ⟨d, List.mem_append_left _ hd, i, hroute⟩
    · obtain ⟨i, hroute, -⟩ := hnew hs
      exact .inr ⟨head, by simp, i, hroute⟩
  case earlier =>
    intro d hd s hs
    rcases List.mem_append.mp hs with hrest | hs
    · rcases List.mem_append.mp hd with hd | hd
      · exact frontier.earlier d hd s (List.mem_cons_of_mem _ hrest)
      · obtain rfl := List.mem_singleton.mp hd
        exact (List.pairwise_cons.mp frontier.sorted).1 s hrest
    · obtain ⟨i, hroute, -⟩ := hnew hs
      rw [hroute]
      refine frontier.lt_further ?_ i
      rcases List.mem_append.mp hd with hd | hd
      · exact List.mem_append_left _ hd
      · simpa using .inr (.inl (List.mem_singleton.mp hd))
  case closed =>
    intro d hd record' c' i parent found' info' position followed
    rcases List.mem_append.mp hd with hd | hd
    · obtain ⟨s, hs, hpath, hle⟩ :=
        frontier.closed d hd record' c' i parent found' info' position followed
      exact ⟨s, hmem.mpr (.inl hs), hpath, hle⟩
    · obtain rfl := List.mem_singleton.mp hd
      obtain rfl := Option.some.inj (found.symm.trans found')
      obtain rfl := Except.ok.inj (info.symm.trans info')
      rcases exists_unseenAt (i := 0) position followed with hseen | ⟨j, hj, hunseen⟩
      · obtain ⟨s, hs, hpath⟩ := frontier.known parent hseen
        exact ⟨s, hmem.mpr (.inl hs), hpath, le_of_lt (frontier.lt_further hs i)⟩
      · refine ⟨⟨d.route ++ [j], parent⟩, hmem.mpr (.inr ?_), rfl, ?_⟩
        · exact List.mem_map.mpr ⟨(j, parent), hunseen, rfl⟩
        · exact Route.rank_snoc_le d.route (by omega)
  case passed =>
    intro d hd
    rcases List.mem_append.mp hd with hd | hd
    · exact frontier.passed d hd
    · obtain rfl := List.mem_singleton.mp hd
      exact absent

end Frontier

/-! ## The search -/

/-- The classes that wait are those in the queue. -/
def Stop.queue (u : Universe) (waiting : List Stop) : List ClassRecord :=
  waiting.filterMap fun s => u.find? s.path

theorem queue_append_further (waiting : List Stop) (s : Stop) (seen : List String) (c : Class) :
    Stop.queue u (waiting ++ s.further u seen c) =
      Stop.queue u waiting ++ (u.unseenSupers seen c.supertypes).filterMap u.find? := by
  rw [Stop.queue, List.filterMap_append, ← map_snd_unseenAt 0, Stop.further, List.filterMap_map,
    List.filterMap_map]
  rfl

/-- A search that is at a frontier finds a class on the first of all routes to classes that give the
method. -/
theorem defaultFrom_first {budget : Nat} {done waiting : List Stop} {seen : List String}
    {holder : ClassRecord} {m : Method}
    (frontier : Frontier u start name descriptor done waiting seen)
    (h : u.defaultFrom name descriptor budget (Stop.queue u waiting) seen =
      .ok (some (holder, m))) :
    ∃ route, Climbs u start route holder.path ∧ u.GivesDefault name descriptor holder.path ∧
      ∀ other path, Climbs u start other path → u.GivesDefault name descriptor path →
        route.rank ≤ other.rank := by
  induction budget generalizing done waiting seen with
  | zero => cases hqueue : Stop.queue u waiting <;> rw [hqueue] at h <;> cases h
  | succ budget ih =>
    cases waiting with
    | nil => cases h
    | cons head rest =>
      obtain ⟨record, found⟩ := frontier.found head (by simp)
      have hqueue : Stop.queue u (head :: rest) = record :: Stop.queue u rest := by
        simp [Stop.queue, found]
      rw [hqueue] at h
      obtain ⟨c, info, h⟩ := bind_eq_ok.mp h
      have gives : u.GivesDefault name descriptor head.path ↔
          ∃ m, defaultMethod? c name descriptor = some m := givesDefault_iff found info
      split at h
      next m' hm =>
        cases h
        have hpath := path_of_find? found
        refine ⟨head.route, ?_, ?_, ?_⟩
        · rw [hpath]
          exact frontier.climbs head (by simp)
        · rw [hpath]
          exact gives.mpr ⟨m, hm⟩
        · intro other path hclimbs hgives
          rcases frontier.least hclimbs with ⟨d, hd, rfl, -⟩ | hle
          · exact absurd hgives (frontier.passed d hd)
          · exact hle
      next hnone =>
        have absent : ¬ u.GivesDefault name descriptor head.path := by
          rw [gives, hnone]
          simp
        refine ih (frontier.advance found info absent) ?_
        rw [queue_append_further]
        exact h

/-- The search does not fail where all classes can be decoded. -/
theorem exists_defaultFrom (decodes : u.Decodes) (budget : Nat) {queue : List ClassRecord}
    (h : ∀ record ∈ queue, ∃ c, record.info = .ok c) (seen : List String) :
    ∃ outcome, u.defaultFrom name descriptor budget queue seen = .ok outcome := by
  induction budget generalizing queue seen with
  | zero => cases queue <;> exact ⟨none, rfl⟩
  | succ budget ih =>
    cases queue with
    | nil => exact ⟨none, rfl⟩
    | cons record queue =>
      obtain ⟨c, info⟩ := h record List.mem_cons_self
      rw [defaultFrom, info, ok_bind]
      split
      · exact ⟨_, rfl⟩
      · refine ih ?_ _
        intro r hr
        rcases List.mem_append.mp hr with hr | hr
        · exact h r (List.mem_cons_of_mem _ hr)
        · obtain ⟨path, -, found⟩ := List.mem_filterMap.mp hr
          exact decodes path r found

/-- **The default method that a class inherits is the first in the order of the search.** It is
given by an interface on a route that is shorter than the routes to all others that give it, or as
long and earlier in the order of the supertypes. So an interface that refines this one and gives
the method as well is passed over only if every route to it is later, and none stands on the
way. -/
theorem default_method_first {record holder : ClassRecord} {m : Method}
    (found : u.find? record.path = some record)
    (h : u.resolveDefaultMethod record name descriptor = .ok (some (holder, m))) :
    ∃ route, Climbs u record.path route holder.path ∧ u.GivesDefault name descriptor holder.path ∧
      (∀ other path, Climbs u record.path other path → u.GivesDefault name descriptor path →
        path ≠ holder.path → route.rank < other.rank) ∧
      ∀ front back path, route = front ++ back → back ≠ [] → Climbs u record.path front path →
        ¬ u.GivesDefault name descriptor path := by
  have hqueue : Stop.queue u [⟨[], record.path⟩] = [record] := by simp [Stop.queue, found]
  rw [resolveDefaultMethod, ← hqueue] at h
  obtain ⟨route, hclimbs, hgives, hfirst⟩ := defaultFrom_first (Frontier.initial found) h
  refine ⟨route, hclimbs, hgives, ?_, ?_⟩
  · intro other path hother hpath hne
    refine lt_of_le_of_ne (hfirst other path hother hpath) ?_
    intro hrank
    obtain rfl := Route.rank_injective hrank
    exact hne (hother.unique hclimbs)
  · rintro front back path rfl hback hfront hpath
    have hlt := Route.rank_lt_append front hback
    exact absurd (hfirst front path hfront hpath) (not_le_of_gt hlt)

/-! ## A store and a store that refines it -/

/-- A method that saves, with a body that does nothing. -/
def saveMethod : Method := { name := "save", descriptor := "()V", body := [⟨0, .op 0xb1⟩] }

/-- An interface that gives a default method. -/
def storeInterface : Class where
  name := "p/Store"
  flags := { isInterface := true, isAbstract := true }
  methods := [saveMethod]

/-- An interface that refines it and gives the method as well. -/
def auditedStore : Class where
  name := "p/AuditedStore"
  interfaces := ["p/Store"]
  flags := { isInterface := true, isAbstract := true }
  methods := [saveMethod]

/-- A class that names the refined interface first. -/
def memoryStore : Class := { name := "p/MemoryStore", interfaces := ["p/Store", "p/AuditedStore"] }

/-- A class that names the refining interface first. -/
def cacheStore : Class := { name := "p/CacheStore", interfaces := ["p/AuditedStore", "p/Store"] }

/-- The interfaces and the classes. -/
def storeRecords : List ClassRecord :=
  [storeInterface, auditedStore, memoryStore, cacheStore].map .ofClass

/-- The universe of the sample. -/
def stores : Universe :=
  (ofRecords storeRecords { traversal := ["p"] }).toOption.get (by decide +kernel)

theorem stores_eq : ofRecords storeRecords { traversal := ["p"] } = .ok stores :=
  toOption_eq_some.mp (Option.some_get _).symm

/-- The classes of the sample are found by their names. -/
theorem find?_stores {c : Class} (h : c ∈ [storeInterface, auditedStore, memoryStore, cacheStore]) :
    stores.find? c.name = some (.ofClass c) :=
  (find?_ofRecords stores_eq).mpr ⟨List.mem_map_of_mem h, rfl⟩

theorem stores_decodes : stores.Decodes := by
  apply decodes_ofRecords stores_eq
  simp [storeRecords, ClassRecord.ofClass, ClassRecord.info, Fault.ofDecoding]

theorem stores_acyclic (c : String) : ¬ stores.OnCycle c :=
  not_onCycle_of_descends "p/Missing" (by decide +kernel) c

theorem auditedStore_gives : stores.GivesDefault "save" "()V" "p/AuditedStore" :=
  ⟨.ofClass auditedStore, auditedStore, find?_stores (c := auditedStore) (by simp), rfl, rfl,
    saveMethod, by simp [auditedStore], rfl, rfl, rfl, rfl⟩

/-- The class that names the refining interface first inherits its method. The interface that is
refined comes later on every route. -/
theorem default_method_first_cache :
    stores.find? "p/CacheStore" = some (.ofClass cacheStore) ∧
      stores.resolveDefaultMethod (.ofClass cacheStore) "save" "()V" =
        .ok (some (.ofClass auditedStore, saveMethod)) ∧
      ∃ route, Climbs stores "p/CacheStore" route "p/AuditedStore" ∧
        ∀ other, Climbs stores "p/CacheStore" other "p/Store" → route.rank < other.rank := by
  have found : stores.find? (ClassRecord.ofClass cacheStore).path = some (.ofClass cacheStore) :=
    find?_stores (by simp)
  have h : stores.resolveDefaultMethod (.ofClass cacheStore) "save" "()V" =
      .ok (some (.ofClass auditedStore, saveMethod)) := by rfl
  have gives : stores.GivesDefault "save" "()V" "p/Store" :=
    ⟨.ofClass storeInterface, storeInterface, find?_stores (c := storeInterface) (by simp), rfl,
      rfl, saveMethod, by simp [storeInterface], rfl, rfl, rfl, rfl⟩
  obtain ⟨route, hclimbs, -, hfirst, -⟩ := default_method_first found h
  exact ⟨found, h, route, hclimbs, fun other hother => hfirst other _ hother gives (by decide)⟩

/-- **A default method may be inherited that another interface overrides.** The hierarchy has no
cycle and all its classes are followed; the class is concrete, and neither it nor its superclass,
which is not in the universe, declares the method. It inherits the method of the interface that it
names first, although an interface above it refines this one and gives the method as well. -/
theorem default_method_overridden :
    stores.Decodes ∧ (∀ c, ¬ stores.OnCycle c) ∧
      (∀ path ∈ stores.paths, stores.contains .traversal path = true) ∧
      stores.find? "p/MemoryStore" = some (.ofClass memoryStore) ∧
      memoryStore.isConcrete = true ∧ memoryStore.methods.length = 0 ∧
      memoryStore.superclass.bind stores.find? = none ∧
      stores.resolveDefaultMethod (.ofClass memoryStore) "save" "()V" =
        .ok (some (.ofClass storeInterface, saveMethod)) ∧
      stores.Above "p/MemoryStore" "p/AuditedStore" ∧
      stores.StepsUp "p/AuditedStore" "p/Store" ∧
      stores.GivesDefault "save" "()V" "p/AuditedStore" := by
  have found := find?_stores (c := memoryStore) (by simp)
  refine ⟨stores_decodes, stores_acyclic, by decide +kernel, found, by decide, by decide, ?absent,
    by rfl, ?above, ?refines, auditedStore_gives⟩
  case absent =>
    show stores.find? "java/lang/Object" = none
    rfl
  case above =>
    exact .single ((stepsUp_iff found rfl).mpr (by decide))
  case refines =>
    have found := find?_stores (c := auditedStore) (by simp)
    exact (stepsUp_iff found rfl).mpr (by decide)

end ApiSurface.Universe
