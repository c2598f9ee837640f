import ApiSurface.Proofs.Universe.Followed
import Mathlib.Data.List.Chain
import Mathlib.Data.List.Perm.Subperm
import Mathlib.Logic.Relation

/-!
# Searches up the hierarchy

A search for a class above another keeps no record of what it has seen but the chain on which it
stands. `Searches` is this search without a budget. The classes on a chain are distinct classes of
the universe, so the search ends; and as it comes back to a class of its chain only on a cycle, its
three outcomes have exact meanings: the target is above the class, or it is not and there is no
cycle above the class, or the fault shows a way up into a cycle.

Main definitions: `StepsUp`, `Above`, `OnCycle`, `Searches`, `IsCycleChain`. Main statements:
`searches_descends`, `descends_exact`.
-/
namespace ApiSurface.Universe

variable {u : Universe} {target : String}

/-! ## The hierarchy as a relation -/

/-- A class of the universe has a type as its superclass or among its interfaces. -/
def StepsUp (u : Universe) (a b : String) : Prop :=
  ∃ record c, u.find? a = some record ∧ record.info = .ok c ∧ b ∈ c.supertypes

/-- The second type is the first or is reached from it by steps up from classes of the universe. -/
def Above (u : Universe) : String → String → Prop := Relation.ReflTransGen u.StepsUp

/-- The class is reached from itself by at least one step up. -/
def OnCycle (u : Universe) (a : String) : Prop := Relation.TransGen u.StepsUp a a

/-- Every class of the universe could be decoded. -/
def Decodes (u : Universe) : Prop :=
  ∀ path record, u.find? path = some record → ∃ c, record.info = .ok c

/-- The steps up from a class are those to its supertypes. -/
theorem stepsUp_iff {path other : String} {record : ClassRecord} {c : Class}
    (found : u.find? path = some record) (info : record.info = .ok c) :
    u.StepsUp path other ↔ other ∈ c.supertypes := by
  constructor
  · rintro ⟨record', c', found', info', hmem⟩
    obtain rfl := Option.some.inj (found.symm.trans found')
    obtain rfl := Except.ok.inj (info.symm.trans info')
    exact hmem
  · intro hmem
    exact ⟨record, c, found, info, hmem⟩

/-- There are no steps up from a type that is not in the universe. -/
theorem not_stepsUp {path other : String} (absent : u.find? path = none) :
    ¬ u.StepsUp path other := by
  rintro ⟨record, -, found, -⟩
  simp [absent] at found

/-- The classes of a universe can be decoded if the records that it was made of can. -/
theorem decodes_ofRecords {records : List ClassRecord} {scope : Scope}
    (h : ofRecords records scope = .ok u) (info : ∀ r ∈ records, ∃ c, r.info = .ok c) :
    u.Decodes := by
  intro path record found
  exact info record (mem_of_ofRecords h found)

/-! ## The search -/

/-- Searching the target above the types of a list, one after the other, from the last class of a
chain, ends with this outcome. -/
inductive Searches (u : Universe) (target : String) :
    List String → List String → Except Fault Bool → Prop
  | nowhere {chain : List String} : Searches u target chain [] (.ok false)
  | here {chain paths : List String} : Searches u target chain (target :: paths) (.ok true)
  /-- The class is on the chain. -/
  | again {chain paths : List String} {path : String} (other : path ≠ target)
      (mem : path ∈ chain) :
      Searches u target chain (path :: paths) (.error (.hierarchyCycle path (chain ++ [path])))
  /-- The type is not in the universe. -/
  | missing {chain paths : List String} {path : String} {outcome : Except Fault Bool}
      (other : path ≠ target) (fresh : path ∉ chain) (absent : u.find? path = none)
      (rest : Searches u target chain paths outcome) :
      Searches u target chain (path :: paths) outcome
  /-- The class could not be decoded. -/
  | undecoded {chain paths : List String} {path : String} {record : ClassRecord} {fault : Fault}
      (other : path ≠ target) (fresh : path ∉ chain) (found : u.find? path = some record)
      (info : record.info = .error fault) :
      Searches u target chain (path :: paths) (.error fault)
  /-- The target is above the class. -/
  | above {chain paths : List String} {path : String} {record : ClassRecord} {c : Class}
      (other : path ≠ target) (fresh : path ∉ chain) (found : u.find? path = some record)
      (info : record.info = .ok c)
      (up : Searches u target (chain ++ [path]) c.supertypes (.ok true)) :
      Searches u target chain (path :: paths) (.ok true)
  /-- The target is not above the class. -/
  | passed {chain paths : List String} {path : String} {record : ClassRecord} {c : Class}
      {outcome : Except Fault Bool} (other : path ≠ target) (fresh : path ∉ chain)
      (found : u.find? path = some record) (info : record.info = .ok c)
      (up : Searches u target (chain ++ [path]) c.supertypes (.ok false))
      (rest : Searches u target chain paths outcome) :
      Searches u target chain (path :: paths) outcome
  /-- The search above the class fails. -/
  | stopped {chain paths : List String} {path : String} {record : ClassRecord} {c : Class}
      {fault : Fault} (other : path ≠ target) (fresh : path ∉ chain)
      (found : u.find? path = some record) (info : record.info = .ok c)
      (up : Searches u target (chain ++ [path]) c.supertypes (.error fault)) :
      Searches u target chain (path :: paths) (.error fault)

/-! ## Searches end -/

/-- A chain of distinct classes that can be continued has not used up the universe. -/
theorem length_lt_size {chain : List String} {path : String} {record : ClassRecord}
    (distinct : chain.Nodup) (classes : chain ⊆ u.paths) (fresh : path ∉ chain)
    (found : u.find? path = some record) : chain.length < u.size := by
  have hpath := mem_paths.mpr ⟨record, found⟩
  have hsubset : path :: chain ⊆ u.paths := List.cons_subset.mpr ⟨hpath, classes⟩
  have hle := (List.subperm_of_subset (List.nodup_cons.mpr ⟨fresh, distinct⟩) hsubset).length_le
  rw [List.length_cons, length_paths] at hle
  omega

theorem searchAbove_here {budget : Nat} {chain : List String} :
    u.searchAbove target budget chain target = .ok true := by
  unfold searchAbove
  simp

theorem searchAbove_again {budget : Nat} {chain : List String} {path : String}
    (other : path ≠ target) (mem : path ∈ chain) :
    u.searchAbove target budget chain path =
      .error (.hierarchyCycle path (chain ++ [path])) := by
  unfold searchAbove
  simp [other, mem]

theorem searchAbove_missing {budget : Nat} {chain : List String} {path : String}
    (other : path ≠ target) (fresh : path ∉ chain) (absent : u.find? path = none) :
    u.searchAbove target budget chain path = .ok false := by
  unfold searchAbove
  simp [other, fresh, absent]

theorem searchAbove_succ {budget : Nat} {chain : List String} {path : String}
    {record : ClassRecord} (other : path ≠ target) (fresh : path ∉ chain)
    (found : u.find? path = some record) :
    u.searchAbove target (budget + 1) chain path = record.info >>= fun c =>
      c.supertypes.anyM (u.searchAbove target budget (chain ++ [path])) := by
  rw [searchAbove]
  simp [other, fresh, found]

/-- A search above one type that does not find the target goes on with the others. -/
theorem Searches.cons {chain paths : List String} {path : String} {outcome : Except Fault Bool}
    (first : Searches u target chain [path] (.ok false))
    (rest : Searches u target chain paths outcome) :
    Searches u target chain (path :: paths) outcome := by
  cases first with
  | missing other fresh absent _ => exact .missing other fresh absent rest
  | passed other fresh found info up _ => exact .passed other fresh found info up rest

/-- A search above one type that finds the target ends there. -/
theorem Searches.cons_true {chain paths : List String} {path : String}
    (first : Searches u target chain [path] (.ok true)) :
    Searches u target chain (path :: paths) (.ok true) := by
  cases first with
  | here => exact .here
  | missing _ _ _ rest => cases rest
  | above other fresh found info up => exact .above other fresh found info up
  | passed _ _ _ _ _ rest => cases rest

/-- A search above one type that fails ends there. -/
theorem Searches.cons_error {chain paths : List String} {path : String} {fault : Fault}
    (first : Searches u target chain [path] (.error fault)) :
    Searches u target chain (path :: paths) (.error fault) := by
  cases first with
  | again other mem => exact .again other mem
  | missing _ _ _ rest => cases rest
  | undecoded other fresh found info => exact .undecoded other fresh found info
  | passed _ _ _ _ _ rest => cases rest
  | stopped other fresh found info up => exact .stopped other fresh found info up

/-- Types are searched one after the other. -/
theorem searches_anyM {chain : List String} {search : String → Except Fault Bool}
    (each : ∀ path, Searches u target chain [path] (search path)) (paths : List String) :
    Searches u target chain paths (paths.anyM search) := by
  induction paths with
  | nil => exact .nowhere
  | cons path paths ih =>
    have first := each path
    rw [List.anyM]
    cases hsearch : search path with
    | error fault =>
      rw [hsearch] at first
      exact first.cons_error
    | ok found =>
      rw [hsearch] at first
      cases found with
      | true => exact first.cons_true
      | false => exact first.cons ih

/-- A search above one type goes further up only from a class of the universe that is neither the
target nor on the chain. -/
theorem searches_of_further {budget : Nat} {chain : List String} {path : String}
    (further : ∀ record, path ≠ target → path ∉ chain → u.find? path = some record →
      Searches u target chain [path] (u.searchAbove target budget chain path)) :
    Searches u target chain [path] (u.searchAbove target budget chain path) := by
  by_cases other : path = target
  · subst other
    rw [searchAbove_here]
    exact .here
  by_cases fresh : path ∈ chain
  · rw [searchAbove_again other fresh]
    exact .again other fresh
  cases found : u.find? path with
  | none =>
    rw [searchAbove_missing other fresh found]
    exact .missing other fresh found .nowhere
  | some record => exact further record other fresh found

/-- **A search that may take as many steps up as there are classes is not ended by its budget.** -/
theorem searches_searchAbove {budget : Nat} {chain : List String} (distinct : chain.Nodup)
    (classes : chain ⊆ u.paths) (enough : u.size ≤ chain.length + budget) (path : String) :
    Searches u target chain [path] (u.searchAbove target budget chain path) := by
  induction budget generalizing chain path with
  | zero =>
    apply searches_of_further
    intro record _ fresh found
    have hlt := length_lt_size distinct classes fresh found
    omega
  | succ budget ih =>
    apply searches_of_further
    intro record other fresh found
    rw [searchAbove_succ other fresh found]
    cases info : record.info with
    | error fault => exact .undecoded other fresh found info
    | ok c =>
      have hdistinct : (chain ++ [path]).Nodup := by
        simpa [List.nodup_append] using ⟨distinct, fun a ha h => fresh (h ▸ ha)⟩
      have hclasses : chain ++ [path] ⊆ u.paths := by
        simpa [List.append_subset] using ⟨classes, mem_paths.mpr ⟨record, found⟩⟩
      have henough : u.size ≤ (chain ++ [path]).length + budget := by
        simp
        omega
      have up := searches_anyM (ih hdistinct hclasses henough) c.supertypes
      rw [ok_bind]
      cases hup : c.supertypes.anyM (u.searchAbove target budget (chain ++ [path])) with
      | error fault =>
        rw [hup] at up
        exact .stopped other fresh found info up
      | ok above =>
        rw [hup] at up
        cases above with
        | true => exact .above other fresh found info up
        | false => exact .passed other fresh found info up .nowhere

/-- The search without a budget ends, and with what a look-up gives. -/
theorem searches_descends (u : Universe) (path target : String) :
    Searches u target [] [path] (u.descends path target) :=
  searches_searchAbove List.nodup_nil (List.nil_subset _) (by simp) path

/-- A search has one outcome: which step comes next is settled by the type and the chain. -/
theorem Searches.unique {chain paths : List String} {outcome outcome' : Except Fault Bool}
    (run : Searches u target chain paths outcome)
    (run' : Searches u target chain paths outcome') : outcome = outcome' := by
  induction run generalizing outcome' <;> cases run' <;> grind

/-- The search without a budget is the look-up. -/
theorem searches_iff {path : String} {outcome : Except Fault Bool} :
    Searches u target [] [path] outcome ↔ u.descends path target = outcome := by
  have run := searches_descends u path target
  constructor
  · intro run'
    exact run.unique run'
  · rintro rfl
    exact run

/-! ## What the outcomes mean -/

/-- The target is found above one of the types. -/
theorem Searches.above_of_true {chain paths : List String} {outcome : Except Fault Bool}
    (run : Searches u target chain paths outcome) (h : outcome = .ok true) :
    ∃ path ∈ paths, u.Above path target := by
  induction run with
  | nowhere => cases h
  | here => exact ⟨target, List.mem_cons_self, .refl⟩
  | again => cases h
  | missing _ _ _ _ ih =>
    obtain ⟨path, hmem, habove⟩ := ih h
    exact ⟨path, List.mem_cons_of_mem _ hmem, habove⟩
  | undecoded => cases h
  | @above _ _ path _ _ _ _ found info _ ih =>
    obtain ⟨parent, hmem, habove⟩ := ih rfl
    exact ⟨path, List.mem_cons_self, .head ((stepsUp_iff found info).mpr hmem) habove⟩
  | passed _ _ _ _ _ _ _ ih =>
    obtain ⟨path, hmem, habove⟩ := ih h
    exact ⟨path, List.mem_cons_of_mem _ hmem, habove⟩
  | stopped => cases h

/-- If the target is not found, every way up ends, and none of them leads to the target. -/
theorem Searches.ends_of_false {chain paths : List String} {outcome : Except Fault Bool}
    (run : Searches u target chain paths outcome) (h : outcome = .ok false) :
    ∀ path ∈ paths, Acc (fun b a => u.StepsUp a b) path ∧ ¬ u.Above path target := by
  induction run with
  | nowhere => simp
  | here => cases h
  | again => cases h
  | @missing _ _ path _ other _ absent _ ih =>
    intro p hp
    rcases List.mem_cons.mp hp with rfl | hp
    · refine ⟨⟨_, fun b hb => absurd hb (not_stepsUp absent)⟩, fun habove => ?_⟩
      rcases habove.cases_head with rfl | ⟨b, hb, -⟩
      · exact other rfl
      · exact not_stepsUp absent hb
    · exact ih h p hp
  | undecoded => cases h
  | above => cases h
  | @passed _ _ path _ _ _ other _ found info _ _ ihup ih =>
    intro p hp
    rcases List.mem_cons.mp hp with rfl | hp
    · have hup {b : String} (hb : u.StepsUp p b) := ihup rfl b ((stepsUp_iff found info).mp hb)
      refine ⟨⟨_, fun b hb => (hup hb).1⟩, fun habove => ?_⟩
      rcases habove.cases_head with rfl | ⟨b, hb, hrest⟩
      · exact other rfl
      · exact (hup hb).2 hrest
    · exact ih h p hp
  | stopped => cases h

/-- Where every way up ends there is no cycle above. -/
theorem not_onCycle_of_acc {path c : String} (h : Acc (fun b a => u.StepsUp a b) path)
    (above : u.Above path c) : ¬ u.OnCycle c := by
  induction h generalizing c with
  | intro path _ ih =>
    intro hcycle
    rcases above.cases_head with rfl | ⟨b, hb, hrest⟩
    · -- The first step of the cycle leads to a class above which there is no cycle.
      obtain ⟨b, hb, hrest⟩ := Relation.TransGen.head'_iff.mp hcycle
      exact ih b hb hrest hcycle
    · exact ih b hb hrest hcycle

/-- Where a search above each class ends with nothing, no class is on a cycle. -/
theorem not_onCycle_of_descends (target : String)
    (h : ∀ path ∈ u.paths, (u.descends path target).toOption = some false) (c : String) :
    ¬ u.OnCycle c := by
  intro cycle
  obtain ⟨b, ⟨record, _, found, _⟩, _⟩ := Relation.TransGen.head'_iff.mp cycle
  have hc := toOption_eq_some.mp (h c (mem_paths.mpr ⟨record, found⟩))
  have hends := (searches_descends u c target).ends_of_false hc c List.mem_cons_self
  exact not_onCycle_of_acc hends.1 .refl cycle

/-- A chain of steps up from a class, which ends when it comes to a class for the second time. -/
structure IsCycleChain (u : Universe) (path c : String) (chain : List String) : Prop where
  start : chain.head? = some path
  steps : chain.IsChain u.StepsUp
  closes : ∃ front cycle, chain = front ++ c :: cycle ++ [c]

/-- A search fails because its chain closes, or with the fault of a class above one of the types. -/
theorem Searches.cases_of_error {chain paths : List String} {outcome : Except Fault Bool}
    {fault : Fault} (run : Searches u target chain paths outcome) (h : outcome = .error fault)
    (steps : ∀ path ∈ paths, (chain ++ [path]).IsChain u.StepsUp) :
    (∃ path ∈ paths, ∃ c rest, fault = .hierarchyCycle c (chain ++ path :: rest) ∧
      (chain ++ path :: rest).IsChain u.StepsUp ∧
      ∃ front cycle, chain ++ path :: rest = front ++ c :: cycle ++ [c]) ∨
    ∃ path ∈ paths, ∃ other record, u.Above path other ∧ u.find? other = some record ∧
      record.info = .error fault := by
  -- What is found above a later type of the list is found above a type of the list.
  have later {path : String} {paths : List String} {P : String → Prop} (h : ∃ p ∈ paths, P p) :
      ∃ p ∈ path :: paths, P p := by
    obtain ⟨p, hmem, hp⟩ := h
    exact ⟨p, List.mem_cons_of_mem _ hmem, hp⟩
  induction run with
  | nowhere => cases h
  | here => cases h
  | @again chain paths path _ mem =>
    cases h
    obtain ⟨front, cycle, rfl⟩ := List.append_of_mem mem
    exact .inl ⟨path, List.mem_cons_self, path, [], rfl, steps path List.mem_cons_self,
      front, cycle, rfl⟩
  | missing _ _ _ _ ih =>
    exact (ih h fun p hp => steps p (List.mem_cons_of_mem _ hp)).imp later later
  | undecoded _ _ found info =>
    cases h
    exact .inr ⟨_, List.mem_cons_self, _, _, .refl, found, info⟩
  | above => cases h
  | passed _ _ _ _ _ _ _ ih =>
    exact (ih h fun p hp => steps p (List.mem_cons_of_mem _ hp)).imp later later
  | @stopped chain paths path _ c _ _ _ found info _ ih =>
    have hsteps : ∀ p ∈ c.supertypes, (chain ++ [path] ++ [p]).IsChain u.StepsUp := by
      intro p hp
      refine List.isChain_append.mpr ⟨steps path List.mem_cons_self, List.isChain_singleton p, ?_⟩
      simpa using (stepsUp_iff found info).mpr hp
    rcases ih h hsteps with ⟨p, -, c', rest, hfault, hchain, hcloses⟩ | ⟨p, hp, other, record, habove,
      hother⟩
    · have hassoc : chain ++ [path] ++ p :: rest = chain ++ path :: p :: rest := by simp
      rw [hassoc] at hfault hchain hcloses
      exact .inl ⟨path, List.mem_cons_self, c', p :: rest, hfault, hchain, hcloses⟩
    · exact .inr ⟨path, List.mem_cons_self, other, record,
        .head ((stepsUp_iff found info).mpr hp) habove, hother⟩

/-- A search fails only because its chain closes, if all classes can be decoded. -/
theorem Searches.cycle_of_error {chain paths : List String} {outcome : Except Fault Bool}
    {fault : Fault} (run : Searches u target chain paths outcome) (h : outcome = .error fault)
    (decodes : u.Decodes) (steps : ∀ path ∈ paths, (chain ++ [path]).IsChain u.StepsUp) :
    ∃ path ∈ paths, ∃ c rest, fault = .hierarchyCycle c (chain ++ path :: rest) ∧
      (chain ++ path :: rest).IsChain u.StepsUp ∧
      ∃ front cycle, chain ++ path :: rest = front ++ c :: cycle ++ [c] := by
  rcases run.cases_of_error h steps with hcycle | ⟨_, _, other, record, _, found, info⟩
  · exact hcycle
  · obtain ⟨c, hc⟩ := decodes other record found
    cases info.symm.trans hc

/-- The steps of a chain lead from its first class to each class on it. -/
theorem above_of_isChain {path c : String} {rest : List String}
    (steps : (path :: rest).IsChain u.StepsUp) (mem : c ∈ path :: rest) : u.Above path c := by
  induction rest generalizing path with
  | nil =>
    obtain rfl := List.mem_singleton.mp mem
    exact .refl
  | cons next rest ih =>
    obtain ⟨hstep, hrest⟩ := List.isChain_cons_cons.mp steps
    rcases List.mem_cons.mp mem with rfl | hmem
    · exact .refl
    · exact .head hstep (ih hrest hmem)

/-- A class is above the first class of a chain that ends with a cycle back at it. -/
theorem IsCycleChain.above {path c : String} {chain : List String}
    (h : IsCycleChain u path c chain) : u.Above path c := by
  obtain ⟨front, cycle, hchain⟩ := h.closes
  obtain ⟨rest, rfl⟩ := List.head?_eq_some_iff.mp h.start
  apply above_of_isChain h.steps
  rw [hchain]
  simp

/-- The class at which a chain ends with a cycle is on a cycle. -/
theorem IsCycleChain.onCycle {path c : String} {chain : List String}
    (h : IsCycleChain u path c chain) : u.OnCycle c := by
  obtain ⟨front, cycle, hchain⟩ := h.closes
  have hsteps : (front ++ (c :: (cycle ++ [c]))).IsChain u.StepsUp := by
    simpa [hchain] using h.steps
  have hcycle := (List.isChain_append.mp hsteps).2.1
  obtain ⟨next, rest, hrest⟩ : ∃ next rest, cycle ++ [c] = next :: rest :=
    List.exists_cons_of_ne_nil (by simp)
  rw [hrest] at hcycle
  obtain ⟨hstep, hrest'⟩ := List.isChain_cons_cons.mp hcycle
  have hmem : c ∈ next :: rest := by simp [← hrest]
  exact .head' hstep (above_of_isChain hrest' hmem)

/-- **A search up the hierarchy ends, decides what is above a class, and fails only on a cycle.**
The search without a budget ends with what the look-up gives. It finds the target only above the
class; it denies it only if the target is not above the class and no class above it is on a cycle;
and a fault shows a chain of steps from the class up into a cycle. So it decides what is above a
class wherever there is no cycle above it. -/
theorem descends_exact (decodes : u.Decodes) (path target : String) :
    (∀ outcome, Searches u target [] [path] outcome ↔ u.descends path target = outcome) ∧
      (u.descends path target = .ok true → u.Above path target) ∧
      (u.descends path target = .ok false →
        ¬ u.Above path target ∧ ∀ c, u.Above path c → ¬ u.OnCycle c) ∧
      (∀ fault, u.descends path target = .error fault →
        ∃ c chain, fault = .hierarchyCycle c chain ∧ u.Above path c ∧ u.OnCycle c ∧
          IsCycleChain u path c chain) ∧
      ((∀ c, u.Above path c → ¬ u.OnCycle c) →
        ∃ b, u.descends path target = .ok b ∧ (b = true ↔ u.Above path target)) := by
  have run := searches_descends u path target
  have found (h : u.descends path target = .ok true) : u.Above path target := by
    obtain ⟨p, hp, habove⟩ := run.above_of_true h
    obtain rfl := List.mem_singleton.mp hp
    exact habove
  have denied (h : u.descends path target = .ok false) :
      ¬ u.Above path target ∧ ∀ c, u.Above path c → ¬ u.OnCycle c := by
    obtain ⟨hends, hnot⟩ := run.ends_of_false h path List.mem_cons_self
    exact ⟨hnot, fun _ => not_onCycle_of_acc hends⟩
  have failed (fault : Fault) (h : u.descends path target = .error fault) :
      ∃ c chain, fault = .hierarchyCycle c chain ∧ u.Above path c ∧ u.OnCycle c ∧
        IsCycleChain u path c chain := by
    have hsteps : ∀ p ∈ [path], ([] ++ [p]).IsChain u.StepsUp := by simp
    obtain ⟨p, hp, c, rest, rfl, hchain, hcloses⟩ := run.cycle_of_error h decodes hsteps
    obtain rfl := List.mem_singleton.mp hp
    have cycle : IsCycleChain u p c ([] ++ p :: rest) := ⟨rfl, hchain, hcloses⟩
    exact ⟨c, _, rfl, cycle.above, cycle.onCycle, cycle⟩
  refine ⟨fun _ => searches_iff, found, denied, failed, fun acyclic => ?_⟩
  cases h : u.descends path target with
  | error fault =>
    obtain ⟨c, -, -, habove, hcycle, -⟩ := failed fault h
    exact absurd hcycle (acyclic c habove)
  | ok b =>
    refine ⟨b, rfl, ?_⟩
    cases b with
    | true => simpa using found h
    | false => simpa using (denied h).1

/-! ## Classes with and without a cycle above them -/

/-- A class below another and an interface outside the universe, and a class below two classes that
are each other's superclass. -/
def climbRecords : List ClassRecord :=
  [.ofClass { name := "p/A", superclass := "p/B", interfaces := ["p/Missing"] },
    .ofClass { name := "p/B" },
    .ofClass { name := "p/W", superclass := "p/X" },
    .ofClass { name := "p/X", superclass := "p/Y" },
    .ofClass { name := "p/Y", superclass := "p/X" }]

/-- The universe of these classes. -/
def climb : Universe := (ofRecords climbRecords {}).toOption.get (by decide +kernel)

theorem climb_decodes : climb.Decodes := by
  have h : ofRecords climbRecords {} = .ok climb := toOption_eq_some.mp (Option.some_get _).symm
  apply decodes_ofRecords h
  simp [climbRecords, ClassRecord.ofClass, ClassRecord.info, Fault.ofDecoding]

/-- The class at which a search came back to its chain, and the chain. -/
def closedAt? : Except Fault Bool → Option (String × List String)
  | .error (.hierarchyCycle c chain) => some (c, chain)
  | _ => none

theorem closedAt?_eq_some {outcome : Except Fault Bool} {c : String} {chain : List String} :
    closedAt? outcome = some (c, chain) ↔ outcome = .error (.hierarchyCycle c chain) := by
  unfold closedAt?
  split <;> simp_all

/-- The search for a class outside the cycle comes back to a class of the cycle. -/
theorem climb_descends_cyclic :
    climb.descends "p/W" "p/B" = .error (.hierarchyCycle "p/X" ["p/W", "p/X", "p/Y", "p/X"]) :=
  closedAt?_eq_some.mp (by decide +kernel)

/-- Above the first class of the sample everything is decided, also where the way up leaves the
universe; above `p/W` the search comes to a cycle on which `p/W` is not, and it still finds a class
of the cycle. -/
theorem descends_exact_samples :
    climb.Decodes ∧ climb.Above "p/A" "p/Missing" ∧ ¬ climb.Above "p/A" "p/X" ∧
      (∃ b, climb.descends "p/A" "p/B" = .ok b ∧ (b = true ↔ climb.Above "p/A" "p/B")) ∧
      climb.Above "p/W" "p/Y" ∧
      climb.descends "p/W" "p/B" = .error (.hierarchyCycle "p/X" ["p/W", "p/X", "p/Y", "p/X"]) ∧
      climb.OnCycle "p/X" := by
  have atA := descends_exact climb_decodes "p/A"
  have atW := descends_exact climb_decodes "p/W"
  have found := (atA "p/Missing").2.1 (toOption_eq_some.mp (by decide +kernel))
  have denied := (atA "p/X").2.2.1 (toOption_eq_some.mp (by decide +kernel))
  have decided := (atA "p/B").2.2.2.2 denied.2
  have foundCyclic := (atW "p/Y").2.1 (toOption_eq_some.mp (by decide +kernel))
  obtain ⟨c, chain, hfault, -, hcycle, -⟩ := (atW "p/B").2.2.2.1 _ climb_descends_cyclic
  obtain ⟨rfl, rfl⟩ := Fault.hierarchyCycle.inj hfault
  exact ⟨climb_decodes, found, denied.1, decided, foundCyclic, climb_descends_cyclic, hcycle⟩

end ApiSurface.Universe
