import ApiSurface.Idiom.Scan
import ApiSurface.Proofs.Universe.Ascent
import Mathlib.Data.List.Lex
import Mathlib.Data.List.ReduceOption

/-!
# What a scan finds

To match an idiom at a position is to choose which of its optional patterns are left out, so that
the others pass on the instructions from there on, one each. A scan finds a match exactly when
there is such a choice at some position that it may try. Then it finds the first position, and the
choice there that is the first in the lexicographic order in which taking comes before leaving out.
A scan fails only if a question about the hierarchy fails that one of the tests asks.

Main definitions: `Idiom.Fits`, `Idiom.FitsAt`, `Idiom.IsFirstMatch`, `Idiom.QueryFails`. Main
statements: `Idiom.search_some`, `Scan.find_first_match`.
-/
namespace ApiSurface

/-! ## Tests that ask about the hierarchy -/

/-- A test asks whether the class that declares a called method has a class above itself. -/
inductive Test.Asks : Test → String → Prop
  | call {name descriptor : Option String} {base : String} :
    Asks (.call (some (.descendant base)) name descriptor) base
  | anyOf {alternatives : List Test} {t : Test} {base : String} (mem : t ∈ alternatives)
    (asks : Asks t base) : Asks (.anyOf alternatives) base

namespace Test

variable {u : Universe} {p : Payload} {fault : Fault}

theorem holdsCall_error {owner : Option OwnerFilter} {name descriptor : Option String} {c : Call}
    (h : holdsCall u owner name descriptor c = .error fault) :
    ∃ base, Asks (.call owner name descriptor) base ∧ u.descends c.owner base = .error fault := by
  match owner with
  | none => cases h
  | some (.exact _) => cases h
  | some (.descendant base) =>
    rcases bind_eq_error.mp h with howner | ⟨_, _, hrest⟩
    · exact ⟨base, .call, howner⟩
    · cases hrest

mutual

/-- A test fails only if a question about the hierarchy does. -/
theorem holds_error {t : Test} (h : holds u p t = .error fault) :
    ∃ c base, p = .call c ∧ t.Asks base ∧ u.descends c.owner base = .error fault := by
  match t with
  | .opcode _ => cases h
  | .kind _ => cases h
  | .field owner name descriptor isStatic =>
    unfold holds at h
    split at h <;> cases h
  | .call owner name descriptor =>
    unfold holds at h
    split at h
    · next c =>
      obtain ⟨base, hasks, hquery⟩ := holdsCall_error h
      exact ⟨c, base, rfl, hasks, hquery⟩
    · cases h
  | .literal => cases h
  | .anyOf alternatives =>
    obtain ⟨c, base, t, hcall, hmem, hasks, hquery⟩ := holdsAny_error h
    exact ⟨c, base, hcall, .anyOf hmem hasks, hquery⟩

theorem holdsAny_error {ts : List Test} (h : holdsAny u p ts = .error fault) :
    ∃ c base t, p = .call c ∧ t ∈ ts ∧ t.Asks base ∧ u.descends c.owner base = .error fault := by
  match ts with
  | [] => cases h
  | t :: ts =>
    rcases bind_eq_error.mp h with hfirst | ⟨passed, _, hrest⟩
    · obtain ⟨c, base, hcall, hasks, hquery⟩ := holds_error hfirst
      exact ⟨c, base, t, hcall, List.mem_cons_self, hasks, hquery⟩
    · cases passed with
      | true => cases hrest
      | false =>
        obtain ⟨c, base, t', hcall, hmem, hasks, hquery⟩ := holdsAny_error hrest
        exact ⟨c, base, t', hcall, List.mem_cons_of_mem _ hmem, hasks, hquery⟩

end

end Test

/-- The instruction passes the test of the pattern. -/
def Pattern.Passes (u : Universe) (p : Pattern) (i : Instruction) : Prop :=
  p.test.holds u i.payload = .ok true

namespace Idiom

variable {u : Universe} {p : Pattern} {ps idiom : Idiom} {window : List Instruction}
  {choice other : List Bool} {captures : Captures} {fault : Fault}

/-! ## Choices -/

/-- The patterns that a choice takes. -/
def taken (idiom : Idiom) (choice : List Bool) : Idiom :=
  ((idiom.zip choice).filter (·.2)).map (·.1)

/-- A choice of patterns matches the first instructions of a window. -/
structure Fits (u : Universe) (idiom : Idiom) (choice : List Bool) (window : List Instruction) :
    Prop where
  /-- There is a decision for each pattern. -/
  decides : choice.length = idiom.length
  /-- What is left out is optional. -/
  optional : ∀ p, (p, false) ∈ idiom.zip choice → p.isOptional = true
  /-- What is taken passes on one instruction after the other. -/
  passes : List.Forall₂ (Pattern.Passes u) (taken idiom choice)
    (window.take (taken idiom choice).length)

/-- The order of choices: at the first pattern on which two choices differ, the earlier one takes
it. -/
def Earlier (choice other : List Bool) : Prop := List.Lex (· > ·) choice other

theorem fits_nil : Fits u [] choice window ↔ choice = [] := by
  constructor
  · intro h
    exact List.length_eq_zero_iff.mp h.decides
  · rintro rfl
    exact ⟨rfl, by simp, by simp [taken]⟩

/-- A pattern is taken if it passes on the first instruction, and the others match what follows. -/
theorem fits_take : Fits u (p :: ps) (true :: choice) window ↔
    ∃ i rest, window = i :: rest ∧ p.Passes u i ∧ Fits u ps choice rest := by
  have htaken : taken (p :: ps) (true :: choice) = p :: taken ps choice := by simp [taken]
  constructor
  · rintro ⟨hdecides, hoptional, hpasses⟩
    rw [htaken] at hpasses
    cases window with
    | nil => cases hpasses
    | cons i rest =>
      obtain ⟨hp, hps⟩ := List.forall₂_cons.mp hpasses
      refine ⟨i, rest, rfl, hp, ?_, ?_, hps⟩
      · simpa using hdecides
      · intro q hq
        exact hoptional q (by simp [hq])
  · rintro ⟨i, rest, rfl, hp, hdecides, hoptional, hpasses⟩
    constructor
    · simpa using hdecides
    · intro q hq
      exact hoptional q (by simpa using hq)
    · rw [htaken]
      exact .cons hp hpasses

/-- A pattern is left out if it is optional, and the others match. -/
theorem fits_leave : Fits u (p :: ps) (false :: choice) window ↔
    p.isOptional = true ∧ Fits u ps choice window := by
  have htaken : taken (p :: ps) (false :: choice) = taken ps choice := by simp [taken]
  constructor
  · rintro ⟨hdecides, hoptional, hpasses⟩
    rw [htaken] at hpasses
    refine ⟨hoptional p (by simp), ?_, ?_, hpasses⟩
    · simpa using hdecides
    · intro q hq
      exact hoptional q (by simp [hq])
  · rintro ⟨hp, hdecides, hoptional, hpasses⟩
    constructor
    · simpa using hdecides
    · intro q hq
      rcases List.mem_cons.mp hq with heq | hq
      · cases heq
        exact hp
      · exact hoptional q hq
    · rw [htaken]
      exact hpasses

/-- The first pattern is taken or left out. -/
theorem Fits.cases (h : Fits u (p :: ps) choice window) :
    (∃ rest, choice = true :: rest) ∨ ∃ rest, choice = false :: rest := by
  match choice, h.decides with
  | true :: rest, _ => exact .inl ⟨rest, rfl⟩
  | false :: rest, _ => exact .inr ⟨rest, rfl⟩

/-! ## Matching at a position -/

/-- Put an entry in front of what was captured. -/
def inFront (entry : Option Instruction) (result : Except Fault (Option Captures)) :
    Except Fault (Option Captures) := do
  let captures ← result
  .ok (captures.map (entry :: ·))

section InFront

variable {entry : Option Instruction} {result : Except Fault (Option Captures)}

@[simp] theorem inFront_eq_some : inFront entry result = .ok (some captures) ↔
    ∃ further, captures = entry :: further ∧ result = .ok (some further) := by
  rcases result with fault | _ | further <;> simp [inFront, eq_comm]

@[simp] theorem inFront_eq_none : inFront entry result = .ok none ↔ result = .ok none := by
  rcases result with fault | _ | further <;> simp [inFront]

@[simp] theorem inFront_eq_error : inFront entry result = .error fault ↔ result = .error fault := by
  rcases result with fault | _ | further <;> simp [inFront]

end InFront

/-- Match patterns, the first of which takes the first instruction. -/
def matchTaking (u : Universe) (p : Pattern) (ps : Idiom) :
    List Instruction → Except Fault (Option Captures)
  | [] => .ok none
  | i :: rest => do
    if ← p.test.holds u i.payload then inFront (some i) (matchAt u ps rest) else .ok none

/-- Match patterns, the first of which is left out. -/
def matchLeaving (u : Universe) (p : Pattern) (ps : Idiom) (window : List Instruction) :
    Except Fault (Option Captures) :=
  if p.isOptional then inFront none (matchAt u ps window) else .ok none

/-- A pattern is left out only if it cannot be taken. -/
theorem matchAt_cons : matchAt u (p :: ps) window =
    matchTaking u p ps window >>= fun
      | some captures => .ok (some captures)
      | none => matchLeaving u p ps window := by
  cases window with
  | nil => rfl
  | cons i rest =>
    rw [matchAt, matchTaking]
    cases p.test.holds u i.payload with
    | error fault => rfl
    | ok passed =>
      cases passed with
      | false => rfl
      | true => cases matchAt u ps rest <;> rfl

theorem matchTaking_some (h : matchTaking u p ps window = .ok (some captures)) :
    ∃ i rest further, window = i :: rest ∧ captures = some i :: further ∧ p.Passes u i ∧
      matchAt u ps rest = .ok (some further) := by
  cases window with
  | nil => cases h
  | cons i rest =>
    obtain ⟨passed, hpassed, h⟩ := bind_eq_ok.mp h
    cases passed with
    | false => cases h
    | true =>
      obtain ⟨further, hcaptures, hfurther⟩ := inFront_eq_some.mp h
      exact ⟨i, rest, further, rfl, hcaptures, hpassed, hfurther⟩

theorem matchTaking_none {i : Instruction} {rest : List Instruction}
    (h : matchTaking u p ps (i :: rest) = .ok none) (passes : p.Passes u i) :
    matchAt u ps rest = .ok none := by
  obtain ⟨passed, hpassed, h⟩ := bind_eq_ok.mp h
  obtain rfl := Except.ok.inj (passes.symm.trans hpassed)
  exact inFront_eq_none.mp h

theorem matchTaking_error (h : matchTaking u p ps window = .error fault) :
    ∃ i rest, window = i :: rest ∧
      (p.test.holds u i.payload = .error fault ∨ matchAt u ps rest = .error fault) := by
  cases window with
  | nil => cases h
  | cons i rest =>
    refine ⟨i, rest, rfl, ?_⟩
    rcases bind_eq_error.mp h with htest | ⟨passed, -, h⟩
    · exact .inl htest
    · cases passed with
      | false => cases h
      | true => exact .inr (inFront_eq_error.mp h)

theorem matchLeaving_some (h : matchLeaving u p ps window = .ok (some captures)) :
    ∃ further, captures = none :: further ∧ p.isOptional = true ∧
      matchAt u ps window = .ok (some further) := by
  by_cases hp : p.isOptional = true
  · simpa [matchLeaving, hp] using h
  · simp [matchLeaving, hp] at h

theorem matchLeaving_none (h : matchLeaving u p ps window = .ok none)
    (hp : p.isOptional = true) : matchAt u ps window = .ok none := by
  simpa [matchLeaving, hp] using h

theorem matchLeaving_error (h : matchLeaving u p ps window = .error fault) :
    matchAt u ps window = .error fault := by
  by_cases hp : p.isOptional = true
  · simpa [matchLeaving, hp] using h
  · simp [matchLeaving, hp] at h

/-- Where patterns do not match, no choice of them does. -/
theorem matchAt_none (h : matchAt u idiom window = .ok none) : ¬ Fits u idiom choice window := by
  induction idiom generalizing window choice with
  | nil => cases h
  | cons p ps ih =>
    rw [matchAt_cons] at h
    obtain ⟨attempt, htaking, h⟩ := bind_eq_ok.mp h
    cases attempt with
    | some captures => cases h
    | none =>
      intro hfits
      rcases hfits.cases with ⟨rest, rfl⟩ | ⟨rest, rfl⟩
      · obtain ⟨i, further, rfl, hpasses, hrest⟩ := fits_take.mp hfits
        exact ih (matchTaking_none htaking hpasses) hrest
      · obtain ⟨hp, hrest⟩ := fits_leave.mp hfits
        exact ih (matchLeaving_none h hp) hrest

/-- Captures show the first choice that matches at the start of a window. -/
structure IsFirstChoice (u : Universe) (idiom : Idiom) (window : List Instruction)
    (captures : Captures) : Prop where
  /-- The patterns with an instruction are a choice that matches. -/
  fits : Fits u idiom (captures.map Option.isSome) window
  /-- All other choices that match are later. -/
  first : ∀ other, Fits u idiom other window →
    other = captures.map Option.isSome ∨ Earlier (captures.map Option.isSome) other
  /-- The captured instructions follow one another. -/
  consecutive : captures.reduceOption <+: window

/-- Where patterns match, they match with the first choice. -/
theorem matchAt_some (h : matchAt u idiom window = .ok (some captures)) :
    IsFirstChoice u idiom window captures := by
  induction idiom generalizing window captures with
  | nil =>
    cases h
    constructor
    · exact fits_nil.mpr rfl
    · intro other hother
      exact .inl (fits_nil.mp hother)
    · exact List.nil_prefix
  | cons p ps ih =>
    rw [matchAt_cons] at h
    obtain ⟨attempt, htaking, h⟩ := bind_eq_ok.mp h
    cases attempt with
    | some attempt =>
      cases h
      obtain ⟨i, rest, further, rfl, rfl, hpasses, hrest⟩ := matchTaking_some htaking
      have first := ih hrest
      constructor
      · exact fits_take.mpr ⟨i, rest, rfl, hpasses, first.fits⟩
      · intro other hother
        rcases hother.cases with ⟨later, rfl⟩ | ⟨later, rfl⟩
        · obtain ⟨_, _, hwindow, -, hfits⟩ := fits_take.mp hother
          cases hwindow
          rcases first.first later hfits with rfl | hearlier
          · exact .inl rfl
          · exact .inr (.cons hearlier)
        · exact .inr (.rel (show true > false by decide))
      · simpa using first.consecutive
    | none =>
      obtain ⟨further, rfl, hp, hrest⟩ := matchLeaving_some h
      have first := ih hrest
      constructor
      · exact fits_leave.mpr ⟨hp, first.fits⟩
      · intro other hother
        rcases hother.cases with ⟨later, rfl⟩ | ⟨later, rfl⟩
        · -- A choice that takes the pattern would have been found.
          obtain ⟨i, rest, rfl, hpasses, hfits⟩ := fits_take.mp hother
          exact absurd hfits (matchAt_none (matchTaking_none htaking hpasses))
        · rcases first.first later (fits_leave.mp hother).2 with rfl | hearlier
          · exact .inl rfl
          · exact .inr (.cons hearlier)
      · simpa using first.consecutive

/-- A question about the hierarchy fails that a pattern asks for a call of the window. -/
def QueryFails (u : Universe) (idiom : Idiom) (window : List Instruction) (fault : Fault) : Prop :=
  ∃ p ∈ idiom, ∃ i ∈ window, ∃ c base, i.payload = .call c ∧ p.test.Asks base ∧
    u.descends c.owner base = .error fault

theorem QueryFails.mono {more : Idiom} {wider : List Instruction}
    (h : QueryFails u idiom window fault) (hidiom : idiom ⊆ more) (hwindow : window ⊆ wider) :
    QueryFails u more wider fault := by
  obtain ⟨p, hp, i, hi, hquery⟩ := h
  exact ⟨p, hidiom hp, i, hwindow hi, hquery⟩

/-- Matching fails only if a question about the hierarchy does. -/
theorem matchAt_error (h : matchAt u idiom window = .error fault) :
    QueryFails u idiom window fault := by
  induction idiom generalizing window with
  | nil => cases h
  | cons p ps ih =>
    have hps : ps ⊆ p :: ps := List.subset_cons_self p ps
    rw [matchAt_cons] at h
    rcases bind_eq_error.mp h with htaking | ⟨attempt, -, h⟩
    · obtain ⟨i, rest, rfl, htest | hrest⟩ := matchTaking_error htaking
      · obtain ⟨c, base, hcall, hasks, hquery⟩ := Test.holds_error htest
        exact ⟨p, List.mem_cons_self, i, List.mem_cons_self, c, base, hcall, hasks, hquery⟩
      · exact (ih hrest).mono hps (List.subset_cons_self i rest)
    · cases attempt with
      | some _ => cases h
      | none => exact (ih (matchLeaving_error h)).mono hps (List.Subset.refl _)

/-! ## Searching a window -/

/-- A choice of patterns matches at a position that a search may try. -/
structure FitsAt (u : Universe) (idiom : Idiom) (anchored : Bool) (window : List Instruction)
    (position : Nat) (choice : List Bool) : Prop where
  inside : position ≤ window.length
  /-- An anchored search tries the start only. -/
  start : anchored = true → position = 0
  fits : Fits u idiom choice (window.drop position)

/-- Captures show the first choice that matches at the first position. -/
structure IsFirstMatch (u : Universe) (idiom : Idiom) (anchored : Bool)
    (window : List Instruction) (position : Nat) (captures : Captures) : Prop where
  /-- The patterns with an instruction are a choice that matches at the position. -/
  fits : FitsAt u idiom anchored window position (captures.map Option.isSome)
  /-- All other matches are later: at a later position, or with a later choice. -/
  first : ∀ position' other, FitsAt u idiom anchored window position' other →
    position < position' ∨ position = position' ∧
      (other = captures.map Option.isSome ∨ Earlier (captures.map Option.isSome) other)
  /-- The captured instructions follow one another from the position on. -/
  consecutive : captures.reduceOption <+: window.drop position

variable {anchored : Bool} {position : Nat}

@[simp] theorem fitsAt_zero :
    FitsAt u idiom anchored window 0 choice ↔ Fits u idiom choice window :=
  ⟨fun h => h.fits, fun h => ⟨Nat.zero_le _, fun _ => rfl, h⟩⟩

/-- A match further on is one of the rest of the window, and the search is not anchored. -/
@[simp] theorem fitsAt_succ {i : Instruction} :
    FitsAt u idiom anchored (i :: window) (position + 1) choice ↔
      anchored = false ∧ FitsAt u idiom false window position choice := by
  constructor
  · rintro ⟨hinside, hstart, hfits⟩
    have hanchored : anchored = false := by
      cases anchored with
      | false => rfl
      | true => simp at hstart
    exact ⟨hanchored, by simpa using hinside, by simp, by simpa using hfits⟩
  · rintro ⟨rfl, hinside, -, hfits⟩
    exact ⟨by simpa using hinside, by simp, by simpa using hfits⟩

theorem search_cons {i : Instruction} : search u idiom anchored (i :: window) =
    matchAt u idiom (i :: window) >>= fun
      | some captures => .ok (some captures)
      | none => if anchored then .ok none else search u idiom anchored window := rfl

/-- Where a search finds nothing there is no match. -/
theorem search_none (h : search u idiom anchored window = .ok none) :
    ¬ FitsAt u idiom anchored window position choice := by
  induction window generalizing position with
  | nil =>
    intro hfits
    have hposition : position = 0 := Nat.le_zero.mp hfits.inside
    subst hposition
    exact matchAt_none h (fitsAt_zero.mp hfits)
  | cons i rest ih =>
    rw [search_cons] at h
    obtain ⟨attempt, hmatch, h⟩ := bind_eq_ok.mp h
    cases attempt with
    | some captures => cases h
    | none =>
      intro hfits
      cases position with
      | zero => exact matchAt_none hmatch (fitsAt_zero.mp hfits)
      | succ position =>
        obtain ⟨rfl, hfurther⟩ := fitsAt_succ.mp hfits
        exact ih h hfurther

/-- A match at the start with the first choice is the first match. -/
theorem IsFirstChoice.isFirstMatch (h : IsFirstChoice u idiom window captures) :
    IsFirstMatch u idiom anchored window 0 captures := by
  constructor
  · exact fitsAt_zero.mpr h.fits
  · intro position other hother
    cases position with
    | zero => exact .inr ⟨rfl, h.first other (fitsAt_zero.mp hother)⟩
    | succ position => exact .inl (Nat.succ_pos position)
  · exact h.consecutive

/-- What a search finds is the first match. -/
theorem search_some (h : search u idiom anchored window = .ok (some captures)) :
    ∃ position, IsFirstMatch u idiom anchored window position captures := by
  induction window with
  | nil => exact ⟨0, (matchAt_some h).isFirstMatch⟩
  | cons i rest ih =>
    rw [search_cons] at h
    obtain ⟨attempt, hmatch, h⟩ := bind_eq_ok.mp h
    cases attempt with
    | some found =>
      cases h
      exact ⟨0, (matchAt_some hmatch).isFirstMatch⟩
    | none =>
      cases anchored with
      | true => cases h
      | false =>
        obtain ⟨position, hfirst⟩ := ih h
        refine ⟨position + 1, fitsAt_succ.mpr ⟨rfl, hfirst.fits⟩, ?_, hfirst.consecutive⟩
        intro position' other hother
        cases position' with
        | zero => exact absurd (fitsAt_zero.mp hother) (matchAt_none hmatch)
        | succ position' =>
          rcases hfirst.first position' other (fitsAt_succ.mp hother).2 with hlt | ⟨rfl, hchoice⟩
          · left
            omega
          · exact .inr ⟨rfl, hchoice⟩

/-- A search fails only if a question about the hierarchy does. -/
theorem search_error (h : search u idiom anchored window = .error fault) :
    QueryFails u idiom window fault := by
  induction window with
  | nil => exact matchAt_error h
  | cons i rest ih =>
    rw [search_cons] at h
    rcases bind_eq_error.mp h with hmatch | ⟨attempt, -, h⟩
    · exact matchAt_error hmatch
    · cases attempt with
      | some _ => cases h
      | none =>
        cases anchored with
        | true => cases h
        | false => exact (ih h).mono (List.Subset.refl _) (List.subset_cons_self i rest)

end Idiom

/-! ## Scans -/

namespace Scan

variable {α : Type} {u : Universe} {s : Scan} {idiom : Idiom}

/-- A list in program order as the scan goes through it, and the other way round. -/
def inOrder (s : Scan) (l : List α) : List α := if s.backward then l.reverse else l

@[simp] theorem inOrder_inOrder (l : List α) : s.inOrder (s.inOrder l) = l := by
  unfold inOrder
  split <;> simp

@[simp] theorem length_inOrder (l : List α) : (s.inOrder l).length = l.length := by
  unfold inOrder
  split <;> simp

theorem inOrder_subset (l : List α) : s.inOrder l ⊆ l := by
  unfold inOrder
  split <;> simp

/-- A scan searches for the idiom in its order, and gives the captures in program order. -/
theorem find_eq_search : s.find u idiom =
    (Idiom.search u (s.inOrder idiom) s.anchored s.window).map (Option.map s.inOrder) := by
  unfold find inOrder
  cases s.backward with
  | true => rfl
  | false =>
    simp only [Bool.false_eq_true, if_false]
    cases Idiom.search u idiom s.anchored s.window with
    | error fault => rfl
    | ok result => cases result <;> rfl

/-- **A scan finds the first match of an idiom if there is one.** It fails only if a question about
the hierarchy does that one of its tests asks. Otherwise it finds a match exactly when a choice of
the patterns matches at a position that it may try; and what it finds has one entry for each
pattern, in program order, and is, in the order of the scan, the first choice at the first
position, with the instructions there. -/
theorem find_first_match (u : Universe) (s : Scan) (idiom : Idiom) :
    (∀ fault, s.find u idiom = .error fault → Idiom.QueryFails u idiom s.window fault) ∧
      ∀ result, s.find u idiom = .ok result →
        (result.isSome ↔ ∃ position choice,
          Idiom.FitsAt u (s.inOrder idiom) s.anchored s.window position choice) ∧
        ∀ found, result = some found → found.length = idiom.length ∧ ∃ position,
          Idiom.IsFirstMatch u (s.inOrder idiom) s.anchored s.window position (s.inOrder found) := by
  rw [find_eq_search]
  cases hsearch : Idiom.search u (s.inOrder idiom) s.anchored s.window with
  | error fault =>
    refine ⟨?_, nofun⟩
    intro fault' h
    obtain rfl := Except.error.inj h
    exact (Idiom.search_error hsearch).mono (inOrder_subset idiom) (List.Subset.refl _)
  | ok outcome =>
    refine ⟨nofun, ?_⟩
    intro result h
    obtain rfl := Except.ok.inj h
    cases outcome with
    | none =>
      have hnone : ¬ ∃ position choice,
          Idiom.FitsAt u (s.inOrder idiom) s.anchored s.window position choice := by
        rintro ⟨position, choice, hfits⟩
        exact Idiom.search_none hsearch hfits
      exact ⟨by simpa using hnone, nofun⟩
    | some captures =>
      obtain ⟨position, hfirst⟩ := Idiom.search_some hsearch
      constructor
      · simpa using ⟨position, _, hfirst.fits⟩
      · intro found h
        obtain rfl := Option.some.inj h
        have hlength := hfirst.fits.fits.decides
        refine ⟨by simpa using hlength, position, ?_⟩
        rw [inOrder_inOrder]
        exact hfirst

/-! ## A value that is loaded and thrown -/

/-- A body that loads a value and throws it, with markers. -/
def throwingBody : List Instruction :=
  [⟨0, .op 0⟩, ⟨1, .lineNumber 7⟩, ⟨1, .localSlot Opcode.aload 1⟩, ⟨3, .label⟩,
    ⟨3, .op Opcode.athrow⟩]

/-- One or two values are loaded, and one is thrown, cast or not. -/
def loadAndThrow : Idiom :=
  [.optional (.opcode Opcode.aload), .required (.opcode Opcode.aload),
    .optional (.opcode Opcode.checkcast), .required (.opcode Opcode.athrow)]

/-- The instructions of the body that the idiom finds. -/
def thrownCaptures : Captures :=
  [none, some ⟨1, .localSlot Opcode.aload 1⟩, none, some ⟨3, .op Opcode.athrow⟩]

/-- A call of a class above which there is a cycle. -/
def cyclicCall : List Instruction := [⟨0, .call ⟨.virtual, "p/W", "run", "()V"⟩⟩]

/-- A call of a descendant of a class. -/
def descendantCall : Idiom := [.required (.call (some (.descendant "p/B")) none none)]

/-- The optional first load is left out, since no other follows: the body is searched forward and
backward with the same captures. The start of the body does not match, and a search that asks about
a cyclic hierarchy fails. -/
theorem find_first_match_throw :
    (∃ position, Idiom.IsFirstMatch Universe.climb loadAndThrow false
      (forward "m" throwingBody).window position thrownCaptures) ∧
    (∃ position, Idiom.IsFirstMatch Universe.climb loadAndThrow.reverse false
      (before "m" throwingBody 5).window position thrownCaptures.reverse) ∧
    (¬ ∃ position choice, Idiom.FitsAt Universe.climb loadAndThrow true
      (forward "m" throwingBody).anchor.window position choice) ∧
    ∃ fault, (forward "m" cyclicCall).find Universe.climb descendantCall = .error fault ∧
      Idiom.QueryFails Universe.climb descendantCall (forward "m" cyclicCall).window fault := by
  refine ⟨?forward, ?backward, ?anchored, ?failing⟩
  case forward =>
    have hfind : (forward "m" throwingBody).find Universe.climb loadAndThrow =
        .ok (some thrownCaptures) := toOption_eq_some.mp (by decide +kernel)
    exact (((find_first_match Universe.climb _ loadAndThrow).2 _ hfind).2 _ rfl).2
  case backward =>
    have hfind : (before "m" throwingBody 5).find Universe.climb loadAndThrow =
        .ok (some thrownCaptures) := toOption_eq_some.mp (by decide +kernel)
    exact (((find_first_match Universe.climb _ loadAndThrow).2 _ hfind).2 _ rfl).2
  case anchored =>
    have hfind : (forward "m" throwingBody).anchor.find Universe.climb loadAndThrow = .ok none :=
      toOption_eq_some.mp (by decide +kernel)
    have hiff := ((find_first_match Universe.climb _ loadAndThrow).2 _ hfind).1
    intro hfits
    simpa using hiff.mpr hfits
  case failing =>
    obtain ⟨fault, hfault⟩ : ∃ fault,
        (forward "m" cyclicCall).find Universe.climb descendantCall = .error fault := by
      apply not_exists_ok.mp
      rintro ⟨result, hresult⟩
      have hnone : ((forward "m" cyclicCall).find Universe.climb descendantCall).toOption = none :=
        by decide +kernel
      simp [hresult, Except.toOption] at hnone
    exact ⟨fault, hfault, (find_first_match Universe.climb _ descendantCall).1 fault hfault⟩

end Scan

end ApiSurface
