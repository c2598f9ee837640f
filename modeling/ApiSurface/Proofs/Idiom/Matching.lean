import ApiSurface.Proofs.Idiom.Search

/-!
# Matching idioms part by part

A pattern that has to be there matches exactly where an instruction passes its test. So an idiom
whose optional patterns each stand next to one that tells when to leave them out has one way to
match. When it is tried at the end of some code, it takes a part of the code, whatever stands
before that part and whatever patterns are still to be matched there, or it does not match at all.
Where the patterns of an idiom are put together from those of its parts, so is what they take.

Main definitions: `Takes`, `Refuses`. Main statements: `Takes.append`, `Refuses.append_takes`,
`Takes.find`, `Refuses.find`.
-/
namespace ApiSurface.Idiom

variable {u : Universe} {test opt : Test} {ps idiom idiom' : Idiom} {i : Instruction}
  {rest pushes pushes' tail : List Instruction} {captures captures' : Captures}

/-! ## One pattern -/

/-- A pattern that has to be there takes an instruction that passes. -/
theorem matchAt_required (h : test.holds u i.payload = .ok true) :
    matchAt u (.required test :: ps) (i :: rest) = inFront (some i) (matchAt u ps rest) := by
  rw [matchAt_cons, matchTaking]
  simp only [Pattern.required, h, ok_bind, if_true]
  rcases matchAt u ps rest with fault | _ | further <;> simp [inFront, matchLeaving]

/-- A pattern that has to be there does not match where the instruction does not pass. -/
theorem matchAt_required_none (h : test.holds u i.payload = .ok false) :
    matchAt u (.required test :: ps) (i :: rest) = .ok none := by
  rw [matchAt_cons, matchTaking]
  simp [Pattern.required, h, matchLeaving]

/-- Where a pattern that has to be there matches, an instruction passes its test. -/
theorem matchAt_required_eq_some {window : List Instruction}
    (h : matchAt u (.required test :: ps) window = .ok (some captures)) :
    ∃ i rest further, window = i :: rest ∧ captures = some i :: further ∧
      test.holds u i.payload = .ok true ∧ matchAt u ps rest = .ok (some further) := by
  rw [matchAt_cons] at h
  obtain ⟨attempt, htaking, h⟩ := bind_eq_ok.mp h
  cases attempt with
  | some attempt =>
    cases h
    exact matchTaking_some htaking
  | none => cases h

/-- Matching does not fail if no test asks about the hierarchy. -/
theorem exists_matchAt (asks : ∀ p ∈ idiom, ∀ base, ¬ p.test.Asks base)
    (window : List Instruction) : ∃ result, matchAt u idiom window = .ok result := by
  cases h : matchAt u idiom window with
  | ok result => exact ⟨result, rfl⟩
  | error fault =>
    obtain ⟨p, hp, _, _, _, base, _, hasks, _⟩ := matchAt_error h
    exact absurd hasks (asks p hp base)

/-- An optional pattern takes an instruction that passes, if the next pattern does not match
there. -/
theorem matchAt_optional (h : opt.holds u i.payload = .ok true)
    (next : matchAt u ps (i :: rest) = .ok none) :
    matchAt u (.optional opt :: ps) (i :: rest) = inFront (some i) (matchAt u ps rest) := by
  rw [matchAt_cons, matchTaking]
  simp only [Pattern.optional, h, ok_bind, if_true]
  rcases matchAt u ps rest with fault | _ | further <;> simp [inFront, matchLeaving, next]

/-- An optional pattern is left out where the instruction does not pass. -/
theorem matchAt_optional_left (h : opt.holds u i.payload = .ok false) :
    matchAt u (.optional opt :: ps) (i :: rest) = inFront none (matchAt u ps (i :: rest)) := by
  rw [matchAt_cons, matchTaking]
  simp [Pattern.optional, h, matchLeaving]

/-! ## Parts of an idiom -/

/-- The idiom takes the pushes and gives the captures. The patterns that stand before it are then
matched with what stands before the pushes. -/
def Takes (u : Universe) (idiom : Idiom) (pushes : List Instruction) (captures : Captures) : Prop :=
  ∀ (before : Idiom) (window : List Instruction),
    matchAt u (idiom.reverse ++ before) (pushes.reverse ++ window) =
      captures.reverse.foldr inFront (matchAt u before window)

/-- The idiom does not match the pushes, whatever stands before them. -/
def Refuses (u : Universe) (idiom : Idiom) (pushes : List Instruction) : Prop :=
  ∀ (before : Idiom) (window : List Instruction),
    matchAt u (idiom.reverse ++ before) (pushes.reverse ++ window) = .ok none

theorem foldr_inFront_none (entries : Captures) :
    entries.foldr inFront (.ok none) = .ok none := by
  induction entries with
  | nil => rfl
  | cons entry entries ih => rw [List.foldr_cons, ih, inFront_eq_none]

theorem foldr_inFront_some (entries further : Captures) :
    entries.foldr inFront (.ok (some further)) = .ok (some (entries ++ further)) := by
  induction entries with
  | nil => rfl
  | cons entry entries ih =>
    rw [List.foldr_cons, ih, inFront_eq_some]
    exact ⟨entries ++ further, rfl, rfl⟩

/-- **Parts that take their pushes take them one after the other.** -/
theorem Takes.append (h : Takes u idiom pushes captures) (h' : Takes u idiom' pushes' captures') :
    Takes u (idiom ++ idiom') (pushes ++ pushes') (captures ++ captures') := by
  intro before window
  simp only [List.reverse_append, List.append_assoc, List.foldr_append]
  rw [h', h]

theorem Refuses.append_takes (h : Refuses u idiom pushes) (h' : Takes u idiom' pushes' captures') :
    Refuses u (idiom ++ idiom') (pushes ++ pushes') := by
  intro before window
  simp only [List.reverse_append, List.append_assoc]
  rw [h', h, foldr_inFront_none]

theorem Refuses.append (h : Refuses u idiom' pushes') (idiom : Idiom)
    (pushes : List Instruction) : Refuses u (idiom ++ idiom') (pushes ++ pushes') := by
  intro before window
  simp only [List.reverse_append, List.append_assoc]
  rw [h]

theorem takes_required (h : test.holds u i.payload = .ok true) :
    Takes u [.required test] [i] [some i] :=
  fun _ _ => matchAt_required h

theorem refuses_required (h : test.holds u i.payload = .ok false) :
    Refuses u [.required test] [i] :=
  fun _ _ => matchAt_required_none h

/-- What an optional pattern finds after another one: nothing, or one instruction that it takes and
the other one does not. -/
inductive Optionally (u : Universe) (test opt : Test) : List Instruction → Prop
  | absent : Optionally u test opt []
  | present {i : Instruction} (takes : opt.holds u i.payload = .ok true)
      (refuses : test.holds u i.payload = .ok false) : Optionally u test opt [i]

/-- A pattern takes an instruction, and an optional pattern after it what there is for it. -/
theorem takes_optional (h : test.holds u i.payload = .ok true)
    (left : opt.holds u i.payload = .ok false) (htail : Optionally u test opt tail) :
    Takes u [.required test, .optional opt] (i :: tail) [some i, tail.head?] := by
  intro before window
  cases htail with
  | absent =>
    change matchAt u (.optional opt :: .required test :: before) (i :: window) = _
    rw [matchAt_optional_left left, matchAt_required h]
    rfl
  | @present j takes refuses =>
    change matchAt u (.optional opt :: .required test :: before) (j :: i :: window) = _
    rw [matchAt_optional takes (matchAt_required_none refuses), matchAt_required h]
    rfl

/-- A pattern that does not take the instruction before an optional one does not match. -/
theorem refuses_optional (h : test.holds u i.payload = .ok false)
    (left : opt.holds u i.payload = .ok false) (htail : Optionally u test opt tail) :
    Refuses u [.required test, .optional opt] (i :: tail) := by
  intro before window
  cases htail with
  | absent =>
    change matchAt u (.optional opt :: .required test :: before) (i :: window) = _
    rw [matchAt_optional_left left, matchAt_required_none h]
    rfl
  | @present j takes refuses =>
    change matchAt u (.optional opt :: .required test :: before) (j :: i :: window) = _
    rw [matchAt_optional takes (matchAt_required_none refuses), matchAt_required_none h]
    rfl

/-! ## Scans -/

/-- Where an idiom matches at the first position, an anchored search finds it. -/
theorem search_anchored (idiom : Idiom) (window : List Instruction) :
    search u idiom true window = matchAt u idiom window := by
  cases window with
  | nil => rfl
  | cons i rest =>
    rw [search_cons]
    rcases matchAt u idiom (i :: rest) with fault | _ | captures <;> rfl

/-- A backward scan looks at the instructions before its anchor, the last one first. -/
theorem find_anchored_before (u : Universe) (location : String) (body : List Instruction)
    (anchor : Nat) (idiom : Idiom) :
    ((Scan.before location body anchor).anchor).find u idiom =
      (matchAt u idiom.reverse
        ((body.take anchor).filter (! ·.isMarker)).reverse).map (Option.map List.reverse) := by
  rw [← search_anchored]
  exact Scan.find_eq_search

variable {body front : List Instruction} {anchor : Nat}

/-- An anchored scan finds what is matched at the instructions before its anchor. -/
theorem find_anchored_eq_some {location : String} :
    ((Scan.before location body anchor).anchor).find u idiom = .ok (some captures) ↔
      matchAt u idiom.reverse ((body.take anchor).filter (! ·.isMarker)).reverse =
        .ok (some captures.reverse) := by
  rw [find_anchored_before]
  rcases matchAt u idiom.reverse _ with fault | _ | taken
  · simp [Except.map]
  · simp [Except.map]
  · simp [Except.map, List.reverse_eq_iff]

/-- An anchored scan finds nothing where nothing is matched. -/
theorem find_anchored_eq_none {location : String} :
    ((Scan.before location body anchor).anchor).find u idiom = .ok none ↔
      matchAt u idiom.reverse ((body.take anchor).filter (! ·.isMarker)).reverse = .ok none := by
  rw [find_anchored_before]
  rcases matchAt u idiom.reverse _ with fault | _ | taken <;> simp [Except.map]

/-- An anchored scan finds the idiom that takes the pushes before its anchor. -/
theorem Takes.find (h : Takes u idiom pushes captures) (location : String)
    (hbody : (body.take anchor).filter (! ·.isMarker) = front ++ pushes) :
    ((Scan.before location body anchor).anchor).find u idiom = .ok (some captures) := by
  have hmatch := h [] front.reverse
  rw [List.append_nil, matchAt, foldr_inFront_some] at hmatch
  rw [find_anchored_before, hbody, List.reverse_append, hmatch]
  simp [Except.map]

/-- An anchored scan does not find an idiom that refuses the pushes before its anchor. -/
theorem Refuses.find (h : Refuses u idiom pushes) (location : String)
    (hbody : (body.take anchor).filter (! ·.isMarker) = front ++ pushes) :
    ((Scan.before location body anchor).anchor).find u idiom = .ok none := by
  have hmatch := h [] front.reverse
  rw [List.append_nil] at hmatch
  rw [find_anchored_before, hbody, List.reverse_append, hmatch]
  rfl

end ApiSurface.Idiom
