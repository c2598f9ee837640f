import ApiSurface.Fault

/-!
# Outcomes of computations that may fail

A sequence of computations succeeds exactly when each of them does, and its fault is that of the
first one that fails. These are the lemmas by which results are taken apart, for computations
without a state and for those that keep their state when they fail.

Main definitions: `runFrom`, `proceed`.
-/
namespace ApiSurface

variable {ε α β : Type}

/-- A sequence gives a result when both parts do. -/
theorem bind_eq_ok {x : Except ε α} {f : α → Except ε β} {b : β} :
    (x >>= f) = .ok b ↔ ∃ a, x = .ok a ∧ f a = .ok b := by
  cases x <;> simp [bind, Except.bind]

/-- A sequence fails when the first part does, or else the second. -/
theorem bind_eq_error {x : Except ε α} {f : α → Except ε β} {e : ε} :
    (x >>= f) = .error e ↔ x = .error e ∨ ∃ a, x = .ok a ∧ f a = .error e := by
  cases x <;> simp [bind, Except.bind]

@[simp] theorem ok_bind (a : α) (f : α → Except ε β) : (Except.ok a >>= f) = f a := rfl

@[simp] theorem error_bind (e : ε) (f : α → Except ε β) : (Except.error e >>= f) = .error e := rfl

theorem toOption_eq_some {x : Except ε α} {a : α} : x.toOption = some a ↔ x = .ok a := by
  cases x <;> simp [Except.toOption]

theorem eq_ok_of_isOk {x : Except ε Unit} (h : x.isOk = true) : x = .ok () := by
  cases x with
  | error e => cases h
  | ok => rfl

/-- A computation that has no result has a fault. -/
theorem not_exists_ok {x : Except ε α} : (¬ ∃ a, x = .ok a) ↔ ∃ e, x = .error e := by
  cases x <;> simp

/-! ## Filters -/

private theorem filterAuxM_eq_ok {p : α → Except ε Bool} {l acc kept : List α}
    (h : l.filterAuxM p acc = .ok kept) :
    (∀ a ∈ l, ∃ b, p a = .ok b) ∧
      kept = (l.filter fun a => (p a).toOption = some true).reverse ++ acc := by
  induction l generalizing acc with
  | nil =>
    cases h
    simp
  | cons x xs ih =>
    obtain ⟨b, hb, h⟩ := bind_eq_ok.mp h
    obtain ⟨all, rfl⟩ := ih h
    cases b <;> simp_all [Except.toOption]

/-- A filter that succeeds decides every member, and keeps those that it decides for. -/
theorem filterM_eq_ok {p : α → Except ε Bool} {l kept : List α} (h : l.filterM p = .ok kept) :
    (∀ a ∈ l, ∃ b, p a = .ok b) ∧ kept = l.filter fun a => (p a).toOption = some true := by
  obtain ⟨reversed, hr, h⟩ := bind_eq_ok.mp h
  obtain ⟨all, rfl⟩ := filterAuxM_eq_ok hr
  cases h
  simpa using all

private theorem filterAuxM_eq_error {p : α → Except ε Bool} {l acc : List α} {e : ε}
    (h : l.filterAuxM p acc = .error e) : ∃ a ∈ l, p a = .error e := by
  induction l generalizing acc with
  | nil => cases h
  | cons x xs ih =>
    rcases bind_eq_error.mp h with hx | ⟨b, -, h⟩
    · exact ⟨x, List.mem_cons_self, hx⟩
    · obtain ⟨a, ha, hfault⟩ := ih h
      exact ⟨a, List.mem_cons_of_mem _ ha, hfault⟩

/-- A filter fails as one of its decisions does. -/
theorem filterM_eq_error {p : α → Except ε Bool} {l : List α} {e : ε}
    (h : l.filterM p = .error e) : ∃ a ∈ l, p a = .error e := by
  rcases bind_eq_error.mp h with h | ⟨_, -, h⟩
  · exact filterAuxM_eq_error h
  · cases h

/-- A filter that decides every member succeeds. -/
theorem exists_filterM {p : α → Except ε Bool} {l : List α} (h : ∀ a ∈ l, ∃ b, p a = .ok b) :
    ∃ kept, l.filterM p = .ok kept := by
  have haux (acc : List α) : ∃ kept, l.filterAuxM p acc = .ok kept := by
    induction l generalizing acc with
    | nil => exact ⟨acc, rfl⟩
    | cons a l ih =>
      obtain ⟨b, hb⟩ := h a List.mem_cons_self
      have hrest := ih fun x hx => h x (List.mem_cons_of_mem _ hx)
      obtain ⟨kept, hkept⟩ := hrest (cond b (a :: acc) acc)
      exact ⟨kept, bind_eq_ok.mpr ⟨b, hb, hkept⟩⟩
  obtain ⟨kept, hkept⟩ := haux []
  exact ⟨kept.reverse, bind_eq_ok.mpr ⟨kept, hkept, rfl⟩⟩

/-! ## Computations with a state -/

variable {σ : Type}

/-- What a computation ends with when it starts in a state, and the state it leaves behind. -/
def runFrom (x : ExceptT ε (StateM σ) α) (s : σ) : Except ε α × σ := x.run.run s

@[simp] theorem runFrom_pure (a : α) (s : σ) :
    runFrom (pure a : ExceptT ε (StateM σ) α) s = (.ok a, s) := rfl

@[simp] theorem runFrom_throw (e : ε) (s : σ) :
    runFrom (throw e : ExceptT ε (StateM σ) α) s = (.error e, s) := rfl

@[simp] theorem runFrom_get (s : σ) : runFrom (get : ExceptT ε (StateM σ) σ) s = (.ok s, s) := rfl

@[simp] theorem runFrom_set (s s' : σ) :
    runFrom (set s' : ExceptT ε (StateM σ) PUnit) s = (.ok ⟨⟩, s') := rfl

@[simp] theorem runFrom_modify (f : σ → σ) (s : σ) :
    runFrom (modify f : ExceptT ε (StateM σ) PUnit) s = (.ok ⟨⟩, f s) := rfl

/-- Go on from a result, unless it is a fault. -/
def proceed (r : Except ε α × σ) (f : α → σ → Except ε β × σ) : Except ε β × σ :=
  match r with
  | (.ok a, s) => f a s
  | (.error e, s) => (.error e, s)

@[simp] theorem proceed_ok (a : α) (s : σ) (f : α → σ → Except ε β × σ) :
    proceed (.ok a, s) f = f a s := rfl

@[simp] theorem proceed_error (e : ε) (s : σ) (f : α → σ → Except ε β × σ) :
    proceed (.error e, s) f = (.error e, s) := rfl

/-- The second part of a sequence starts where the first ended. -/
theorem runFrom_bind (x : ExceptT ε (StateM σ) α) (f : α → ExceptT ε (StateM σ) β) (s : σ) :
    runFrom (x >>= f) s = proceed (runFrom x s) fun a s' => runFrom (f a) s' := by
  change (ExceptT.bindCont f (x.run.run s).1).run (x.run.run s).2 = _
  unfold runFrom
  cases x.run.run s with
  | mk outcome s' => cases outcome <;> rfl

/-- A sequence gives a result when both parts do, the second from the state of the first. -/
theorem runFrom_bind_eq_ok {x : ExceptT ε (StateM σ) α} {f : α → ExceptT ε (StateM σ) β}
    {b : β} {s s'' : σ} (h : runFrom (x >>= f) s = (.ok b, s'')) :
    ∃ a s', runFrom x s = (.ok a, s') ∧ runFrom (f a) s' = (.ok b, s'') := by
  rw [runFrom_bind] at h
  generalize runFrom x s = run at h ⊢
  obtain ⟨a | a, s'⟩ := run
  · cases h
  · exact ⟨a, s', rfl, h⟩

theorem runFrom_map (f : α → β) (x : ExceptT ε (StateM σ) α) (s : σ) :
    runFrom (f <$> x) s = proceed (runFrom x s) fun a s' => (.ok (f a), s') := by
  rw [map_eq_pure_bind, runFrom_bind]
  rfl

end ApiSurface
