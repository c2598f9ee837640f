import ApiSurface.Proofs.Calls.Graph

/-!
# Runs of a walk

`Performs` says what performing steps does to a walk, one rule for each thing that a step can do:
it records, it fails, it comes to a method that has been entered, it is too deep, or it enters a
method whose own steps succeed or fail. A walk is a run of the step that enters its root, so what
holds of every walk is proved by induction on runs.

Main definitions: `Walk.types`, `Performs`. Main statement: `walk_performs`.
-/
namespace ApiSurface

/-! ## What a walk records -/

/-- The types of the recorded exceptions. -/
def Walk.types (w : Walk) : List String := w.exceptions.map (·.type)

namespace Walk

theorem types_throw (w : Walk) (type : String) (path : List Frame) :
    (w.throw type path).types = if type ∈ w.types then w.types else w.types ++ [type] := by
  have hany : w.exceptions.any (·.type = type) = true ↔ type ∈ w.types := by
    simp [types, List.any_eq_true]
  by_cases h : type ∈ w.types
  · rw [throw, if_pos (hany.mpr h), if_pos h]
  · rw [throw, if_neg (hany.not.mpr h), if_neg h]
    simp [types]

@[simp] theorem mem_types_throw {w : Walk} {type other : String} {path : List Frame} :
    other ∈ (w.throw type path).types ↔ other ∈ w.types ∨ other = type := by
  rw [types_throw]
  split
  · constructor
    · exact .inl
    · rintro (h | rfl)
      · exact h
      · assumption
  · simp

theorem nodup_types_throw {w : Walk} {type : String} {path : List Frame} (h : w.types.Nodup) :
    (w.throw type path).types.Nodup := by
  rw [types_throw]
  split
  · exact h
  · simpa using h.concat ‹_›

@[simp] theorem entered_throw (w : Walk) (type : String) (path : List Frame) :
    (w.throw type path).entered = w.entered := by
  unfold throw
  split <;> rfl

@[simp] theorem validations_throw (w : Walk) (type : String) (path : List Frame) :
    (w.throw type path).validations = w.validations := by
  unfold throw
  split <;> rfl

end Walk

namespace Calls

/-! ## Runs -/

/-- Performing steps of the last method of `path` takes a walk to another and ends with a
success or a fault. -/
inductive Performs (u : Universe) (markers : Markers) (limit : Nat) :
    List Node → List Step → Walk → Except Fault Unit → Walk → Prop where
  | done {path : List Node} {w : Walk} : Performs u markers limit path [] w (.ok ()) w
  | throws {path : List Node} {type : String} {steps : List Step} {w w' : Walk}
      {outcome : Except Fault Unit}
      (rest : Performs u markers limit path steps (w.throw type (path.map Node.frame)) outcome w') :
      Performs u markers limit path (.throws type :: steps) w outcome w'
  | validates {path : List Node} {rule : ValidationRule} {steps : List Step} {w w' : Walk}
      {outcome : Except Fault Unit}
      (rest : Performs u markers limit path steps (w.validate rule) outcome w') :
      Performs u markers limit path (.validates rule :: steps) w outcome w'
  | note {path : List Node} {event : Event} {steps : List Step} {w w' : Walk}
      {outcome : Except Fault Unit}
      (rest : Performs u markers limit path steps (w.note event) outcome w') :
      Performs u markers limit path (.note event :: steps) w outcome w'
  | unimplemented {path : List Node} {callee : Frame} {steps : List Step} {w : Walk} :
      Performs u markers limit path (.unimplemented callee :: steps) w
        (.error (.unboundedDispatch callee (path.map Node.frame))) w
  | fail {path : List Node} {fault : Fault} {steps : List Step} {w : Walk} :
      Performs u markers limit path (.fail fault :: steps) w (.error fault) w
  /-- The method has been entered. -/
  | again {path : List Node} {n : Node} {steps : List Step} {w w' : Walk}
      {outcome : Except Fault Unit} (entered : n.frame ∈ w.entered)
      (rest : Performs u markers limit path steps w outcome w') :
      Performs u markers limit path (n.entry :: steps) w outcome w'
  /-- The path cannot grow by the method. -/
  | tooDeep {path : List Node} {n : Node} {steps : List Step} {w : Walk}
      (fresh : n.frame ∉ w.entered) (depth : path.length = limit) :
      Performs u markers limit path (n.entry :: steps) w
        (.error (.callDepthExceeded limit ((path ++ [n]).map Node.frame))) (w.enter n.frame)
  /-- The method is entered and all its steps succeed. -/
  | nested {path : List Node} {n : Node} {steps : List Step} {w w₁ w' : Walk}
      {outcome : Except Fault Unit} (fresh : n.frame ∉ w.entered) (depth : path.length < limit)
      (body : Performs u markers limit (path ++ [n]) (n.steps u markers) (w.enter n.frame)
        (.ok ()) w₁)
      (rest : Performs u markers limit path steps w₁ outcome w') :
      Performs u markers limit path (n.entry :: steps) w outcome w'
  /-- The method is entered and one of its steps fails. -/
  | stopped {path : List Node} {n : Node} {steps : List Step} {w w' : Walk} {fault : Fault}
      (fresh : n.frame ∉ w.entered) (depth : path.length < limit)
      (body : Performs u markers limit (path ++ [n]) (n.steps u markers) (w.enter n.frame)
        (.error fault) w') :
      Performs u markers limit path (n.entry :: steps) w (.error fault) w'

variable {u : Universe} {markers : Markers} {limit : Nat}

/-! ## The walk as a run -/

theorem runFrom_performAll_cons (enter : List Frame → ClassRecord → Method → Walking Unit)
    (path : List Frame) (step : Step) (steps : List Step) (w : Walk) :
    runFrom (performAll enter path (step :: steps)) w =
      proceed (runFrom (perform enter path step) w) fun _ w' =>
        runFrom (performAll enter path steps) w' := by
  rw [performAll, runFrom_bind]

theorem runFrom_visit_again {left : Nat} {path : List Frame} {n : Node} {w : Walk}
    (h : n.frame ∈ w.entered) :
    runFrom (visit u markers limit left path n.record n.method) w = (.ok (), w) := by
  rw [Node.frame] at h
  cases left <;> simp [visit, runFrom_bind, h]

theorem runFrom_visit_zero {path : List Frame} {n : Node} {w : Walk} (h : n.frame ∉ w.entered) :
    runFrom (visit u markers limit 0 path n.record n.method) w =
      (.error (.callDepthExceeded limit (path ++ [n.frame])), w.enter n.frame) := by
  rw [Node.frame] at h ⊢
  simp [visit, runFrom_bind, h]

theorem runFrom_visit_succ {left : Nat} {path : List Frame} {n : Node} {w : Walk}
    (h : n.frame ∉ w.entered) :
    runFrom (visit u markers limit (left + 1) path n.record n.method) w =
      runFrom (performAll (visit u markers limit left) (path ++ [n.frame])
        (n.steps u markers)) (w.enter n.frame) := by
  rw [Node.frame] at h ⊢
  simp [visit, runFrom_bind, h, Node.steps]

/-- Performing steps is a run, as long as the path may grow by as many frames as are left. -/
theorem performs_performAll (left : Nat) (path : List Node) (steps : List Step) (w : Walk)
    (h : path.length + left = limit) :
    Performs u markers limit path steps w
      (runFrom (performAll (visit u markers limit left) (path.map Node.frame) steps) w).1
      (runFrom (performAll (visit u markers limit left) (path.map Node.frame) steps) w).2 := by
  induction left using Nat.strongRecOn generalizing path steps w with
  | ind left ihleft =>
    induction steps generalizing w with
    | nil => exact .done
    | cons step steps ih =>
      rw [runFrom_performAll_cons]
      cases step with
      | enter record m =>
        let n : Node := ⟨record, m⟩
        change Performs u markers limit path (n.entry :: steps) w _ _
        simp only [perform]
        by_cases hw : n.frame ∈ w.entered
        · rw [runFrom_visit_again (n := n) hw]
          exact .again hw (ih w)
        cases left with
        | zero =>
          rw [runFrom_visit_zero (n := n) hw]
          simpa using Performs.tooDeep hw h
        | succ left =>
          -- The steps of the method run with one frame less to grow by.
          have body := ihleft left (Nat.lt_succ_self left) (path ++ [n]) (n.steps u markers)
            (w.enter n.frame) (by simp; omega)
          rw [runFrom_visit_succ (n := n) hw]
          rw [List.map_append, List.map_singleton] at body
          cases hrun : runFrom (performAll (visit u markers limit left)
            (path.map Node.frame ++ [n.frame]) (n.steps u markers)) (w.enter n.frame) with
          | mk outcome w₁ =>
            rw [hrun] at body
            cases outcome with
            | ok => exact .nested hw (by omega) body (ih w₁)
            | error fault => exact .stopped hw (by omega) body
      | throws type => exact .throws (ih _)
      | validates rule => exact .validates (ih _)
      | unimplemented callee => exact .unimplemented
      | note event => exact .note (ih _)
      | fail fault => exact .fail

/-- A walk is a run of the step that enters its root. -/
theorem walk_performs (u : Universe) (markers : Markers) (limit : Nat) (root : Node) :
    Performs u markers limit [] [root.entry] {}
      (walk u markers limit root.record root.method).1
      (walk u markers limit root.record root.method).2 := by
  have run : Performs u markers limit [] [root.entry] {}
      (runFrom (performAll (visit u markers limit limit) [] [root.entry]) {}).1
      (runFrom (performAll (visit u markers limit limit) [] [root.entry]) {}).2 :=
    performs_performAll limit [] [root.entry] {} (Nat.zero_add limit)
  rw [runFrom_performAll_cons] at run
  change Performs u markers limit [] [root.entry] {}
    (proceed (walk u markers limit root.record root.method) fun _ w => (Except.ok (), w)).1
    (proceed (walk u markers limit root.record root.method) fun _ w => (Except.ok (), w)).2 at run
  cases hwalk : walk u markers limit root.record root.method with
  | mk outcome w =>
    rw [hwalk] at run
    cases outcome <;> exact run

end Calls

end ApiSurface
