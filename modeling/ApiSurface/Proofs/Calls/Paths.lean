import ApiSurface.Proofs.Calls.Run
import Mathlib.Data.List.Chain

/-!
# The paths that a walk reports

Every call path in the result of a walk, and in the fault of a walk that goes too deep, is a chain
of calls: it starts at the root, each method has an edge to the next, and no method occurs twice.

The methods on the path of a run have all been entered. A method that is entered next is fresh, so
the path stays free of repetitions; it comes from a step of the last method, so the path stays a
chain.

Main definitions: `IsCallChain`, `ThrowPath`. Main statement: `reported_paths`.
-/
namespace ApiSurface.Calls

variable (u : Universe) (markers : Markers)

/-- The methods start at the root and each has an edge to the next; those after the root are
declared by followed classes, and no two have one frame. -/
structure IsCallChain (root : Node) (nodes : List Node) : Prop where
  head : nodes.head? = some root
  edges : nodes.IsChain (Edge u markers)
  distinct : (nodes.map Node.frame).Nodup
  followed : ∀ n ∈ nodes.tail, u.Follows n.record ∧ n.Declared u

/-- The frames are a call chain of at most `limit` methods whose last one throws the type. -/
def ThrowPath (limit : Nat) (root : Node) (type : String) (path : List Frame) : Prop :=
  ∃ nodes last, IsCallChain u markers root nodes ∧ path = nodes.map Node.frame ∧
    nodes.length ≤ limit ∧ nodes.getLast? = some last ∧ Throws u last type

/-- The frames are a call chain of one method more than `limit`. -/
def TooDeepPath (limit : Nat) (root : Node) (path : List Frame) : Prop :=
  ∃ nodes, IsCallChain u markers root nodes ∧ path = nodes.map Node.frame ∧
    nodes.length = limit + 1

variable {u markers}

/-- A chain grows by a method that its last one has an edge to. -/
theorem IsCallChain.append {root last n : Node} {nodes : List Node}
    (h : IsCallChain u markers root nodes) (hlast : nodes.getLast? = some last)
    (edge : Edge u markers last n) (fresh : n.frame ∉ nodes.map Node.frame) :
    IsCallChain u markers root (nodes ++ [n]) := by
  have hne : nodes ≠ [] := by
    rintro rfl
    cases hlast
  constructor
  case head => simp [List.head?_append, h.head]
  case edges =>
    refine List.isChain_append.mpr ⟨h.edges, List.isChain_singleton n, ?_⟩
    simpa [hlast] using edge
  case distinct =>
    simpa [List.nodup_append] using ⟨h.distinct, fun m hm he => fresh (he ▸ List.mem_map_of_mem hm)⟩
  case followed =>
    intro m hm
    rw [List.tail_append_of_ne_nil hne, List.mem_append, List.mem_singleton] at hm
    rcases hm with hm | rfl
    · exact h.followed m hm
    · exact edge.followed

/-- The root alone is a chain. -/
theorem IsCallChain.root (root : Node) : IsCallChain u markers root [root] :=
  ⟨rfl, List.isChain_singleton root, List.nodup_singleton _, by simp⟩

/-! ## Runs keep to call chains -/

variable (u markers) in
/-- The steps of a run are steps of the last method on its path, which is a call chain, or the
entry of the root if the path is empty. -/
def Continues (root : Node) (path : List Node) (steps : List Step) : Prop :=
  (path = [] ∧ steps ⊆ [root.entry]) ∨
    ∃ last, path.getLast? = some last ∧ IsCallChain u markers root path ∧
      steps ⊆ last.steps u markers

namespace Continues

variable {root n : Node} {path : List Node} {s : Step} {steps : List Step}

theorem tail (h : Continues u markers root path (s :: steps)) :
    Continues u markers root path steps := by
  rcases h with ⟨hp, h⟩ | ⟨last, hl, hc, h⟩
  · exact .inl ⟨hp, List.subset_of_cons_subset h⟩
  · exact .inr ⟨last, hl, hc, List.subset_of_cons_subset h⟩

/-- A fresh method that the run enters goes on the chain. -/
theorem chain (h : Continues u markers root path (n.entry :: steps))
    (fresh : n.frame ∉ path.map Node.frame) : IsCallChain u markers root (path ++ [n]) := by
  rcases h with ⟨rfl, h⟩ | ⟨last, hl, hc, h⟩
  · obtain rfl := Node.entry_inj.mp (List.mem_singleton.mp (h List.mem_cons_self))
    exact .root n
  · exact hc.append hl (entry_mem_steps.mp (h List.mem_cons_self)) fresh

/-- The steps of the method that is entered go on from there. -/
theorem body (h : Continues u markers root path (n.entry :: steps))
    (fresh : n.frame ∉ path.map Node.frame) :
    Continues u markers root (path ++ [n]) (n.steps u markers) :=
  .inr ⟨n, by simp, h.chain fresh, List.Subset.refl _⟩

/-- A type is recorded with the path of the method that throws it. -/
theorem throwPath {limit : Nat} {type : String}
    (h : Continues u markers root path (.throws type :: steps)) (hl : path.length ≤ limit) :
    ThrowPath u markers limit root type (path.map Node.frame) := by
  rcases h with ⟨rfl, h⟩ | ⟨last, hlast, hc, h⟩
  · simp [Node.entry] at h
  · exact ⟨path, last, hc, rfl, hl, hlast, (throws_mem_steps.mp (h List.mem_cons_self)).2⟩

/-- A step that fails does so with a fault that is not about a path. -/
theorem isAboutPath {fault : Fault} (h : Continues u markers root path (.fail fault :: steps)) :
    fault.isAboutPath = false := by
  rcases h with ⟨rfl, h⟩ | ⟨last, -, -, h⟩
  · simp [Node.entry] at h
  · exact methodSteps_pathless u markers _ _ _ (h List.mem_cons_self)

end Continues

/-- All recorded exceptions have throw paths. -/
def PathsSound (u : Universe) (markers : Markers) (limit : Nat) (root : Node) (w : Walk) : Prop :=
  ∀ e ∈ w.exceptions, ThrowPath u markers limit root e.type e.path

theorem PathsSound.throw {limit : Nat} {root : Node} {w : Walk} {type : String}
    {path : List Frame} (hw : PathsSound u markers limit root w)
    (hp : ThrowPath u markers limit root type path) :
    PathsSound u markers limit root (w.throw type path) := by
  unfold Walk.throw
  split
  · exact hw
  · intro e he
    rcases List.mem_append.mp he with he | he
    · exact hw e he
    · obtain rfl := List.mem_singleton.mp he
      exact hp

/-- A run keeps what has been entered. -/
theorem Performs.entered_subset {limit : Nat} {path : List Node} {steps : List Step}
    {w w' : Walk} {outcome : Except Fault Unit}
    (run : Performs u markers limit path steps w outcome w') : w.entered ⊆ w'.entered := by
  induction run with
  | done => exact List.Subset.refl _
  | throws rest ih =>
    rw [Walk.entered_throw] at ih
    exact ih
  | validates rest ih => exact ih
  | note rest ih => exact ih
  | unimplemented => exact List.Subset.refl _
  | fail => exact List.Subset.refl _
  | again entered rest ih => exact ih
  | tooDeep fresh depth => exact List.subset_append_left _ _
  | nested fresh depth body rest ihbody ih =>
    exact List.Subset.trans (List.subset_append_left _ _) (List.Subset.trans ihbody ih)
  | stopped fresh depth body ihbody =>
    exact List.Subset.trans (List.subset_append_left _ _) ihbody

/-- A run along a call chain records throw paths, and its fault, if it is that of a path that is
too deep, has such a path. -/
theorem Performs.reports {limit : Nat} {root : Node} {path : List Node} {steps : List Step}
    {w w' : Walk} {outcome : Except Fault Unit}
    (run : Performs u markers limit path steps w outcome w')
    (hc : Continues u markers root path steps) (hp : path.map Node.frame ⊆ w.entered)
    (hl : path.length ≤ limit) (hw : PathsSound u markers limit root w) :
    PathsSound u markers limit root w' ∧
      ∀ n frames, outcome = .error (.callDepthExceeded n frames) →
        n = limit ∧ TooDeepPath u markers limit root frames := by
  have hfresh {path : List Node} {n : Node} {w : Walk} (hp : path.map Node.frame ⊆ w.entered)
      (fresh : n.frame ∉ w.entered) : n.frame ∉ path.map Node.frame := fun h => fresh (hp h)
  have hpath {path : List Node} {n : Node} {w : Walk} (hp : path.map Node.frame ⊆ w.entered) :
      (path ++ [n]).map Node.frame ⊆ (w.enter n.frame).entered := by
    rw [List.map_append]
    exact List.append_subset.mpr ⟨List.subset_append_of_subset_left _ hp,
      List.subset_append_right _ _⟩
  induction run with
  | done => exact ⟨hw, by simp⟩
  | throws rest ih =>
    exact ih hc.tail (by rwa [Walk.entered_throw]) hl (hw.throw (hc.throwPath hl))
  | validates rest ih => exact ih hc.tail hp hl hw
  | note rest ih => exact ih hc.tail hp hl hw
  | unimplemented => exact ⟨hw, by simp⟩
  | fail =>
    refine ⟨hw, fun n frames h => ?_⟩
    cases h
    cases hc.isAboutPath
  | again entered rest ih => exact ih hc.tail hp hl hw
  | @tooDeep path n steps w fresh depth =>
    refine ⟨hw, fun n' frames h => ?_⟩
    cases h
    exact ⟨rfl, _, hc.chain (hfresh hp fresh), rfl, by simp [depth]⟩
  | nested fresh depth body rest ihbody ih =>
    have hbody := ihbody (hc.body (hfresh hp fresh)) (hpath hp) (by simp; omega) hw
    refine ih hc.tail ?_ hl hbody.1
    exact List.Subset.trans hp
      (List.Subset.trans (List.subset_append_left _ _) body.entered_subset)
  | stopped fresh depth body ihbody =>
    exact ihbody (hc.body (hfresh hp fresh)) (hpath hp) (by simp; omega) hw

/-- **The paths that a walk reports are call chains.** Each recorded exception comes with one of
at most `limit` methods, the last of which throws it; and a walk that goes too deep ends with the
limit and one of `limit + 1` methods, which its message shows. -/
theorem reported_paths (u : Universe) (markers : Markers) (limit : Nat) (root : Node) :
    (∀ e ∈ (walk u markers limit root.record root.method).2.exceptions,
      ThrowPath u markers limit root e.type e.path) ∧
    ∀ n frames, (walk u markers limit root.record root.method).1 =
        .error (.callDepthExceeded n frames) →
      n = limit ∧ TooDeepPath u markers limit root frames ∧
        (Fault.callDepthExceeded n frames).message =
          "call graph exceeded depth " ++ toString limit ++ " at " ++ callPathText frames := by
  have hstart : Continues u markers root [] [root.entry] := .inl ⟨rfl, List.Subset.refl _⟩
  obtain ⟨hsound, hdeep⟩ := (walk_performs u markers limit root).reports hstart (by simp)
    (Nat.zero_le limit) (by simp [PathsSound])
  refine ⟨hsound, fun n frames h => ?_⟩
  obtain ⟨rfl, hframes⟩ := hdeep n frames h
  exact ⟨rfl, hframes, rfl⟩

end ApiSurface.Calls
