import ApiSurface.Proofs.Calls.Coverage
import ApiSurface.Proofs.Calls.Paths
import Mathlib.Data.List.Dedup
import Mathlib.Data.List.Perm.Subperm

/-!
# The depth limit of a walk

A limit cuts a walk off and does nothing else. Two walks of one root under different limits do the
same things in the same order until the one with the lower limit ends because its path is too deep;
if it never does, both end alike.

The methods on a call path are declared and distinct, so a limit that is as high as the number of
declared methods is never reached.

Main definitions: `CutOff`, `Universe.frames`. Main statements: `walk_cutOff`,
`IsCallChain.length_le`, `limit_cuts_off`.
-/
namespace ApiSurface

/-- The methods that the classes of the universe declare, those of one frame once. -/
def Universe.frames (u : Universe) : List Frame :=
  (u.records.toList.flatMap fun (_, record) => match record.info with
    | .ok c => c.methods.map (Frame.ofMethod record)
    | .error _ => []).dedup

namespace Calls

/-! ## Two limits -/

/-- A run ends because its path is too deep for the limit, or else another run ends as it does. -/
def CutOff (limit : Nat) (run other : Except Fault Unit × Walk) : Prop :=
  (∃ frames, run.1 = .error (.callDepthExceeded limit frames)) ∨ other = run

namespace CutOff

variable {limit : Nat}

theorem refl (run : Except Fault Unit × Walk) : CutOff limit run run := .inr rfl

/-- Runs that are continued in the same way are cut off in their first part or in their second. -/
theorem proceed {run other : Except Fault Unit × Walk}
    {next next' : Unit → Walk → Except Fault Unit × Walk} (first : CutOff limit run other)
    (second : ∀ a w, CutOff limit (next a w) (next' a w)) :
    CutOff limit (ApiSurface.proceed run next) (ApiSurface.proceed other next') := by
  obtain ⟨outcome, w⟩ := run
  rcases first with ⟨frames, h⟩ | hsame
  · dsimp only at h
    subst h
    exact .inl ⟨frames, rfl⟩
  · subst hsame
    cases outcome with
    | ok a => exact second a w
    | error fault => exact .refl _

end CutOff

variable {u : Universe} {markers : Markers} {limit limit' : Nat}

/-- Steps are cut off if the methods that they enter are. -/
theorem performAll_cutOff {left left' : Nat}
    (enters : ∀ path record m w,
      CutOff limit (runFrom (visit u markers limit left path record m) w)
        (runFrom (visit u markers limit' left' path record m) w))
    (path : List Frame) (steps : List Step) (w : Walk) :
    CutOff limit (runFrom (performAll (visit u markers limit left) path steps) w)
      (runFrom (performAll (visit u markers limit' left') path steps) w) := by
  induction steps generalizing w with
  | nil => exact .refl _
  | cons step steps ih =>
    rw [runFrom_performAll_cons, runFrom_performAll_cons]
    apply CutOff.proceed
    · cases step with
      | enter record m => exact enters path record m w
      | _ => exact .refl _
    · intro _ w'
      exact ih w'

/-- A method is cut off where its path may not grow as far as that of another run. -/
theorem visit_cutOff {left left' : Nat} (h : left ≤ left') (path : List Frame) (n : Node)
    (w : Walk) :
    CutOff limit (runFrom (visit u markers limit left path n.record n.method) w)
      (runFrom (visit u markers limit' left' path n.record n.method) w) := by
  induction left generalizing left' path n w with
  | zero =>
    by_cases entered : n.frame ∈ w.entered
    · rw [runFrom_visit_again entered, runFrom_visit_again entered]
      exact .refl _
    · rw [runFrom_visit_zero entered]
      exact .inl ⟨_, rfl⟩
  | succ left ih =>
    obtain ⟨left', rfl⟩ : ∃ k, left' = k + 1 := ⟨left' - 1, by omega⟩
    by_cases entered : n.frame ∈ w.entered
    · rw [runFrom_visit_again entered, runFrom_visit_again entered]
      exact .refl _
    · rw [runFrom_visit_succ entered, runFrom_visit_succ entered]
      apply performAll_cutOff
      intro path record m w
      exact ih (by omega) path ⟨record, m⟩ w

/-- **A walk is cut off by its limit, or ends as every walk with a higher limit does.** -/
theorem walk_cutOff (h : limit ≤ limit') (n : Node) :
    CutOff limit (walk u markers limit n.record n.method)
      (walk u markers limit' n.record n.method) :=
  visit_cutOff h [] n {}

/-! ## Limits that are high enough -/

/-- The frames of a universe are those of its declared methods. -/
theorem mem_frames {frame : Frame} :
    frame ∈ u.frames ↔ ∃ n : Node, n.Declared u ∧ n.frame = frame := by
  simp only [Universe.frames, List.mem_dedup, List.mem_flatMap, Prod.exists,
    Std.ExtTreeMap.mem_toList_iff_getElem?_eq_some]
  constructor
  · rintro ⟨path, record, found, hframe⟩
    have hpath := Universe.path_of_find? found
    subst hpath
    cases hinfo : record.info with
    | error fault => simp [hinfo] at hframe
    | ok c =>
      obtain ⟨m, hm, rfl⟩ : ∃ m ∈ c.methods, Frame.ofMethod record m = frame := by
        simpa [hinfo] using hframe
      exact ⟨⟨record, m⟩, ⟨found, c, hinfo, hm⟩, rfl⟩
  · rintro ⟨⟨record, m⟩, ⟨found, c, hinfo, hm⟩, rfl⟩
    refine ⟨record.path, record, found, ?_⟩
    simpa [hinfo] using ⟨m, hm, rfl⟩

/-- A call chain from a declared method is no longer than there are declared methods. -/
theorem IsCallChain.length_le {root : Node} {nodes : List Node}
    (h : IsCallChain u markers root nodes) (declared : root.Declared u) :
    nodes.length ≤ u.frames.length := by
  have hnodes : ∀ n ∈ nodes, n.Declared u := by
    obtain ⟨rest, rfl⟩ := List.head?_eq_some_iff.mp h.head
    intro n hn
    rcases List.mem_cons.mp hn with rfl | hn
    · exact declared
    · exact (h.followed n hn).2
  have hsubset : nodes.map Node.frame ⊆ u.frames := by
    intro frame hframe
    obtain ⟨n, hn, rfl⟩ := List.mem_map.mp hframe
    exact mem_frames.mpr ⟨n, hnodes n hn, rfl⟩
  have hle := (List.subperm_of_subset h.distinct hsubset).length_le
  simpa using hle

/-- The path of a walk that goes too deep is a call chain longer than the limit. -/
theorem walk_tooDeep {root : Node} {n : Nat} {frames : List Frame}
    (h : (walk u markers limit root.record root.method).1 =
      .error (.callDepthExceeded n frames)) :
    TooDeepPath u markers limit root frames := by
  have hstart : Continues u markers root [] [root.entry] := .inl ⟨rfl, List.Subset.refl _⟩
  have hreports := (walk_performs u markers limit root).reports hstart (by simp)
    (Nat.zero_le limit) (by simp [PathsSound])
  exact (hreports.2 n frames h).2

/-- **The depth limit only cuts walks off.** A walk that succeeds succeeds with every higher limit,
and with the same result. Where a walk fails, every walk with a lower limit fails with the same
fault, or because it is too deep. And no walk of a declared method is too deep if the limit is as
high as the number of declared methods. -/
theorem limit_cuts_off (u : Universe) (markers : Markers) (root : Node) (h : limit ≤ limit') :
    (∀ w, walk u markers limit root.record root.method = (.ok (), w) →
      walk u markers limit' root.record root.method = (.ok (), w)) ∧
    (∀ fault w, walk u markers limit' root.record root.method = (.error fault, w) →
      walk u markers limit root.record root.method = (.error fault, w) ∨
        ∃ frames, (walk u markers limit root.record root.method).1 =
          .error (.callDepthExceeded limit frames)) ∧
    (root.Declared u → u.frames.length ≤ limit → ∀ n frames,
      (walk u markers limit root.record root.method).1 ≠
        .error (.callDepthExceeded n frames)) := by
  have hcut : CutOff limit (walk u markers limit root.record root.method)
      (walk u markers limit' root.record root.method) := walk_cutOff h root
  refine ⟨?success, ?failure, ?enough⟩
  case success =>
    intro w hw
    rcases hcut with ⟨frames, hdeep⟩ | hsame
    · rw [hw] at hdeep
      cases hdeep
    · rw [hsame, hw]
  case failure =>
    intro fault w hw
    rcases hcut with hdeep | hsame
    · exact .inr hdeep
    · exact .inl (hsame.symm.trans hw)
  case enough =>
    intro declared hlimit n frames hdeep
    obtain ⟨nodes, hchain, -, hlength⟩ := walk_tooDeep hdeep
    have hle := hchain.length_le declared
    omega

/-! ## A chain that ends in a fault -/

/-- The method where a walk of the sample starts: it calls one that throws no value. -/
def valuelessRoot : Node :=
  let method := methodOf "a" [callOf "p/B" "b"]
  ⟨classOf "p/A" method, method⟩

/-- The root and the class of the other method. -/
def valueless : Universe :=
  (Universe.ofRecords
    [valuelessRoot.record, classOf "p/B" (methodOf "b" [⟨0, .op Opcode.athrow⟩])]
    { traversal := ["p"] }).toOption.get (by decide +kernel)

/-- The fault of an outcome is about a call path. -/
def isAboutPath : Except Fault Unit → Option Bool
  | .ok _ => none
  | .error fault => some fault.isAboutPath

/-- A walk of two methods that call each other ends alike with the limits three and seven, and
neither is ever too deep. A walk that ends in a throw without a value is too deep for the limit
one. -/
theorem limit_cuts_off_samples :
    (∃ w, walk cycle {} 3 cycleRoot.record cycleRoot.method = (.ok (), w) ∧
      walk cycle {} 7 cycleRoot.record cycleRoot.method = (.ok (), w)) ∧
    (cycleRoot.Declared cycle ∧ cycle.frames.length = 3 ∧ ∀ n frames,
      (walk cycle {} 3 cycleRoot.record cycleRoot.method).1 ≠
        .error (.callDepthExceeded n frames)) ∧
    ∃ fault w, walk valueless {} 2 valuelessRoot.record valuelessRoot.method = (.error fault, w) ∧
      fault.isAboutPath = false ∧ ∃ frames,
        (walk valueless {} 1 valuelessRoot.record valuelessRoot.method).1 =
          .error (.callDepthExceeded 1 frames) := by
  have hcycle := limit_cuts_off cycle {} cycleRoot (show 3 ≤ 7 by decide)
  have hfaulty := limit_cuts_off valueless {} valuelessRoot (show 1 ≤ 2 by decide)
  have hframes : cycle.frames.length = 3 := by decide +kernel
  refine ⟨?success, ?enough, ?failure⟩
  case success =>
    have hok : (walk cycle {} 3 cycleRoot.record cycleRoot.method).1 = .ok () :=
      toOption_eq_some.mp (by decide +kernel)
    have hwalk : walk cycle {} 3 cycleRoot.record cycleRoot.method = (.ok (), _) :=
      Prod.ext hok rfl
    exact ⟨_, hwalk, hcycle.1 _ hwalk⟩
  case enough =>
    exact ⟨cycleRoot_declared, hframes, hcycle.2.2 cycleRoot_declared hframes.le⟩
  case failure =>
    have htwo : isAboutPath (walk valueless {} 2 valuelessRoot.record valuelessRoot.method).1 =
      some false := by decide +kernel
    have hone : isAboutPath (walk valueless {} 1 valuelessRoot.record valuelessRoot.method).1 =
      some true := by decide +kernel
    cases hwalk : walk valueless {} 2 valuelessRoot.record valuelessRoot.method with
    | mk outcome w =>
      rw [hwalk] at htwo
      cases outcome with
      | ok => cases htwo
      | error fault =>
        have hfault : fault.isAboutPath = false := Option.some.inj htwo
        refine ⟨fault, w, rfl, hfault, ?_⟩
        rcases hfaulty.2.1 fault w hwalk with hsame | hdeep
        · -- The walk with the limit one ends with a fault about its path, so not with this one.
          rw [hsame] at hone
          exact absurd (Option.some.inj hone) (by simp [hfault])
        · exact hdeep

end Calls

end ApiSurface
