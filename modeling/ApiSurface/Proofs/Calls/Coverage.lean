import ApiSurface.Proofs.Calls.Run

/-!
# What a walk covers

A walk that succeeds enters exactly the methods that its root reaches, each once. It records
exactly the followed types that these throw, each once, and one rule for each of their validator
constructions.

A successful run performs its own steps and those of the methods it enters on the way. `Extends`
says what performing them has added to the walk. Methods on the path may still have steps to come,
so they are left out: a run accounts for the methods that it has entered itself, and these are
finished when it succeeds.

Main definitions: `Extends`, `Covers`. Main statements: `Performs.extends`, `walk_covers`.
-/
namespace ApiSurface.Calls

variable (u : Universe) (markers : Markers)

/-- The steps themselves and the steps of some methods. -/
def performed (steps : List Step) (added : List Node) : List Step :=
  steps ++ added.flatMap (Node.steps u markers)

/-- What performing steps adds to a walk if it succeeds. `added` are the methods that are entered
on the way. -/
structure Extends (steps : List Step) (added : List Node) (w w' : Walk) : Prop where
  entered : w'.entered = w.entered ++ added.map Node.frame
  nodup : w.entered.Nodup → w'.entered.Nodup
  reached : ∀ b ∈ added, ∃ a : Node, a.entry ∈ steps ∧ Reaches u markers a b
  called : ∀ n : Node, n.entry ∈ performed u markers steps added → n.frame ∈ w'.entered
  succeeded : ∀ s ∈ performed u markers steps added, s.isFault = false
  types : ∀ type, type ∈ w'.types ↔
    type ∈ w.types ∨ .throws type ∈ performed u markers steps added
  types_nodup : w.types.Nodup → w'.types.Nodup
  validations : w'.validations.Perm (w.validations ++ rules (performed u markers steps added))

variable {u markers}

namespace Extends

/-- Steps one after the other add what each of them adds. -/
theorem append {first second : List Step} {a b : List Node} {w w₁ w' : Walk}
    (hf : Extends u markers first a w w₁) (hs : Extends u markers second b w₁ w') :
    Extends u markers (first ++ second) (a ++ b) w w' := by
  have hperm : (performed u markers (first ++ second) (a ++ b)).Perm
      (performed u markers first a ++ performed u markers second b) := by
    simp only [performed, List.flatMap_append, List.append_assoc]
    refine List.Perm.append_left _ ?_
    simp only [← List.append_assoc]
    exact List.perm_append_comm.append_right _
  have hmem (s : Step) : s ∈ performed u markers (first ++ second) (a ++ b) ↔
      s ∈ performed u markers first a ∨ s ∈ performed u markers second b := by
    rw [hperm.mem_iff, List.mem_append]
  constructor
  case entered => simp [hs.entered, hf.entered]
  case nodup => exact fun h => hs.nodup (hf.nodup h)
  case reached =>
    intro n hn
    rcases List.mem_append.mp hn with hn | hn
    · obtain ⟨m, hm, h⟩ := hf.reached n hn
      exact ⟨m, List.mem_append_left _ hm, h⟩
    · obtain ⟨m, hm, h⟩ := hs.reached n hn
      exact ⟨m, List.mem_append_right _ hm, h⟩
  case called =>
    intro n hn
    rcases (hmem _).mp hn with hn | hn
    · rw [hs.entered]
      exact List.mem_append_left _ (hf.called n hn)
    · exact hs.called n hn
  case succeeded =>
    intro s h
    rcases (hmem _).mp h with h | h
    · exact hf.succeeded s h
    · exact hs.succeeded s h
  case types =>
    intro type
    rw [hs.types, hf.types, hmem, or_assoc]
  case types_nodup => exact fun h => hs.types_nodup (hf.types_nodup h)
  case validations =>
    have hrules : (rules (performed u markers (first ++ second) (a ++ b))).Perm
        (rules (performed u markers first a) ++ rules (performed u markers second b)) := by
      unfold rules
      rw [← List.filterMap_append]
      exact hperm.filterMap _
    refine hs.validations.trans ?_
    refine (hf.validations.append_right _).trans ?_
    rw [List.append_assoc]
    exact hrules.symm.append_left _

/-- A step that enters nothing and is no fault. -/
theorem single {s : Step} {w w' : Walk} (entered : w'.entered = w.entered)
    (called : ∀ n : Node, n.entry = s → n.frame ∈ w.entered) (succeeded : s.isFault = false)
    (types : ∀ type, type ∈ w'.types ↔ type ∈ w.types ∨ .throws type = s)
    (nodup : w.types.Nodup → w'.types.Nodup)
    (validations : w'.validations = w.validations ++ rules [s]) :
    Extends u markers [s] [] w w' where
  entered := by simpa using entered
  nodup := by simp [entered]
  reached := by simp
  called := by simpa [performed, entered] using called
  succeeded := by simpa [performed] using succeeded
  types := by simpa [performed] using types
  types_nodup := nodup
  validations := by simp [performed, validations]

theorem throws {w : Walk} (type : String) (path : List Frame) :
    Extends u markers [.throws type] [] w (w.throw type path) :=
  single (by simp) (by simp [Node.entry]) rfl (by simp) Walk.nodup_types_throw
    (by simp [rules, Step.rule?])

theorem validates {w : Walk} (rule : ValidationRule) :
    Extends u markers [.validates rule] [] w (w.validate rule) :=
  single rfl (by simp [Node.entry]) rfl (by simp [Walk.types, Walk.validate]) id
    (by simp [Walk.validate, rules, Step.rule?])

theorem note {w : Walk} (event : Event) :
    Extends u markers [.note event] [] w (w.note event) :=
  single rfl (by simp [Node.entry]) rfl (by simp [Walk.types, Walk.note]) id
    (by simp [Walk.note, rules, Step.rule?])

/-- Coming to a method that has been entered adds nothing. -/
theorem again {n : Node} {w : Walk} (entered : n.frame ∈ w.entered) :
    Extends u markers [n.entry] [] w w :=
  single rfl (by simpa using entered) rfl (by simp [Node.entry]) id
    (by simp [rules, Step.rule?, Node.entry])

/-- Entering a method adds the method to what its steps add. -/
theorem enter {n : Node} {added : List Node} {w w' : Walk} (fresh : n.frame ∉ w.entered)
    (body : Extends u markers (n.steps u markers) added (w.enter n.frame) w') :
    Extends u markers [n.entry] (n :: added) w w' := by
  have hall : performed u markers [n.entry] (n :: added) =
      n.entry :: performed u markers (n.steps u markers) added := by
    simp [performed]
  have hentered : w'.entered = w.entered ++ n.frame :: added.map Node.frame := by
    simp [body.entered, Walk.enter]
  constructor
  case entered => simpa using hentered
  case nodup =>
    intro h
    refine body.nodup ?_
    simpa [Walk.enter, List.nodup_append] using ⟨h, fun f hf he => fresh (he ▸ hf)⟩
  case reached =>
    intro b hb
    refine ⟨n, List.mem_singleton_self _, ?_⟩
    rcases List.mem_cons.mp hb with rfl | hb
    · exact .refl
    · obtain ⟨a, ha, h⟩ := body.reached b hb
      exact .head (entry_mem_steps.mp ha) h
  case called =>
    intro m hm
    rw [hall] at hm
    rcases List.mem_cons.mp hm with hm | hm
    · obtain rfl := Node.entry_inj.mp hm
      simp [hentered]
    · exact body.called m hm
  case succeeded =>
    intro s hs
    rw [hall] at hs
    rcases List.mem_cons.mp hs with rfl | hs
    · rfl
    · exact body.succeeded s hs
  case types =>
    intro type
    rw [body.types, hall]
    simp [Node.entry, Walk.enter, Walk.types]
  case types_nodup => exact body.types_nodup
  case validations =>
    rw [hall]
    exact body.validations

end Extends

/-- A run that succeeds accounts for the methods that it enters. -/
theorem Performs.extends {limit : Nat} {path : List Node} {steps : List Step} {w w' : Walk}
    {outcome : Except Fault Unit} (run : Performs u markers limit path steps w outcome w')
    (h : outcome = .ok ()) : ∃ added, Extends u markers steps added w w' := by
  induction run with
  | @done path w =>
    refine ⟨[], ?_⟩
    constructor <;> simp [performed, rules]
  | throws rest ih =>
    obtain ⟨added, e⟩ := ih h
    exact ⟨added, .append (.throws _ _) e⟩
  | validates rest ih =>
    obtain ⟨added, e⟩ := ih h
    exact ⟨added, .append (.validates _) e⟩
  | note rest ih =>
    obtain ⟨added, e⟩ := ih h
    exact ⟨added, .append (.note _) e⟩
  | unimplemented => cases h
  | fail => cases h
  | again entered rest ih =>
    obtain ⟨added, e⟩ := ih h
    exact ⟨added, .append (.again entered) e⟩
  | tooDeep => cases h
  | nested fresh depth body rest ihbody ih =>
    obtain ⟨inner, hinner⟩ := ihbody rfl
    obtain ⟨added, e⟩ := ih h
    exact ⟨_, .append (.enter fresh hinner) e⟩
  | stopped => cases h

/-- What a successful walk from `root` has to be; `nodes` are the methods that it entered, in
order. -/
structure Covers (u : Universe) (markers : Markers) (root : Node) (nodes : List Node) (w : Walk) :
    Prop where
  /-- The walk entered these methods and no others. -/
  entered : w.entered = nodes.map Node.frame
  /-- Each was entered once. -/
  entered_nodup : w.entered.Nodup
  /-- They are the least set that has the root and whatever its members lead to. -/
  reached : ∀ n, n ∈ nodes ↔ Reaches u markers root n
  /-- The recorded types are the followed ones that some of them throws. -/
  thrown : ∀ type, (∃ e ∈ w.exceptions, e.type = type) ↔
    u.contains .traversal type = true ∧ ∃ n, Reaches u markers root n ∧ Throws u n type
  /-- Each type is recorded once. -/
  thrown_nodup : (w.exceptions.map (·.type)).Nodup
  /-- Each validator construction has given the rule that is recovered there. -/
  validated : (w.validations.map Except.ok).Perm (nodes.flatMap (siteRules u markers))

/-- **A walk that succeeds enters exactly the methods that its root reaches**, each once, and
records exactly what they throw and construct. -/
theorem walk_covers {limit : Nat} {root : Node} {w : Walk} (hd : u.MethodsDistinct)
    (hroot : root.Declared u)
    (h : walk u markers limit root.record root.method = (.ok (), w)) :
    ∃ nodes, Covers u markers root nodes w := by
  have run := walk_performs u markers limit root
  rw [h] at run
  obtain ⟨nodes, e⟩ := run.extends rfl
  have hentered : w.entered = nodes.map Node.frame := by simpa using e.entered
  have hdeclared : ∀ n ∈ nodes, n.Declared u := by
    intro n hn
    obtain ⟨a, ha, hreach⟩ := e.reached n hn
    rw [List.mem_singleton, Node.entry_inj] at ha
    exact Reaches.declared (ha ▸ hreach) hroot
  -- A declared method whose frame was entered is one of the methods that were entered.
  have hmem {n : Node} (hn : n.Declared u) (hf : n.frame ∈ w.entered) : n ∈ nodes := by
    rw [hentered] at hf
    obtain ⟨m, hm, hframe⟩ := List.mem_map.mp hf
    rwa [← Node.eq_of_frame_eq hd (hdeclared m hm) hn hframe]
  have hsteps {s : Step} {n : Node} (hn : n ∈ nodes) (hs : s ∈ n.steps u markers) :
      s ∈ performed u markers [root.entry] nodes :=
    List.mem_append_right _ (List.mem_flatMap.mpr ⟨n, hn, hs⟩)
  have hreached : ∀ n, n ∈ nodes ↔ Reaches u markers root n := by
    intro n
    constructor
    · intro hn
      obtain ⟨a, ha, hreach⟩ := e.reached n hn
      rw [List.mem_singleton, Node.entry_inj] at ha
      exact ha ▸ hreach
    · intro hn
      induction hn with
      | refl => exact hmem hroot (e.called root (List.mem_append_left _ (by simp)))
      | tail _ edge ih =>
        exact hmem edge.followed.2 (e.called _ (hsteps ih (entry_mem_steps.mpr edge)))
  refine ⟨nodes, hentered, e.nodup (by simp), hreached, ?_, e.types_nodup (by simp [Walk.types]),
    ?_⟩
  · intro type
    have htype : (∃ x ∈ w.exceptions, x.type = type) ↔ type ∈ w.types := by simp [Walk.types]
    rw [htype, e.types]
    have hthrows : .throws type ∈ performed u markers [root.entry] nodes ↔
        ∃ n ∈ nodes, u.contains .traversal type = true ∧ Throws u n type := by
      simp [performed, List.mem_flatMap, throws_mem_steps, Node.entry]
    rw [hthrows]
    simp only [hreached, Walk.types, List.map_nil, List.not_mem_nil, false_or]
    constructor
    · rintro ⟨n, hn, hc, ht⟩
      exact ⟨hc, n, hn, ht⟩
    · rintro ⟨hc, n, hn, ht⟩
      exact ⟨n, hn, hc, ht⟩
  · have hrules : (rules (performed u markers [root.entry] nodes)).map Except.ok =
        nodes.flatMap (siteRules u markers) := by
      change (rules (nodes.flatMap (Node.steps u markers))).map Except.ok = _
      rw [rules_flatMap, List.map_flatMap]
      exact List.flatMap_congr fun n hn =>
        rules_steps fun s hs => e.succeeded s (hsteps hn hs)
    rw [← hrules]
    exact e.validations.map Except.ok

/-! ## Two methods that call each other -/

/-- A static call of a method without parameters. -/
def callOf (owner name : String) : Instruction := ⟨0, .call ⟨.static, owner, name, "()V"⟩⟩

/-- A method without parameters. -/
def methodOf (name : String) (body : List Instruction) : Method :=
  { name, descriptor := "()V", body }

/-- A class that declares one method. -/
def classOf (path : String) (method : Method) : ClassRecord :=
  .ofClass { name := path, methods := [method] }

/-- The method where a walk of the sample starts: it calls the other one. -/
def cycleRoot : Node :=
  let method := methodOf "a" [callOf "p/B" "b"]
  ⟨classOf "p/A" method, method⟩

/-- The other method calls the root and then throws. -/
def cycleRecords : List ClassRecord :=
  [cycleRoot.record,
    classOf "p/B" (methodOf "b" [callOf "p/A" "a", callOf "p/E" "<init>", ⟨0, .op Opcode.athrow⟩]),
    classOf "p/E" (methodOf "<init>" [])]

/-- The universe of the sample. -/
def cycle : Universe :=
  (Universe.ofRecords cycleRecords { traversal := ["p"] }).toOption.get (by decide +kernel)

theorem cycle_methodsDistinct : cycle.MethodsDistinct := by
  have h : Universe.ofRecords cycleRecords { traversal := ["p"] } = .ok cycle :=
    toOption_eq_some.mp (Option.some_get _).symm
  refine Universe.methodsDistinct_ofRecords h ?_
  simp [cycleRecords, cycleRoot, classOf, ClassRecord.ofClass, ClassRecord.info, Fault.ofDecoding]

theorem cycleRoot_declared : cycleRoot.Declared cycle := by
  refine ⟨by rfl, _, rfl, ?_⟩
  simp [cycleRoot]

/-- The walk of the sample ends, and it covers what is reached. -/
theorem walk_covers_cycle : ∃ w nodes,
    walk cycle {} 3 cycleRoot.record cycleRoot.method = (.ok (), w) ∧ w.entered.length = 3 ∧
      Covers cycle {} cycleRoot nodes w := by
  have hok : (walk cycle {} 3 cycleRoot.record cycleRoot.method).1 = .ok () :=
    toOption_eq_some.mp (by decide +kernel)
  have hwalk : walk cycle {} 3 cycleRoot.record cycleRoot.method = (.ok (), _) :=
    Prod.ext hok rfl
  obtain ⟨nodes, h⟩ := walk_covers cycle_methodsDistinct cycleRoot_declared hwalk
  exact ⟨_, nodes, hwalk, by decide +kernel, h⟩

end ApiSurface.Calls
