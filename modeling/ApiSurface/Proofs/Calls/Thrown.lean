import ApiSurface.Proofs.Calls.Coverage
import ApiSurface.Proofs.Calls.Receivers
import ApiSurface.Proofs.Idiom.Matching

/-!
# What a throw records

The value that is thrown comes from the last instruction before the throw that is no marker, or from
the one before it if that is a cast. A constructor call gives an object of its own class, another
call one of the class that it returns, and a load one of the class of the first variable that holds
its slot at its offset. Nothing else can be thrown: the walk then ends with a fault.

Main definitions: `LastReal`, `ValueSource`, `Gives`, `recorded`. Main statements: `throw_effect`,
`walk_gives`.
-/
namespace ApiSurface.Calls

/-! ## Where a thrown value comes from -/

/-- The instruction is the last one of some code that is no marker, and `front` is the code before
it. -/
def LastReal (code front : List Instruction) (i : Instruction) : Prop :=
  i.isMarker = false ∧
    ∃ trailing, (∀ x ∈ trailing, x.isMarker = true) ∧ code = front ++ i :: trailing

/-- A value on which some code ends comes from the instruction. -/
inductive ValueSource (code : List Instruction) : Instruction → Prop
  | last {s : Instruction} {front : List Instruction} (last : LastReal code front s)
      (uncast : s.payload.opcode? ≠ some Opcode.checkcast) : ValueSource code s
  | cast {c s : Instruction} {front further : List Instruction} (last : LastReal code front c)
      (cast : c.payload.opcode? = some Opcode.checkcast) (before : LastReal front further s) :
      ValueSource code s

/-- The variable holds the slot at the offset. -/
structure Holds (slot offset : Nat) (v : LocalVariable) : Prop where
  index : v.index = slot
  start : v.start ≤ offset
  stop : offset < v.start + v.length

/-- The instruction of a method gives a value of a class. No class stands for a slot that no
variable holds, although the method keeps its variables: the compiler made it to throw a caught
exception again. -/
inductive Gives (m : Method) (s : Instruction) : Option String → Prop
  | constructed {c : Call} (call : s.payload = .call c) (init : c.name = "<init>") :
      Gives m s (some c.owner)
  | returned {c : Call} {type : MethodType} {name : String} (call : s.payload = .call c)
      (plain : c.name ≠ "<init>") (reads : MethodType.ofDescriptor c.descriptor = .ok type)
      (returns : type.returns = some (.object name)) : Gives m s (some name)
  | loaded {slot : Nat} {v : LocalVariable} {earlier later : List LocalVariable} {name : String}
      (load : s.payload = .localSlot Opcode.aload slot) (locals : m.locals = earlier ++ v :: later)
      (holds : Holds slot s.offset v) (first : ∀ x ∈ earlier, ¬ Holds slot s.offset x)
      (reads : FieldType.ofDescriptor v.descriptor = .ok (.object name)) : Gives m s (some name)
  | unnamed {slot : Nat} (load : s.payload = .localSlot Opcode.aload slot) (table : m.locals ≠ [])
      (unheld : ∀ v ∈ m.locals, ¬ Holds slot s.offset v) : Gives m s none

/-- The exceptions that are recorded after a value of the type was thrown on the path: the type is
added if it is followed and has not been recorded. -/
def recorded (u : Universe) (w : Walk) (path : List Frame) (type : String) :
    List ThrownException :=
  if u.contains .traversal type = true ∧ type ∉ w.types then w.exceptions ++ [⟨type, path⟩]
  else w.exceptions

variable {u : Universe} {markers : Markers} {m : Method} {location : String}
  {code front rest body : List Instruction} {i s : Instruction} {index slot : Nat}
  {given : Option String} {captures : Captures}

/-- The instructions that a search before an anchor looks at, the last one first, begin with the
last instruction that is no marker. -/
theorem window_eq_cons_iff : (code.filter (! ·.isMarker)).reverse = i :: rest ↔
    ∃ front, LastReal code front i ∧ (front.filter (! ·.isMarker)).reverse = rest := by
  constructor
  · intro h
    induction code using List.reverseRecOn with
    | nil => cases h
    | append_singleton code x ih =>
      by_cases hx : x.isMarker = true
      · obtain ⟨front, ⟨hi, trailing, htrailing, rfl⟩, hfront⟩ := ih (by simpa [hx] using h)
        refine ⟨front, ⟨hi, trailing ++ [x], ?_, by simp⟩, hfront⟩
        intro y hy
        rcases List.mem_append.mp hy with hy | hy
        · exact htrailing y hy
        · rwa [List.mem_singleton.mp hy]
      · obtain ⟨rfl, hrest⟩ : x = i ∧ (code.filter (! ·.isMarker)).reverse = rest := by
          simpa [hx] using h
        exact ⟨code, ⟨by simpa using hx, [], by simp, rfl⟩, hrest⟩
  · rintro ⟨front, ⟨hi, trailing, htrailing, rfl⟩, rfl⟩
    have hnone : trailing.filter (! ·.isMarker) = [] := by
      simpa [List.filter_eq_nil_iff] using htrailing
    simp [List.filter_append, hi, hnone]

/-! ## Matching the source -/

/-- An instruction with the payload can give a value that is thrown. -/
def CanGive (p : Payload) : Prop := p.kind = .call ∨ p.opcode? = some Opcode.aload

instance (p : Payload) : Decidable (CanGive p) := inferInstanceAs (Decidable (_ ∨ _))

/-- What the first pattern of `thrownIdiom` tests. -/
def sourceTest : Test := .anyOf [.kind .call, .opcode Opcode.aload]

theorem holds_sourceTest (u : Universe) (p : Payload) :
    sourceTest.holds u p = .ok (decide (CanGive p)) := by
  by_cases hcall : p.kind = .call <;> by_cases hload : p.opcode? = some Opcode.aload <;>
    simp [sourceTest, Test.holds, Test.holdsAny, CanGive, hcall, hload]

theorem Gives.canGive (h : Gives m s given) : CanGive s.payload := by
  cases h with
  | constructed call _ => exact .inl (by rw [call]; rfl)
  | returned call _ _ _ => exact .inl (by rw [call]; rfl)
  | loaded load _ _ _ _ => exact .inr (by rw [load]; rfl)
  | unnamed load _ _ => exact .inr (by rw [load]; rfl)

/-- What gives a value is no cast. -/
theorem CanGive.uncast {p : Payload} (h : CanGive p) : p.opcode? ≠ some Opcode.checkcast := by
  intro hcast
  rcases h with hcall | hload
  · cases p with
    | call c =>
      have hkind : ∀ kind : CallKind, kind.opcode ≠ Opcode.checkcast := by
        rintro (_ | _ | _ | _) <;> decide
      exact hkind c.kind (Option.some.inj hcast)
    | _ => cases hcall
  · rw [hload] at hcast
    exact absurd (Option.some.inj hcast) (by decide)

/-- The scan for a thrown value finds its source, and the cast after it if there is one. -/
theorem find_thrown (u : Universe) (location : String) (source : ValueSource (body.take index) s)
    (gives : CanGive s.payload) :
    ∃ cast, ((Scan.before location body index).anchor).find u thrownIdiom =
      .ok (some [some s, cast]) := by
  have hsource : sourceTest.holds u s.payload = .ok true := by simp [holds_sourceTest, gives]
  rw [Idiom.find_anchored_before]
  change ∃ cast, (Idiom.matchAt u [.optional (.opcode Opcode.checkcast), .required sourceTest]
    _).map (Option.map List.reverse) = .ok (some [some s, cast])
  cases source with
  | last last uncast =>
    rw [window_eq_cons_iff.mpr ⟨_, last, rfl⟩,
      Idiom.matchAt_optional_left (by simp [Test.holds, uncast]), Idiom.matchAt_required hsource]
    exact ⟨none, rfl⟩
  | @cast c _ _ _ last cast before =>
    have hrefused : sourceTest.holds u c.payload = .ok false := by
      simpa [holds_sourceTest] using fun h : CanGive c.payload => h.uncast cast
    rw [window_eq_cons_iff.mpr ⟨_, last, rfl⟩, window_eq_cons_iff.mpr ⟨_, before, rfl⟩,
      Idiom.matchAt_optional (by simp [Test.holds, cast]) (Idiom.matchAt_required_none hrefused),
      Idiom.matchAt_required hsource]
    exact ⟨some c, rfl⟩

/-- What the scan for a thrown value finds is a source. -/
theorem exists_source (h : ((Scan.before location body index).anchor).find u thrownIdiom =
    .ok (some captures)) : ∃ s, ValueSource (body.take index) s ∧ CanGive s.payload := by
  have hgives {x : Instruction} (hx : sourceTest.holds u x.payload = .ok true) :
      CanGive x.payload := by
    simpa [holds_sourceTest] using hx
  rw [Idiom.find_anchored_eq_some] at h
  change Idiom.matchAt u [.optional (.opcode Opcode.checkcast), .required sourceTest] _ = _ at h
  rw [Idiom.matchAt_cons] at h
  obtain ⟨attempt, htaking, hleaving⟩ := bind_eq_ok.mp h
  cases attempt with
  | some captures =>
    -- The last instruction is a cast, and the one before it gives the value.
    obtain ⟨c, before, _, hwindow, -, hcast, hmatch⟩ := Idiom.matchTaking_some htaking
    obtain ⟨s, rest, _, rfl, -, hsource, -⟩ := Idiom.matchAt_required_eq_some hmatch
    obtain ⟨front, hlast, hfront⟩ := window_eq_cons_iff.mp hwindow
    obtain ⟨_, hbefore, -⟩ := window_eq_cons_iff.mp hfront
    have hcast : c.payload.opcode? = some Opcode.checkcast := by
      simpa [Pattern.Passes, Pattern.optional, Test.holds] using hcast
    exact ⟨s, .cast hlast hcast hbefore, hgives hsource⟩
  | none =>
    obtain ⟨_, -, -, hmatch⟩ := Idiom.matchLeaving_some hleaving
    obtain ⟨s, rest, _, hwindow, -, hsource, -⟩ := Idiom.matchAt_required_eq_some hmatch
    obtain ⟨_, hlast, -⟩ := window_eq_cons_iff.mp hwindow
    exact ⟨s, .last hlast (hgives hsource).uncast, hgives hsource⟩

/-! ## The type of the value -/

theorem ofReading_eq_ok {α : Type} {text : String} {x : Except Descriptor.Refusal α} {a : α} :
    Fault.ofReading text x = .ok a ↔ x = .ok a := by
  cases x <;> simp [Fault.ofReading]

theorem liveAt_iff {v : LocalVariable} {offset : Nat} :
    (v.index = slot && v.isLiveAt offset) = true ↔ Holds slot offset v := by
  simp only [LocalVariable.isLiveAt, Bool.and_eq_true, decide_eq_true_eq]
  constructor
  · rintro ⟨index, start, stop⟩
    exact ⟨index, start, stop⟩
  · rintro ⟨index, start, stop⟩
    exact ⟨index, start, stop⟩

/-- The class that is read off a load is the one that the load gives. -/
theorem localType_eq_ok (load : s.payload = .localSlot Opcode.aload slot) :
    localType m location s slot = .ok given ↔ Gives m s given := by
  constructor
  · intro h
    unfold localType at h
    split at h
    · cases h
    next table =>
      split at h
      next hfind =>
        cases h
        refine .unnamed load (by simpa using table) fun v hv hholds => ?_
        exact List.find?_eq_none.mp hfind v hv (liveAt_iff.mpr hholds)
      next v hfind =>
        obtain ⟨hlive, earlier, later, hlocals, hearlier⟩ := List.find?_eq_some_iff_append.mp hfind
        obtain ⟨type, htype, h⟩ := bind_eq_ok.mp h
        split at h
        · cases h
          refine .loaded load hlocals (liveAt_iff.mp hlive) (fun x hx hholds => ?_)
            (ofReading_eq_ok.mp htype)
          simpa [liveAt_iff.mpr hholds] using hearlier x hx
        · cases h
  · intro h
    unfold localType
    cases h with
    | constructed call _ => cases load.symm.trans call
    | returned call _ _ _ => cases load.symm.trans call
    | @loaded _ v earlier later _ load' locals holds first reads =>
      cases load.symm.trans load'
      have hfind : m.locals.find? (fun v => v.index = slot && v.isLiveAt s.offset) = some v := by
        refine List.find?_eq_some_iff_append.mpr ⟨liveAt_iff.mpr holds, earlier, later, locals, ?_⟩
        intro x hx
        rw [Bool.not_eq_true', ← Bool.not_eq_true]
        exact fun hlive => first x hx (liveAt_iff.mp hlive)
      rw [if_neg (by simp [locals]), hfind]
      simp [reads, Fault.ofReading]
    | unnamed load' table unheld =>
      cases load.symm.trans load'
      have hfind : m.locals.find? (fun v => v.index = slot && v.isLiveAt s.offset) = none :=
        List.find?_eq_none.mpr fun v hv hlive => unheld v hv (liveAt_iff.mp hlive)
      rw [if_neg (by simpa using table), hfind]

/-- The class that is read off a call is the one that the call gives. -/
theorem callType_eq_ok {c : Call} (call : s.payload = .call c) :
    thrownType m location s = .ok given ↔ Gives m s given := by
  constructor
  · intro h
    simp only [thrownType, call] at h
    split at h
    next init =>
      cases h
      exact .constructed call (by simpa [Call.isConstructor] using init)
    next plain =>
      obtain ⟨type, htype, h⟩ := bind_eq_ok.mp h
      split at h
      next hreturns =>
        cases h
        exact .returned call (by simpa [Call.isConstructor] using plain) (ofReading_eq_ok.mp htype)
          hreturns
      · cases h
  · intro h
    simp only [thrownType, call]
    cases h with
    | constructed call' init =>
      cases call.symm.trans call'
      rw [if_pos (by simpa [Call.isConstructor] using init)]
    | returned call' plain reads returns =>
      cases call.symm.trans call'
      rw [if_neg (by simpa [Call.isConstructor] using plain), ofReading_eq_ok.mpr reads, ok_bind,
        returns]
    | loaded load _ _ _ _ => cases call.symm.trans load
    | unnamed load _ _ => cases call.symm.trans load

/-- The class that is read off an instruction is the one that the instruction gives. -/
theorem thrownType_eq_ok (gives : CanGive s.payload) :
    thrownType m location s = .ok given ↔ Gives m s given := by
  cases hs : s.payload with
  | call c => exact callType_eq_ok hs
  | localSlot opcode slot =>
    have load : s.payload = .localSlot Opcode.aload slot := by
      rcases gives with hkind | hload
      · rw [hs] at hkind
        cases hkind
      · rw [hs] at hload ⊢
        rw [Option.some.inj hload]
    rw [← localType_eq_ok load, thrownType, hs]
  | _ =>
    constructor
    · intro h
      simp [thrownType, hs] at h
    · intro h
      cases h <;> simp_all

/-! ## The steps of a throw -/

/-- What a throw does once the type of its value is known. -/
def typeSteps (u : Universe) (location : String) (s : Instruction) : Option String → List Step
  | none => [.note (.rethrowSkipped location (slotOf s.payload))]
  | some type =>
    if u.contains .traversal type then [.throws type]
    else [.note (.exceptionIgnored type location)]

/-- A throw of a value that an instruction gives. -/
theorem thrownSteps_of_gives (source : ValueSource (m.body.take index) s)
    (gives : Gives m s given) :
    thrownSteps u m location index = typeSteps u location s given := by
  obtain ⟨cast, hfind⟩ := find_thrown u location source gives.canGive
  rw [thrownSteps, Scan.require, hfind]
  simp only [ok_bind, List.getElem?_cons_zero, Option.join_some,
    (thrownType_eq_ok gives.canGive).mpr gives]
  cases given with
  | none => rfl
  | some type =>
    by_cases followed : u.contains .traversal type = true <;>
      simp [typeSteps, followed, stepsOrFail]

/-- A throw of a value that nothing gives. -/
theorem thrownSteps_of_not_gives (u : Universe) (location : String)
    (none : ¬ ∃ s given, ValueSource (m.body.take index) s ∧ Gives m s given) :
    ∃ fault, thrownSteps u m location index = [.fail fault] := by
  have hfails {x : Except Fault (List Step)} (h : ¬ ∃ steps, x = .ok steps) :
      ∃ fault, stepsOrFail x = [.fail fault] := by
    obtain ⟨fault, rfl⟩ := not_exists_ok.mp h
    exact ⟨fault, rfl⟩
  refine hfails ?_
  rintro ⟨steps, h⟩
  obtain ⟨captures, hrequire, h⟩ := bind_eq_ok.mp h
  obtain ⟨_ | found, hfind, hfound⟩ := bind_eq_ok.mp hrequire
  · cases hfound
  obtain ⟨s, source, gives⟩ := exists_source hfind
  obtain ⟨cast, hthrown⟩ := find_thrown u location source gives
  cases hthrown.symm.trans hfind
  cases hfound
  obtain ⟨given, htype, -⟩ := bind_eq_ok.mp h
  exact none ⟨s, given, source, (thrownType_eq_ok gives).mp htype⟩

/-! ## Performing a throw -/

/-- What a throw records, by the type of its value. -/
theorem effect_typeSteps (enter : List Frame → ClassRecord → Method → Walking Unit)
    (path : List Frame) (w : Walk) (given : Option String) :
    effect (runFrom (performAll enter path (typeSteps u location s given)) w) =
      ⟨.ok (), w.entered, given.elim w.exceptions (recorded u w path), w.validations⟩ := by
  have hunseen {type : String} : w.exceptions.any (·.type = type) = true ↔ type ∈ w.types := by
    simp [Walk.types, List.any_eq_true]
  cases given with
  | none => rfl
  | some type =>
    rw [typeSteps, Option.elim_some, recorded]
    split
    next followed =>
      change (⟨.ok (), (w.throw type path).entered, (w.throw type path).exceptions,
        (w.throw type path).validations⟩ : Effect) = _
      rw [Walk.entered_throw, Walk.validations_throw, Walk.throw]
      by_cases seen : type ∈ w.types
      · rw [if_pos (hunseen.mpr seen), if_neg (by simp [seen])]
      · rw [if_neg (hunseen.not.mpr seen), if_pos ⟨followed, seen⟩]
    next ignored => rw [if_neg (by simp [ignored])]; rfl

theorem instructionSteps_throw (u : Universe) (markers : Markers) (location : String)
    {before after : List Instruction} (body : m.body = before ++ i :: after)
    (throws : i.payload = .op Opcode.athrow) :
    instructionSteps u markers m location i before.length =
        thrownSteps u m location before.length ∧ m.body.take before.length = before := by
  simp [instructionSteps, throws, body]

/-- **A throw records the class of the value that the last instruction before it gives.** The class
is added to the exceptions, with the path, if it is followed and new, and nothing else changes;
nothing is recorded for a variable that the compiler made. A throw of a value that no such
instruction gives ends the walk there, whatever would follow. -/
theorem throw_effect (u : Universe) (markers : Markers) (m : Method) (location : String)
    {before after : List Instruction} {i : Instruction} (body : m.body = before ++ i :: after)
    (throws : i.payload = .op Opcode.athrow)
    (enter : List Frame → ClassRecord → Method → Walking Unit) (path : List Frame) (w : Walk) :
    let steps := instructionSteps u markers m location i before.length
    (∀ s type, ValueSource before s → Gives m s (some type) →
      effect (runFrom (performAll enter path steps) w) =
        ⟨.ok (), w.entered, recorded u w path type, w.validations⟩) ∧
    (∀ s, ValueSource before s → Gives m s none →
      effect (runFrom (performAll enter path steps) w) =
        ⟨.ok (), w.entered, w.exceptions, w.validations⟩) ∧
    ((¬ ∃ s given, ValueSource before s ∧ Gives m s given) →
      ∃ fault, ∀ rest, runFrom (performAll enter path (steps ++ rest)) w = (.error fault, w)) := by
  obtain ⟨hsteps, hcode⟩ := instructionSteps_throw u markers location body throws
  have heffect {s : Instruction} {given : Option String} (source : ValueSource before s)
      (gives : Gives m s given) : effect (runFrom (performAll enter path
        (instructionSteps u markers m location i before.length)) w) =
        ⟨.ok (), w.entered, given.elim w.exceptions (recorded u w path), w.validations⟩ := by
    rw [hsteps, thrownSteps_of_gives (hcode.symm ▸ source) gives, effect_typeSteps]
  refine ⟨fun s type source gives => ?_, fun s source gives => ?_, fun none => ?_⟩
  · exact heffect source gives
  · exact heffect source gives
  · rw [← hcode] at none
    obtain ⟨fault, hfails⟩ := thrownSteps_of_not_gives u location none
    refine ⟨fault, fun rest => ?_⟩
    rw [hsteps, hfails, List.singleton_append, runFrom_performAll_cons]
    rfl

/-- A method that keeps two variables in a slot, a text and then an exception, which it casts and
throws. -/
def reusedSlot : Method where
  name := "run"
  descriptor := "()V"
  locals := [⟨"text", "Ljava/lang/String;", 1, 0, 4⟩, ⟨"cause", "Lp/E;", 1, 4, 8⟩]
  body := [⟨5, .localSlot Opcode.aload 1⟩, ⟨6, .label⟩, ⟨6, .type Opcode.checkcast "p/E"⟩,
    ⟨9, .lineNumber 7⟩, ⟨9, .op Opcode.athrow⟩]

/-- A method that throws a null reference. -/
def nullThrow : Method where
  name := "fail"
  descriptor := "()V"
  body := [⟨0, .op 1⟩, ⟨1, .op Opcode.athrow⟩]

/-- The type of the second variable is recorded, and the null reference ends the walk. -/
theorem throw_effect_reusedSlot :
    effect (runFrom (performAll (visit cycle {} 1 0) []
      (instructionSteps cycle {} reusedSlot "" ⟨9, .op Opcode.athrow⟩ 4)) {}) =
        ⟨.ok (), [], [⟨"p/E", []⟩], []⟩ ∧
      ∃ fault, runFrom (performAll (visit cycle {} 1 0) []
        (instructionSteps cycle {} nullThrow "" ⟨1, .op Opcode.athrow⟩ 1)) {} =
          (.error fault, {}) := by
  constructor
  · have body : reusedSlot.body = reusedSlot.body.take 4 ++ [⟨9, .op Opcode.athrow⟩] := rfl
    have source : ValueSource (reusedSlot.body.take 4) ⟨5, .localSlot Opcode.aload 1⟩ := by
      have last : LastReal (reusedSlot.body.take 4) (reusedSlot.body.take 2)
          ⟨6, .type Opcode.checkcast "p/E"⟩ := ⟨rfl, [⟨9, .lineNumber 7⟩], by decide, rfl⟩
      have before : LastReal (reusedSlot.body.take 2) [] ⟨5, .localSlot Opcode.aload 1⟩ :=
        ⟨rfl, [⟨6, .label⟩], by decide, rfl⟩
      exact .cast last rfl before
    have gives : Gives reusedSlot ⟨5, .localSlot Opcode.aload 1⟩ (some "p/E") := by
      have locals : reusedSlot.locals = [⟨"text", "Ljava/lang/String;", 1, 0, 4⟩] ++
        ⟨"cause", "Lp/E;", 1, 4, 8⟩ :: [] := rfl
      refine .loaded rfl locals ⟨rfl, by decide, by decide⟩ ?_ (by decide +kernel)
      intro x hx holds
      obtain rfl := List.mem_singleton.mp hx
      exact absurd holds.stop (by decide)
    have followed : recorded cycle {} [] "p/E" = [⟨"p/E", []⟩] := by decide +kernel
    rw [← followed]
    exact (throw_effect cycle {} reusedSlot "" body rfl (visit cycle {} 1 0) [] {}).1 _ _ source
      gives
  · have body : nullThrow.body = nullThrow.body.take 1 ++ [⟨1, .op Opcode.athrow⟩] := rfl
    obtain ⟨fault, hfails⟩ :=
      (throw_effect cycle {} nullThrow "" body rfl (visit cycle {} 1 0) [] {}).2.2 <| by
        rintro ⟨s, given, source, gives⟩
        cases source with
        | last last _ =>
          obtain ⟨rfl, -⟩ := List.cons.inj (window_eq_cons_iff.mpr ⟨_, last, rfl⟩)
          exact absurd gives.canGive (by decide)
        | cast last cast _ =>
          obtain ⟨rfl, -⟩ := List.cons.inj (window_eq_cons_iff.mpr ⟨_, last, rfl⟩)
          exact absurd cast (by decide)
    exact ⟨fault, hfails []⟩

/-- **In a walk that succeeds, every throw is of a value that its source gives.** -/
theorem walk_gives {limit : Nat} {root : Node} {w : Walk}
    (h : walk u markers limit root.record root.method = (.ok (), w)) :
    ∃ nodes : List Node, w.entered = nodes.map Node.frame ∧
      ∀ n ∈ nodes, ∀ before i after, n.method.body = before ++ i :: after →
        i.payload = .op Opcode.athrow →
          ∃ s given, ValueSource before s ∧ Gives n.method s given := by
  have run := walk_performs u markers limit root
  rw [h] at run
  obtain ⟨nodes, e⟩ := run.extends rfl
  refine ⟨nodes, by simpa using e.entered, fun n hn before i after body throws => ?_⟩
  by_contra none
  obtain ⟨hsteps, hcode⟩ := instructionSteps_throw u markers n.frame.location body throws
  obtain ⟨fault, hfails⟩ := thrownSteps_of_not_gives u n.frame.location (by rwa [hcode])
  have hmem : .fail fault ∈ n.steps u markers := by
    refine List.mem_flatMap.mpr ⟨(i, before.length), ?_, ?_⟩
    · exact List.mk_mem_zipIdx_iff_getElem?.mpr (by simp [body])
    · change .fail fault ∈ instructionSteps u markers n.method n.frame.location i before.length
      rw [hsteps, hfails]
      exact List.mem_singleton_self _
  have hsucceeds := e.succeeded (.fail fault)
    (List.mem_append_right _ (List.mem_flatMap.mpr ⟨n, hn, hmem⟩))
  cases hsucceeds

end ApiSurface.Calls
