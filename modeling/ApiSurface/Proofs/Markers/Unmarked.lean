import ApiSurface.Proofs.Universe.Followed

/-!
# Classes without markers

Markers stand between the instructions of a body and do nothing. Leaving them out is a map on
methods, classes and universes, and what is looked up in a universe without markers is what is
looked up in the universe itself, without its markers. The hierarchy knows no bodies at all.

Main definitions: `Universe.unmarked`, `Universe.BodiesReal`. Main statements:
`implementations_unmarked`, `resolveMethod_unmarked`, `resolveDefaultMethod_unmarked`.
-/
namespace ApiSurface

/-- The instructions of a body that are not markers. -/
def realPart (body : List Instruction) : List Instruction := body.filter (! ·.isMarker)

@[simp] theorem realPart_realPart (body : List Instruction) :
    realPart (realPart body) = realPart body := by
  simp [realPart]

/-- The method without markers in its body. -/
def Method.unmarked (m : Method) : Method := { m with body := realPart m.body }

/-- The class without markers in its methods. -/
def Class.unmarked (c : Class) : Class := { c with methods := c.methods.map Method.unmarked }

/-- The record of a class without markers. -/
def ClassRecord.unmarked (r : ClassRecord) : ClassRecord :=
  { r with content := r.content.map Class.unmarked }

/-- The universe without markers. -/
def Universe.unmarked (u : Universe) : Universe where
  records := u.records.map fun _ r => r.unmarked
  scope := u.scope
  keyed := by
    intro path r h
    rw [Std.ExtTreeMap.getElem?_map] at h
    obtain ⟨own, hown, rfl⟩ := Option.map_eq_some_iff.mp h
    exact u.keyed path own hown

/-- Every body of the class that is not empty has an instruction that is not a marker. -/
def ClassRecord.BodiesReal (r : ClassRecord) : Prop :=
  ∀ c, r.info = .ok c → ∀ m ∈ c.methods, m.body ≠ [] → realPart m.body ≠ []

/-- Every body of the universe that is not empty has an instruction that is not a marker. -/
def Universe.BodiesReal (u : Universe) : Prop :=
  ∀ path r, u.find? path = some r → r.BodiesReal

/-! ## Methods and classes -/

namespace Method

variable (m : Method)

@[simp] theorem unmarked_unmarked : m.unmarked.unmarked = m.unmarked := by
  simp [unmarked]

@[simp] theorem unmarked_name : m.unmarked.name = m.name := rfl

@[simp] theorem unmarked_flags : m.unmarked.flags = m.flags := rfl

@[simp] theorem unmarked_annotations : m.unmarked.annotations = m.annotations := rfl

@[simp] theorem unmarked_body : m.unmarked.body = realPart m.body := rfl

end Method

namespace Class

variable (c : Class)

@[simp] theorem unmarked_unmarked : c.unmarked.unmarked = c.unmarked := by
  simp [unmarked]

@[simp] theorem unmarked_fields : c.unmarked.fields = c.fields := rfl

@[simp] theorem unmarked_flags : c.unmarked.flags = c.flags := rfl

@[simp] theorem unmarked_methods : c.unmarked.methods = c.methods.map Method.unmarked := rfl

@[simp] theorem unmarked_superclass : c.unmarked.superclass = c.superclass := rfl

@[simp] theorem unmarked_annotations : c.unmarked.annotations = c.annotations := rfl

@[simp] theorem supertypes_unmarked : c.unmarked.supertypes = c.supertypes := rfl

@[simp] theorem isConcrete_unmarked : c.unmarked.isConcrete = c.isConcrete := rfl

@[simp] theorem method?_unmarked (name : String) (descriptor : Option String) :
    c.unmarked.method? name descriptor = (c.method? name descriptor).map Method.unmarked := by
  simp only [method?, unmarked_methods, List.find?_map]
  rfl

end Class

namespace ClassRecord

variable (r : ClassRecord)

@[simp] theorem unmarked_path : r.unmarked.path = r.path := rfl

@[simp] theorem unmarked_unmarked : r.unmarked.unmarked = r.unmarked := by
  obtain ⟨path, content⟩ := r
  cases content with
  | error undecodable => rfl
  | ok c => exact congrArg (mk path <| .ok ·) c.unmarked_unmarked

@[simp] theorem info_unmarked : r.unmarked.info = r.info.map Class.unmarked := by
  unfold info unmarked
  cases r.content <;> rfl

end ClassRecord

/-! ## The universe and its hierarchy -/

private theorem filterAuxM_map {α β ε : Type} (p : β → Except ε Bool) (f : α → β)
    (l acc : List α) :
    (l.map f).filterAuxM p (acc.map f) =
      (l.filterAuxM (fun a => p (f a)) acc).map (List.map f) := by
  induction l generalizing acc with
  | nil => rfl
  | cons a l ih =>
    simp only [List.map_cons, List.filterAuxM]
    cases p (f a) with
    | error e => rfl
    | ok b =>
      simp only [ok_bind]
      cases b
      · exact ih acc
      · exact ih (a :: acc)

/-- A filter may be applied before or after a map. -/
theorem filterM_map {α β ε : Type} (p : β → Except ε Bool) (f : α → β) (l : List α) :
    (l.map f).filterM p = (l.filterM fun a => p (f a)).map (List.map f) := by
  have haux := filterAuxM_map p f l []
  simp only [List.filterM, List.map_nil] at haux ⊢
  rw [haux]
  cases l.filterAuxM (fun a => p (f a)) [] with
  | error e => rfl
  | ok kept => exact congrArg Except.ok List.map_reverse.symm

namespace Universe

variable (u : Universe)

@[simp] theorem size_unmarked : u.unmarked.size = u.size := Std.ExtTreeMap.size_map

@[simp] theorem paths_unmarked : u.unmarked.paths = u.paths := Std.ExtTreeMap.keys_map

@[simp] theorem find?_unmarked (path : String) :
    u.unmarked.find? path = (u.find? path).map ClassRecord.unmarked := Std.ExtTreeMap.getElem?_map

@[simp] theorem lookup_unmarked (path : String) :
    u.unmarked.lookup path = (u.lookup path).map ClassRecord.unmarked := by
  unfold lookup
  rw [find?_unmarked]
  cases u.find? path <;> rfl

@[simp] theorem contains_unmarked (subset : Subset) (path : String) :
    u.unmarked.contains subset path = u.contains subset path := by
  unfold contains
  exact congrArg (· && _) Std.ExtTreeMap.contains_map

@[simp] theorem recordsIn_unmarked (subset : Subset) :
    u.unmarked.recordsIn subset = (u.recordsIn subset).map ClassRecord.unmarked := by
  have hlist : u.unmarked.records.toList =
      u.records.toList.map fun p => (p.1, p.2.unmarked) := Std.ExtTreeMap.toList_map
  simp only [recordsIn, hlist, contains_unmarked, List.filter_map, List.map_map]
  rfl

@[simp] theorem searchAbove_unmarked (target : String) (budget : Nat) (chain : List String)
    (path : String) :
    u.unmarked.searchAbove target budget chain path = u.searchAbove target budget chain path := by
  induction budget generalizing chain path with
  | zero =>
    unfold searchAbove
    rw [find?_unmarked]
    cases u.find? path <;> rfl
  | succ budget ih =>
    unfold searchAbove
    rw [find?_unmarked]
    cases u.find? path with
    | none => rfl
    | some record =>
      have hsearch : u.unmarked.searchAbove target budget (chain ++ [path]) =
          u.searchAbove target budget (chain ++ [path]) := funext (ih (chain ++ [path]))
      simp only [Option.map_some, ClassRecord.info_unmarked, hsearch]
      cases record.info <;> rfl

@[simp] theorem descends_unmarked (path target : String) :
    u.unmarked.descends path target = u.descends path target := by
  rw [descends, descends, searchAbove_unmarked, size_unmarked]

@[simp] theorem typesBelow_unmarked (subset : Subset) (target : String) :
    u.unmarked.typesBelow subset target =
      (u.typesBelow subset target).map (List.map ClassRecord.unmarked) := by
  unfold typesBelow
  rw [recordsIn_unmarked, filterM_map]
  simp only [descends_unmarked]
  rfl

@[simp] theorem concreteOf_unmarked (records : List ClassRecord) :
    concreteOf (records.map ClassRecord.unmarked) =
      (concreteOf records).map (List.map ClassRecord.unmarked) := by
  have hconcrete (r : ClassRecord) :
      (do let c ← r.unmarked.info; .ok c.isConcrete : Except Fault Bool) = (do
        let c ← r.info
        .ok c.isConcrete) := by
    rw [ClassRecord.info_unmarked]
    cases r.info <;> rfl
  simp only [concreteOf, filterM_map, hconcrete]

@[simp] theorem implementations_unmarked (subset : Subset) (target : String) :
    u.unmarked.implementations subset target =
      (u.implementations subset target).map (List.map ClassRecord.unmarked) := by
  unfold implementations
  rw [typesBelow_unmarked]
  cases u.typesBelow subset target with
  | error fault => rfl
  | ok below => exact concreteOf_unmarked below

/-! ## Finding methods -/

/-- What a search for a method finds, without markers. -/
def unmarkedResult (found : Option (ClassRecord × Method)) : Option (ClassRecord × Method) :=
  found.map (Prod.map ClassRecord.unmarked Method.unmarked)

@[simp] theorem followedSuper?_unmarked (c : Class) :
    u.unmarked.followedSuper? c.unmarked = (u.followedSuper? c).map ClassRecord.unmarked := by
  unfold followedSuper?
  rw [Class.unmarked_superclass]
  cases c.superclass with
  | none => rfl
  | some parent =>
    simp only [Option.bind_some, contains_unmarked, find?_unmarked]
    split <;> rfl

theorem resolveFrom_unmarked (name : String) (descriptor : Option String) (budget : Nat)
    (seen : List String) (record : ClassRecord) :
    u.unmarked.resolveFrom name descriptor budget seen record.unmarked =
      (u.resolveFrom name descriptor budget seen record).map unmarkedResult := by
  induction budget generalizing seen record with
  | zero =>
    unfold resolveFrom
    rw [ClassRecord.unmarked_path, paths_unmarked]
    split <;> rfl
  | succ budget ih =>
    unfold resolveFrom
    rw [ClassRecord.unmarked_path, paths_unmarked, ClassRecord.info_unmarked]
    split
    · rfl
    cases record.info with
    | error fault => rfl
    | ok c =>
      simp only [Except.map, ok_bind, Class.method?_unmarked, followedSuper?_unmarked]
      cases c.method? name descriptor with
      | some m => rfl
      | none =>
        cases u.followedSuper? c with
        | none => rfl
        | some parent => exact ih (record.path :: seen) parent

/-- A method is found on the same class whether there are markers or not. -/
@[simp] theorem resolveMethod_unmarked (record : ClassRecord) (name : String)
    (descriptor : Option String) :
    u.unmarked.resolveMethod record.unmarked name descriptor =
      (u.resolveMethod record name descriptor).map unmarkedResult := by
  rw [resolveMethod, size_unmarked, resolveFrom_unmarked]
  rfl

@[simp] theorem defaultMethod?_unmarked (c : Class) (name descriptor : String) :
    defaultMethod? c.unmarked name descriptor =
      (defaultMethod? c name descriptor).map Method.unmarked := by
  unfold defaultMethod?
  rw [Class.unmarked_flags]
  split
  · simp only [Class.unmarked_methods, List.find?_map]
    rfl
  · rfl

@[simp] theorem unseenSupers_unmarked (seen parents : List String) :
    u.unmarked.unseenSupers seen parents = u.unseenSupers seen parents := by
  induction parents generalizing seen with
  | nil => rfl
  | cons parent parents ih => simp only [unseenSupers, contains_unmarked, ih]

theorem defaultFrom_unmarked (name descriptor : String) (budget : Nat)
    (queue : List ClassRecord) (seen : List String) :
    u.unmarked.defaultFrom name descriptor budget (queue.map ClassRecord.unmarked) seen =
      (u.defaultFrom name descriptor budget queue seen).map unmarkedResult := by
  induction budget generalizing queue seen with
  | zero => cases queue <;> rfl
  | succ budget ih =>
    cases queue with
    | nil => rfl
    | cons record queue =>
      simp only [List.map_cons, defaultFrom, ClassRecord.info_unmarked]
      cases record.info with
      | error fault => rfl
      | ok c =>
        simp only [Except.map, ok_bind, defaultMethod?_unmarked, Class.supertypes_unmarked,
          unseenSupers_unmarked]
        cases defaultMethod? c name descriptor with
        | some m => rfl
        | none =>
          have hqueue : queue.map ClassRecord.unmarked ++
              (u.unseenSupers seen c.supertypes).filterMap u.unmarked.find? =
            (queue ++ (u.unseenSupers seen c.supertypes).filterMap u.find?).map
              ClassRecord.unmarked := by
            have hfind : u.unmarked.find? = fun path => (u.find? path).map ClassRecord.unmarked :=
              funext u.find?_unmarked
            rw [List.map_append, List.map_filterMap, hfind]
          dsimp only [Option.map_none]
          rw [hqueue]
          exact ih _ _

/-- A default method is found on the same interface whether there are markers or not. -/
@[simp] theorem resolveDefaultMethod_unmarked (record : ClassRecord) (name descriptor : String) :
    u.unmarked.resolveDefaultMethod record.unmarked name descriptor =
      (u.resolveDefaultMethod record name descriptor).map unmarkedResult := by
  rw [resolveDefaultMethod, size_unmarked]
  exact u.defaultFrom_unmarked name descriptor (u.size + 1) [record] [record.path]

/-! ## Leaving out markers twice -/

/-- Universes of the same scope that have the same classes are the same. -/
theorem eq_of_find? {u u' : Universe} (hscope : u.scope = u'.scope)
    (h : ∀ path, u.find? path = u'.find? path) : u = u' := by
  obtain ⟨records, scope, keyed⟩ := u
  obtain ⟨records', scope', keyed'⟩ := u'
  obtain rfl : records = records' := Std.ExtTreeMap.ext_getElem? h
  obtain rfl : scope = scope' := hscope
  rfl

theorem unmarked_unmarked : u.unmarked.unmarked = u.unmarked := by
  refine eq_of_find? rfl fun path => ?_
  simp [Function.comp_def]

/-- Without markers there is no body of markers alone. -/
theorem bodiesReal_unmarked : u.unmarked.BodiesReal := by
  intro path r hr c hc m hm
  rw [find?_unmarked] at hr
  obtain ⟨own, -, rfl⟩ := Option.map_eq_some_iff.mp hr
  rw [ClassRecord.info_unmarked] at hc
  cases hown : own.info with
  | error fault =>
    rw [hown] at hc
    cases hc
  | ok d =>
    rw [hown] at hc
    cases hc
    obtain ⟨n, -, rfl⟩ := List.mem_map.mp hm
    rw [Method.unmarked_body, realPart_realPart]
    exact id

/-- Bodies are real in a universe if they are in each of the records it was made of. -/
theorem bodiesReal_ofRecords {records : List ClassRecord} {scope : Scope} {u : Universe}
    (h : ofRecords records scope = .ok u) (hreal : ∀ r ∈ records, r.BodiesReal) : u.BodiesReal :=
  fun _ r hr => hreal r (mem_of_ofRecords h hr)

end Universe

end ApiSurface
