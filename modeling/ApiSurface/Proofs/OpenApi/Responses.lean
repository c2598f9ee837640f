import ApiSurface.Proofs.OpenApi.Entry
import ApiSurface.Proofs.OpenApi.Operation
import ApiSurface.Proofs.Schema.Run
import ApiSurface.Proofs.Universe.Ascent

/-!
# The responses of an operation

An exception is answered with the status that its class declares, or else the nearest class up its
superclasses that declares one. The way up is followed as often as there are classes; it meets each
class at most once before the nearest status, and so no status is missed.

The response to a call that succeeds comes first and stays. Of several exceptions whose statuses
have one code the first is answered.

All exceptions and rules of the endpoint are listed in order, each by an entry that tells of it.

Main definitions: `NearestStatus`, `HasStatus`, `Responds`. Main statement: `operation_responds`.
-/
namespace ApiSurface.OpenApi
open Schema

/-! ## Declared statuses -/

/-- The annotations declare a status, as the constant of the enum of statuses that is the code or
the value of the first annotation for it. -/
def DeclaresStatus (annotations : List Annotation) (s : Status) : Prop :=
  ∃ annotation name, annotations.find? (·.type = responseStatusType) = some annotation ∧
    annotation.value? ["code", "value"] = some (.enumConstant statusEnum name) ∧
    Status.ofName? name = some s

theorem responseStatus_eq_some {annotations : List Annotation} {location : String} {s : Status} :
    responseStatus annotations location = .ok (some s) ↔ DeclaresStatus annotations s := by
  unfold responseStatus DeclaresStatus
  cases annotations.find? (·.type = responseStatusType) with
  | none => simp
  | some annotation =>
    cases hvalue : annotation.value? ["code", "value"] with
    | none => simp [hvalue]
    | some value =>
      cases value with
      | enumConstant type name =>
        by_cases htype : type = statusEnum
        · cases hstatus : Status.ofName? name <;> simp [hvalue, htype, hstatus]
        · simp [hvalue, htype]
      | _ => simp [hvalue]

/-- Annotations declare one status. -/
theorem DeclaresStatus.unique {annotations : List Annotation} {s s' : Status}
    (h : DeclaresStatus annotations s) (h' : DeclaresStatus annotations s') : s = s' := by
  obtain ⟨a, name, hfind, hvalue, hname⟩ := h
  obtain ⟨a', name', hfind', hvalue', hname'⟩ := h'
  cases hfind.symm.trans hfind'
  cases hvalue.symm.trans hvalue'
  exact Option.some.inj (hname.symm.trans hname')

variable {u : Universe} {record : ClassRecord} {s s' : Status}

/-- The nearest class that declares a status is so many superclasses above the class of a record,
and that is the status. -/
inductive NearestStatus (u : Universe) : ClassRecord → Nat → Status → Prop
  /-- The class declares a status. -/
  | here {record : ClassRecord} {c : Class} {s : Status} (info : record.info = .ok c)
      (declares : DeclaresStatus c.annotations s) : NearestStatus u record 0 s
  /-- The class does not, and its superclass is in the universe. -/
  | above {record parent : ClassRecord} {c : Class} {s : Status} {steps : Nat}
      (info : record.info = .ok c) (silent : ∀ s, ¬ DeclaresStatus c.annotations s)
      (next : c.superclass.bind u.find? = some parent) (rest : NearestStatus u parent steps s) :
      NearestStatus u record (steps + 1) s

/-- The exception is answered with a status. -/
def HasStatus (u : Universe) (type : String) (s : Status) : Prop :=
  ∃ record steps, u.find? type = some record ∧ NearestStatus u record steps s

namespace NearestStatus

/-- There is one nearest status. -/
theorem unique {steps steps' : Nat} (h : NearestStatus u record steps s)
    (h' : NearestStatus u record steps' s') : steps = steps' ∧ s = s' := by
  induction h generalizing steps' with
  | here info declares =>
    cases h' with
    | here info' declares' =>
      cases info.symm.trans info'
      exact ⟨rfl, declares.unique declares'⟩
    | above info' silent =>
      cases info.symm.trans info'
      exact absurd declares (silent _)
  | above info silent next _ ih =>
    cases h' with
    | here info' declares =>
      cases info.symm.trans info'
      exact absurd declares (silent _)
    | above info' _ next' rest =>
      cases info.symm.trans info'
      cases next.symm.trans next'
      obtain ⟨rfl, rfl⟩ := ih rest
      exact ⟨rfl, rfl⟩

/-- The classes on the way up to the nearest status are distinct classes of the universe. -/
theorem exists_chain {steps : Nat} (h : NearestStatus u record steps s)
    (found : u.find? record.path = some record) :
    ∃ chain : List String, chain.length = steps + 1 ∧ chain.Nodup ∧ ∀ path ∈ chain,
      ∃ r n, u.find? path = some r ∧ n ≤ steps ∧ NearestStatus u r n s := by
  induction h with
  | @here record c s info declares =>
    refine ⟨[record.path], rfl, by simp, ?_⟩
    simpa using ⟨record, found, .here info declares⟩
  | @above record parent c s steps info silent next rest ih =>
    obtain ⟨path, -, hparent⟩ := Option.bind_eq_some_iff.mp next
    obtain rfl := Universe.path_of_find? hparent
    obtain ⟨chain, hlength, hnodup, hchain⟩ := ih hparent
    refine ⟨record.path :: chain, by simp [hlength], List.nodup_cons.mpr ⟨?_, hnodup⟩, ?_⟩
    · -- A class that is met again would be at two distances from its nearest status.
      intro hmem
      obtain ⟨r, n, hr, hle, hnearest⟩ := hchain _ hmem
      cases found.symm.trans hr
      have hsteps := (hnearest.unique (.above info silent next rest)).1
      omega
    · refine List.forall_mem_cons.mpr ⟨⟨record, steps + 1, found, Nat.le_refl _, ?_⟩, ?_⟩
      · exact .above info silent next rest
      · intro path hpath
        obtain ⟨r, n, hr, hle, hnearest⟩ := hchain path hpath
        exact ⟨r, n, hr, Nat.le_succ_of_le hle, hnearest⟩

theorem lt_size {steps : Nat} (h : NearestStatus u record steps s)
    (found : u.find? record.path = some record) : steps < u.size := by
  obtain ⟨chain, hlength, hnodup, hchain⟩ := h.exists_chain found
  have hsubset : chain ⊆ u.paths := by
    intro path hpath
    obtain ⟨r, n, hr, -⟩ := hchain path hpath
    exact Universe.mem_paths.mpr ⟨r, hr⟩
  have hle := (List.subperm_of_subset hnodup hsubset).length_le
  rw [hlength, Universe.length_paths] at hle
  exact hle

/-- A class that declares a status is its own nearest. -/
theorem iff_of_declares {c : Class} {budget : Nat} (info : record.info = .ok c)
    (declares : DeclaresStatus c.annotations s) :
    (∃ steps ≤ budget, NearestStatus u record steps s') ↔ s = s' := by
  constructor
  · rintro ⟨steps, -, h⟩
    exact ((here info declares).unique h).2
  · rintro rfl
    exact ⟨0, Nat.zero_le _, here info declares⟩

/-- A class that declares no status has that of its superclass. -/
theorem iff_of_silent {c : Class} {steps : Nat} (info : record.info = .ok c)
    (silent : ∀ s, ¬ DeclaresStatus c.annotations s) :
    NearestStatus u record steps s ↔ ∃ parent n, c.superclass.bind u.find? = some parent ∧
      steps = n + 1 ∧ NearestStatus u parent n s := by
  constructor
  · intro h
    cases h with
    | here info' declares =>
      cases info.symm.trans info'
      exact absurd declares (silent _)
    | above info' _ next rest =>
      cases info.symm.trans info'
      exact ⟨_, _, next, rfl, rest⟩
  · rintro ⟨parent, n, next, rfl, rest⟩
    exact above info silent next rest

end NearestStatus

/-! ## The way up -/

/-- A class either ends the way up with its status, or has none. -/
theorem statusFrom_cases {budget : Nat} {found : Option Status}
    (h : statusFrom u budget record = .ok found) :
    ∃ c, record.info = .ok c ∧ ((∃ own, found = some own ∧ DeclaresStatus c.annotations own) ∨
      (∀ s, ¬ DeclaresStatus c.annotations s) ∧ (match budget with
        | 0 => .ok none
        | budget + 1 => match c.superclass.bind u.find? with
          | none => .ok none
          | some parent => statusFrom u budget parent) = Except.ok found) := by
  rw [statusFrom.eq_def] at h
  obtain ⟨c, info, h⟩ := bind_eq_ok.mp h
  obtain ⟨status, hstatus, h⟩ := bind_eq_ok.mp h
  refine ⟨c, info, ?_⟩
  cases status with
  | some own =>
    cases h
    exact .inl ⟨own, rfl, responseStatus_eq_some.mp hstatus⟩
  | none =>
    refine .inr ⟨fun s declares => ?_, h⟩
    cases hstatus.symm.trans (responseStatus_eq_some.mpr declares)

/-- The way up gives the nearest status within the budget. -/
theorem statusFrom_eq_ok {budget : Nat} {found : Option Status}
    (h : statusFrom u budget record = .ok found) :
    found = some s ↔ ∃ steps ≤ budget, NearestStatus u record steps s := by
  induction budget generalizing record with
  | zero =>
    obtain ⟨c, info, ⟨own, rfl, declares⟩ | ⟨silent, h⟩⟩ := statusFrom_cases h
    · rw [NearestStatus.iff_of_declares info declares, Option.some.injEq]
    · cases h
      simp [NearestStatus.iff_of_silent info silent]
  | succ budget ih =>
    obtain ⟨c, info, ⟨own, rfl, declares⟩ | ⟨silent, h⟩⟩ := statusFrom_cases h
    · rw [NearestStatus.iff_of_declares info declares, Option.some.injEq]
    · simp only [NearestStatus.iff_of_silent info silent]
      cases next : c.superclass.bind u.find? with
      | none =>
        simp only [next] at h
        cases h
        simp
      | some parent =>
        simp only [next] at h
        rw [ih h]
        constructor
        · rintro ⟨steps, hle, hnearest⟩
          exact ⟨steps + 1, Nat.succ_le_succ hle, parent, steps, rfl, rfl, hnearest⟩
        · rintro ⟨_, hle, _, steps, hparent, rfl, hnearest⟩
          cases hparent
          exact ⟨steps, Nat.le_of_succ_le_succ hle, hnearest⟩

/-- **An exception is answered with the nearest status.** -/
theorem exceptionStatus_eq_ok {type : String} {found : Option Status}
    (h : exceptionStatus u type = .ok found) : found = some s ↔ HasStatus u type s := by
  unfold exceptionStatus at h
  unfold HasStatus
  cases hrecord : u.find? type with
  | none =>
    rw [hrecord] at h
    cases h
    simp
  | some record =>
    rw [hrecord] at h
    rw [statusFrom_eq_ok h]
    have there : u.find? record.path = some record := by
      rw [Universe.path_of_find? hrecord, hrecord]
    constructor
    · rintro ⟨steps, -, hnearest⟩
      exact ⟨record, steps, rfl, hnearest⟩
    · rintro ⟨_, steps, ⟨⟩, hnearest⟩
      exact ⟨steps, Nat.le_of_lt (hnearest.lt_size there), hnearest⟩

/-! ## Responses to exceptions -/

/-- The status that an exception is answered with, if it can be read and there is one. -/
def statusOf? (u : Universe) (x : ThrownException) : Option Status :=
  (exceptionStatus u x.type).toOption.join

theorem getElem?_insertIfNew (responses : Responses) (code other : Nat) (r : Response) :
    (responses.insertIfNew code r)[other]? =
      responses[other]?.or (if code = other then some r else none) := by
  rw [Std.ExtTreeMap.getElem?_insertIfNew]
  by_cases h : code = other
  · subst h
    cases hold : responses[code]? with
    | none => simp [Std.ExtTreeMap.mem_iff_isSome_getElem?, hold]
    | some kept => simp [Std.ExtTreeMap.mem_iff_isSome_getElem?, hold]
  · simp [h]

/-- A code keeps its response, or else the first status of the code gives one. -/
theorem addExceptions_getElem? {responses all : Responses} {es : List ThrownException}
    (h : addExceptions u responses es = .ok all) (code : Nat) :
    all[code]? = responses[code]?.or
      (((es.filterMap (statusOf? u)).find? (·.code = code)).map fun s => ⟨s.reason, none⟩) := by
  induction es generalizing responses with
  | nil =>
    cases h
    simp
  | cons x es ih =>
    obtain ⟨status, hstatus, h⟩ := bind_eq_ok.mp h
    cases status with
    | none =>
      have hnone : statusOf? u x = none := by simp [statusOf?, hstatus, Except.toOption]
      rw [List.filterMap_cons_none hnone]
      exact ih h
    | some s =>
      have hsome : statusOf? u x = some s := by simp [statusOf?, hstatus, Except.toOption]
      rw [List.filterMap_cons_some hsome, List.find?_cons, ih h, getElem?_insertIfNew,
        Option.or_assoc]
      by_cases hcode : s.code = code <;> simp [hcode]

/-- Every exception of an operation that is made has a status that can be read, or none. -/
theorem exists_exceptionStatus {responses all : Responses} {es : List ThrownException}
    (h : addExceptions u responses es = .ok all) :
    ∀ x ∈ es, ∃ found, exceptionStatus u x.type = .ok found := by
  induction es generalizing responses with
  | nil => simp
  | cons x es ih =>
    obtain ⟨status, hstatus, h⟩ := bind_eq_ok.mp h
    refine List.forall_mem_cons.mpr ⟨⟨status, hstatus⟩, ?_⟩
    cases status <;> exact ih h

/-- Of exceptions, the first whose status has the code, with that status. -/
def FirstWith (u : Universe) (code : Nat) (es : List ThrownException) (s : Status) : Prop :=
  ∃ before x after, es = before ++ x :: after ∧ HasStatus u x.type s ∧ s.code = code ∧
    ∀ y ∈ before, ∀ t, HasStatus u y.type t → t.code ≠ code

/-- The status of an exception that is read is the one it is answered with. -/
theorem statusOf?_eq_some {x : ThrownException} {found : Option Status}
    (h : exceptionStatus u x.type = .ok found) : statusOf? u x = some s ↔ HasStatus u x.type s := by
  rw [← exceptionStatus_eq_ok h]
  simp [statusOf?, h, Except.toOption]

theorem find?_of_firstWith {code : Nat} {es : List ThrownException}
    (read : ∀ x ∈ es, ∃ found, exceptionStatus u x.type = .ok found)
    (h : FirstWith u code es s) :
    (es.filterMap (statusOf? u)).find? (·.code = code) = some s := by
  obtain ⟨before, x, after, rfl, hstatus, hcode, hbefore⟩ := h
  obtain ⟨found, hfound⟩ := read x (by simp)
  have hx := (statusOf?_eq_some hfound).mpr hstatus
  have hnone : (before.filterMap (statusOf? u)).find? (·.code = code) = none := by
    refine List.find?_eq_none.mpr fun t ht => ?_
    obtain ⟨y, hy, hyt⟩ := List.mem_filterMap.mp ht
    obtain ⟨found, hfound⟩ := read y (by simp [hy])
    simpa using hbefore y hy t ((statusOf?_eq_some hfound).mp hyt)
  rw [List.filterMap_append, List.filterMap_cons_some hx, List.find?_append, hnone]
  simp [hcode]

theorem exists_status_iff {code : Nat} {es : List ThrownException}
    (read : ∀ x ∈ es, ∃ found, exceptionStatus u x.type = .ok found) :
    (∃ s, (es.filterMap (statusOf? u)).find? (·.code = code) = some s) ↔
      ∃ x ∈ es, ∃ s, HasStatus u x.type s ∧ s.code = code := by
  rw [← Option.isSome_iff_exists, List.find?_isSome]
  constructor
  · rintro ⟨s, hs, hcode⟩
    obtain ⟨x, hx, hxs⟩ := List.mem_filterMap.mp hs
    obtain ⟨found, hfound⟩ := read x hx
    exact ⟨x, hx, s, (statusOf?_eq_some hfound).mp hxs, of_decide_eq_true hcode⟩
  · rintro ⟨x, hx, s, hstatus, hcode⟩
    obtain ⟨found, hfound⟩ := read x hx
    have hxs := (statusOf?_eq_some hfound).mpr hstatus
    exact ⟨s, List.mem_filterMap.mpr ⟨x, hx, hxs⟩, decide_eq_true hcode⟩

/-! ## Operations -/

/-- What an operation answers, and what it lists besides. -/
structure Responds (u : Universe) (e : Endpoint) (o : Operation) : Prop where
  /-- The code of a call that succeeds has the response to it, whatever the exceptions are. -/
  success : o.responses[e.status.code]? = some ⟨e.status.reason,
    e.returns.map fun type => ⟨"application/json", ofType type⟩⟩
  /-- Another code has a response if it is that of the status of an exception. -/
  exists_iff : ∀ code ≠ e.status.code, (∃ r, o.responses[code]? = some r) ↔
    ∃ x ∈ e.exceptions, ∃ s, HasStatus u x.type s ∧ s.code = code
  /-- It has the reason of the first such exception, and no content. -/
  first : ∀ code ≠ e.status.code, ∀ s, FirstWith u code e.exceptions s →
    o.responses[code]? = some ⟨s.reason, none⟩
  /-- Its entries tell of all exceptions, in order. -/
  thrown : List.Forall₂ ThrownEntry.Tells o.thrownExceptions e.exceptions
  /-- Its entries tell of all rules, in order. -/
  rules : List.Forall₂ RuleEntry.Tells o.validationRules e.validations
  /-- In a document, too, exceptions and rules are listed in order. -/
  written : ∃ members exceptions rules, o.toJson = .object (members ++
      listMember "x-thrown-exceptions" exceptions ++ listMember "x-validation-rules" rules) ∧
    List.Forall₂ WritesThrown exceptions e.exceptions ∧ List.Forall₂ WritesRule rules e.validations

/-- **An operation answers a call that succeeds, and exceptions by the codes of their statuses.** -/
theorem operation_responds (u : Universe) (markers : Markers) (e : Endpoint) (c c' : Catalog)
    (o : Operation) (h : runFrom (make u markers (operationOf u e)) c = (.ok o, c')) :
    Responds u e o := by
  have houtcome := (answers_of_make h).2
  rw [outcome_operationOf] at houtcome
  obtain ⟨parts, -, houtcome⟩ := bind_eq_ok.mp houtcome
  obtain ⟨body, -, houtcome⟩ := bind_eq_ok.mp houtcome
  obtain ⟨responses, hresponses, houtcome⟩ := bind_eq_ok.mp houtcome
  cases houtcome
  have read := exists_exceptionStatus hresponses
  have hother (code : Nat) (hne : code ≠ e.status.code) : responses[code]? =
      ((e.exceptions.filterMap (statusOf? u)).find? (·.code = code)).map
        fun s => ⟨s.reason, none⟩ := by
    rw [addExceptions_getElem? hresponses, Std.ExtTreeMap.getElem?_insert]
    simp [hne.symm]
  constructor
  case success => simp [addExceptions_getElem? hresponses, successResponse]
  case exists_iff =>
    intro code hne
    rw [← exists_status_iff read]
    simp only [hother code hne, Option.map_eq_some_iff]
    constructor
    · rintro ⟨-, s, hs, -⟩
      exact ⟨s, hs⟩
    · rintro ⟨s, hs⟩
      exact ⟨_, s, hs, rfl⟩
  case first =>
    intro code hne s hfirst
    rw [hother code hne, find?_of_firstWith read hfirst, Option.map_some]
  case thrown => exact tells_exceptions_iff.mpr rfl
  case rules => exact tells_rules_iff.mpr rfl
  case written =>
    exact ⟨_, _, _, rfl, writes_exceptions (tells_exceptions_iff.mpr rfl),
      writes_rules (tells_rules_iff.mpr rfl)⟩

/-! ## Exceptions of one code -/

/-- The annotation that declares the status of a reason. -/
def statusMark (reason : String) : Annotation :=
  ⟨responseStatusType, [("value", .enumConstant statusEnum reason)]⟩

/-- Exceptions with two reasons of one code, and one that has the status of its superclass. -/
def exceptionRecords : List ClassRecord :=
  [.ofClass { name := "p/Found", annotations := [statusMark "FOUND"] },
    .ofClass { name := "p/Lost", superclass := some "p/Missing" },
    .ofClass { name := "p/Missing", annotations := [statusMark "NOT_FOUND"] },
    .ofClass { name := "p/Moved", annotations := [statusMark "MOVED_TEMPORARILY"] }]

/-- The universe of the sample. -/
def exceptionUniverse : Universe :=
  (Universe.ofRecords exceptionRecords {}).toOption.get (by decide +kernel)

/-- An endpoint that may throw the exceptions. -/
def throwingEndpoint : Endpoint where
  verb := .get
  path := "/things"
  contentType := "application/json"
  status := .success
  parameters := []
  returns := none
  exceptions := [⟨"p/Moved", [⟨"p/Controller", "thing", "()V"⟩, ⟨"p/Store", "find", "()V"⟩]⟩,
    ⟨"p/Lost", []⟩, ⟨"p/Found", []⟩]
  validations := [⟨"v/Before", ⟨"p/Span", "start"⟩, .compareToField "LESS" ⟨"p/Span", "end"⟩⟩]
  controller := "p/Controller"
  method := "thing"

/-- The status of the superclass answers an exception, and the first of two reasons is given. The
entries name classes without their packages. -/
theorem operation_responds_exceptions :
    ∃ o c, runFrom (make exceptionUniverse {} (operationOf exceptionUniverse throwingEndpoint)) {} =
        (.ok o, c) ∧ Responds exceptionUniverse throwingEndpoint o ∧
      o.responses[404]?.map (·.description) = some "NOT_FOUND" ∧
      o.responses[302]?.map (·.description) = some "MOVED_TEMPORARILY" ∧
      o.thrownExceptions.map (fun entry => (entry.type, entry.callPath)) =
        [("Moved", "p/Controller#thing -> p/Store#find"), ("Lost", ""), ("Found", "")] ∧
      o.validationRules.map (fun entry => (entry.validator, entry.field, entry.other)) =
        [("Before", "Span.start", some "Span.end")] := by
  let run := runFrom (make exceptionUniverse {} (operationOf exceptionUniverse throwingEndpoint)) {}
  let o := run.1.toOption.get (by decide +kernel)
  have hok : run.1 = .ok o := toOption_eq_some.mp (Option.some_get _).symm
  have hrun : run = (.ok o, run.2) := Prod.ext hok rfl
  have hresponds := operation_responds exceptionUniverse {} throwingEndpoint {} run.2 o hrun
  exact ⟨o, run.2, hrun, hresponds, by decide +kernel, by decide +kernel, by decide +kernel,
    by decide +kernel⟩

end ApiSurface.OpenApi
