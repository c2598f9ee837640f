import ApiSurface.Proofs.Schema.Growth

/-!
# Sessions

From outside, a generator is asked for the schemas of endpoint types and for the names of the
schemas of classes. A session meets such demands one after the other with one catalog, and goes on
after a demand that fails.

Main definitions: `Demand`, `session`. Main statements: `session_grows`, `session_answers`.
-/
namespace ApiSurface.Schema
open Requesting

/-- What a generator is asked for from outside. -/
inductive Demand where
  /-- The schema of a parameter or a result. -/
  | schemaOf (type : EndpointType)
  /-- The name of the schema of a class applied to classes. -/
  | nameOf (path : String) (generics : List String)
deriving DecidableEq

/-- What a demand is met with. -/
inductive Reply where
  | schema (schema : Schema)
  | name (name : String)

namespace Demand

/-- Meet a demand. -/
def meet (u : Universe) (markers : Markers) : Demand → Generating Reply
  | schemaOf type => do
    let schema ← endpointSchema u markers type
    pure (.schema schema)
  | nameOf path generics => do
    let name ← generate u markers path generics
    pure (.name name)

/-- What has to be asked for to meet a demand. -/
def asking : Demand → Requesting Reply
  | schemaOf type => do
    let schema ← typeSchema type
    pure (.schema schema)
  | nameOf path generics => do
    let name ← .nameOf path generics
    pure (.name name)

end Demand

/-- Meet demands one after the other, whether those before have been met or not. -/
def session (u : Universe) (markers : Markers) :
    List Demand → Catalog → List (Except Fault Reply) × Catalog
  | [], c => ([], c)
  | d :: ds, c =>
    let (reply, c) := runFrom (d.meet u markers) c
    let (replies, c) := session u markers ds c
    (reply :: replies, c)

variable {u : Universe} {markers : Markers}

theorem session_cons (d : Demand) (ds : List Demand) (c : Catalog) :
    session u markers (d :: ds) c =
      ((runFrom (d.meet u markers) c).1 ::
          (session u markers ds (runFrom (d.meet u markers) c).2).1,
        (session u markers ds (runFrom (d.meet u markers) c).2).2) := rfl

theorem session_append (ds es : List Demand) (c : Catalog) :
    session u markers (ds ++ es) c =
      ((session u markers ds c).1 ++ (session u markers es (session u markers ds c).2).1,
        (session u markers es (session u markers ds c).2).2) := by
  induction ds generalizing c with
  | nil => rfl
  | cons d ds ih => rw [List.cons_append, session_cons, session_cons, ih, List.cons_append]

/-- Computations one after the other are carried out one after the other. -/
theorem answer_bind {α β : Type} (generate : Request → Generating String) (x : Requesting α)
    (f : α → Requesting β) :
    answer generate (x >>= f) = answer generate x >>= fun a => answer generate (f a) := by
  induction x with
  | done a => exact (pure_bind a fun a => answer generate (f a)).symm
  | fail fault => rfl
  | ask r next ih =>
    change (generate r >>= fun name => answer generate (next name >>= f)) =
      (generate r >>= fun name => answer generate (next name)) >>= fun a => answer generate (f a)
    rw [bind_assoc]
    exact congrArg (generate r >>= ·) (funext ih)

theorem make_bind {α β : Type} (x : Requesting α) (f : α → Requesting β) :
    make u markers (x >>= f) = make u markers x >>= fun a => make u markers (f a) :=
  answer_bind _ x f

theorem make_nameOf (path : String) (generics : List String) :
    make u markers (.nameOf path generics) = generate u markers path generics :=
  bind_pure (generate u markers path generics)

/-- A demand is met by carrying out what has to be asked for. -/
theorem Demand.meet_eq_make (d : Demand) : d.meet u markers = make u markers d.asking := by
  cases d with
  | schemaOf type =>
    rw [asking, make_bind]
    rfl
  | nameOf path generics =>
    rw [asking, make_bind, make_nameOf]
    rfl

/-- A session lets a catalog grow. -/
theorem session_grows (ds : List Demand) (c : Catalog) :
    Grows c (session u markers ds c).2 := by
  induction ds generalizing c with
  | nil => exact .refl c
  | cons d ds ih =>
    rw [session_cons]
    have first : Grows c (runFrom (d.meet u markers) c).2 := by
      rw [d.meet_eq_make]
      exact make_grows u markers d.asking c
    exact first.trans (ih _)

/-! ## Sessions that succeed -/

/-- Every demand has been met. -/
def Succeeds (replies : List (Except Fault Reply)) : Prop :=
  ∀ reply ∈ replies, ∃ a, reply = .ok a

instance (replies : List (Except Fault Reply)) : Decidable (Succeeds replies) :=
  decidable_of_iff (∀ reply ∈ replies, reply.isOk = true) <| by
    refine forall₂_congr fun reply _ => ?_
    cases reply <;> simp [Except.isOk, Except.toBool]

/-- What is asked for in a session. -/
def demanded (ds : List Demand) : List Request := ds.flatMap fun d => d.asking.requests

/-- Runs that succeed may be followed by others. -/
theorem Answers.append {rs more : List Request} {c c₁ c' : Catalog}
    {first outcome : Except Fault Unit} (run : Answers u markers rs c first c₁)
    (h : first = .ok ()) (rest : Answers u markers more c₁ outcome c') :
    Answers u markers (rs ++ more) c outcome c' := by
  induction run with
  | done => exact rest
  | missing => cases h
  | known found registered _ ih => exact .known found registered (ih h rest)
  | collision => cases h
  | stopped => cases h
  | unmade => cases h
  | made found fresh body success _ _ ih => exact .made found fresh body success (ih h rest)

/-- A demand that is met has had all its requests answered. -/
theorem meet_answers {d : Demand} {c c' : Catalog} {a : Reply}
    (h : runFrom (d.meet u markers) c = (.ok a, c')) :
    Answers u markers d.asking.requests c (.ok ()) c' ∧ d.asking.outcome = .ok a := by
  rw [d.meet_eq_make] at h
  exact answers_of_make h

/-- A session that succeeds answers all requests of its demands, each with its own outcome. -/
theorem session_answers {ds : List Demand} {c : Catalog}
    (h : Succeeds (session u markers ds c).1) :
    Answers u markers (demanded ds) c (.ok ()) (session u markers ds c).2 ∧
      (session u markers ds c).1 = ds.map fun d => d.asking.outcome := by
  induction ds generalizing c with
  | nil => exact ⟨.done, rfl⟩
  | cons d ds ih =>
    rw [session_cons] at h ⊢
    obtain ⟨a, ha⟩ := h _ List.mem_cons_self
    obtain ⟨run, houtcome⟩ := meet_answers (Prod.ext ha rfl)
    obtain ⟨rest, hreplies⟩ := ih fun reply hr => h reply (List.mem_cons_of_mem _ hr)
    refine ⟨run.append rfl rest, ?_⟩
    rw [List.map_cons, ha, houtcome, hreplies]

/-- The requests of a session that succeeds are answered one after the other. -/
theorem askAll_demanded {ds : List Demand} {c : Catalog}
    (h : Succeeds (session u markers ds c).1) :
    ∃ c', runFrom (askAll (nameFor u markers) (demanded ds)) c = (.ok (), c') := by
  induction ds generalizing c with
  | nil => exact ⟨c, rfl⟩
  | cons d ds ih =>
    rw [session_cons] at h
    obtain ⟨a, ha⟩ := h _ List.mem_cons_self
    obtain ⟨c', hrest⟩ := ih fun reply hr => h reply (List.mem_cons_of_mem _ hr)
    rw [d.meet_eq_make, runFrom_make] at ha hrest
    rw [demanded, List.flatMap_cons, runFrom_askAll_append]
    cases hfirst : runFrom (askAll (nameFor u markers) d.asking.requests) c with
    | mk outcome c₁ =>
      rw [hfirst] at ha hrest
      cases outcome with
      | error fault => cases ha
      | ok => exact ⟨c', hrest⟩

/-- A computation ends as it does if a session succeeds that asks for more. -/
theorem make_of_session {α : Type} {x : Requesting α} {ds : List Demand} {c : Catalog}
    (h : Succeeds (session u markers ds c).1) (hrequests : x.requests <+: demanded ds) :
    (runFrom (make u markers x) c).1 = x.outcome := by
  obtain ⟨more, hmore⟩ := hrequests
  obtain ⟨c', hasked⟩ := askAll_demanded h
  rw [← hmore, runFrom_askAll_append] at hasked
  rw [runFrom_make]
  cases hfirst : runFrom (askAll (nameFor u markers) x.requests) c with
  | mk outcome c₁ =>
    rw [hfirst] at hasked
    cases outcome with
    | error fault => cases hasked
    | ok => rfl

end ApiSurface.Schema
