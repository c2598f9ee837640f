import ApiSurface.Proofs.Outcome
import ApiSurface.Schema.Generation

/-!
# What the schema of a class asks for

A request can only be answered with the name that belongs to it. So the requests that a
computation makes, and what it ends with, are known without answering any: the schemas of a
universe form a graph whose edges are the requests of each class.

What a schema refers to is exactly what was asked for to make it.

Main definitions: `Requesting.requests`, `Requesting.outcome`, `Requesting.Refers`. Main statement:
`recordSchema_refers`.
-/
namespace ApiSurface.Schema

/-- The name that a request is answered with. -/
def Request.name (r : Request) : String := schemaName r.path r.generics

namespace Requesting

variable {α β : Type}

/-- The requests that a computation makes if each is answered with its name. -/
def requests : Requesting α → List Request
  | done _ => []
  | fail _ => []
  | ask request next => request :: (next request.name).requests

/-- What a computation ends with if each request is answered with its name. -/
def outcome : Requesting α → Except Fault α
  | done a => .ok a
  | fail fault => .error fault
  | ask request next => (next request.name).outcome

@[simp] theorem requests_pure (a : α) : (pure a : Requesting α).requests = [] := rfl

@[simp] theorem outcome_pure (a : α) : (pure a : Requesting α).outcome = .ok a := rfl

@[simp] theorem requests_fail (fault : Fault) : (fail fault : Requesting α).requests = [] := rfl

@[simp] theorem outcome_fail (fault : Fault) :
    (fail fault : Requesting α).outcome = .error fault := rfl

@[simp] theorem requests_ofExcept (result : Except Fault α) : (ofExcept result).requests = [] := by
  cases result <;> rfl

@[simp] theorem outcome_ofExcept (result : Except Fault α) :
    (ofExcept result).outcome = result := by
  cases result <;> rfl

@[simp] theorem requests_nameOf (path : String) (generics : List String) :
    (nameOf path generics).requests = [⟨path, generics⟩] := rfl

@[simp] theorem outcome_nameOf (path : String) (generics : List String) :
    (nameOf path generics).outcome = .ok (schemaName path generics) := rfl

@[simp] theorem ofExcept_ok_bind (a : α) (f : α → Requesting β) :
    (ofExcept (.ok a) >>= f) = f a := rfl

@[simp] theorem ofExcept_error_bind (fault : Fault) (f : α → Requesting β) :
    (ofExcept (.error fault) >>= f) = fail fault := rfl

theorem outcome_bind (x : Requesting α) (f : α → Requesting β) :
    (x >>= f).outcome = x.outcome >>= fun a => (f a).outcome := by
  induction x with
  | done a => rfl
  | fail fault => rfl
  | ask request next ih => exact ih request.name

/-- A sequence asks for what its first part asks for, and then for what its second does. -/
theorem requests_bind (x : Requesting α) (f : α → Requesting β) :
    (x >>= f).requests =
      x.requests ++ (x.outcome.toOption.toList.flatMap fun a => (f a).requests) := by
  induction x with
  | done a => exact (List.append_nil (f a).requests).symm
  | fail fault => rfl
  | ask request next ih => exact congrArg (request :: ·) (ih request.name)

theorem requests_bind_of_ok {x : Requesting α} {f : α → Requesting β} {a : α}
    (h : x.outcome = .ok a) : (x >>= f).requests = x.requests ++ (f a).requests := by
  rw [requests_bind, h]
  simp [Except.toOption]

theorem mem_requests_bind {x : Requesting α} {f : α → Requesting β} {r : Request} :
    r ∈ (x >>= f).requests ↔ r ∈ x.requests ∨ ∃ a, x.outcome = .ok a ∧ r ∈ (f a).requests := by
  rw [requests_bind, List.mem_append, List.mem_flatMap]
  simp only [Option.mem_toList, toOption_eq_some]

/-! ## Requests and references -/

/-- The names in a result are those of `before` and those that were asked for to make it. -/
def Refers (before : List String) (names : α → List String) (x : Requesting α) : Prop :=
  ∀ a, x.outcome = .ok a → ∀ n, n ∈ names a ↔ n ∈ before ++ x.requests.map Request.name

variable {before : List String} {names : α → List String} {more : β → List String}

namespace Refers

theorem pure {a : α} (h : ∀ n, n ∈ names a ↔ n ∈ before) :
    (pure a : Requesting α).Refers before names := by
  intro b hb
  cases hb
  simpa using h

theorem fail {fault : Fault} : (fail fault : Requesting α).Refers before names := by
  intro a h
  cases h

/-- A step that asks for nothing leaves it to the others. -/
theorem ofExcept {result : Except Fault α} {f : α → Requesting β}
    (h : ∀ a, result = .ok a → (f a).Refers before more) :
    (ofExcept result >>= f).Refers before more := by
  intro b hb
  rw [outcome_bind, outcome_ofExcept] at hb
  obtain ⟨a, ha, hb⟩ := bind_eq_ok.mp hb
  rw [requests_bind_of_ok (by simpa using ha), requests_ofExcept]
  exact h a ha b hb

/-- A second part goes on with the names that a first part ends with. -/
theorem seq {x : Requesting α} {f : α → Requesting β} (hx : x.Refers before names)
    (hf : ∀ a, (f a).Refers (names a) more) : (x >>= f).Refers before more := by
  intro b hb n
  rw [outcome_bind] at hb
  obtain ⟨a, ha, hb⟩ := bind_eq_ok.mp hb
  rw [requests_bind_of_ok ha, hf a b hb, List.map_append, ← List.append_assoc, List.mem_append,
    List.mem_append, hx a ha]

/-- A first part that has only names of its own leaves the others as they are. -/
theorem bind {x : Requesting α} {f : α → Requesting β} (hx : x.Refers [] names)
    (hf : ∀ a, (f a).Refers (before ++ names a) more) : (x >>= f).Refers before more := by
  refine seq (fun a ha n => ?_) hf
  have hn := hx a ha n
  simp only [List.mem_append, List.nil_append] at hn ⊢
  rw [hn]

theorem nameOf (path : String) (generics : List String) :
    (nameOf path generics).Refers [] fun name => [name] := by
  intro name h
  cases h
  simp [Request.name]

end Refers

end Requesting

open Requesting

/-! ## The schemas of classes -/

theorem classSchema_refers (path : String) (generics : List String) :
    (classSchema path generics).Refers [] Schema.references := by
  unfold classSchema
  split
  · exact .pure fun _ => .rfl
  · exact .bind (.nameOf path generics) fun _ => .pure fun _ => .rfl

mutual

theorem fieldSchema_refers (bindings : Bindings) (location : String) (type : GenericType) :
    (fieldSchema bindings location type).Refers [] Schema.references := by
  match type with
  | .base p => exact .pure fun _ => .rfl
  | .array component =>
    exact .bind (fieldSchema_refers bindings location component) fun _ =>
      .pure (by simp [Schema.references])
  | .variable name => exact .ofExcept fun path _ => classSchema_refers path []
  | .object name arguments =>
    unfold fieldSchema
    split
    · exact .bind (elementSchema_refers bindings location name arguments) fun _ =>
        .pure (by simp [Schema.references])
    · exact .ofExcept fun generics _ => classSchema_refers name generics

theorem elementSchema_refers (bindings : Bindings) (location collection : String)
    (arguments : List TypeArgument) :
    (elementSchema bindings location collection arguments).Refers [] Schema.references := by
  match arguments with
  | [] => exact .fail
  | .any :: _ => exact .fail
  | .atLeast _ :: _ => exact .fail
  | .exact t :: _ => exact fieldSchema_refers bindings location t
  | .atMost t :: _ => exact fieldSchema_refers bindings location t

end

theorem propertySchemas_refers (bindings : Bindings) (fields : List Field) :
    (propertySchemas bindings fields).Refers [] Schema.propertyReferences := by
  induction fields with
  | nil => exact .pure fun _ => .rfl
  | cons f fields ih =>
    refine .ofExcept fun type _ => ?_
    refine .bind (fieldSchema_refers bindings _ type) fun schema => ?_
    exact .bind ih fun properties => .pure (by simp [Schema.propertyReferences])

theorem objectSchema_refers (markers : Markers) (record : ClassRecord) (c : Class)
    (generics : List String) :
    (objectSchema markers record c generics).Refers [] Schema.references := by
  refine .ofExcept fun parameters _ => ?_
  exact .bind (propertySchemas_refers _ _) fun properties =>
    .pure (by simp [Schema.references])

/-- The names that a mapping maps to. -/
def mappedNames (mapping : List (String × String)) : List String := mapping.map (·.2)

theorem mineMapping_refers (location : String) (typeIndex loads : Nat) (name : Option String)
    (payloads : List Payload) :
    (mineMapping location typeIndex loads name payloads).Refers [] mappedNames := by
  fun_induction mineMapping location typeIndex loads name payloads with
  | case1 => exact .pure fun _ => .rfl
  | case2 _ _ _ _ ih => exact ih
  | case3 _ _ _ ih => exact ih
  | case4 => exact .fail
  | case5 _ _ _ _ ih =>
    refine .bind (.nameOf _ _) fun schema => ?_
    exact .bind ih fun mapping => .pure (by simp [mappedNames])
  | case6 => exact .fail
  | case7 => exact .fail
  | case8 _ _ _ _ _ _ ih => exact ih
  | case9 _ _ _ _ _ _ ih => exact ih

theorem mappingOf_refers (record : ClassRecord) : (mappingOf record).Refers [] mappedNames := by
  refine .ofExcept fun c _ => ?_
  split
  · exact .fail
  split
  · exact .fail
  split
  · exact .fail
  · exact mineMapping_refers _ _ _ _ _

theorem namesOf_refers (records : List ClassRecord) : (namesOf records).Refers [] id := by
  induction records with
  | nil => exact .pure fun _ => .rfl
  | cons record records ih =>
    refine .bind (.nameOf record.path []) fun name => ?_
    exact .bind ih fun names => .pure (by simp)

theorem alternativesSchema_refers (u : Universe) (markers : Markers) (record : ClassRecord) :
    (alternativesSchema u markers record).Refers [] Schema.references := by
  refine .ofExcept fun concrete _ => ?_
  split
  · exact .fail
  refine .bind (namesOf_refers concrete) fun names => ?_
  split
  · exact .fail
  refine .ofExcept fun common _ => .ofExcept fun path _ => .ofExcept fun enum _ => ?_
  exact .bind (mappingOf_refers enum) fun mapping =>
    .pure (by simp [Schema.references, mappedNames])

/-- **The schema of a class refers to what was asked for to make it.** -/
theorem recordSchema_refers (u : Universe) (markers : Markers) (record : ClassRecord)
    (generics : List String) :
    (recordSchema u markers record generics).Refers [] Schema.references := by
  refine .ofExcept fun c _ => ?_
  split
  · exact .pure fun _ => .rfl
  split
  · exact objectSchema_refers markers record c generics
  · exact alternativesSchema_refers u markers record

theorem typeSchema_refers (type : EndpointType) :
    (typeSchema type).Refers [] Schema.references := by
  induction type with
  | builtIn type => exact .pure fun _ => .rfl
  | object path generics => exact .bind (.nameOf path generics) fun _ => .pure fun _ => .rfl
  | array items ih => exact .bind ih fun _ => .pure (by simp [Schema.references])

/-- The schema of a parameter or a result, in which each class has the name that belongs to it. -/
def ofType : EndpointType → Schema
  | .builtIn type => .scalar type
  | .object path generics => .reference (schemaName path generics)
  | .array items => .array (ofType items)

@[simp] theorem outcome_typeSchema (type : EndpointType) :
    (typeSchema type).outcome = .ok (ofType type) := by
  induction type with
  | builtIn type => rfl
  | object path generics => rfl
  | array items ih =>
    rw [typeSchema, outcome_bind, ih]
    rfl

end ApiSurface.Schema
