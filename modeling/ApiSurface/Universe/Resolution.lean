import ApiSurface.Universe.Basic

/-!
# Finding the method that a call enters

A method is looked for on the class and then up its superclasses, as long as these are followed.
A default method is looked for on the interfaces above the class, nearest first.
-/
namespace ApiSurface.Universe

/-- The superclass, if its methods are followed. -/
def followedSuper? (u : Universe) (c : Class) : Option ClassRecord :=
  c.superclass.bind fun parent => if u.contains .traversal parent then u.find? parent else none

/-- Look for a method from `record` up, below which the classes of `seen` have been looked at.
`budget` bounds the classes that have not. -/
def resolveFrom (u : Universe) (name : String) (descriptor : Option String) :
    (budget : Nat) → (seen : List String) → ClassRecord →
      Except Fault (Option (ClassRecord × Method))
  | budget, seen, record =>
    if record.path ∈ seen then
      .error (.hierarchyCycle record.path (u.paths.filter (· ∈ seen)))
    else match budget with
      | 0 => .ok none
      | budget + 1 => do
        let c ← record.info
        match c.method? name descriptor with
        | some m => .ok (some (record, m))
        | none => match u.followedSuper? c with
          | none => .ok none
          | some parent => resolveFrom u name descriptor budget (record.path :: seen) parent

/-- The nearest method of the name, and of the descriptor if one is given, on the class or up its
superclasses. -/
def resolveMethod (u : Universe) (record : ClassRecord) (name : String)
    (descriptor : Option String) : Except Fault (Option (ClassRecord × Method)) :=
  u.resolveFrom name descriptor (u.size + 1) [] record

/-- The method that an interface gives to the classes that do not declare it. -/
def defaultMethod? (c : Class) (name descriptor : String) : Option Method :=
  if c.flags.isInterface then
    c.methods.find? fun m =>
      m.name = name && m.descriptor = descriptor && ! m.flags.isAbstract && ! m.flags.isStatic
  else none

/-- Those of the followed supertypes that have not been seen, each once, in order. -/
def unseenSupers (u : Universe) (seen : List String) : List String → List String
  | [] => []
  | parent :: parents =>
    if u.contains .traversal parent ∧ parent ∉ seen then
      parent :: unseenSupers u (parent :: seen) parents
    else unseenSupers u seen parents

/-- Breadth-first search for a default method. Every class is queued once, so the search ends
within as many steps as there are classes. -/
def defaultFrom (u : Universe) (name descriptor : String) :
    (budget : Nat) → (queue : List ClassRecord) → (seen : List String) →
      Except Fault (Option (ClassRecord × Method))
  | _, [], _ => .ok none
  | 0, _ :: _, _ => .ok none
  | budget + 1, record :: queue, seen => do
    let c ← record.info
    match defaultMethod? c name descriptor with
    | some m => .ok (some (record, m))
    | none =>
      let parents := u.unseenSupers seen c.supertypes
      defaultFrom u name descriptor budget (queue ++ parents.filterMap u.find?) (parents ++ seen)

/-- The default method that the class inherits from the nearest interface above it. -/
def resolveDefaultMethod (u : Universe) (record : ClassRecord) (name descriptor : String) :
    Except Fault (Option (ClassRecord × Method)) :=
  u.defaultFrom name descriptor (u.size + 1) [record] [record.path]

end ApiSurface.Universe
