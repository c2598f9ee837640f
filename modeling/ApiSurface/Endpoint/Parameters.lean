import ApiSurface.Endpoint.Types

/-!
# Parameters of an endpoint

The annotations of a method parameter say which part of a request holds it and may give it a
name. Otherwise the name is the one the compiler kept, or that of the local variable in the
parameter's slot.

Main definitions: `inputSource`, `compiledName?`, `readParameters`.
-/
namespace ApiSurface.Endpoint

/-- Descriptor of an annotation that maps requests. -/
def bindingType (name : String) : String :=
  "Lorg/springframework/web/bind/annotation/" ++ name ++ ";"

/-- What an annotation of a parameter means. -/
inductive ParameterMark where
  /-- The parameter is taken from this part, and the annotation may name it. -/
  | named (source : ParameterSource)
  /-- The parameter is the body. -/
  | body
  /-- The annotation does not concern the source. -/
  | neutral

/-- The meaning of an annotation of a parameter, by its type. -/
def parameterMark? (type : String) : Option ParameterMark :=
  if type = bindingType "PathVariable" then some (.named .path)
  else if type = bindingType "RequestParam" ∨ type = bindingType "RequestPart" then
    some (.named .query)
  else if type = bindingType "RequestBody" then some .body
  else if type = "Ljakarta/validation/Valid;" ∨ type = "Ljavax/validation/Valid;" then
    some .neutral
  else none

/-- The name that an annotation gives a parameter. -/
def declaredName? (a : Annotation) : Option String :=
  match ((a.value? ["name", "value"]).bind fun value => value.strings.head?) with
  | some name => if name = "" then none else some name
  | none => none

/-- The part of a request that holds a parameter, and its declared name. The first annotation that
names a part decides; an unknown annotation before it is refused, and a parameter without such an
annotation belongs to the query. -/
def inputSource (location : String) :
    List Annotation → Except Fault (ParameterSource × Option String)
  | [] => .ok (.query, none)
  | a :: others =>
    match parameterMark? a.type with
    | some (.named source) => .ok (source, declaredName? a)
    | some .body => .ok (.body, none)
    | some .neutral => inputSource location others
    | none => .error (.unrecognized (.unknownBinding a.type) location)

/-- The name that the compiler kept for the parameter at the index, or the name of the local
variable that holds the parameter's slot from the start. -/
def compiledName? (m : Method) (index slot : Nat) : Option String :=
  match (m.parameterNames[index]?).join with
  | some name => some name
  | none => (m.locals.find? fun v => v.index = slot && v.start = 0).map (·.name)

/-- The parameter at the index. -/
def readParameter (u : Universe) (m : Method) (location : String) (type : GenericType)
    (index slot : Nat) : Except Fault Parameter := do
  let (source, declared) ← inputSource location ((m.parameterAnnotations[index]?).getD [])
  let name ← match declared with
    | some name => .ok name
    | none => match compiledName? m index slot with
      | some name => .ok name
      | none => .error (.unrecognized (.parameterName index) location)
  let type ← endpointType u location type
  .ok { name, source, type }

/-- The parameters from the one at the index on, each with its erased and its generic type. Each
takes the slots after those of the one before. -/
def readParameters (u : Universe) (m : Method) (location : String) :
    (index slot : Nat) → List (FieldType × GenericType) → Except Fault (List Parameter)
  | _, _, [] => .ok []
  | index, slot, (erased, type) :: others => do
    let parameter ← readParameter u m location type index slot
    let parameters ← readParameters u m location (index + 1) (slot + erased.slots) others
    .ok (parameter :: parameters)

/-- The generic types of the parameters: those of the signature, if it has as many as the
descriptor, and the erased types otherwise. -/
def parameterTypes (erased : List FieldType) (signature : Option GenericMethod) :
    List GenericType :=
  match signature with
  | some signature =>
    if signature.parameters.length = erased.length then signature.parameters
    else erased.map GenericType.ofErased
  | none => erased.map GenericType.ofErased

/-- The parameters of a method. The first slot of a method of an object holds the object. -/
def parametersOf (u : Universe) (m : Method) (location : String) (erased : List FieldType)
    (signature : Option GenericMethod) : Except Fault (List Parameter) :=
  readParameters u m location 0 (if m.flags.isStatic then 0 else 1)
    (erased.zip (parameterTypes erased signature))

end ApiSurface.Endpoint
