import ApiSurface.Descriptor.Reading
import ApiSurface.Journal.Event
import ApiSurface.Universe.Resolution
import ApiSurface.Validation.Recovery

/-!
# What the instructions of a method mean for a walk

Each instruction of a body amounts to a list of steps: methods to enter, exceptions thrown, rules
made, events, and faults. The steps depend on the universe and the markers alone and not on the
walk so far, so they are the edges of the call graph. A walk performs them in order and stops at
the first fault, so steps after a fault do not matter.

Main definitions: `Step`, `callSteps`, `thrownSteps`, `instructionSteps`, `methodSteps`.
-/
namespace ApiSurface

/-- The frame of a method of a class. -/
def Frame.ofMethod (record : ClassRecord) (m : Method) : Frame :=
  ⟨record.path, m.name, m.descriptor⟩

namespace Calls

/-- One thing that a method does. -/
inductive Step where
  /-- A method is entered. -/
  | enter (record : ClassRecord) (method : Method)
  /-- An exception of a followed class is thrown. -/
  | throws (type : String)
  /-- A validator is constructed. -/
  | validates (rule : ValidationRule)
  /-- An abstract method is called that no class implements. -/
  | unimplemented (callee : Frame)
  | note (event : Event)
  | fail (fault : Fault)

/-- The steps that a computation gives, or its fault. -/
def stepsOrFail : Except Fault (List Step) → List Step
  | .ok steps => steps
  | .error fault => [.fail fault]

/-! ## Calls -/

/-- The method is the body of the lambda that its class was compiled from. -/
def isLambdaBody (m : Method) : Bool :=
  ! m.flags.isStatic && ! m.flags.isBridge && ! m.flags.isSynthetic && m.name ≠ "<init>" &&
    ! m.body.isEmpty

/-- The class was compiled from a lambda. -/
def isLambda (markers : Markers) (c : Class) : Bool :=
  c.superclass.any markers.lambdaBases.contains

/-- Touching the class of a lambda enters its body. -/
def lambdaSteps (markers : Markers) (record : ClassRecord) : List Step := stepsOrFail do
  let c ← record.info
  if isLambda markers c then
    match c.methods.filter isLambdaBody with
    | [body] => .ok [.enter record body]
    | bodies => .ok [.fail (.unrecognized (.lambdaBodies bodies.length) record.path)]
  else .ok []

/-- A call of a method that a concrete class may have: the nearest method on its superclasses, or
the default method it inherits. -/
def implementationSteps (u : Universe) (call : Call) (implementation : ClassRecord) : List Step :=
  stepsOrFail do
    match ← u.resolveMethod implementation call.name (some call.descriptor) with
    | some (record, m) => .ok [.enter record m]
    | none =>
      match ← u.resolveDefaultMethod implementation call.name call.descriptor with
      | some (record, m) => .ok [.enter record m]
      | none => .ok [.note (.notImplemented implementation.path call.name call.descriptor)]

/-- A call on an abstract class or an interface goes to every concrete followed class below it. An
interface marked as functional may have none. -/
def dispatchSteps (u : Universe) (markers : Markers) (owner : ClassRecord) (c : Class)
    (call : Call) : List Step :=
  match u.implementations .traversal owner.path with
  | .error fault => [.fail fault]
  | .ok [] =>
    if c.annotations.any (·.type = "L" ++ markers.functionalInterface ++ ";") then
      [.note (.functionalSkipped call.owner call.name)]
    else [.unimplemented ⟨call.owner, call.name, call.descriptor⟩]
  | .ok implementations => implementations.flatMap (implementationSteps u call)

/-- The kind of call chooses the method by the class of the object. -/
def isDynamic : CallKind → Bool
  | .virtual => true
  | .interface => true
  | _ => false

/-- A call of a method of a followed class. -/
def targetSteps (u : Universe) (markers : Markers) (owner : ClassRecord) (call : Call) :
    List Step := stepsOrFail do
  let c ← owner.info
  if isDynamic call.kind ∧ ¬ c.isConcrete then .ok (dispatchSteps u markers owner c call)
  else match ← u.resolveMethod owner call.name (some call.descriptor) with
    | some (record, m) => .ok [.enter record m]
    | none => .ok [.note (.noBody call.owner call.name call.descriptor)]

/-- A call: nothing if its class is not followed, and otherwise the body of the lambda that the
class may be, then the methods that the call may enter. -/
def callSteps (u : Universe) (markers : Markers) (call : Call) : List Step :=
  if u.contains .traversal call.owner then
    match u.lookup call.owner with
    | .error fault => [.fail fault]
    | .ok owner => lambdaSteps markers owner ++ targetSteps u markers owner call
  else []

/-- The call that a method handle stands for. -/
def handleCall (h : MethodHandle) : Call where
  kind :=
    if h.kind = 5 then .virtual
    else if h.kind = 6 then .static
    else if h.kind = 9 then .interface
    else .special
  owner := h.owner
  name := h.name
  descriptor := h.descriptor

/-- Reading a field of a class that was compiled from a lambda enters its body. -/
def staticReadSteps (u : Universe) (markers : Markers) (owner : String) : List Step :=
  if u.contains .traversal owner then
    match u.lookup owner with
    | .error fault => [.fail fault]
    | .ok record => lambdaSteps markers record
  else []

/-! ## Thrown values -/

/-- What is thrown: the result of a call or a local variable, cast or not. -/
def thrownIdiom : Idiom :=
  [.required (.anyOf [.kind .call, .opcode .aload]), .optional (.opcode .checkcast)]

/-- The class of the local variable that an instruction loads. No class stands for a variable
that the compiler made to throw a caught exception again. -/
def localType (m : Method) (location : String) (source : Instruction) (slot : Nat) :
    Except Fault (Option String) :=
  if m.locals.isEmpty then
    .error (.unrecognized (.thrownWithoutTable source.payload) location)
  else match m.locals.find? fun v => v.index = slot && v.isLiveAt source.offset with
    | none => .ok none
    | some v => do
      match ← Fault.ofReading v.descriptor (FieldType.ofDescriptor v.descriptor) with
      | .object name => .ok (some name)
      | _ => .error (.unrecognized (.thrownLocal v.name) location)

/-- The class of a thrown value, by the instruction that gives the value. -/
def thrownType (m : Method) (location : String) (source : Instruction) :
    Except Fault (Option String) :=
  match source.payload with
  | .call c =>
    if c.isConstructor then .ok (some c.owner)
    else do
      match (← Fault.ofReading c.descriptor (MethodType.ofDescriptor c.descriptor)).returns with
      | some (.object name) => .ok (some name)
      | _ => .error (.unrecognized (.thrownResult source.payload) location)
  | .localSlot _ slot => localType m location source slot
  | _ => .error (.unrecognized (.thrownSource source.payload) location)

/-- The slot of the local variable that an instruction loads or stores. -/
def slotOf : Payload → Nat
  | .localSlot _ slot => slot
  | _ => 0

/-- A throw at the index of a body. -/
def thrownSteps (u : Universe) (m : Method) (location : String) (index : Nat) : List Step :=
  stepsOrFail do
    let captures ← ((Scan.before location m.body index).anchor).require u "thrown value" thrownIdiom
    match (captures[0]?).join with
    | none => .ok []
    | some source =>
      match ← thrownType m location source with
      | none => .ok [.note (.rethrowSkipped location (slotOf source.payload))]
      | some type =>
        if u.contains .traversal type then .ok [.throws type]
        else .ok [.note (.exceptionIgnored type location)]

/-! ## Instructions -/

/-- The call constructs a validator: a descendant of the configured base. -/
def constructsValidator (u : Universe) (markers : Markers) (call : Call) : Except Fault Bool :=
  match markers.validatorBase with
  | none => .ok false
  | some base => Test.holdsCall u (some (.descendant base)) (some "<init>") none call

/-- The steps of the instruction at the index of a body. -/
def instructionSteps (u : Universe) (markers : Markers) (m : Method) (location : String)
    (i : Instruction) (index : Nat) : List Step :=
  match i.payload with
  | .op opcode => if opcode = Opcode.athrow then thrownSteps u m location index else []
  | .call call => stepsOrFail do
    if ← constructsValidator u markers call then
      let rule ← Validation.recoverRule u markers location m.body index call.owner
      .ok [.note (.ruleRecovered call.owner rule.field.name), .validates rule]
    else .ok (callSteps u markers call)
  | .dynamicCall call => match call.target? with
    | some handle => callSteps u markers (handleCall handle)
    | none => []
  | .field a => if a.opcode = Opcode.getstatic then staticReadSteps u markers a.owner else []
  | _ => []

/-- The steps of a method, in the order of its instructions. -/
def methodSteps (u : Universe) (markers : Markers) (record : ClassRecord) (m : Method) :
    List Step :=
  let location := (Frame.ofMethod record m).location
  m.body.zipIdx.flatMap fun (i, index) => instructionSteps u markers m location i index

end Calls

end ApiSurface
