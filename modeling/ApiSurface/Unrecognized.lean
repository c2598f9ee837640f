import ApiSurface.Bytecode.Instruction
import ApiSurface.Class.Inspection
import ApiSurface.Signature.Inspection

/-!
# Constructs without a rule

Where compiled code departs from every form the analysis knows, the analysis stops instead of
guessing. A cause says what was met; its `construct` names the kind of construct in messages and
its `detail` says what is wrong with it.
-/
namespace ApiSurface

/-- What was met that no rule covers. -/
inductive Unrecognized where
  -- validators
  | shapeMissing (validator : String)
  | accessorForm
  | singletonForm
  | notGetter (call : Call)
  | referenceLiterals
  | referenceAbsent (owner : String)
  | referenceUnnamed (owner : String)
  | modeForm
  | literalForm
  -- thrown values and lambdas
  | thrownResult (source : Payload)
  | thrownWithoutTable (source : Payload)
  | thrownLocal (name : String)
  | thrownSource (source : Payload)
  | lambdaBodies (count : Nat)
  -- endpoints
  | statusName (name : String)
  | statusValue (value : Element)
  | parameterName (index : Nat)
  | unknownBinding (type : String)
  | entityBody
  | endpointVariable (name : String)
  | endpointElement (collection : String)
  -- schemas
  | argumentForm (argument : TypeArgument) (type : String)
  | unboundVariable (name : String)
  | fieldElement (collection : String)
  | noImplementations
  | noMarker
  | noDiscriminator
  | manyDiscriminators
  | deviatingDiscriminator (name type expected : String)
  | discriminatorNotEnum
  | discriminatorWithoutType
  | discriminatorWithoutInitializer
  | discriminatorName (found : Constant)
  | discriminatorClass (found : Constant)
  | discriminatorOrder
  -- documents
  | pathParameterType (name : String)
  | secondBody
  | scalarBody (name : String)
  | uploadsWithBody

namespace Unrecognized

/-- The kind of construct. -/
def construct : Unrecognized → String
  | shapeMissing _ => "validator"
  | accessorForm => "validated field"
  | singletonForm => "validated field"
  | notGetter _ => "validated field"
  | referenceLiterals => "validated field"
  | referenceAbsent _ => "validated field"
  | referenceUnnamed _ => "validated field"
  | modeForm => "comparison mode"
  | literalForm => "validation constant"
  | thrownResult _ => "throw"
  | thrownWithoutTable _ => "throw"
  | thrownLocal _ => "throw"
  | thrownSource _ => "throw"
  | lambdaBodies _ => "lambda body"
  | statusName _ => "response status"
  | statusValue _ => "response status"
  | parameterName _ => "parameter name"
  | unknownBinding _ => "parameter annotation"
  | entityBody => "return type"
  | endpointVariable _ => "type"
  | endpointElement _ => "type"
  | argumentForm _ _ => "generic argument"
  | unboundVariable _ => "type variable"
  | fieldElement _ => "field type"
  | noImplementations => "polymorphic type"
  | noMarker => "polymorphic type"
  | noDiscriminator => "discriminator"
  | manyDiscriminators => "discriminator"
  | deviatingDiscriminator _ _ _ => "discriminator"
  | discriminatorNotEnum => "discriminator"
  | discriminatorWithoutType => "discriminator"
  | discriminatorWithoutInitializer => "discriminator"
  | discriminatorName _ => "discriminator"
  | discriminatorClass _ => "discriminator"
  | discriminatorOrder => "discriminator"
  | pathParameterType _ => "path parameter"
  | secondBody => "request body"
  | scalarBody _ => "request body"
  | uploadsWithBody => "request body"

/-- What is wrong with the construct. -/
def detail : Unrecognized → String
  | shapeMissing validator => validator ++ " has no configured constructor shape"
  | accessorForm => "expected a field read or getter call"
  | singletonForm => "expected a property reference singleton"
  | notGetter c => c.owner ++ "#" ++ c.name ++ c.descriptor ++ " is not a getter"
  | referenceLiterals => "property reference without owner class and name"
  | referenceAbsent owner => "property reference " ++ owner ++ " is not on the class path"
  | referenceUnnamed owner => owner ++ " names no property owner and name"
  | modeForm => "expected a static field read"
  | literalForm => "expected a literal push"
  | thrownResult source => source.text ++ " does not return an object"
  | thrownWithoutTable source => source.text ++ " needs a local variable table"
  | thrownLocal name => "local " ++ name ++ " is not an object"
  | thrownSource source => "unexpected value source " ++ source.text
  | lambdaBodies count => "expected one functional method, found " ++ toString count
  | statusName name => name
  | statusValue value => "expected an HttpStatus constant, found " ++ value.inspect
  | parameterName index =>
    "parameter " ++ toString index ++ " has no name; compile with -parameters or debug info"
  | unknownBinding type => type
  | entityBody => "ResponseEntity without a concrete body type"
  | endpointVariable name => "unresolved type variable " ++ name
  | endpointElement collection => collection ++ " without an element type"
  | argumentForm argument type => argument.inspect ++ " of " ++ type ++ " is not a class"
  | unboundVariable name => name ++ " has no generic argument"
  | fieldElement collection => collection ++ " without an element type"
  | noImplementations => "no concrete implementations"
  | noMarker => "no discriminator enum marker configured"
  | noDiscriminator => "no discriminator field"
  | manyDiscriminators => "more than one discriminator field"
  | deviatingDiscriminator name type expected =>
    "field " ++ name ++ " of type " ++ type ++ " deviates from " ++ expected
  | discriminatorNotEnum => "discriminator type is not an enum"
  | discriminatorWithoutType => "missing member field \x60type\x60 of type Class"
  | discriminatorWithoutInitializer => "missing static initializer"
  | discriminatorName found => "expected the constant name, found " ++ found.text
  | discriminatorClass found => "expected a class literal, found " ++ found.text
  | discriminatorOrder => "class literal before its constant name"
  | pathParameterType name => name ++ " is not a built-in type"
  | secondBody => "more than one body parameter"
  | scalarBody name => name ++ " is a built-in type"
  | uploadsWithBody => "file uploads mixed with a request body"

end Unrecognized

end ApiSurface
