import ApiSurface.Signature.Basic
import ApiSurface.Text.Quoted

/-!
# Showing the structure of generic types

Messages about an unexpected type argument show how the argument is built.
-/
namespace ApiSurface
open Text

mutual

/-- The structure of a generic type. -/
def GenericType.inspect : GenericType → String
  | .base p => "Base(" ++ p.name ++ ")"
  | .object name arguments =>
    "Class \x7b name: " ++ quoted name ++ ", arguments: [" ++
      String.intercalate ", " (inspectArguments arguments) ++ "] \x7d"
  | .variable name => "TypeVariable(" ++ quoted name ++ ")"
  | .array component => "Array(" ++ component.inspect ++ ")"

/-- The structure of a type argument. -/
def TypeArgument.inspect : TypeArgument → String
  | .any => "Wildcard"
  | .exact t => "Exact(" ++ t.inspect ++ ")"
  | .atMost t => "Extends(" ++ t.inspect ++ ")"
  | .atLeast t => "Super(" ++ t.inspect ++ ")"

/-- The structures of several type arguments. -/
def inspectArguments : List TypeArgument → List String
  | [] => []
  | argument :: arguments => argument.inspect :: inspectArguments arguments

end

end ApiSurface
