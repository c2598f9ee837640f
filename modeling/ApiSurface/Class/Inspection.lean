import ApiSurface.Class.Annotation
import ApiSurface.Text.Quoted

/-!
# Showing the structure of annotation values

Messages about an unexpected annotation value show how the value is built: the kind of value with
its parts in brackets, and texts in quotes.
-/
namespace ApiSurface
open Number Text

/-- The structure of a method handle. -/
def MethodHandle.inspect (h : MethodHandle) : String :=
  "MethodHandle \x7b kind: " ++ toString h.kind.toNat ++ ", owner: " ++ quoted h.owner ++
    ", name: " ++ quoted h.name ++ ", descriptor: " ++ quoted h.descriptor ++ " \x7d"

/-- The structure of a constant. -/
def Constant.inspect : Constant → String
  | .int v => "Int(" ++ toString v.toInt ++ ")"
  | .long v => "Long(" ++ toString v.toInt ++ ")"
  | .float bits => "Float(" ++ Layout.inspected.text (Constant.single bits) ++ ")"
  | .double bits => "Double(" ++ Layout.inspected.text (Constant.wide bits) ++ ")"
  | .string v => "String(" ++ quoted v ++ ")"
  | .classRef name => "Class(" ++ quoted name ++ ")"
  | .methodType d => "MethodType(" ++ quoted d ++ ")"
  | .handle h => "MethodHandle(" ++ h.inspect ++ ")"

mutual

/-- The structure of an annotation value. -/
def Element.inspect : Element → String
  | .constant value => "Const(" ++ value.inspect ++ ")"
  | .enumConstant type name =>
    "Enum \x7b descriptor: " ++ quoted type ++ ", name: " ++ quoted name ++ " \x7d"
  | .classRef descriptor => "Class(" ++ quoted descriptor ++ ")"
  | .nested type values =>
    "Annotation(Annotation \x7b descriptor: " ++ quoted type ++ ", values: [" ++
      String.intercalate ", " (inspectPairs values) ++ "] \x7d)"
  | .array values => "Array([" ++ String.intercalate ", " (inspectValues values) ++ "])"

/-- The structures of the values of an array. -/
def inspectValues : List Element → List String
  | [] => []
  | value :: values => value.inspect :: inspectValues values

/-- The structures of the named values of an annotation. -/
def inspectPairs : List (String × Element) → List String
  | [] => []
  | (name, value) :: pairs =>
    ("(" ++ quoted name ++ ", " ++ value.inspect ++ ")") :: inspectPairs pairs

end

end ApiSurface
