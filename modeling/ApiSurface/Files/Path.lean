import ApiSurface.Text.Segments

/-!
# Paths

A path is a text whose names are separated by slashes. Empty segments and single dots stand for
the directory that the path has led to so far.

Main definitions: `pathNames`, `below`, `fileName?`, `extension?`.
-/
namespace ApiSurface.Files

/-- The segments of a path. -/
def pathSegments (path : String) : List String :=
  (Text.segments '/' path.toList).map String.ofList

/-- The segment stays where the path has led so far. -/
def isStay (segment : String) : Bool := segment = "" || segment = "."

/-- The names on a path. -/
def pathNames (path : String) : List String := (pathSegments path).filter (! isStay ·)

/-- The path of an entry of a directory. -/
def below (path name : String) : String :=
  if path.toList.getLast? = some '/' then path ++ name else path ++ "/" ++ name

/-- The last name on a path, if it is one. -/
def fileName? (path : String) : Option String :=
  match (pathNames path).getLast? with
  | some ".." => none
  | name => name

/-- What follows the last dot of a name, unless nothing stands before that dot. -/
def extension? (name : String) : Option String :=
  match (Text.segments '.' name.toList).reverse with
  | [] => none
  | [_] => none
  | [_, []] => none
  | last :: _ => some (String.ofList last)

/-- What `text` goes on with after a beginning, if it begins so. -/
def after? (beginning text : String) : Option String :=
  if beginning.toList.isPrefixOf text.toList then
    some (String.ofList (text.toList.drop beginning.toList.length))
  else none

/-- What `text` has before an ending, if it ends so. -/
def before? (ending text : String) : Option String :=
  if ending.toList.isSuffixOf text.toList then
    some (String.ofList (text.toList.take (text.toList.length - ending.toList.length)))
  else none

end ApiSurface.Files
