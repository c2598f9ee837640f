import ApiSurface.Files.Path

/-!
# File trees

A tree holds what an analysis sees of a file system. An archive is known by its entries; a file
that is none is known by its bytes.

Main definitions: `Content`, `Node`, `Node.at?`, `Node.put?`.
-/
namespace ApiSurface.Files

/-- The content of a file. -/
inductive Content where
  | bytes (data : List UInt8)
  /-- An archive by the names and contents of its entries. -/
  | archive (entries : List (String × Content))

/-- What a path leads to. -/
inductive Node where
  | file (content : Content)
  | directory (entries : List (String × Node))

namespace Content

/-- The bytes of a file. Those of an archive are not kept, and it is never looked at as anything
else. -/
def data : Content → List UInt8
  | bytes data => data
  | archive _ => []

/-- The text of a file, unless its bytes are no text. -/
def text? : Content → Option String
  | bytes data => String.fromUTF8? (ByteArray.mk data.toArray)
  | archive _ => none

end Content

namespace Node

/-- The entries of a directory. -/
def entries? : Node → Option (List (String × Node))
  | file _ => none
  | directory entries => some entries

/-- Follow the segments of a path, from the innermost of some nested directories on. -/
def follow : (above : List Node) → Node → List String → Option Node
  | _, node, [] => some node
  | above, node, segment :: segments => do
    let entries ← node.entries?
    if isStay segment then follow above node segments
    else if segment = ".." then
      match above with
      | [] => none
      | parent :: above => follow above parent segments
    else match entries.find? (·.1 = segment) with
      | some (_, entry) => follow (node :: above) entry segments
      | none => none

/-- What a path leads to from a directory. An empty path leads nowhere, and neither does one from
the root of the file system. -/
def at? (root : Node) (path : String) : Option Node :=
  match path.toList with
  | [] => none
  | '/' :: _ => none
  | _ => follow [] root (pathSegments path)

/-- Put a file into a list of entries in place of one of the same name. -/
def putEntry (name : String) (node : Node) : List (String × Node) → List (String × Node)
  | [] => [(name, node)]
  | (other, entry) :: rest =>
    if other = name then (name, node) :: rest else (other, entry) :: putEntry name node rest

/-- Put a node at the end of a path, and directories on the way to it. -/
def grow (node : Node) : (names : List String) → Node → Node
  | [], _ => node
  | name :: names, here =>
    let entries := here.entries?.getD []
    let entry := ((entries.find? (·.1 = name)).map (·.2)).getD (.directory [])
    .directory (putEntry name (grow node names entry) entries)

/-- The tree of some files and empty directories by their paths. -/
def ofList (nodes : List (String × Node)) : Node :=
  nodes.foldl (fun root (path, node) => grow node (pathNames path) root) (.directory [])

/-- The names from the root to where a path leads. -/
def resolve (names : List String) : List String → List String
  | [] => names
  | segment :: segments =>
    if isStay segment then resolve names segments
    else if segment = ".." then resolve names.dropLast segments
    else resolve (names ++ [segment]) segments

/-- Write a file, if its directory is there and no directory is in its place. -/
def put? (root : Node) (path : String) (data : List UInt8) : Option Node := do
  let segments := pathSegments path
  let name ← segments.getLast?
  if path.toList.head? = some '/' ∨ isStay name ∨ name = ".." then none
  else
    let parent ← follow [] root segments.dropLast
    let entries ← parent.entries?
    match entries.find? (·.1 = name) with
    | some (_, .directory _) => none
    | _ => some (grow (.file (.bytes data)) (resolve [] segments) root)

end Node

end ApiSurface.Files
