import ApiSurface.ClassFile.Decoding
import ApiSurface.Files.Tree
import ApiSurface.Journal.Event
import ApiSurface.Program.Failure

/-!
# Class inventories

The classes below a path are those of its directories and archives, in ascending order of their
places: names are compared from the outside in. Metadata and the descriptions of modules and
packages are left out.

Looking around a tree gives places; the inventory is made by taking stock of them in order.

Main definitions: `Find`, `directoryFinds`, `archiveFinds`, `ClassUnit`, `Inventory`, `inventory`.
-/
namespace ApiSurface.Files
open Program (Failure Stage)

/-- A class that has not been decoded. -/
structure ClassUnit where
  name : String
  data : List UInt8

/-- The classes that were found, and the number of archives opened on the way. -/
structure Inventory where
  units : List ClassUnit := []
  archives : Nat := 0

/-- What stands at a place. -/
inductive Find where
  | unit (unit : ClassUnit)
  /-- An archive that can be read. -/
  | archive
  /-- An entry of an archive that is looked into. -/
  | nested (archive entry : String)
  /-- A file that has the name of an archive and is none. -/
  | broken (path : String)

/-- The entry is left out: it is metadata, or describes a module or a package. -/
def isSkipped (name : String) : Bool :=
  (after? "META-INF/" name).isSome || (before? "module-info.class" name).isSome ||
    (before? "package-info.class" name).isSome

/-- The name of the class of an entry: its path below the root of the classes. -/
def className (entry : String) : String :=
  let inside := match after? "BOOT-INF/classes/" entry with
    | some rest => rest
    | none => (after? "WEB-INF/classes/" entry).getD entry
  (before? ".class" inside).getD inside

mutual

/-- What is found in an archive at a place. `path` is the archive in messages. -/
def archiveFinds (place : List String) (path : String) : Content → List (List String × Find)
  | .bytes _ => [(place, .broken path)]
  | .archive entries => (place, .archive) :: entryFinds place path entries

/-- What is found in the entries of an archive. Of entries with one name the last counts. -/
def entryFinds (place : List String) (path : String) :
    List (String × Content) → List (List String × Find)
  | [] => []
  | (name, content) :: rest =>
    let here := place ++ [name]
    let finds :=
      if isSkipped name ∨ rest.any (·.1 = name) then []
      else if (before? ".jar" name).isSome then
        (here, .nested path name) :: archiveFinds here (path ++ "!/" ++ name) content
      else if (before? ".class" name).isSome then
        [(here, .unit ⟨className name, content.data⟩)]
      else []
    finds ++ entryFinds place path rest

end

mutual

/-- What is found in an entry of a directory. `relative` is its path below the directory that the
search began in, and `path` the one in messages. -/
def nodeFinds (place : List String) (relative path name : String) :
    Node → List (List String × Find)
  | .directory entries => directoryFinds place (some relative) path entries
  | .file content =>
    let entry := String.ofList (relative.toList.map fun c => if c = '\\' then '/' else c)
    if isSkipped entry then []
    else match extension? name with
      | some "class" => [(place, .unit ⟨className entry, content.data⟩)]
      | some "jar" => archiveFinds place path content
      | _ => []

/-- What is found in a directory; the one that the search began in has no relative path. -/
def directoryFinds (place : List String) (relative : Option String) (path : String) :
    List (String × Node) → List (List String × Find)
  | [] => []
  | (name, node) :: rest =>
    nodeFinds (place ++ [name]) (relative.elim name (· ++ "/" ++ name)) (below path name) name
      node ++ directoryFinds place relative path rest

end

/-- Finds in ascending order of their places. -/
def inOrder (finds : List (List String × Find)) : List Find :=
  (finds.mergeSort fun a b => ! decide (b.1 < a.1)).map (·.2)

/-- Add a class; no two have one name. -/
def Inventory.add (i : Inventory) (unit : ClassUnit) : Except Fault Inventory :=
  if i.units.any (·.name = unit.name) then .error (.duplicateClass unit.name)
  else .ok { i with units := i.units ++ [unit] }

/-- Take stock of finds in order. -/
def takeStock (i : Inventory) : List Find → Stage Inventory
  | [] => pure i
  | .unit unit :: finds => do
    let i ← Stage.ofExcept (i.add unit)
    takeStock i finds
  | .archive :: finds => takeStock { i with archives := i.archives + 1 } finds
  | .nested archive entry :: finds => do
    Stage.report (.nestedArchive archive entry)
    takeStock i finds
  | .broken path :: _ => throw (.unreadable path)

/-- The inventory of a class file that is given by itself: the class is not looked for by a name,
so it has the one that it declares. -/
def loneClass [ClassFile.ContainerParser] (path : String) (content : Content) : Stage Inventory :=
  match ClassFile.decode path content.data with
  | .ok c => pure { units := [⟨c.name, content.data⟩] }
  | .error fault => throw (.unparsable path (some fault))

/-- The inventory of what a path leads to, if it leads to anything. What is no directory is known
by the name on the path, be it there or not. -/
def inventory [ClassFile.ContainerParser] (path : String) (place : Option Node) :
    Stage Inventory :=
  let extension := (fileName? path).bind extension?
  match place with
  | some (.directory entries) => takeStock {} (inOrder (directoryFinds [] none path entries))
  | some (.file content) =>
    match extension with
    | some "class" => loneClass path content
    | some "jar" => takeStock {} (inOrder (archiveFinds [] path content))
    | _ => throw (.unsupportedInput path)
  | none =>
    match extension with
    | some "class" => throw (.unreadable path)
    | some "jar" => throw (.unopened path)
    | _ => throw (.unsupportedInput path)

end ApiSurface.Files
