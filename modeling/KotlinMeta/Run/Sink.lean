import KotlinMeta.Json.Printer
import KotlinMeta.Run.Path
import KotlinMeta.Run.Report
import KotlinMeta.Source.Writer

set_option autoImplicit false

/-! # Where files go

Three sinks: one that keeps the files, one that keeps their names and refuses a file by its number,
and one that writes files as indented JSON to a directory tree, a directory for each segment of the
package.
-/

namespace KotlinMeta

/-- Keeps every file, in order. -/
def Sink.collecting : Sink (List Source.File) Empty := fun file files => .ok (files ++ [file])

/-- Keeps the names of files and refuses the file with number `limit`, as a disk does that is
full. -/
def Sink.bounded (limit : Nat) : Sink (List String) Unit := fun file names =>
  if names.length = limit then .error () else .ok (names ++ [file.fileName])

/-! ## Directory trees -/

/-- Files by their paths below the root of a tree. -/
abbrev FileTree := List (String × String)

namespace FileTree

/-- The tree with a file put at a path, in place of a file that stood there. -/
def put (tree : FileTree) (path text : String) : FileTree :=
  if tree.any (·.1 == path) then tree.map fun e => if e.1 == path then (path, text) else e
  else tree ++ [(path, text)]

/-- The files in the order of their paths. -/
def sorted (tree : FileTree) : FileTree := tree.mergeSort fun a b => (compare a.1 b.1).isLE

end FileTree

/-- Why a file cannot be written. -/
inductive TreeError where
  | noDirectory (path : String)
  | noFile (path : String)
  deriving DecidableEq

def TreeError.message : TreeError → String
  | .noDirectory path => String.join ["failed to create directory ", path]
  | .noFile path => String.join ["failed to write ", path]

/-- A name that a file or directory can have: at most 255 bytes, none of them zero. -/
def isEntryName (name : String) : Bool := !name.toList.contains '\x00' && name.utf8ByteSize ≤ 255

/-- Segments of a path with slashes between them. -/
def pathText (segments : List String) : String := "/".intercalate segments

/-- A path below `root` that can be written to: every segment can be a name, and the whole takes at
most 4095 bytes. -/
def isEntryPath (root : String) (segments : List String) : Bool :=
  segments.all isEntryName && (Path.extend root segments).utf8ByteSize ≤ 4095

namespace Source.File

/-- The directories that lead to a file: the segments of its package that are not empty. -/
def directories (f : File) : List String :=
  (Text.split '.' f.packageName).filter (· ≠ "")

/-- The name of a file in its directory. -/
def entryName (f : File) : String := f.fileName ++ ".json"

/-- The path of a file below the root: directories and name. -/
def pathSegments (f : File) : List String := f.directories ++ [f.entryName]

/-- The path of a file in the tree below `root`. -/
def pathIn (f : File) (root : String) : String := Path.extend root f.pathSegments

end Source.File

/-- Writes a file as indented JSON to the tree below `root`. -/
def Sink.directory (root : String) : Sink FileTree TreeError := fun file tree =>
  if !isEntryPath root file.directories then
    .error (.noDirectory (Path.extend root file.directories))
  else if !isEntryPath root file.pathSegments then
    .error (.noFile (file.pathIn root))
  else .ok (tree.put (pathText file.pathSegments) file.toJson.pretty)

end KotlinMeta
