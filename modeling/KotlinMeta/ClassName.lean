import KotlinMeta.Json.Basic
import KotlinMeta.Text.Segments
import KotlinMeta.Text.Uppercase

set_option autoImplicit false

/-! # Class names

A class is named by its package and by the chain of simple names that leads to it from the
outermost class: `Map.Entry` in `kotlin.collections` has the simple names `Map` and `Entry`. Two
spellings are read. Metadata separates packages by `/` and nested classes by `.`; source text uses
`.` for both, and capital letters tell where the package ends.
-/

namespace KotlinMeta

/-- The name of a class. -/
structure ClassName where
  packageName : String
  /-- Outermost first. -/
  simpleNames : List String
  deriving DecidableEq, Inhabited

namespace ClassName

/-! ## Spellings -/

/-- Reads a name in the spelling of metadata, such as `kotlin/collections/Map.Entry`. -/
def ofMetadata (name : String) : ClassName :=
  match Text.splitLast '/' name.toList with
  | some (package, classes) =>
    { packageName := String.ofList (package.map fun c => if c = '/' then '.' else c)
      simpleNames := (Text.segments '.' classes).map String.ofList }
  | none => { packageName := "", simpleNames := Text.split '.' name }

/-- A segment of a dotted name that starts a class by convention. -/
def startsUppercase (segment : String) : Bool :=
  match segment.toList with
  | [] => false
  | c :: _ => Text.isUppercase c

/-- Splits a dotted name by convention: the segments before the first that starts with a capital
letter form the package. Without such a segment the last one is the class. -/
def bestGuess (dotted : String) : ClassName :=
  let segments := Text.split '.' dotted
  let start := (segments.findIdx? startsUppercase).getD (segments.length - 1)
  { packageName := Text.join '.' (segments.take start), simpleNames := segments.drop start }

/-- The name as source text writes it. -/
def qualified (c : ClassName) : String :=
  let names := Text.join '.' c.simpleNames
  if c.packageName = "" then names else c.packageName ++ "." ++ names

/-! ## Neighbours -/

/-- The innermost simple name. -/
def simpleName (c : ClassName) : String := c.simpleNames.getLastD ""

/-- The class around a nested class. -/
def enclosing? (c : ClassName) : Option ClassName :=
  if c.simpleNames.length < 2 then none
  else some { c with simpleNames := c.simpleNames.dropLast }

/-- A class nested in this one. -/
def nested (c : ClassName) (name : String) : ClassName :=
  { c with simpleNames := c.simpleNames ++ [name] }

/-- A top-level class of the same package. -/
def peer (c : ClassName) (name : String) : ClassName := { c with simpleNames := [name] }

/-! ## Known classes -/

def any : ClassName := ⟨"kotlin", ["Any"]⟩

def unit : ClassName := ⟨"kotlin", ["Unit"]⟩

def isAny (c : ClassName) : Bool := c == any

/-! ## Order and JSON form -/

/-- By package, then by simple names from the outermost on; texts by their code points, which is
also the order of their bytes in UTF-8. -/
instance : Ord ClassName where
  compare a b :=
    (compare a.packageName b.packageName).then (compare a.simpleNames b.simpleNames)

/-- The names in ascending order. -/
def sort (names : List ClassName) : List ClassName :=
  names.mergeSort fun a b => (compare a b).isLE

def toJson (c : ClassName) : Json :=
  .obj [("packageName", .str c.packageName), ("simpleNames", .strs c.simpleNames)]

end ClassName

end KotlinMeta
