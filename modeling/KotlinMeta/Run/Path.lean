import KotlinMeta.Text.Segments

set_option autoImplicit false

/-! # Paths

A path is a text of names with slashes between them. The text says more than the file system reads
in it: several slashes count as one, and a point alone names no step unless the path starts with it.
What is read are the `components`, and two texts with the same components are the same path.
-/

namespace KotlinMeta.Path

/-! ## What a path says -/

/-- One step of a path. -/
inductive Component where
  /-- The slash in front of an absolute path. -/
  | root
  /-- The point in front of a relative path. -/
  | current
  /-- Two points: back to the directory above. -/
  | parent
  | entry (name : String)
  deriving DecidableEq

/-- The step that a name between slashes stands for, if any. -/
def step? (name : String) : Option Component :=
  if name = "" ∨ name = "." then none
  else if name = ".." then some .parent
  else some (.entry name)

/-- Where the steps of a path start. -/
def start (path : String) : List Component :=
  if path.toList.head? = some '/' then [.root]
  else if (Text.split '/' path).head? = some "." then [.current]
  else []

/-- The steps of a path, in order. -/
def components (path : String) : List Component :=
  start path ++ (Text.split '/' path).filterMap step?

/-! ## Longer paths -/

/-- Whether a slash is missing between a path and a name after it. -/
def needsSlash (path : String) : Bool :=
  match path.toList.getLast? with
  | some c => c != '/'
  | none => false

/-- The path with a relative path after it. An absolute path takes its place. -/
def push (path next : String) : String :=
  if next.toList.head? = some '/' then next
  else if needsSlash path then path ++ "/" ++ next
  else path ++ next

/-- The path with several names after it. -/
def extend (path : String) (names : List String) : String := names.foldl push path

end KotlinMeta.Path
