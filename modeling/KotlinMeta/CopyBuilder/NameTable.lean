import KotlinMeta.CopyBuilder.Error
import KotlinMeta.Identifier

set_option autoImplicit false

/-! # Names that do not collide

A table of the names given out so far. A new name is made from a suggestion: its identifier,
followed by as many underscores as it takes to be neither a keyword nor a name given out before.
A name can be kept under a tag, which holds one name for good.
-/

namespace KotlinMeta

/-- The names given out, and those kept under tags. -/
structure NameTable where
  allocated : List String
  tags : List (String × String)

namespace NameTable

/-- No name is given out yet. -/
def empty : NameTable := ⟨[], []⟩

/-- A name that cannot be given out. -/
def isTaken (t : NameTable) (name : String) : Bool :=
  Identifier.isKeyword name || t.allocated.contains name

/-- The name, followed by underscores until it is free; at most `fuel` underscores are tried. -/
def firstFree (t : NameTable) : Nat → String → String
  | 0, name => name
  | fuel + 1, name => if t.isTaken name then t.firstFree fuel (name ++ "_") else name

/-- Gives out a name made from a suggestion. Each name given out before can take one candidate, and
so can the keywords, of which no two differ by underscores: one more than that are tried. -/
def allocate (t : NameTable) (suggestion : String) : String × NameTable :=
  let name := t.firstFree (t.allocated.length + 1) (Identifier.ofText suggestion)
  (name, { t with allocated := name :: t.allocated })

/-- The name kept under a tag. -/
def get? (t : NameTable) (tag : String) : Option String := t.tags.lookup tag

/-- Gives out a name and keeps it under a tag that has none yet; otherwise nothing is given out. -/
def allocateTagged (t : NameTable) (suggestion tag : String) :
    Except SynthesisError String × NameTable :=
  if (t.get? tag).isSome then (.error (.tagInUse tag), t)
  else
    let (name, t) := t.allocate suggestion
    (.ok name, { t with tags := (tag, name) :: t.tags })

/-- The name has been given out. -/
def isAllocated (t : NameTable) (name : String) : Bool := t.allocated.contains name

/-- The table after names were given out for suggestions, in order. -/
def allocateAll (t : NameTable) (suggestions : List String) : NameTable :=
  suggestions.foldl (fun t suggestion => (t.allocate suggestion).2) t

end NameTable

/-- What a table is asked for: a name, or a name to be kept under a tag. -/
inductive NameRequest where
  | plain (suggestion : String)
  | tagged (suggestion tag : String)

/-- The answer to a request, and the table after it. -/
def NameTable.serve (t : NameTable) : NameRequest → Except SynthesisError String × NameTable
  | .plain suggestion =>
    let (name, t) := t.allocate suggestion
    (.ok name, t)
  | .tagged suggestion tag => t.allocateTagged suggestion tag

end KotlinMeta
