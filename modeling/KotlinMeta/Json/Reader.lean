import KotlinMeta.Json.Basic

set_option autoImplicit false

/-! # Reading typed values from JSON

A reader is a function `Json → Option α`. A record is read from an object: keys that the record
does not know are passed over, and a key that it knows may stand only once. It is also read from an
array of its fields in order, of which the last may be missing. A field is required, or has a
default, or is optional; only an optional field may be `null`.
-/

namespace KotlinMeta.Json

/-! ## Leaves -/

def readString : Json → Option String
  | str s => some s
  | _ => none

def readBool : Json → Option Bool
  | bool b => some b
  | _ => none

/-- An integer of 32 bits without sign. -/
def readWord : Json → Option UInt32
  | int n => if 0 ≤ n ∧ n < 0x100000000 then some (UInt32.ofNat n.toNat) else none
  | _ => none

/-- An integer of 32 bits with sign. -/
def readInt32 : Json → Option Int32
  | int n => if -0x80000000 ≤ n ∧ n < 0x80000000 then some (Int32.ofInt n) else none
  | _ => none

/-- An array, each element read by `read`. -/
def readList {α : Type} (read : Json → Option α) : Json → Option (List α)
  | arr elements => elements.mapM read
  | _ => none

def readStrings : Json → Option (List String) := readList readString

/-- `null`, or a value read by `read`. -/
def readNullable {α : Type} (read : Json → Option α) : Json → Option (Option α)
  | null => some none
  | j => (read j).map some

/-- One of a list of named values: its name, or an object with the name as its only key and
`null` for its value. -/
def readName {α : Type} (names : List (String × α)) : Json → Option α
  | str s => names.lookup s
  | obj [(s, null)] => names.lookup s
  | _ => none

/-! ## Records -/

/-- Each of `known` is the key of at most one member. -/
def keysOnce (known : List String) (members : List (String × Json)) : Bool :=
  known.all fun key => (members.filter fun m => m.1 == key).length ≤ 1

/-- The members of an object in which no known key stands twice, or the elements of an array under
the known keys in order. -/
def readRecord (known : List String) : Json → Option (List (String × Json))
  | obj members => if keysOnce known members then some members else none
  | arr elements => if elements.length ≤ known.length then some (known.zip elements) else none
  | _ => none

/-- A field that must be present. -/
def required {α : Type} (members : List (String × Json)) (key : String)
    (read : Json → Option α) : Option α :=
  (member? members key).bind read

/-- A field with a default for its absence. -/
def defaulted {α : Type} (members : List (String × Json)) (key : String) (absent : α)
    (read : Json → Option α) : Option α :=
  match member? members key with
  | none => some absent
  | some j => read j

/-- A field that may be absent or `null`. -/
def optional {α : Type} (members : List (String × Json)) (key : String)
    (read : Json → Option α) : Option (Option α) :=
  defaulted members key none (readNullable read)

end KotlinMeta.Json
