set_option autoImplicit false

/-! # JSON values

A JSON value as a tree. The members of an object keep their order and may repeat a key: what a
repeated key means is for the reader of the object to say.
-/

namespace KotlinMeta

/-- A JSON value. -/
inductive Json where
  | null
  | bool (value : Bool)
  /-- A number written as an integer; `-0` is not one. -/
  | int (value : Int)
  /-- Any other number, as it is written. -/
  | decimal (literal : String)
  | str (value : String)
  | arr (elements : List Json)
  | obj (members : List (String × Json))
  /-- Text of the right form that denotes nothing: a string with a surrogate that has no partner,
  or an object with such a key. It may stand only where a value is skipped. -/
  | unreadable

namespace Json

/-- A value written by `write`, or `null` in its absence. -/
def orNull {α : Type} (write : α → Json) : Option α → Json
  | none => null
  | some a => write a

/-- A string, or `null` in its absence. -/
def strOrNull : Option String → Json := orNull str

/-- A list of strings. -/
def strs (values : List String) : Json := arr (values.map str)

/-- A word of 32 bits, as the number it stands for. -/
def word (w : UInt32) : Json := int w.toNat

/-- The value of the first member with this key. -/
def member? (members : List (String × Json)) (key : String) : Option Json :=
  members.lookup key

end Json

end KotlinMeta
