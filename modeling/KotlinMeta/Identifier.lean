import KotlinMeta.Text.Letter
import KotlinMeta.Text.Numeral

set_option autoImplicit false

/-! # Identifiers

An identifier starts with a letter or an underscore and goes on with letters, numerals and
underscores. A hard keyword is never an identifier by itself.
-/

namespace KotlinMeta.Identifier

/-- The hard keywords. -/
def keywords : List String :=
  ["as", "break", "class", "continue", "do", "else", "false", "for", "fun", "if", "in",
    "interface", "is", "null", "object", "package", "return", "super", "this", "throw", "true",
    "try", "typealias", "typeof", "val", "var", "when", "while"]

def isKeyword (name : String) : Bool := keywords.contains name

/-- A character that may start an identifier. -/
def canStart (c : Char) : Bool := Text.isAlphabetic c || c == '_'

/-- A character that may stand inside an identifier. -/
def canContinue (c : Char) : Bool := Text.isAlphabetic c || Text.isNumeral c || c == '_'

/-- The text as an identifier: a character that cannot stand in one becomes an underscore, and an
underscore comes before a first character that cannot start one. -/
def ofText (text : String) : String :=
  match text.toList with
  | [] => "_"
  | c :: cs =>
    let body := (c :: cs).map fun c => if canContinue c then c else '_'
    String.ofList (if canStart c then body else '_' :: body)

end KotlinMeta.Identifier
