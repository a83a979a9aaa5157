import KotlinMeta.Json.Basic

set_option autoImplicit false

/-! # Writing JSON text

Two layouts: `Json.line` writes a value without white space on one line, `Json.pretty` writes a
member or an element a line, indented by two spaces a level, and an empty object or array as `{}`
or `[]`.
-/

namespace KotlinMeta.Json

/-! ## Strings -/

/-- A code point below `0x10000` as a `\u` escape. -/
def unicodeEscape (c : Char) : List Char :=
  let digit (n : Nat) : Char := Nat.digitChar (n % 16)
  ['\\', 'u', digit (c.toNat / 0x1000), digit (c.toNat / 0x100), digit (c.toNat / 0x10),
    digit c.toNat]

/-- A character inside a string literal: quotes, backslashes and controls are escaped. -/
def escaped (c : Char) : List Char :=
  if c = '"' then ['\\', '"']
  else if c = '\\' then ['\\', '\\']
  else if c = '\x08' then ['\\', 'b']
  else if c = '\x0c' then ['\\', 'f']
  else if c = '\n' then ['\\', 'n']
  else if c = '\r' then ['\\', 'r']
  else if c = '\t' then ['\\', 't']
  else if c.toNat < 0x20 then unicodeEscape c
  else [c]

/-- As `escaped`, with the characters beyond ASCII that some readers take for the end of a line
escaped too. -/
def escapedOnLine (c : Char) : List Char :=
  if c.toNat = 0x85 ∨ c.toNat = 0x2028 ∨ c.toNat = 0x2029 then unicodeEscape c else escaped c

/-- A string literal, each character written by `escape`. -/
def literal (escape : Char → List Char) (text : String) : String :=
  String.ofList ('"' :: (text.toList.flatMap escape ++ ['"']))

/-- What an unpaired surrogate looks like. -/
def unreadableLiteral : String := "\"\\ud800\""

/-! ## Layouts -/

mutual

/-- The value on one line. -/
def line : Json → String
  | null => "null"
  | bool true => "true"
  | bool false => "false"
  | int n => toString n
  | decimal text => text
  | str text => literal escapedOnLine text
  | arr elements => "[" ++ elementLine elements ++ "]"
  | obj members => "\x7b" ++ memberLine members ++ "\x7d"
  | unreadable => unreadableLiteral

/-- Elements with a comma between them. -/
def elementLine : List Json → String
  | [] => ""
  | v :: rest => line v ++ (if rest.isEmpty then "" else ",") ++ elementLine rest

/-- Members with a comma between them. -/
def memberLine : List (String × Json) → String
  | [] => ""
  | (k, v) :: rest =>
    literal escapedOnLine k ++ ":" ++ line v ++ (if rest.isEmpty then "" else ",")
      ++ memberLine rest

end

/-- The start of a line at a level of nesting. -/
def newLine (level : Nat) : String := "\n" ++ String.ofList (List.replicate (2 * level) ' ')

mutual

/-- The value in the indented layout, inside `level` objects and arrays. -/
def prettyAt (level : Nat) : Json → String
  | null => "null"
  | bool true => "true"
  | bool false => "false"
  | int n => toString n
  | decimal text => text
  | str text => literal escaped text
  | arr [] => "[]"
  | arr (v :: rest) =>
    "[" ++ newLine (level + 1) ++ prettyAt (level + 1) v ++ moreElements (level + 1) rest
      ++ newLine level ++ "]"
  | obj [] => "\x7b\x7d"
  | obj ((k, v) :: rest) =>
    "\x7b" ++ newLine (level + 1) ++ literal escaped k ++ ": " ++ prettyAt (level + 1) v
      ++ moreMembers (level + 1) rest ++ newLine level ++ "\x7d"
  | unreadable => unreadableLiteral

/-- Elements after the first, each after a comma and on a line of its own. -/
def moreElements (level : Nat) : List Json → String
  | [] => ""
  | v :: rest => "," ++ newLine level ++ prettyAt level v ++ moreElements level rest

/-- Members after the first, each after a comma and on a line of its own. -/
def moreMembers (level : Nat) : List (String × Json) → String
  | [] => ""
  | (k, v) :: rest =>
    "," ++ newLine level ++ literal escaped k ++ ": " ++ prettyAt level v
      ++ moreMembers level rest

end

/-- The value in the indented layout. -/
def pretty (j : Json) : String := prettyAt 0 j

end KotlinMeta.Json
