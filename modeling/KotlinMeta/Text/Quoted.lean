import KotlinMeta.Text.Visible

set_option autoImplicit false

/-! # Quoted text

A string literal as it stands in source text: between double quotes, with a backslash before a
quote and before a backslash, short escapes for the usual controls, and `\u` with the code point
in braces for every other character that is not visible by itself.
-/

namespace KotlinMeta.Text

/-- The written form of one character of a literal. -/
def escaped (c : Char) : List Char :=
  if c = '\x00' then ['\\', '0']
  else if c = '\t' then ['\\', 't']
  else if c = '\n' then ['\\', 'n']
  else if c = '\r' then ['\\', 'r']
  else if c = '"' then ['\\', '"']
  else if c = '\\' then ['\\', '\\']
  else if isVisible c then [c]
  else ['\\', 'u', '\x7b'] ++ Nat.toDigits 16 c.toNat ++ ['\x7d']

/-- The literal that denotes `text`. -/
def quoted (text : String) : String :=
  String.ofList ('"' :: (text.toList.flatMap escaped ++ ['"']))

end KotlinMeta.Text
