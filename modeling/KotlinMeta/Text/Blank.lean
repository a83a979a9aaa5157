import KotlinMeta.Text.Ranges

set_option autoImplicit false

/-! # White space and option words

White space is the Unicode property `White_Space`. A word given as an option is compared without
the white space around it and without regard to case.
-/

namespace KotlinMeta.Text

/-- The code points with the property `White_Space`. -/
def blankRanges : List (Nat × Nat) :=
  [(0x9, 0xD), (0x20, 0x20), (0x85, 0x85), (0xA0, 0xA0), (0x1680, 0x1680), (0x2000, 0x200A),
   (0x2028, 0x2029), (0x202F, 0x202F), (0x205F, 0x205F), (0x3000, 0x3000)]

/-- The character has the property `White_Space`. -/
def isBlank (c : Char) : Bool := inRanges blankRanges c.toNat

/-- The text without the white space at its two ends. -/
def trim (cs : List Char) : List Char :=
  ((cs.dropWhile isBlank).reverse.dropWhile isBlank).reverse

/-- The trimmed text in small letters, for comparison with words of small ASCII letters.

Only ASCII capitals are lowered. Beyond ASCII a single character has a small ASCII letter in one
case, the Kelvin sign with `k`, so the result is right for every vocabulary without a `k`. -/
def normalWord (text : String) : String := String.ofList ((trim text.toList).map Char.toLower)

end KotlinMeta.Text
