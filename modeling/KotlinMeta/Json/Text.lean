import KotlinMeta.Json.Basic

set_option autoImplicit false

/-! # Reading JSON text

The grammar of RFC 8259, without tolerance: no comment, no comma before a closing bracket, no
leading zero, no control character inside a string. `parse` reads a whole text. `recordPrefix`
reads the record at the top of a text field by field and keeps the fields it could read when the
text breaks off, for a reader that reports the first fault in the order of the text.
-/

namespace KotlinMeta.Json

/-! ## Leaves -/

/-- The four characters that may stand between two tokens. -/
def isSpace (c : Char) : Bool := c == ' ' || c == '\t' || c == '\n' || c == '\r'

def skipSpace (cs : List Char) : List Char := cs.dropWhile isSpace

/-- The value of a hexadecimal digit. -/
def hexDigit (c : Char) : Option Nat :=
  if '0' ≤ c ∧ c ≤ '9' then some (c.toNat - '0'.toNat)
  else if 'a' ≤ c ∧ c ≤ 'f' then some (c.toNat - 'a'.toNat + 10)
  else if 'A' ≤ c ∧ c ≤ 'F' then some (c.toNat - 'A'.toNat + 10)
  else none

def isHighSurrogate (n : Nat) : Bool := 0xD800 ≤ n && n ≤ 0xDBFF
def isLowSurrogate (n : Nat) : Bool := 0xDC00 ≤ n && n ≤ 0xDFFF

/-- The character that a pair of surrogates stands for. -/
def surrogatePair (high low : Nat) : Char :=
  Char.ofNat (0x10000 + (high - 0xD800) * 0x400 + (low - 0xDC00))

/-- The character that a backslash and one more character stand for. -/
def shortEscape : Char → Option Char
  | '"' => some '"'
  | '\\' => some '\\'
  | '/' => some '/'
  | 'b' => some '\x08'
  | 'f' => some '\x0c'
  | 'n' => some '\n'
  | 'r' => some '\r'
  | 't' => some '\t'
  | _ => none

/-- Where a reader stands inside a string literal. -/
inductive InString where
  /-- Between characters. -/
  | plain
  /-- After a backslash. -/
  | escape
  /-- Inside a `\u` escape that lacks `left + 1` digits; those read so far write `value`. -/
  | hex (left value : Nat)

/-- Reads a string literal after its opening quote and gives the code points that its characters
and escapes name, surrogates included; `seen` holds those read before, backwards. -/
def codePoints : InString → List Nat → List Char → Option (List Nat × List Char)
  | _, _, [] => none
  | .plain, seen, c :: rest =>
    if c = '"' then some (seen.reverse, rest)
    else if c = '\\' then codePoints .escape seen rest
    else if c.toNat < 0x20 then none
    else codePoints .plain (c.toNat :: seen) rest
  | .escape, seen, c :: rest =>
    if c = 'u' then codePoints (.hex 3 0) seen rest
    else
      match shortEscape c with
      | none => none
      | some e => codePoints .plain (e.toNat :: seen) rest
  | .hex left value, seen, c :: rest =>
    match hexDigit c with
    | none => none
    | some d =>
      match left with
      | 0 => codePoints .plain ((value * 16 + d) :: seen) rest
      | left + 1 => codePoints (.hex left (value * 16 + d)) seen rest

/-- The text that code points spell, if every surrogate stands in a pair. -/
def spelled : List Nat → Option (List Char)
  | [] => some []
  | [n] => if isHighSurrogate n || isLowSurrogate n then none else some [Char.ofNat n]
  | n :: m :: rest =>
    if isHighSurrogate n && isLowSurrogate m then (spelled rest).map (surrogatePair n m :: ·)
    else if isHighSurrogate n || isLowSurrogate n then none
    else (spelled (m :: rest)).map (Char.ofNat n :: ·)

/-- Reads a string literal after its opening quote; the text is `none` if the literal holds a
surrogate without its partner. -/
def stringTail (cs : List Char) : Option (Option String × List Char) :=
  (codePoints .plain [] cs).map fun (codes, rest) => ((spelled codes).map String.ofList, rest)

/-- The number that a list of decimal digits writes. -/
def digitsValue (digits : List Char) : Nat :=
  digits.foldl (fun n c => n * 10 + (c.toNat - '0'.toNat)) 0

/-- The digits of an integer part: `0`, or digits that start with another one. -/
def integerPart (cs : List Char) : Option (List Char × List Char) :=
  match cs.takeWhile Char.isDigit with
  | [] => none
  | '0' :: _ :: _ => none
  | digits => some (digits, cs.dropWhile Char.isDigit)

/-- One or more digits after `mark`, which is read too. -/
def digitsAfter (mark : List Char) (cs : List Char) : Option (List Char × List Char) :=
  match cs.takeWhile Char.isDigit with
  | [] => none
  | digits => some (mark ++ digits, cs.dropWhile Char.isDigit)

/-- The fraction of a number, empty if there is none. -/
def fractionPart : List Char → Option (List Char × List Char)
  | '.' :: rest => digitsAfter ['.'] rest
  | cs => some ([], cs)

/-- The exponent of a number, empty if there is none. -/
def exponentPart : List Char → Option (List Char × List Char)
  | 'e' :: rest | 'E' :: rest =>
    match rest with
    | '+' :: digits => digitsAfter ['e', '+'] digits
    | '-' :: digits => digitsAfter ['e', '-'] digits
    | digits => digitsAfter ['e'] digits
  | cs => some ([], cs)

/-- Reads a number after its sign. -/
def unsignedNumber (negative : Bool) (cs : List Char) : Option (Json × List Char) := do
  let (digits, afterDigits) ← integerPart cs
  let (fraction, afterFraction) ← fractionPart afterDigits
  let (exponent, rest) ← exponentPart afterFraction
  let n := digitsValue digits
  let value :=
    if fraction.isEmpty && exponent.isEmpty && !(negative && n == 0) then
      int (if negative then -(n : Int) else n)
    else
      decimal (String.ofList ((if negative then ['-'] else []) ++ digits ++ fraction ++ exponent))
  return (value, rest)

/-- Reads a number. -/
def number : List Char → Option (Json × List Char)
  | '-' :: rest => unsignedNumber true rest
  | cs => unsignedNumber false cs

/-! ## Values -/

mutual

/-- Reads a value, after white space. The fuel bounds the depth of the calls, of which at least
every second one takes a character. -/
def value : Nat → List Char → Option (Json × List Char)
  | 0, _ => none
  | fuel + 1, cs =>
    match skipSpace cs with
    | 'n' :: 'u' :: 'l' :: 'l' :: rest => some (null, rest)
    | 't' :: 'r' :: 'u' :: 'e' :: rest => some (bool true, rest)
    | 'f' :: 'a' :: 'l' :: 's' :: 'e' :: rest => some (bool false, rest)
    | '"' :: rest =>
      (stringTail rest).map fun (text, after) => (text.elim unreadable str, after)
    | '[' :: rest =>
      match skipSpace rest with
      | ']' :: after => some (arr [], after)
      | _ => elements fuel [] rest
    | '\x7b' :: rest =>
      match skipSpace rest with
      | '\x7d' :: after => some (obj [], after)
      | _ => members fuel (some []) rest
    | rest => number rest

/-- Reads the elements of an array up to its end; `seen` holds those read before, backwards. -/
def elements : Nat → List Json → List Char → Option (Json × List Char)
  | 0, _, _ => none
  | fuel + 1, seen, cs =>
    match value fuel cs with
    | none => none
    | some (v, rest) =>
      match skipSpace rest with
      | ',' :: after => elements fuel (v :: seen) after
      | ']' :: after => some (arr (v :: seen).reverse, after)
      | _ => none

/-- Reads the members of an object up to its end; `seen` holds those read before, backwards, and
is `none` once a key was no text. -/
def members : Nat → Option (List (String × Json)) → List Char → Option (Json × List Char)
  | 0, _, _ => none
  | fuel + 1, seen, cs =>
    match keyed fuel cs with
    | none => none
    | some ((key, v), rest) =>
      let read := match seen, key with
        | some ms, some k => some ((k, v) :: ms)
        | _, _ => none
      match skipSpace rest with
      | ',' :: after => members fuel read after
      | '\x7d' :: after => some (read.elim unreadable fun ms => obj ms.reverse, after)
      | _ => none

/-- Reads a key, a colon and a value. -/
def keyed : Nat → List Char → Option ((Option String × Json) × List Char)
  | 0, _ => none
  | fuel + 1, cs =>
    match skipSpace cs with
    | '"' :: rest =>
      match stringTail rest with
      | none => none
      | some (key, after) =>
        match skipSpace after with
        | ':' :: text => (value fuel text).map fun (v, end_) => ((key, v), end_)
        | _ => none
    | _ => none

end

/-- Fuel enough for a text. -/
def fuelFor (cs : List Char) : Nat := 2 * cs.length + 2

/-- The value that a text denotes, if it is one JSON value with white space around it. -/
def parse (text : String) : Option Json :=
  let cs := text.toList
  match value (fuelFor cs) cs with
  | some (v, rest) => if skipSpace rest = [] then some v else none
  | none => none

/-! ## The record at the top of a text, field by field -/

/-- Reads members until one cannot be read or the object ends; the second component says whether
the object ended and only white space follows. -/
def memberRun : Nat → List (String × Json) → List Char → List (String × Json) × Bool
  | 0, seen, _ => (seen.reverse, false)
  | fuel + 1, seen, cs =>
    match keyed fuel cs with
    | some ((some key, v), rest) =>
      match skipSpace rest with
      | ',' :: after => memberRun fuel ((key, v) :: seen) after
      | '\x7d' :: after => (((key, v) :: seen).reverse, skipSpace after == [])
      | _ => (((key, v) :: seen).reverse, false)
    | _ => (seen.reverse, false)

/-- Reads elements until one cannot be read or the array ends; the second component says whether
the array ended and only white space follows. -/
def elementRun : Nat → List Json → List Char → List Json × Bool
  | 0, seen, _ => (seen.reverse, false)
  | fuel + 1, seen, cs =>
    match value fuel cs with
    | some (v, rest) =>
      match skipSpace rest with
      | ',' :: after => elementRun fuel (v :: seen) after
      | ']' :: after => ((v :: seen).reverse, skipSpace after == [])
      | _ => ((v :: seen).reverse, false)
    | none => (seen.reverse, false)

/-- The elements of an array under the known keys in order, and whether there are no more of them
than keys. -/
def underKeys (known : List String) : List Json × Bool → List (String × Json) × Bool
  | (elements, isWhole) => (known.zip elements, isWhole && elements.length ≤ known.length)

/-- The members that can be read from the front of a text that should be an object, or an array of
the values for the known keys in order, and whether the whole text is one. -/
def recordPrefix (known : List String) (text : String) : List (String × Json) × Bool :=
  let cs := text.toList
  match skipSpace cs with
  | '\x7b' :: rest =>
    match skipSpace rest with
    | '\x7d' :: after => ([], skipSpace after == [])
    | _ => memberRun (fuelFor cs) [] rest
  | '[' :: rest =>
    match skipSpace rest with
    | ']' :: after => ([], skipSpace after == [])
    | _ => underKeys known (elementRun (fuelFor cs) [] rest)
  | _ => ([], false)

end KotlinMeta.Json
