import KotlinMeta.Json.Basic

set_option autoImplicit false

/-! # Families of failures

Every failure of an element belongs to one of four families, which say who can mend it.
-/

namespace KotlinMeta

/-- A family of failures. -/
inductive FailureKind where
  /-- The metadata break their own rules. -/
  | malformedInput
  /-- The metadata are in order but say something that has no counterpart here. -/
  | unsupportedConstruct
  /-- The class cannot have what is to be generated for it. -/
  | preconditionViolation
  /-- The element carries no metadata at all. -/
  | gate
  deriving DecidableEq, Inhabited

namespace FailureKind

/-- The name in messages. -/
def label : FailureKind → String
  | .malformedInput => "malformed-input"
  | .unsupportedConstruct => "unsupported-construct"
  | .preconditionViolation => "precondition-violation"
  | .gate => "gate"

/-- The name in JSON. -/
def word : FailureKind → String
  | .malformedInput => "malformedInput"
  | .unsupportedConstruct => "unsupportedConstruct"
  | .preconditionViolation => "preconditionViolation"
  | .gate => "gate"

def toJson (k : FailureKind) : Json := .str k.word

end FailureKind

end KotlinMeta
