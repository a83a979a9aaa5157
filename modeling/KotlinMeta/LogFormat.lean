import KotlinMeta.Text.Blank

set_option autoImplicit false

/-! # Log formats

How log lines are laid out; any word that is not the name of a format stands for plain text.
-/

namespace KotlinMeta

inductive LogFormat where
  | text
  | tree
  | json
  deriving DecidableEq, Inhabited

namespace LogFormat

/-- The format that a word stands for; case and white space around it do not count. -/
def ofWord (word : String) : LogFormat :=
  let w := Text.normalWord word
  if w = "tree" then .tree else if w = "json" then .json else .text

def name : LogFormat → String
  | .text => "text"
  | .tree => "tree"
  | .json => "json"

end LogFormat

end KotlinMeta
