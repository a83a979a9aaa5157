import KotlinMeta.CopyBuilder.Generated
import KotlinMeta.Decoding.Class
import KotlinMeta.Text.Blank

set_option autoImplicit false

/-! # Settings

What a run can be told: the annotation to put on generated declarations, whether types keep the
aliases they were written with, and whether elements may be treated in parallel. Settings come
from a JSON text (`Settings.Text`) or from a map of options (`Settings.Options`).
-/

namespace KotlinMeta

structure Settings where
  generated : Option GeneratedMark
  keepAliases : Bool
  /-- Elements may be treated in parallel; the results are the same. -/
  parallel : Bool
  deriving DecidableEq

namespace Settings

/-- Nothing is asked for. -/
def default : Settings := ⟨none, false, false⟩

def decodeOptions (s : Settings) : DecodeOptions := ⟨s.keepAliases⟩

def synthesisOptions (s : Settings) : SynthesisOptions := ⟨s.generated⟩

def toJson (s : Settings) : Json :=
  .obj
    [("generated", Json.orNull GeneratedMark.toJson s.generated),
     ("preferTypeAliases", .bool s.keepAliases), ("parallel", .bool s.parallel)]

/-- The truth value that a word stands for; case and white space around it do not count. -/
def truthOf (word : String) : Option Bool :=
  let w := Text.normalWord word
  if ["true", "1", "yes", "on"].contains w then some true
  else if ["false", "0", "no", "off"].contains w then some false
  else none

end Settings

/-! ## Failures -/

/-- What is wrong with the value of a setting in a JSON text. -/
inductive ValueFault where
  | notTruth (word : String)
  | mark (cause : SynthesisError)
  deriving DecidableEq

/-- Why settings cannot be had. -/
inductive SettingsError where
  /-- The file cannot be read as text. -/
  | unreadableFile (path : String)
  /-- The text gives no settings; the fault of a value is named if that is the reason. -/
  | badText (fault : Option ValueFault)
  /-- As `badText`, for the text of a file. -/
  | badFile (path : String) (fault : Option ValueFault)
  /-- The option for the annotation has a value that is none. -/
  | badMark (cause : SynthesisError)
  /-- An option that is true or false has a value that is neither. -/
  | badTruth (key value : String)
  | unknownOption (key : String)
  deriving DecidableEq

def ValueFault.message : ValueFault → String
  | .notTruth word =>
    String.join ["invalid boolean value: '", word, "'. Expected true, false, 'true', or 'false'"]
  | .mark cause => cause.message

/-- What is said of a text that gives no settings. -/
def badTextChain (fault : Option ValueFault) : List String :=
  "failed to parse kmir config JSON" :: fault.toList.map ValueFault.message

/-- The messages from the outermost to the innermost; what the operating system or the JSON grammar
says for itself is left out. -/
def SettingsError.chain : SettingsError → List String
  | .unreadableFile path => [String.join ["failed to read kmir config: ", path]]
  | .badText fault => badTextChain fault
  | .badFile path fault =>
    String.join ["failed to parse kmir config: ", path] :: badTextChain fault
  | .badMark cause => ["invalid value for kmir.generated", cause.message]
  | .badTruth key value =>
    [String.join ["invalid boolean value for ", key, ": '", value, "'"]]
  | .unknownOption key => [String.join ["unknown kmir option `", key, "`"]]

end KotlinMeta
