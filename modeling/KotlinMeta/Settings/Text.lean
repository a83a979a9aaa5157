import KotlinMeta.Json.Text
import KotlinMeta.Settings.Basic

set_option autoImplicit false

/-! # Settings from JSON

An object with the settings as members, each of them at most once; other members are passed over.
An array of their values in order does as well. The members are taken in the order of the text, and
the first that is at fault decides what is reported, also if the text breaks off behind it.
-/

namespace KotlinMeta.Settings

def keys : List String := ["generated", "preferTypeAliases", "parallel"]

/-- The settings that have been met so far. -/
structure Draft where
  generated : Option (Option GeneratedMark)
  keepAliases : Option Bool
  parallel : Option Bool

/-- A setting whose value is `true`, `false` or a word for one of them. -/
def readTruth : Json → Except (Option ValueFault) Bool
  | .bool b => .ok b
  | .str word =>
    match truthOf word with
    | some b => .ok b
    | none => .error (some (.notTruth word))
  | _ => .error none

/-- A setting whose value is the name of an annotation or `null`. -/
def readMark : Json → Except (Option ValueFault) (Option GeneratedMark)
  | .null => .ok none
  | .str name =>
    match GeneratedMark.ofName name with
    | .ok g => .ok (some g)
    | .error cause => .error (some (.mark cause))
  | _ => .error none

/-- A member taken into account. The failure is `none` if no value is to blame. -/
def Draft.take (d : Draft) : String × Json → Except (Option ValueFault) Draft
  | ("generated", j) =>
    if d.generated.isSome then .error none
    else do return { d with generated := some (← readMark j) }
  | ("preferTypeAliases", j) =>
    if d.keepAliases.isSome then .error none
    else do return { d with keepAliases := some (← readTruth j) }
  | ("parallel", j) =>
    if d.parallel.isSome then .error none
    else do return { d with parallel := some (← readTruth j) }
  | _ => .ok d

/-- The settings, with defaults for those that were not met. -/
def Draft.settings (d : Draft) : Settings :=
  ⟨d.generated.getD none, d.keepAliases.getD false, d.parallel.getD false⟩

/-- The settings that members give. -/
def ofMembers (members : List (String × Json)) : Except (Option ValueFault) Settings :=
  (members.foldlM Draft.take ⟨none, none, none⟩).map Draft.settings

/-- The settings that a JSON value gives. -/
def read : Json → Option Settings
  | .obj members => (ofMembers members).toOption
  | .arr elements =>
    if elements.length ≤ keys.length then (ofMembers (keys.zip elements)).toOption else none
  | _ => none

/-- The settings that a text gives. -/
def parse (text : String) : Except SettingsError Settings :=
  match Json.recordPrefix keys text with
  | (members, isWhole) =>
    match ofMembers members with
    | .error fault => .error (.badText fault)
    | .ok s => if isWhole then .ok s else .error (.badText none)

/-- The settings that a file gives, whose bytes are absent if there is no such file. -/
def ofFile (path : String) (bytes : Option ByteArray) : Except SettingsError Settings :=
  match bytes.bind String.fromUTF8? with
  | none => .error (.unreadableFile path)
  | some text =>
    match parse text with
    | .error (.badText fault) => .error (.badFile path fault)
    | result => result

end KotlinMeta.Settings
