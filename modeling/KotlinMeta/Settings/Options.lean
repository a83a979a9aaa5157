import KotlinMeta.Settings.Basic

set_option autoImplicit false

/-! # Settings from options

A map of options with keys of the form `kmir.…`. Options with other keys are meant for other tools
and are passed over. Options are applied in order up to the first that is at fault.
-/

namespace KotlinMeta.Settings

/-- Pairs as a map: of several values for a key the last one counts, in the place of the first. -/
def optionMap (pairs : List (String × String)) : List (String × String) :=
  pairs.foldl (fun map (key, value) =>
    if map.any (·.1 == key) then map.map fun e => if e.1 == key then (key, value) else e
    else map ++ [(key, value)]) []

/-- What the keys of all options of this tool start with. -/
def optionStart : String := "kmir."

/-- The value of an option that is true or false. -/
def optionTruth (key value : String) : Except SettingsError Bool :=
  match truthOf value with
  | some b => .ok b
  | none => .error (.badTruth key value)

/-- The settings after one option. -/
def applyOption (s : Settings) (key value : String) : Except SettingsError Settings :=
  if key = "kmir.generated" then
    match GeneratedMark.ofName value with
    | .ok g => .ok { s with generated := some g }
    | .error cause => .error (.badMark cause)
  else if key = "kmir.preferTypeAliases" then do
    return { s with keepAliases := ← optionTruth key value }
  else if key = "kmir.parallel" then do
    return { s with parallel := ← optionTruth key value }
  else if optionStart.toList.isPrefixOf key.toList then .error (.unknownOption key)
  else .ok s

/-- The settings after a map of options; options before one that is at fault stay applied. -/
def applyOptions (s : Settings) : List (String × String) → Settings × Option SettingsError
  | [] => (s, none)
  | (key, value) :: rest =>
    match s.applyOption key value with
    | .ok s => applyOptions s rest
    | .error e => (s, some e)

/-- The settings that a map of options gives. -/
def ofOptions (options : List (String × String)) : Except SettingsError Settings :=
  match default.applyOptions options with
  | (s, none) => .ok s
  | (_, some e) => .error e

end KotlinMeta.Settings
