import KotlinMeta.Flags.Basic

set_option autoImplicit false

/-! # What the flags of a declaration say

Visibility, modality and kind of class are not stored but derived from bits of the flag word.
Where several bits compete, a fixed order of precedence decides.
-/

namespace KotlinMeta

/-! ## Visibility -/

/-- Who may refer to a declaration. -/
inductive Visibility where
  | publicAccess
  | internalAccess
  | protectedAccess
  | privateAccess
  deriving DecidableEq, Inhabited

namespace Visibility

def keyword : Visibility → String
  | .publicAccess => "public"
  | .internalAccess => "internal"
  | .protectedAccess => "protected"
  | .privateAccess => "private"

def toJson (v : Visibility) : Json := .str v.keyword

def read : Json → Option Visibility :=
  Json.readName <| [publicAccess, internalAccess, protectedAccess, privateAccess].map
    fun v => (v.keyword, v)

end Visibility

/-- Internal comes before private, and private before protected; without any of these bits a
declaration is public. -/
def Flags.visibility (f : Flags) : Visibility :=
  if f.isInternal then .internalAccess
  else if f.isPrivate || f.isPrivateToThis then .privateAccess
  else if f.isProtected then .protectedAccess
  else .publicAccess

/-! ## Modality -/

/-- Whether a declaration may be overridden or inherited from. -/
inductive Modality where
  | final
  /-- Open to overriding and inheritance. -/
  | overridable
  | abstract
  | sealed
  deriving DecidableEq, Inhabited

namespace Modality

def keyword : Modality → String
  | .final => "final"
  | .overridable => "open"
  | .abstract => "abstract"
  | .sealed => "sealed"

def toJson (m : Modality) : Json := .str m.keyword

def read : Json → Option Modality :=
  Json.readName <| [final, overridable, abstract, sealed].map fun m => (m.keyword, m)

end Modality

/-- Every modality whose bit is set. -/
def Flags.declaredModalities (f : Flags) : List Modality :=
  [(f.isFinal, Modality.final), (f.isOpen, .overridable), (f.isAbstract, .abstract),
    (f.isSealed, .sealed)].filterMap fun (isSet, m) => if isSet then some m else Option.none

/-- The modalities that are worth a word: `final` alone is the default and is left out. -/
def Flags.modalities (f : Flags) : List Modality :=
  if f.declaredModalities = [.final] then [] else f.declaredModalities

/-! ## Kind of class -/

/-- What a class node declares. -/
inductive ClassKind where
  | plain
  | interface
  | enumClass
  | enumEntry
  | annotationClass
  | object
  | companionObject
  deriving DecidableEq, Inhabited

namespace ClassKind

def name : ClassKind → String
  | .plain => "class"
  | .interface => "interface"
  | .enumClass => "enumClass"
  | .enumEntry => "enumEntry"
  | .annotationClass => "annotationClass"
  | .object => "object"
  | .companionObject => "companionObject"

def toJson (k : ClassKind) : Json := .str k.name

def read : Json → Option ClassKind :=
  Json.readName <|
    [plain, interface, enumClass, enumEntry, annotationClass, object, companionObject].map
      fun k => (k.name, k)

end ClassKind

/-- The most specific bit decides; a class without any of them is a plain class. -/
def Flags.classKind (f : Flags) : ClassKind :=
  if f.isAnnotationClass then .annotationClass
  else if f.isCompanionObject then .companionObject
  else if f.isEnumEntry then .enumEntry
  else if f.isEnumClass then .enumClass
  else if f.isObject then .object
  else if f.isInterface then .interface
  else .plain

end KotlinMeta
