import KotlinMeta.Flags.Derived

set_option autoImplicit false

/-! # Source modifiers

The modifiers that the flags of a declaration stand for, in the order in which source text writes
them: visibility first, then modalities, then the rest.
-/

namespace KotlinMeta

/-- A modifier. -/
inductive Modifier where
  | visibility (v : Visibility)
  | modality (m : Modality)
  | data | inline | inner | external | expect | override
  | operator | infixCall | tailrec | suspend
  | const | lateinit
  | vararg | crossinline | noinline
  deriving DecidableEq, Inhabited

namespace Modifier

def keyword : Modifier → String
  | .visibility v => v.keyword
  | .modality m => m.keyword
  | .data => "data"
  | .inline => "inline"
  | .inner => "inner"
  | .external => "external"
  | .expect => "expect"
  | .override => "override"
  | .operator => "operator"
  | .infixCall => "infix"
  | .tailrec => "tailrec"
  | .suspend => "suspend"
  | .const => "const"
  | .lateinit => "lateinit"
  | .vararg => "vararg"
  | .crossinline => "crossinline"
  | .noinline => "noinline"

def toJson (m : Modifier) : Json := .str m.keyword

/-- A list of modifiers, each by its keyword. -/
def listJson (ms : List Modifier) : Json := .arr (ms.map toJson)

/-- The modifiers whose condition holds. -/
def chosen (candidates : List (Bool × Modifier)) : List Modifier :=
  candidates.filterMap fun (holds, m) => if holds then some m else none

end Modifier

namespace Flags

open Modifier (chosen)

/-- The modifiers of a class. -/
def classModifiers (f : Flags) : List Modifier :=
  .visibility f.visibility :: f.modalities.map .modality ++
    chosen [(f.isDataClass, .data), (f.isExternalClass, .external), (f.isInlineClass, .inline),
      (f.isInnerClass, .inner), (f.isExpectClass, .expect)]

/-- The modifiers of a function. -/
def functionModifiers (f : Flags) : List Modifier :=
  .visibility f.visibility :: f.modalities.map .modality ++
    chosen [(f.isFakeOverrideFunction, .override), (f.isOperatorFunction, .operator),
      (f.isInfixFunction, .infixCall), (f.isInlineFunction, .inline),
      (f.isTailrecFunction, .tailrec), (f.isExternalFunction, .external),
      (f.isExpectFunction, .expect), (f.isSuspendFunction, .suspend)]

/-- The modalities of a member of a property: `final` is worth a word only where it closes an
override. -/
def memberModalities (f : Flags) (isOverride : Bool) : List Modality :=
  f.declaredModalities.filter fun m => m ≠ .final || isOverride

/-- The modifiers of a property. -/
def propertyModifiers (f : Flags) : List Modifier :=
  .visibility f.visibility ::
    (f.memberModalities f.isFakeOverrideProperty).map .modality ++
    chosen [(f.isFakeOverrideProperty, .override), (f.isConstProperty, .const),
      (f.isExpectProperty, .expect), (f.isExternalProperty, .external),
      (f.isLateinitProperty, .lateinit)]

/-- The modifiers of a getter or setter of a property with the flags `property`. A plain public
accessor has none, so that it can be left out. -/
def accessorModifiers (accessor property : Flags) : List Modifier :=
  let rest :=
    (accessor.memberModalities property.isFakeOverrideProperty).map .modality ++
      chosen [(accessor.isExternalAccessor, .external), (accessor.isInlineAccessor, .inline)]
  if accessor.visibility = .publicAccess ∧ rest = [] then []
  else .visibility accessor.visibility :: rest

/-- The modifiers of a value parameter. -/
def parameterModifiers (f : Flags) (isVararg : Bool) : List Modifier :=
  chosen [(isVararg, .vararg), (f.isCrossinline, .crossinline), (f.isNoinline, .noinline)]

end Flags

end KotlinMeta
