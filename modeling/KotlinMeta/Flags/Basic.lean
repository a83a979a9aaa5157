import KotlinMeta.Json.Reader

set_option autoImplicit false

/-! # The flag word

Every node of the metadata carries one word of 32 bits. The bits below `Flags.ownBit 0` mean the
same for all nodes; the bits from there on are numbered afresh for each kind of node. No word is
malformed: every question below has an answer for every word.
-/

namespace KotlinMeta

/-- A flag word. -/
structure Flags where
  bits : UInt32
  deriving DecidableEq, Inhabited

namespace Flags

/-- The word without any flag. -/
def none : Flags := ⟨0⟩

/-- The bit with this number is set. -/
def bit (f : Flags) (n : Nat) : Bool := f.bits.toNat.testBit n

/-- The bit that a kind of node numbers `n` is set: such bits start after the eleven common ones. -/
def ownBit (f : Flags) (n : Nat) : Bool := f.bit (11 + n)

/-- The word with one more of the bits that a kind of node numbers for itself. -/
def withOwnBit (f : Flags) (n : Nat) : Flags := ⟨f.bits ||| UInt32.ofNat (1 <<< (11 + n))⟩

/-- Every bit of `mask` is set. -/
def has (f mask : Flags) : Bool := f.bits &&& mask.bits == mask.bits

/-! ## Common bits -/

def hasAnnotations (f : Flags) : Bool := f.bit 0
def isInternal (f : Flags) : Bool := f.bit 1
def isPrivate (f : Flags) : Bool := f.bit 2
def isProtected (f : Flags) : Bool := f.bit 3
def isPublic (f : Flags) : Bool := f.bit 4
def isPrivateToThis (f : Flags) : Bool := f.bit 5
def isLocal (f : Flags) : Bool := f.bit 6
def isFinal (f : Flags) : Bool := f.bit 7
def isOpen (f : Flags) : Bool := f.bit 8
def isAbstract (f : Flags) : Bool := f.bit 9
def isSealed (f : Flags) : Bool := f.bit 10

/-! ## Types -/

def isNullableType (f : Flags) : Bool := f.ownBit 0
def isSuspendType (f : Flags) : Bool := f.ownBit 1

/-- The type is a function type written with a receiver. -/
def isExtensionFunctionType (f : Flags) : Bool := f.ownBit 2

/-! ## Classes -/

def isClass (f : Flags) : Bool := f.ownBit 0
def isInterface (f : Flags) : Bool := f.ownBit 1
def isEnumClass (f : Flags) : Bool := f.ownBit 2
def isEnumEntry (f : Flags) : Bool := f.ownBit 3
def isAnnotationClass (f : Flags) : Bool := f.ownBit 4
def isObject (f : Flags) : Bool := f.ownBit 5
def isCompanionObject (f : Flags) : Bool := f.ownBit 6
def isInnerClass (f : Flags) : Bool := f.ownBit 7
def isDataClass (f : Flags) : Bool := f.ownBit 8
def isExternalClass (f : Flags) : Bool := f.ownBit 9
def isExpectClass (f : Flags) : Bool := f.ownBit 10
def isInlineClass (f : Flags) : Bool := f.ownBit 11

/-! ## Constructors -/

def isPrimaryConstructor (f : Flags) : Bool := f.ownBit 0
def isSecondaryConstructor (f : Flags) : Bool := !f.isPrimaryConstructor

/-! ## Functions -/

def isDeclaredFunction (f : Flags) : Bool := f.ownBit 0
def isFakeOverrideFunction (f : Flags) : Bool := f.ownBit 1
def isDelegationFunction (f : Flags) : Bool := f.ownBit 2
def isSynthesizedFunction (f : Flags) : Bool := f.ownBit 3
def isOperatorFunction (f : Flags) : Bool := f.ownBit 4
def isInfixFunction (f : Flags) : Bool := f.ownBit 5
def isInlineFunction (f : Flags) : Bool := f.ownBit 6
def isTailrecFunction (f : Flags) : Bool := f.ownBit 7
def isExternalFunction (f : Flags) : Bool := f.ownBit 8
def isSuspendFunction (f : Flags) : Bool := f.ownBit 9
def isExpectFunction (f : Flags) : Bool := f.ownBit 10

/-! ## Properties -/

def isVar (f : Flags) : Bool := f.ownBit 0
def isVal (f : Flags) : Bool := !f.isVar
def hasGetter (f : Flags) : Bool := f.ownBit 1
def hasSetter (f : Flags) : Bool := f.ownBit 2
def isConstProperty (f : Flags) : Bool := f.ownBit 3
def isLateinitProperty (f : Flags) : Bool := f.ownBit 4
def hasConstant (f : Flags) : Bool := f.ownBit 5
def isExternalProperty (f : Flags) : Bool := f.ownBit 6
def isDelegatedProperty (f : Flags) : Bool := f.ownBit 7
def isExpectProperty (f : Flags) : Bool := f.ownBit 8
def isFakeOverrideProperty (f : Flags) : Bool := f.ownBit 10
def isSynthesizedProperty (f : Flags) : Bool := f.ownBit 12

/-! ## Getters and setters -/

def isCustomAccessor (f : Flags) : Bool := f.ownBit 0
def isExternalAccessor (f : Flags) : Bool := f.ownBit 1
def isInlineAccessor (f : Flags) : Bool := f.ownBit 2

/-! ## Value parameters -/

def declaresDefaultValue (f : Flags) : Bool := f.ownBit 0
def isCrossinline (f : Flags) : Bool := f.ownBit 1
def isNoinline (f : Flags) : Bool := f.ownBit 2

/-! ## Type parameters -/

def isReified (f : Flags) : Bool := f.ownBit 0

/-! ## JSON form -/

/-- A flag word is written as a bare number. -/
def toJson (f : Flags) : Json := Json.word f.bits

def read (j : Json) : Option Flags := (Json.readWord j).map Flags.mk

end Flags

end KotlinMeta
