import KotlinMeta.ClassName

set_option autoImplicit false

/-! # Type expressions

The types of decoded declarations. Nullability stands at every level, so that `List<String?>?` has
it twice. A reference to a type parameter holds the whole declaration of the parameter, bounds
included.

Two declarations may look alike and still be different parameters. Every declaration therefore has
a `VarKey`, the place where it was declared, and `TypeExpr.sameVariable` compares keys. `alike`
compares everything but the keys.
-/

namespace KotlinMeta

/-! ## Type parameters by place -/

/-- The identity of a type parameter. -/
inductive VarKey where
  /-- The parameter at a position in a scope. Scopes form a tree, and the path tells which child
  to take on the way to the root, nearest first. -/
  | declared (path : List Nat) (position : Nat)
  /-- The counterpart of a parameter in a generated declaration. -/
  | copyOf (declaration : VarKey)
  deriving DecidableEq, Inhabited

/-! ## Types -/

/-- The variance of a type argument or a type parameter. -/
inductive Variance where
  | contravariant
  | covariant
  | invariant
  | star
  deriving DecidableEq, Inhabited

/-- Which way a wildcard is open. -/
inductive Direction where
  /-- `out T`, also for a type of unknown nullability. -/
  | producer
  /-- `in T`, also for the type around an inner class. -/
  | consumer
  | star
  deriving DecidableEq, Inhabited

mutual

/-- A type. -/
inductive TypeExpr where
  /-- A class, an interface or a type alias with its arguments. -/
  | named (name : ClassName) (arguments : List TypeArg) (nullable : Bool)
  /-- A reference to a type parameter. -/
  | var (target : TypeVar) (nullable : Bool)
  /-- `suspend R.(A, B) -> C` -/
  | function (receiver : Option TypeExpr) (parameters : List TypeExpr) (returnType : TypeExpr)
      (isSuspend nullable : Bool)
  | wildcard (bound : Option TypeExpr) (direction : Direction) (nullable : Bool)

/-- An argument of a named type. -/
structure TypeArg where
  variance : Variance
  /-- Absent for a star. -/
  type : Option TypeExpr

/-- A declared type parameter. -/
structure TypeVar where
  key : VarKey
  name : String
  /-- Unique within the declaration that introduces the parameter. -/
  id : UInt32
  /-- Only `in` is ever stored: `out` is implied at a declaration, and so is invariance. -/
  variance : Option Variance
  upperBounds : List TypeExpr
  reified : Bool

end

/-- A type parameter without variance and bounds. -/
def TypeVar.plain (key : VarKey) (name : String) (id : UInt32) : TypeVar :=
  { key, name, id, variance := none, upperBounds := [], reified := false }

namespace TypeArg

def invariant (type : TypeExpr) : TypeArg := ⟨.invariant, some type⟩

def covariant (type : TypeExpr) : TypeArg := ⟨.covariant, some type⟩

def contravariant (type : TypeExpr) : TypeArg := ⟨.contravariant, some type⟩

def star : TypeArg := ⟨.star, none⟩

def isStar (a : TypeArg) : Bool := a.variance == .star

end TypeArg

namespace TypeExpr

/-! ## Construction -/

def ofClass (name : ClassName) : TypeExpr := .named name [] false

def ofVar (v : TypeVar) : TypeExpr := .var v false

def producerOf (bound : TypeExpr) : TypeExpr := .wildcard (some bound) .producer false

def consumerOf (bound : TypeExpr) : TypeExpr := .wildcard (some bound) .consumer false

def star : TypeExpr := .wildcard none .star false

def any : TypeExpr := ofClass .any

def unit : TypeExpr := ofClass .unit

/-! ## Parts -/

def isNullable : TypeExpr → Bool
  | .named _ _ nullable | .var _ nullable | .function _ _ _ _ nullable
  | .wildcard _ _ nullable => nullable

/-- The type with its outermost nullability replaced. -/
def withNullable (value : Bool) : TypeExpr → TypeExpr
  | .named name arguments _ => .named name arguments value
  | .var v _ => .var v value
  | .function receiver parameters returnType isSuspend _ =>
    .function receiver parameters returnType isSuspend value
  | .wildcard bound direction _ => .wildcard bound direction value

/-- A function type with its suspend mark replaced; any other type as it is. -/
def withSuspend (value : Bool) : TypeExpr → TypeExpr
  | .function receiver parameters returnType _ nullable =>
    .function receiver parameters returnType value nullable
  | t => t

/-- The type is `kotlin.Any`, neither nullable nor applied to arguments. -/
def isAny : TypeExpr → Bool
  | .named name [] false => name.isAny
  | _ => false

def className? : TypeExpr → Option ClassName
  | .named name _ _ => some name
  | _ => none

def arguments : TypeExpr → List TypeArg
  | .named _ arguments _ => arguments
  | _ => []

def asVar? : TypeExpr → Option TypeVar
  | .var v _ => some v
  | _ => none

/-- Both refer to the same declaration of a type parameter. -/
def sameVariable (a b : TypeExpr) : Bool :=
  match a.asVar?, b.asVar? with
  | some v, some w => v.key == w.key
  | _, _ => false

end TypeExpr

/-- The argument as a type of its own, a projection turned into a wildcard. -/
def TypeArg.toType : TypeArg → TypeExpr
  | ⟨.invariant, some t⟩ => t
  | ⟨.covariant, some t⟩ => .producerOf t
  | ⟨.contravariant, some t⟩ => .consumerOf t
  | _ => .star

/-! ## Variables of a type -/

mutual

/-- The type parameters that a type refers to, from left to right and once for each reference. The
bounds of parameters are part of the parameter and are not visited. -/
def TypeExpr.variables : TypeExpr → List TypeVar
  | .named _ arguments _ => TypeArg.listVariables arguments
  | .var v _ => [v]
  | .function receiver parameters returnType _ _ =>
    TypeExpr.optionVariables receiver ++ TypeExpr.listVariables parameters ++ returnType.variables
  | .wildcard bound _ _ => TypeExpr.optionVariables bound

def TypeExpr.optionVariables : Option TypeExpr → List TypeVar
  | none => []
  | some t => t.variables

def TypeExpr.listVariables : List TypeExpr → List TypeVar
  | [] => []
  | t :: rest => t.variables ++ TypeExpr.listVariables rest

def TypeArg.listVariables : List TypeArg → List TypeVar
  | [] => []
  | ⟨_, t⟩ :: rest => TypeExpr.optionVariables t ++ TypeArg.listVariables rest

end

/-! ## Replacing variables -/

mutual

/-- The type with every type parameter it refers to replaced by its image under `f`. As in
`TypeExpr.variables`, the bounds of parameters are not visited. -/
def TypeExpr.mapVariables (f : TypeVar → TypeVar) : TypeExpr → TypeExpr
  | .named name arguments nullable => .named name (TypeArg.mapList f arguments) nullable
  | .var v nullable => .var (f v) nullable
  | .function receiver parameters returnType isSuspend nullable =>
    .function (TypeExpr.mapOption f receiver) (TypeExpr.mapList f parameters)
      (returnType.mapVariables f) isSuspend nullable
  | .wildcard bound direction nullable => .wildcard (TypeExpr.mapOption f bound) direction nullable

def TypeExpr.mapOption (f : TypeVar → TypeVar) : Option TypeExpr → Option TypeExpr
  | none => none
  | some t => some (t.mapVariables f)

def TypeExpr.mapList (f : TypeVar → TypeVar) : List TypeExpr → List TypeExpr
  | [] => []
  | t :: rest => t.mapVariables f :: TypeExpr.mapList f rest

def TypeArg.mapList (f : TypeVar → TypeVar) : List TypeArg → List TypeArg
  | [] => []
  | ⟨variance, t⟩ :: rest => ⟨variance, TypeExpr.mapOption f t⟩ :: TypeArg.mapList f rest

end

/-! ## Comparison without keys -/

mutual

/-- The same type but for the places where its type parameters are declared. -/
def TypeExpr.alike : TypeExpr → TypeExpr → Bool
  | .named name arguments nullable, .named name' arguments' nullable' =>
    name == name' && TypeArg.listAlike arguments arguments' && nullable == nullable'
  | .var v nullable, .var v' nullable' => v.alike v' && nullable == nullable'
  | .function receiver parameters returnType isSuspend nullable,
      .function receiver' parameters' returnType' isSuspend' nullable' =>
    TypeExpr.optionAlike receiver receiver' && TypeExpr.listAlike parameters parameters' &&
      returnType.alike returnType' && isSuspend == isSuspend' && nullable == nullable'
  | .wildcard bound direction nullable, .wildcard bound' direction' nullable' =>
    TypeExpr.optionAlike bound bound' && direction == direction' && nullable == nullable'
  | _, _ => false

def TypeExpr.optionAlike : Option TypeExpr → Option TypeExpr → Bool
  | none, none => true
  | some t, some t' => t.alike t'
  | _, _ => false

def TypeExpr.listAlike : List TypeExpr → List TypeExpr → Bool
  | [], [] => true
  | t :: rest, t' :: rest' => t.alike t' && TypeExpr.listAlike rest rest'
  | _, _ => false

def TypeArg.listAlike : List TypeArg → List TypeArg → Bool
  | [], [] => true
  | ⟨variance, t⟩ :: rest, ⟨variance', t'⟩ :: rest' =>
    variance == variance' && TypeExpr.optionAlike t t' && TypeArg.listAlike rest rest'
  | _, _ => false

def TypeVar.alike : TypeVar → TypeVar → Bool
  | ⟨_, name, id, variance, upperBounds, reified⟩,
      ⟨_, name', id', variance', upperBounds', reified'⟩ =>
    name == name' && id == id' && variance == variance' &&
      TypeExpr.listAlike upperBounds upperBounds' && reified == reified'

end

end KotlinMeta
