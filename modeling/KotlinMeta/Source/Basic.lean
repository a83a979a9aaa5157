import KotlinMeta.Modifier
import KotlinMeta.TypeExpr.Basic

set_option autoImplicit false

/-! # Generated source

Generated declarations are trees, not text. Expressions cover what the generated members need:
names, member access, calls with named arguments and a trailing lambda, and construction.
-/

namespace KotlinMeta.Source

/-! ## Expressions -/

mutual

/-- An expression. -/
inductive Expr where
  | name (name : String)
  | self
  /-- The parameter of a lambda that names none. -/
  | it
  | string (value : String)
  | array (elements : List Expr)
  | member (receiver : Expr) (name : String)
  | call (receiver : Option Expr) (function : String) (arguments : List Argument)
      (trailingLambda : Option Lambda)
  | construct (type : TypeExpr) (arguments : List Argument)

/-- An argument of a call, by position or by name. -/
structure Argument where
  name : Option String
  value : Expr

/-- A lambda whose parameter has no name. -/
structure Lambda where
  body : List Statement

inductive Statement where
  | expr (expr : Expr)
  | return (expr : Expr)

end

namespace Expr

/-- A call on a receiver. -/
def callOn (receiver : Expr) (function : String) (arguments : List Argument) : Expr :=
  .call (some receiver) function arguments none

/-- A call on a receiver with a lambda as its only argument. -/
def callWithLambda (receiver : Expr) (function : String) (lambda : Lambda) : Expr :=
  .call (some receiver) function [] (some lambda)

/-- A call without receiver. -/
def invoke (function : String) (arguments : List Argument) : Expr :=
  .call none function arguments none

end Expr

def Argument.positional (value : Expr) : Argument := ⟨none, value⟩

def Argument.named (name : String) (value : Expr) : Argument := ⟨some name, value⟩

/-! ## Declarations -/

/-- A member of an annotation with its value. -/
structure AnnotationMember where
  name : String
  value : Expr

/-- An annotation on a generated declaration. -/
structure AnnotationUse where
  type : ClassName
  members : List AnnotationMember

structure ParameterDef where
  name : String
  type : TypeExpr
  modifiers : List Modifier

structure PropertyDef where
  name : String
  type : TypeExpr
  mutable : Bool
  modifiers : List Modifier
  initializer : Option Expr

structure FunctionDef where
  name : String
  modifiers : List Modifier
  annotations : List AnnotationUse
  typeVariables : List TypeVar
  receiver : Option TypeExpr
  parameters : List ParameterDef
  /-- Absent for a function that returns nothing. -/
  returnType : Option TypeExpr
  body : List Statement

namespace FunctionDef

/-- A function of which nothing but the name is given. -/
def of (name : String) : FunctionDef :=
  { name, modifiers := [], annotations := [], typeVariables := [], receiver := none
    parameters := [], returnType := none, body := [] }

/-- The name of every constructor. -/
def constructorName : String := "constructor"

def isConstructor (f : FunctionDef) : Bool := f.name == constructorName

/-- The first parameter with this name. -/
def parameter? (f : FunctionDef) (name : String) : Option ParameterDef :=
  f.parameters.find? (·.name == name)

end FunctionDef

structure ClassDef where
  name : ClassName
  modifiers : List Modifier
  annotations : List AnnotationUse
  typeVariables : List TypeVar
  primaryConstructor : Option FunctionDef
  properties : List PropertyDef
  functions : List FunctionDef

namespace ClassDef

/-- The first property with this name. -/
def property? (c : ClassDef) (name : String) : Option PropertyDef :=
  c.properties.find? (·.name == name)

/-- The first function with this name. -/
def function? (c : ClassDef) (name : String) : Option FunctionDef :=
  c.functions.find? (·.name == name)

end ClassDef

/-- A generated file: a builder and the function that starts it. -/
structure File where
  packageName : String
  fileName : String
  comment : String
  builder : ClassDef
  extension : FunctionDef

end KotlinMeta.Source
