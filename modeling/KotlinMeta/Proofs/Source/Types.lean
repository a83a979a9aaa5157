import KotlinMeta.Source.Basic

/-! # The types in generated source

`File.types` collects every type that is written anywhere in a file, and `File.Mentions` the type
variables that can be reached from them.
-/

set_option autoImplicit false

namespace KotlinMeta.Source

mutual

/-- The types in an expression. -/
def Expr.types : Expr → List TypeExpr
  | .name _ | .self | .it | .string _ => []
  | .array elements => Expr.listTypes elements
  | .member receiver _ => receiver.types
  | .call receiver _ arguments lambda =>
    Expr.optionTypes receiver ++ Argument.listTypes arguments ++ Lambda.optionTypes lambda
  | .construct type arguments => type :: Argument.listTypes arguments

def Expr.listTypes : List Expr → List TypeExpr
  | [] => []
  | e :: rest => e.types ++ Expr.listTypes rest

def Expr.optionTypes : Option Expr → List TypeExpr
  | none => []
  | some e => e.types

def Argument.listTypes : List Argument → List TypeExpr
  | [] => []
  | ⟨_, value⟩ :: rest => value.types ++ Argument.listTypes rest

def Lambda.optionTypes : Option Lambda → List TypeExpr
  | none => []
  | some ⟨body⟩ => Statement.listTypes body

def Statement.listTypes : List Statement → List TypeExpr
  | [] => []
  | .expr e :: rest | .return e :: rest => e.types ++ Statement.listTypes rest

end

def AnnotationUse.types (a : AnnotationUse) : List TypeExpr := a.members.flatMap (·.value.types)

def PropertyDef.types (p : PropertyDef) : List TypeExpr := p.type :: Expr.optionTypes p.initializer

def FunctionDef.types (f : FunctionDef) : List TypeExpr :=
  f.annotations.flatMap AnnotationUse.types ++ f.receiver.toList ++ f.parameters.map (·.type) ++
    f.returnType.toList ++ Statement.listTypes f.body

def ClassDef.types (c : ClassDef) : List TypeExpr :=
  c.annotations.flatMap AnnotationUse.types ++ c.primaryConstructor.toList.flatMap
    FunctionDef.types ++ c.properties.flatMap PropertyDef.types ++
    c.functions.flatMap FunctionDef.types

/-- Every type in a file, those in the bodies of functions included. -/
def File.types (f : File) : List TypeExpr := f.builder.types ++ f.extension.types

/-- A type variable that a file declares or refers to, if only in the bound of another. -/
inductive File.Mentions (f : File) : TypeVar → Prop where
  | builder {v : TypeVar} : v ∈ f.builder.typeVariables → f.Mentions v
  | extension {v : TypeVar} : v ∈ f.extension.typeVariables → f.Mentions v
  | type {u : TypeExpr} {v : TypeVar} : u ∈ f.types → v ∈ u.variables → f.Mentions v
  | bound {v w : TypeVar} {u : TypeExpr} :
      f.Mentions w → u ∈ w.upperBounds → v ∈ u.variables → f.Mentions v

end KotlinMeta.Source
