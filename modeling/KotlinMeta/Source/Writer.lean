import KotlinMeta.Source.Basic
import KotlinMeta.TypeExpr.Writer

set_option autoImplicit false

/-! # JSON form of generated source

The key `kind` tells the shapes of expressions apart; a statement is its kind and its expression.
-/

namespace KotlinMeta.Source

mutual

def Expr.toJson : Expr → Json
  | .name name => .obj [("kind", .str "name"), ("name", .str name)]
  | .self => .obj [("kind", .str "this")]
  | .it => .obj [("kind", .str "it")]
  | .string value => .obj [("kind", .str "stringLiteral"), ("value", .str value)]
  | .array elements =>
    .obj [("kind", .str "arrayLiteral"), ("elements", .arr (Expr.jsons elements))]
  | .member receiver name =>
    .obj [("kind", .str "member"), ("receiver", receiver.toJson), ("name", .str name)]
  | .call receiver function arguments trailingLambda =>
    .obj
      [("kind", .str "call"), ("receiver", Expr.optionJson receiver), ("function", .str function),
       ("arguments", .arr (Argument.jsons arguments)),
       ("trailingLambda", Lambda.optionJson trailingLambda)]
  | .construct type arguments =>
    .obj
      [("kind", .str "construct"), ("type", type.toJson),
       ("arguments", .arr (Argument.jsons arguments))]

def Expr.jsons : List Expr → List Json
  | [] => []
  | e :: rest => e.toJson :: Expr.jsons rest

def Expr.optionJson : Option Expr → Json
  | none => .null
  | some e => e.toJson

def Argument.jsons : List Argument → List Json
  | [] => []
  | ⟨name, value⟩ :: rest =>
    .obj [("name", .strOrNull name), ("value", value.toJson)] :: Argument.jsons rest

def Lambda.optionJson : Option Lambda → Json
  | none => .null
  | some ⟨body⟩ => .obj [("body", .arr (Statement.jsons body))]

def Statement.jsons : List Statement → List Json
  | [] => []
  | s :: rest => s.toJson :: Statement.jsons rest

def Statement.toJson : Statement → Json
  | .expr e => .obj [("kind", .str "expr"), ("expr", e.toJson)]
  | .return e => .obj [("kind", .str "return"), ("expr", e.toJson)]

end

def AnnotationUse.toJson (a : AnnotationUse) : Json :=
  .obj
    [("type", a.type.toJson),
     ("members", .arr (a.members.map fun m =>
       .obj [("name", .str m.name), ("value", m.value.toJson)]))]

def ParameterDef.toJson (p : ParameterDef) : Json :=
  .obj
    [("name", .str p.name), ("type", p.type.toJson), ("modifiers", Modifier.listJson p.modifiers)]

def PropertyDef.toJson (p : PropertyDef) : Json :=
  .obj
    [("name", .str p.name), ("type", p.type.toJson), ("mutable", .bool p.mutable),
     ("modifiers", Modifier.listJson p.modifiers),
     ("initializer", Json.orNull Expr.toJson p.initializer)]

def FunctionDef.toJson (f : FunctionDef) : Json :=
  .obj
    [("name", .str f.name), ("modifiers", Modifier.listJson f.modifiers),
     ("annotations", .arr (f.annotations.map AnnotationUse.toJson)),
     ("typeVariables", .arr (f.typeVariables.map TypeVar.toJson)),
     ("receiver", Json.orNull TypeExpr.toJson f.receiver),
     ("parameters", .arr (f.parameters.map ParameterDef.toJson)),
     ("returnType", Json.orNull TypeExpr.toJson f.returnType),
     ("body", .arr (f.body.map Statement.toJson))]

def ClassDef.toJson (c : ClassDef) : Json :=
  .obj
    [("name", c.name.toJson), ("modifiers", Modifier.listJson c.modifiers),
     ("annotations", .arr (c.annotations.map AnnotationUse.toJson)),
     ("typeVariables", .arr (c.typeVariables.map TypeVar.toJson)),
     ("primaryConstructor", Json.orNull FunctionDef.toJson c.primaryConstructor),
     ("properties", .arr (c.properties.map PropertyDef.toJson)),
     ("functions", .arr (c.functions.map FunctionDef.toJson))]

def File.toJson (f : File) : Json :=
  .obj
    [("packageName", .str f.packageName), ("fileName", .str f.fileName),
     ("comment", .str f.comment), ("builder", f.builder.toJson),
     ("extension", f.extension.toJson)]

end KotlinMeta.Source
