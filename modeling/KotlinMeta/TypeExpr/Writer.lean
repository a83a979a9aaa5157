import KotlinMeta.TypeExpr.Basic

set_option autoImplicit false

/-! # JSON form of types

The key `kind` tells the four shapes of a type apart. A type parameter is written out in full at
every reference; the place of its declaration is not written.
-/

namespace KotlinMeta

namespace Variance

def word : Variance → String
  | .contravariant => "in"
  | .covariant => "out"
  | .invariant => "invariant"
  | .star => "star"

def toJson (v : Variance) : Json := .str v.word

end Variance

namespace Direction

def word : Direction → String
  | .producer => "producer"
  | .consumer => "consumer"
  | .star => "star"

def toJson (d : Direction) : Json := .str d.word

end Direction

mutual

def TypeExpr.toJson : TypeExpr → Json
  | .named name arguments nullable =>
    .obj
      [("kind", .str "named"), ("name", name.toJson), ("arguments", .arr (TypeArg.jsons arguments)),
       ("nullable", .bool nullable)]
  | .var v nullable =>
    .obj [("kind", .str "typeVariable"), ("variable", v.toJson), ("nullable", .bool nullable)]
  | .function receiver parameters returnType isSuspend nullable =>
    .obj
      [("kind", .str "function"), ("receiver", TypeExpr.optionJson receiver),
       ("parameters", .arr (TypeExpr.jsons parameters)), ("returnType", returnType.toJson),
       ("isSuspend", .bool isSuspend), ("nullable", .bool nullable)]
  | .wildcard bound direction nullable =>
    .obj
      [("kind", .str "wildcard"), ("bound", TypeExpr.optionJson bound),
       ("direction", direction.toJson), ("nullable", .bool nullable)]

def TypeExpr.optionJson : Option TypeExpr → Json
  | none => .null
  | some t => t.toJson

def TypeExpr.jsons : List TypeExpr → List Json
  | [] => []
  | t :: rest => t.toJson :: TypeExpr.jsons rest

def TypeArg.jsons : List TypeArg → List Json
  | [] => []
  | ⟨variance, t⟩ :: rest =>
    .obj [("variance", variance.toJson), ("type", TypeExpr.optionJson t)] :: TypeArg.jsons rest

def TypeVar.toJson : TypeVar → Json
  | ⟨_, name, id, variance, upperBounds, reified⟩ =>
    .obj
      [("name", .str name), ("id", .word id), ("variance", Json.orNull Variance.toJson variance),
       ("upperBounds", .arr (TypeExpr.jsons upperBounds)), ("reified", .bool reified)]

end

end KotlinMeta
