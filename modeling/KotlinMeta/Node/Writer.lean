import KotlinMeta.Node.Basic

set_option autoImplicit false

/-! # JSON form of nodes

Every field is written, an absent one as `null`. A classifier is an object whose only key says
which kind of classifier it is.
-/

namespace KotlinMeta

namespace NodeVariance

def word : NodeVariance → String
  | .invariant => "invariant"
  | .contravariant => "in"
  | .covariant => "out"

def toJson (v : NodeVariance) : Json := .str v.word

end NodeVariance

def Classifier.toJson : Classifier → Json
  | .classNamed name => .obj [("class", .str name)]
  | .typeParameter id => .obj [("typeParameter", .word id)]
  | .typeAlias name => .obj [("typeAlias", .str name)]

mutual

def TypeNode.toJson : TypeNode → Json
  | ⟨flags, classifier, arguments, abbreviated, expanded, outer, flexible⟩ =>
    .obj
      [("flags", flags.toJson), ("classifier", Json.orNull Classifier.toJson classifier),
       ("arguments", .arr (ProjectionNode.listJson arguments)),
       ("abbreviatedType", TypeNode.optionJson abbreviated),
       ("expandedType", TypeNode.optionJson expanded),
       ("outerType", TypeNode.optionJson outer),
       ("flexibleTypeUpperBound", FlexibleBoundNode.optionJson flexible)]

def TypeNode.optionJson : Option TypeNode → Json
  | none => .null
  | some t => t.toJson

def ProjectionNode.listJson : List ProjectionNode → List Json
  | [] => []
  | p :: rest => p.toJson :: ProjectionNode.listJson rest

def ProjectionNode.toJson : ProjectionNode → Json
  | ⟨variance, type⟩ =>
    .obj [("variance", Json.orNull NodeVariance.toJson variance),
      ("type", TypeNode.optionJson type)]

def FlexibleBoundNode.toJson : FlexibleBoundNode → Json
  | ⟨type, flexibilityId⟩ =>
    .obj [("type", type.toJson), ("typeFlexibilityId", .strOrNull flexibilityId)]

def FlexibleBoundNode.optionJson : Option FlexibleBoundNode → Json
  | none => .null
  | some b => b.toJson

end

/-- A list of types. -/
def TypeNode.listJson (ts : List TypeNode) : Json := .arr (ts.map TypeNode.toJson)

def TypeParameterNode.toJson (p : TypeParameterNode) : Json :=
  .obj
    [("flags", p.flags.toJson), ("name", .str p.name), ("id", .word p.id),
     ("variance", p.variance.toJson), ("upperBounds", TypeNode.listJson p.upperBounds)]

def ValueParameterNode.toJson (p : ValueParameterNode) : Json :=
  .obj
    [("flags", p.flags.toJson), ("name", .str p.name), ("type", TypeNode.optionJson p.type),
     ("varargElementType", TypeNode.optionJson p.varargElementType)]

def ConstructorNode.toJson (c : ConstructorNode) : Json :=
  .obj
    [("flags", c.flags.toJson),
     ("valueParameters", .arr (c.valueParameters.map ValueParameterNode.toJson))]

def FunctionNode.toJson (f : FunctionNode) : Json :=
  .obj
    [("flags", f.flags.toJson), ("name", .str f.name),
     ("typeParameters", .arr (f.typeParameters.map TypeParameterNode.toJson)),
     ("receiverParameterType", TypeNode.optionJson f.receiverType),
     ("valueParameters", .arr (f.valueParameters.map ValueParameterNode.toJson)),
     ("returnType", f.returnType.toJson)]

def PropertyNode.toJson (p : PropertyNode) : Json :=
  .obj
    [("flags", p.flags.toJson), ("name", .str p.name), ("getterFlags", p.getterFlags.toJson),
     ("setterFlags", p.setterFlags.toJson),
     ("typeParameters", .arr (p.typeParameters.map TypeParameterNode.toJson)),
     ("receiverParameterType", TypeNode.optionJson p.receiverType),
     ("returnType", p.returnType.toJson)]

def ClassNode.toJson (c : ClassNode) : Json :=
  .obj
    [("flags", c.flags.toJson), ("name", .str c.name),
     ("typeParameters", .arr (c.typeParameters.map TypeParameterNode.toJson)),
     ("supertypes", TypeNode.listJson c.supertypes),
     ("constructors", .arr (c.constructors.map ConstructorNode.toJson)),
     ("properties", .arr (c.properties.map PropertyNode.toJson)),
     ("functions", .arr (c.functions.map FunctionNode.toJson)),
     ("companionObject", .strOrNull c.companionObject),
     ("nestedClasses", .strs c.nestedClasses), ("enumEntries", .strs c.enumEntries),
     ("sealedSubclasses", .strs c.sealedSubclasses)]

end KotlinMeta
