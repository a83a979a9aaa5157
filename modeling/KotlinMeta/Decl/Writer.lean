import KotlinMeta.Decl.Basic
import KotlinMeta.TypeExpr.Writer

set_option autoImplicit false

/-! # JSON form of declarations

Every field is written, an absent one as `null`.
-/

namespace KotlinMeta

def Parameter.toJson (p : Parameter) : Json :=
  .obj
    [("flags", p.flags.toJson), ("name", .str p.name),
     ("type", Json.orNull TypeExpr.toJson p.singleType?),
     ("varargElementType", Json.orNull TypeExpr.toJson p.elementType?)]

def ConstructorDecl.toJson (c : ConstructorDecl) : Json :=
  .obj [("flags", c.flags.toJson), ("parameters", .arr (c.parameters.map Parameter.toJson))]

def FunctionDecl.toJson (f : FunctionDecl) : Json :=
  .obj
    [("flags", f.flags.toJson), ("name", .str f.name),
     ("typeParameters", .arr (f.typeParameters.map TypeVar.toJson)),
     ("receiverType", Json.orNull TypeExpr.toJson f.receiverType),
     ("parameters", .arr (f.parameters.map Parameter.toJson)),
     ("returnType", f.returnType.toJson)]

def PropertyDecl.toJson (p : PropertyDecl) : Json :=
  .obj
    [("flags", p.flags.toJson), ("name", .str p.name),
     ("typeParameters", .arr (p.typeParameters.map TypeVar.toJson)),
     ("receiverType", Json.orNull TypeExpr.toJson p.receiverType), ("type", p.type.toJson),
     ("getterFlags", p.getterFlags.toJson),
     ("setterFlags", Json.orNull Flags.toJson p.setterFlags)]

def ClassDecl.toJson (c : ClassDecl) : Json :=
  .obj
    [("flags", c.flags.toJson), ("name", c.name.toJson), ("kind", c.kind.toJson),
     ("typeParameters", .arr (c.typeParameters.map TypeVar.toJson)),
     ("superclass", c.superclass.toJson),
     ("superinterfaces", .arr (c.superinterfaces.map TypeExpr.toJson)),
     ("constructors", .arr (c.constructors.map ConstructorDecl.toJson)),
     ("properties", .arr (c.properties.map PropertyDecl.toJson)),
     ("functions", .arr (c.functions.map FunctionDecl.toJson)),
     ("companionObjectName", .strOrNull c.companionObjectName),
     ("enumEntries", .strs c.enumEntries), ("nestedClassNames", .strs c.nestedClassNames),
     ("sealedSubclasses", .arr (c.sealedSubclasses.map ClassName.toJson))]

end KotlinMeta
