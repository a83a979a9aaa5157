import Mathlib.Tactic.MkIffOfInductiveProp
import KotlinMeta.Decl.Writer
import KotlinMeta.Proofs.TypeExpr.Json

/-! # What the JSON form of a declaration tells

Declarations are alike if all their parts are the same, or are types and type parameters that are
`alike`. The JSON form tells all that are not alike (`ClassDecl.tells`).
-/

set_option autoImplicit false

namespace KotlinMeta

open Json (Same Tells same_obj_cons)

/-! ## Parameters -/

/-- The same sort of parameter with types that are alike. -/
def ParameterType.Alike : ParameterType → ParameterType → Prop
  | .single t, .single u | .vararg t, .vararg u => t.Alike u
  | _, _ => False

@[mk_iff]
structure Parameter.Alike (p q : Parameter) : Prop where
  flags : p.flags = q.flags
  name : p.name = q.name
  type : p.type.Alike q.type

/-- The two fields for the type of a parameter tell which sort it is. -/
theorem Parameter.type_alike_iff {p q : Parameter} :
    p.type.Alike q.type ↔ Option.Rel TypeExpr.Alike p.singleType? q.singleType? ∧
      Option.Rel TypeExpr.Alike p.elementType? q.elementType? := by
  rw [Parameter.singleType?, Parameter.singleType?, Parameter.elementType?, Parameter.elementType?]
  cases p.type <;> cases q.type <;> simp [ParameterType.Alike]

theorem Parameter.tells : Tells toJson Alike := by
  intro p q
  rw [toJson, toJson, alike_iff, Parameter.type_alike_iff]
  simp [same_obj_cons, Flags.tells p.flags q.flags,
    TypeExpr.tells_option p.singleType? q.singleType?,
    TypeExpr.tells_option p.elementType? q.elementType?]

/-! ## Members -/

@[mk_iff]
structure ConstructorDecl.Alike (c d : ConstructorDecl) : Prop where
  flags : c.flags = d.flags
  parameters : List.Forall₂ Parameter.Alike c.parameters d.parameters

theorem ConstructorDecl.tells : Tells toJson Alike := by
  intro c d
  rw [toJson, toJson, alike_iff]
  simp [same_obj_cons, Flags.tells c.flags d.flags, Parameter.tells.list c.parameters d.parameters]

@[mk_iff]
structure FunctionDecl.Alike (f g : FunctionDecl) : Prop where
  flags : f.flags = g.flags
  name : f.name = g.name
  typeParameters : List.Forall₂ TypeVar.Alike f.typeParameters g.typeParameters
  receiverType : Option.Rel TypeExpr.Alike f.receiverType g.receiverType
  parameters : List.Forall₂ Parameter.Alike f.parameters g.parameters
  returnType : f.returnType.Alike g.returnType

theorem FunctionDecl.tells : Tells toJson Alike := by
  intro f g
  rw [toJson, toJson, alike_iff]
  simp [same_obj_cons, Flags.tells f.flags g.flags,
    TypeVar.tells_list f.typeParameters g.typeParameters,
    TypeExpr.tells_option f.receiverType g.receiverType,
    Parameter.tells.list f.parameters g.parameters, TypeExpr.tells f.returnType g.returnType]

@[mk_iff]
structure PropertyDecl.Alike (p q : PropertyDecl) : Prop where
  flags : p.flags = q.flags
  name : p.name = q.name
  typeParameters : List.Forall₂ TypeVar.Alike p.typeParameters q.typeParameters
  receiverType : Option.Rel TypeExpr.Alike p.receiverType q.receiverType
  type : p.type.Alike q.type
  getterFlags : p.getterFlags = q.getterFlags
  setterFlags : p.setterFlags = q.setterFlags

theorem PropertyDecl.tells : Tells toJson Alike := by
  intro p q
  have hsetter := Flags.tells.orNull_eq (fun _ => nofun) p.setterFlags q.setterFlags
  rw [toJson, toJson, alike_iff]
  simp [same_obj_cons, Flags.tells p.flags q.flags,
    TypeVar.tells_list p.typeParameters q.typeParameters,
    TypeExpr.tells_option p.receiverType q.receiverType, TypeExpr.tells p.type q.type,
    Flags.tells p.getterFlags q.getterFlags, hsetter]

/-! ## Classes -/

/-- The same classes but for the places of the type parameters in them. -/
@[mk_iff]
structure ClassDecl.Alike (c d : ClassDecl) : Prop where
  flags : c.flags = d.flags
  name : c.name = d.name
  kind : c.kind = d.kind
  typeParameters : List.Forall₂ TypeVar.Alike c.typeParameters d.typeParameters
  superclass : c.superclass.Alike d.superclass
  superinterfaces : List.Forall₂ TypeExpr.Alike c.superinterfaces d.superinterfaces
  constructors : List.Forall₂ ConstructorDecl.Alike c.constructors d.constructors
  properties : List.Forall₂ PropertyDecl.Alike c.properties d.properties
  functions : List.Forall₂ FunctionDecl.Alike c.functions d.functions
  companionObjectName : c.companionObjectName = d.companionObjectName
  enumEntries : c.enumEntries = d.enumEntries
  nestedClassNames : c.nestedClassNames = d.nestedClassNames
  sealedSubclasses : c.sealedSubclasses = d.sealedSubclasses

/-- **The JSON form of a class tells all its parts.** -/
theorem ClassDecl.tells : Tells toJson Alike := by
  intro c d
  have hsealed := ClassName.tells.list_eq c.sealedSubclasses d.sealedSubclasses
  rw [toJson, toJson, alike_iff]
  simp [same_obj_cons, Flags.tells c.flags d.flags, ClassName.tells c.name d.name,
    ClassKind.tells c.kind d.kind, TypeVar.tells_list c.typeParameters d.typeParameters,
    TypeExpr.tells c.superclass d.superclass,
    TypeExpr.tells_list c.superinterfaces d.superinterfaces,
    ConstructorDecl.tells.list c.constructors d.constructors,
    PropertyDecl.tells.list c.properties d.properties,
    FunctionDecl.tells.list c.functions d.functions,
    Json.tells_strOrNull c.companionObjectName d.companionObjectName,
    Json.tells_strs c.enumEntries d.enumEntries,
    Json.tells_strs c.nestedClassNames d.nestedClassNames, hsealed]

end KotlinMeta
