import KotlinMeta.Proofs.Decl.Json
import KotlinMeta.Source.Writer

/-! # What the JSON form of generated source tells

`Expr.alike` compares expressions part by part, and the types in them without the places of type
parameters, as `TypeExpr.alike` does. Declarations are compared part by part as well. The JSON form
tells all that are not alike (`File.tells`), and with types and decoded classes that makes the main
result, `json_determines`.
-/

set_option autoImplicit false

namespace KotlinMeta.Source

open Json (Same Tells same_obj_cons)

/-! ## Expressions -/

mutual

/-- The same expression but for the places of the type parameters in it. -/
def Expr.alike : Expr → Expr → Bool
  | .name name, .name name' => name == name'
  | .self, .self => true
  | .it, .it => true
  | .string value, .string value' => value == value'
  | .array elements, .array elements' => Expr.listAlike elements elements'
  | .member receiver name, .member receiver' name' => receiver.alike receiver' && name == name'
  | .call receiver function arguments trailingLambda,
      .call receiver' function' arguments' trailingLambda' =>
    Expr.optionAlike receiver receiver' && function == function' &&
      Argument.listAlike arguments arguments' && Lambda.optionAlike trailingLambda trailingLambda'
  | .construct type arguments, .construct type' arguments' =>
    type.alike type' && Argument.listAlike arguments arguments'
  | _, _ => false

def Expr.listAlike : List Expr → List Expr → Bool
  | [], [] => true
  | e :: rest, e' :: rest' => e.alike e' && Expr.listAlike rest rest'
  | _, _ => false

def Expr.optionAlike : Option Expr → Option Expr → Bool
  | none, none => true
  | some e, some e' => e.alike e'
  | _, _ => false

def Argument.listAlike : List Argument → List Argument → Bool
  | [], [] => true
  | ⟨name, value⟩ :: rest, ⟨name', value'⟩ :: rest' =>
    name == name' && value.alike value' && Argument.listAlike rest rest'
  | _, _ => false

def Lambda.optionAlike : Option Lambda → Option Lambda → Bool
  | none, none => true
  | some ⟨body⟩, some ⟨body'⟩ => Statement.listAlike body body'
  | _, _ => false

def Statement.listAlike : List Statement → List Statement → Bool
  | [], [] => true
  | s :: rest, s' :: rest' => s.alike s' && Statement.listAlike rest rest'
  | _, _ => false

/-- The same kind of statement with expressions that are alike. -/
def Statement.alike : Statement → Statement → Bool
  | .expr e, .expr e' => e.alike e'
  | .return e, .return e' => e.alike e'
  | _, _ => false

end

theorem Expr.toJson_ne_null (e : Expr) : e.toJson ≠ .null := by
  cases e <;> simp [toJson]

mutual

theorem Expr.same_toJson : ∀ e e' : Expr, Same e.toJson e'.toJson ↔ e.alike e' = true
  | .name name, e' => by cases e' <;> simp [Expr.toJson, Expr.alike, same_obj_cons]
  | .self, e' => by cases e' <;> simp [Expr.toJson, Expr.alike, same_obj_cons]
  | .it, e' => by cases e' <;> simp [Expr.toJson, Expr.alike, same_obj_cons]
  | .string value, e' => by cases e' <;> simp [Expr.toJson, Expr.alike, same_obj_cons]
  | .array elements, e' => by
    cases e' with
    | array elements' =>
        simp [Expr.toJson, Expr.alike, same_obj_cons, Expr.same_jsons elements elements']
    | _ => simp [Expr.toJson, Expr.alike, same_obj_cons]
  | .member receiver name, e' => by
    cases e' with
    | member receiver' name' =>
        simp [Expr.toJson, Expr.alike, same_obj_cons, Expr.same_toJson receiver receiver']
    | _ => simp [Expr.toJson, Expr.alike, same_obj_cons]
  | .call receiver function arguments trailingLambda, e' => by
    cases e' with
    | call receiver' function' arguments' trailingLambda' =>
        simp [Expr.toJson, Expr.alike, same_obj_cons, Expr.same_optionJson receiver receiver',
          Argument.same_jsons arguments arguments',
          Lambda.same_optionJson trailingLambda trailingLambda', and_assoc]
    | _ => simp [Expr.toJson, Expr.alike, same_obj_cons]
  | .construct type arguments, e' => by
    cases e' with
    | construct type' arguments' =>
        simp [Expr.toJson, Expr.alike, same_obj_cons, TypeExpr.same_toJson type type',
          Argument.same_jsons arguments arguments']
    | _ => simp [Expr.toJson, Expr.alike, same_obj_cons]

theorem Expr.same_jsons : ∀ es es' : List Expr,
    List.Forall₂ Same (Expr.jsons es) (Expr.jsons es') ↔ Expr.listAlike es es' = true
  | [], es' => by cases es' <;> simp [Expr.jsons, Expr.listAlike]
  | e :: es, [] => by simp [Expr.jsons, Expr.listAlike]
  | e :: es, e' :: es' => by
    rw [Expr.jsons, Expr.jsons, List.forall₂_cons, Expr.listAlike, Bool.and_eq_true,
      e.same_toJson e', Expr.same_jsons es es']

theorem Expr.same_optionJson : ∀ e e' : Option Expr,
    Same (Expr.optionJson e) (Expr.optionJson e') ↔ Expr.optionAlike e e' = true
  | none, none => by simp [Expr.optionJson, Expr.optionAlike, Json.same_null]
  | none, some e' => by
    simp [Expr.optionJson, Expr.optionAlike, Json.same_null, e'.toJson_ne_null]
  | some e, none => by
    simp [Expr.optionJson, Expr.optionAlike, Json.same_null_right, e.toJson_ne_null]
  | some e, some e' => by
    rw [Expr.optionJson, Expr.optionJson, Expr.optionAlike, e.same_toJson e']

theorem Argument.same_jsons : ∀ as bs : List Argument,
    List.Forall₂ Same (Argument.jsons as) (Argument.jsons bs) ↔ Argument.listAlike as bs = true
  | [], [] => by simp [Argument.jsons, Argument.listAlike]
  | [], ⟨name', value'⟩ :: bs => by simp [Argument.jsons, Argument.listAlike]
  | ⟨name, value⟩ :: as, [] => by simp [Argument.jsons, Argument.listAlike]
  | ⟨name, value⟩ :: as, ⟨name', value'⟩ :: bs => by
    rw [Argument.jsons, Argument.jsons, List.forall₂_cons, Argument.listAlike, Bool.and_eq_true,
      Bool.and_eq_true, Argument.same_jsons as bs]
    simp [same_obj_cons, Json.tells_strOrNull name name', Expr.same_toJson value value']

theorem Lambda.same_optionJson : ∀ l l' : Option Lambda,
    Same (Lambda.optionJson l) (Lambda.optionJson l') ↔ Lambda.optionAlike l l' = true
  | none, none => by simp [Lambda.optionJson, Lambda.optionAlike, Json.same_null]
  | none, some ⟨body'⟩ => by simp [Lambda.optionJson, Lambda.optionAlike, Json.same_null]
  | some ⟨body⟩, none => by simp [Lambda.optionJson, Lambda.optionAlike, Json.same_null_right]
  | some ⟨body⟩, some ⟨body'⟩ => by
    simp [Lambda.optionJson, Lambda.optionAlike, same_obj_cons, Statement.same_jsons body body']

theorem Statement.same_jsons : ∀ ss ss' : List Statement,
    List.Forall₂ Same (Statement.jsons ss) (Statement.jsons ss') ↔
      Statement.listAlike ss ss' = true
  | [], ss' => by cases ss' <;> simp [Statement.jsons, Statement.listAlike]
  | s :: ss, [] => by simp [Statement.jsons, Statement.listAlike]
  | s :: ss, s' :: ss' => by
    rw [Statement.jsons, Statement.jsons, List.forall₂_cons, Statement.listAlike,
      Bool.and_eq_true, s.same_toJson s', Statement.same_jsons ss ss']

theorem Statement.same_toJson : ∀ s s' : Statement, Same s.toJson s'.toJson ↔ s.alike s' = true
  | .expr e, .expr e' => by
    simp [Statement.toJson, Statement.alike, same_obj_cons, e.same_toJson e']
  | .expr e, .return e' => by simp [Statement.toJson, Statement.alike, same_obj_cons]
  | .return e, .expr e' => by simp [Statement.toJson, Statement.alike, same_obj_cons]
  | .return e, .return e' => by
    simp [Statement.toJson, Statement.alike, same_obj_cons, e.same_toJson e']

end

/-- `Expr.alike` as a relation. -/
def Expr.Alike (e e' : Expr) : Prop := e.alike e' = true

/-- `Statement.alike` as a relation. -/
def Statement.Alike (s s' : Statement) : Prop := s.alike s' = true

theorem Expr.tells : Tells toJson Alike := same_toJson

theorem Expr.tells_option : Tells (Json.orNull toJson) (Option.Rel Alike) :=
  Expr.tells.orNull toJson_ne_null

theorem Statement.tells : Tells toJson Alike := same_toJson

/-! ## Declarations -/

@[mk_iff]
structure AnnotationMember.Alike (m m' : AnnotationMember) : Prop where
  name : m.name = m'.name
  value : m.value.Alike m'.value

@[mk_iff]
structure AnnotationUse.Alike (a a' : AnnotationUse) : Prop where
  type : a.type = a'.type
  members : List.Forall₂ AnnotationMember.Alike a.members a'.members

theorem AnnotationUse.tells : Tells toJson Alike := by
  have hmember : Tells
      (fun m : AnnotationMember => .obj [("name", .str m.name), ("value", m.value.toJson)])
      AnnotationMember.Alike := by
    intro m m'
    rw [AnnotationMember.alike_iff]
    simp [same_obj_cons, Expr.tells m.value m'.value]
  intro a a'
  rw [toJson, toJson, alike_iff]
  simp [same_obj_cons, ClassName.tells a.type a'.type, hmember.list a.members a'.members]

@[mk_iff]
structure ParameterDef.Alike (p q : ParameterDef) : Prop where
  name : p.name = q.name
  type : p.type.Alike q.type
  modifiers : p.modifiers = q.modifiers

theorem ParameterDef.tells : Tells toJson Alike := by
  intro p q
  rw [toJson, toJson, alike_iff]
  simp [same_obj_cons, TypeExpr.tells p.type q.type, Modifier.tells_list p.modifiers q.modifiers]

@[mk_iff]
structure PropertyDef.Alike (p q : PropertyDef) : Prop where
  name : p.name = q.name
  type : p.type.Alike q.type
  mutable : p.mutable = q.mutable
  modifiers : p.modifiers = q.modifiers
  initializer : Option.Rel Expr.Alike p.initializer q.initializer

theorem PropertyDef.tells : Tells toJson Alike := by
  intro p q
  rw [toJson, toJson, alike_iff]
  simp [same_obj_cons, TypeExpr.tells p.type q.type, Modifier.tells_list p.modifiers q.modifiers,
    Expr.tells_option p.initializer q.initializer]

@[mk_iff]
structure FunctionDef.Alike (f g : FunctionDef) : Prop where
  name : f.name = g.name
  modifiers : f.modifiers = g.modifiers
  annotations : List.Forall₂ AnnotationUse.Alike f.annotations g.annotations
  typeVariables : List.Forall₂ TypeVar.Alike f.typeVariables g.typeVariables
  receiver : Option.Rel TypeExpr.Alike f.receiver g.receiver
  parameters : List.Forall₂ ParameterDef.Alike f.parameters g.parameters
  returnType : Option.Rel TypeExpr.Alike f.returnType g.returnType
  body : List.Forall₂ Statement.Alike f.body g.body

theorem FunctionDef.tells : Tells toJson Alike := by
  intro f g
  rw [toJson, toJson, alike_iff]
  simp [same_obj_cons, Modifier.tells_list f.modifiers g.modifiers,
    AnnotationUse.tells.list f.annotations g.annotations,
    TypeVar.tells_list f.typeVariables g.typeVariables,
    TypeExpr.tells_option f.receiver g.receiver, ParameterDef.tells.list f.parameters g.parameters,
    TypeExpr.tells_option f.returnType g.returnType, Statement.tells.list f.body g.body]

@[mk_iff]
structure ClassDef.Alike (c d : ClassDef) : Prop where
  name : c.name = d.name
  modifiers : c.modifiers = d.modifiers
  annotations : List.Forall₂ AnnotationUse.Alike c.annotations d.annotations
  typeVariables : List.Forall₂ TypeVar.Alike c.typeVariables d.typeVariables
  primaryConstructor : Option.Rel FunctionDef.Alike c.primaryConstructor d.primaryConstructor
  properties : List.Forall₂ PropertyDef.Alike c.properties d.properties
  functions : List.Forall₂ FunctionDef.Alike c.functions d.functions

theorem ClassDef.tells : Tells toJson Alike := by
  intro c d
  have hconstructor := FunctionDef.tells.orNull (fun _ => nofun) c.primaryConstructor
    d.primaryConstructor
  rw [toJson, toJson, alike_iff]
  simp [same_obj_cons, ClassName.tells c.name d.name, Modifier.tells_list c.modifiers d.modifiers,
    AnnotationUse.tells.list c.annotations d.annotations,
    TypeVar.tells_list c.typeVariables d.typeVariables, hconstructor,
    PropertyDef.tells.list c.properties d.properties,
    FunctionDef.tells.list c.functions d.functions]

/-- The same files but for the places of the type parameters in them. -/
@[mk_iff]
structure File.Alike (f g : File) : Prop where
  packageName : f.packageName = g.packageName
  fileName : f.fileName = g.fileName
  comment : f.comment = g.comment
  builder : f.builder.Alike g.builder
  extension : f.extension.Alike g.extension

/-- **The JSON form of a generated file tells all its parts.** -/
theorem File.tells : Tells toJson Alike := by
  intro f g
  rw [toJson, toJson, alike_iff]
  simp [same_obj_cons, ClassDef.tells f.builder g.builder,
    FunctionDef.tells f.extension g.extension]

/-- **JSON determines the model.** Types, decoded classes and generated files that are written as
the same JSON, up to the order of members in objects, are the same in all their parts, except that
it is not told which references to a type parameter are to one and the same declaration. Conversely
nothing else is written. -/
theorem json_determines :
    (∀ t u : TypeExpr, Same t.toJson u.toJson ↔ t.alike u = true) ∧
    (∀ c d : ClassDecl, Same c.toJson d.toJson ↔ c.Alike d) ∧
    ∀ f g : File, Same f.toJson g.toJson ↔ f.Alike g :=
  ⟨TypeExpr.same_toJson, ClassDecl.tells, File.tells⟩

end KotlinMeta.Source
