import KotlinMeta.Modifier
import KotlinMeta.Proofs.Json.Same
import KotlinMeta.TypeExpr.Writer

/-! # What the JSON form of a type tells

The JSON form of a type tells everything about it but the places where its type parameters are
declared. `TypeExpr.tells` says it of types and `TypeVar.tells` of type parameters. Names and words,
of modifiers and kinds of classes too, come first.
-/

set_option autoImplicit false

namespace KotlinMeta

open Json (Same Tells same_obj_cons)

/-! ## Names and words -/

theorem ClassName.tells : Tells toJson Eq := by
  intro a b
  rw [toJson, toJson, same_obj_cons (by simp) (by simp), same_obj_cons (by simp) (by simp),
    Json.same_str, Json.tells_strs _ _]
  cases a
  cases b
  simp

theorem Flags.tells : Tells toJson Eq := by
  intro f g
  rw [toJson, toJson, Json.same_word]
  cases f
  cases g
  simp

theorem Variance.tells : Tells toJson Eq :=
  Json.tells_of_injective <|
    Json.injective_of_nodup [contravariant, covariant, invariant, star]
      (by rintro (_ | _) <;> simp) (by decide)

theorem Direction.tells : Tells toJson Eq :=
  Json.tells_of_injective <|
    Json.injective_of_nodup [producer, consumer, star] (by rintro (_ | _) <;> simp) (by decide)

theorem ClassKind.tells : Tells toJson Eq :=
  Json.tells_of_injective <|
    Json.injective_of_nodup
      [plain, interface, enumClass, enumEntry, annotationClass, object, companionObject]
      (by rintro (_ | _) <;> simp) (by decide)

/-- Modifiers of different sorts have different keywords as well. -/
theorem Modifier.tells : Tells toJson Eq :=
  Json.tells_of_injective <|
    Json.injective_of_nodup
      ([.publicAccess, .internalAccess, .protectedAccess, .privateAccess].map visibility ++
        [.final, .overridable, .abstract, .sealed].map modality ++
        [data, inline, inner, external, expect, override, operator, infixCall, tailrec, suspend,
          const, lateinit, vararg, crossinline, noinline])
      (by rintro ((_ | _) | (_ | _) | _) <;> simp) (by decide)

theorem Modifier.tells_list : Tells listJson Eq := Modifier.tells.list_eq

/-! ## Types -/

theorem TypeExpr.toJson_ne_null (t : TypeExpr) : t.toJson ≠ .null := by
  cases t <;> simp [toJson]

mutual

theorem TypeExpr.same_toJson : ∀ t u : TypeExpr, Same t.toJson u.toJson ↔ t.alike u = true
  | .named name arguments nullable, u => by
    cases u with
    | named name' arguments' nullable' =>
        simp [TypeExpr.toJson, TypeExpr.alike, same_obj_cons, ClassName.tells name name',
          TypeArg.same_jsons arguments arguments', and_assoc]
    | _ => simp [TypeExpr.toJson, TypeExpr.alike, same_obj_cons]
  | .var v nullable, u => by
    cases u with
    | var v' nullable' =>
        simp [TypeExpr.toJson, TypeExpr.alike, same_obj_cons, TypeVar.same_toJson v v']
    | _ => simp [TypeExpr.toJson, TypeExpr.alike, same_obj_cons]
  | .function receiver parameters returnType isSuspend nullable, u => by
    cases u with
    | function receiver' parameters' returnType' isSuspend' nullable' =>
        simp [TypeExpr.toJson, TypeExpr.alike, same_obj_cons,
          TypeExpr.same_optionJson receiver receiver', TypeExpr.same_jsons parameters parameters',
          TypeExpr.same_toJson returnType returnType', and_assoc]
    | _ => simp [TypeExpr.toJson, TypeExpr.alike, same_obj_cons]
  | .wildcard bound direction nullable, u => by
    cases u with
    | wildcard bound' direction' nullable' =>
        simp [TypeExpr.toJson, TypeExpr.alike, same_obj_cons,
          TypeExpr.same_optionJson bound bound', Direction.tells direction direction', and_assoc]
    | _ => simp [TypeExpr.toJson, TypeExpr.alike, same_obj_cons]

theorem TypeExpr.same_optionJson : ∀ t u : Option TypeExpr,
    Same (TypeExpr.optionJson t) (TypeExpr.optionJson u) ↔ TypeExpr.optionAlike t u = true
  | none, none => by simp [TypeExpr.optionJson, TypeExpr.optionAlike, Json.same_null]
  | none, some u => by
    simp [TypeExpr.optionJson, TypeExpr.optionAlike, Json.same_null, u.toJson_ne_null]
  | some t, none => by
    simp [TypeExpr.optionJson, TypeExpr.optionAlike, Json.same_null_right, t.toJson_ne_null]
  | some t, some u => by
    rw [TypeExpr.optionJson, TypeExpr.optionJson, TypeExpr.optionAlike, t.same_toJson u]

theorem TypeExpr.same_jsons : ∀ ts us : List TypeExpr,
    List.Forall₂ Same (TypeExpr.jsons ts) (TypeExpr.jsons us) ↔ TypeExpr.listAlike ts us = true
  | [], us => by cases us <;> simp [TypeExpr.jsons, TypeExpr.listAlike]
  | t :: ts, [] => by simp [TypeExpr.jsons, TypeExpr.listAlike]
  | t :: ts, u :: us => by
    rw [TypeExpr.jsons, TypeExpr.jsons, List.forall₂_cons, TypeExpr.listAlike, Bool.and_eq_true,
      t.same_toJson u, TypeExpr.same_jsons ts us]

theorem TypeArg.same_jsons : ∀ as bs : List TypeArg,
    List.Forall₂ Same (TypeArg.jsons as) (TypeArg.jsons bs) ↔ TypeArg.listAlike as bs = true
  | [], [] => by simp [TypeArg.jsons, TypeArg.listAlike]
  | [], ⟨variance, u⟩ :: bs => by simp [TypeArg.jsons, TypeArg.listAlike]
  | ⟨variance, t⟩ :: as, [] => by simp [TypeArg.jsons, TypeArg.listAlike]
  | ⟨variance, t⟩ :: as, ⟨variance', u⟩ :: bs => by
    rw [TypeArg.jsons, TypeArg.jsons, List.forall₂_cons, TypeArg.listAlike, Bool.and_eq_true,
      Bool.and_eq_true, TypeArg.same_jsons as bs]
    simp [same_obj_cons, Variance.tells variance variance', TypeExpr.same_optionJson t u]

theorem TypeVar.same_toJson : ∀ v w : TypeVar, Same v.toJson w.toJson ↔ v.alike w = true
  | ⟨_, name, id, variance, upperBounds, reified⟩,
      ⟨_, name', id', variance', upperBounds', reified'⟩ => by
    have hvariance := Variance.tells.orNull_eq (fun _ => nofun) variance variance'
    simp [TypeVar.toJson, TypeVar.alike, same_obj_cons, hvariance,
      TypeExpr.same_jsons upperBounds upperBounds', and_assoc]

end

/-- The same types but for the places of their type parameters. -/
def TypeExpr.Alike (t u : TypeExpr) : Prop := t.alike u = true

/-- The same type parameters but for their places. -/
def TypeVar.Alike (v w : TypeVar) : Prop := v.alike w = true

theorem TypeExpr.tells : Tells toJson Alike := same_toJson

theorem TypeExpr.tells_list : Tells (fun ts => .arr (ts.map toJson)) (List.Forall₂ Alike) :=
  TypeExpr.tells.list

theorem TypeExpr.tells_option : Tells (Json.orNull toJson) (Option.Rel Alike) :=
  TypeExpr.tells.orNull toJson_ne_null

theorem TypeVar.tells : Tells toJson Alike := same_toJson

theorem TypeVar.tells_list : Tells (fun vs => .arr (vs.map toJson)) (List.Forall₂ Alike) :=
  TypeVar.tells.list

end KotlinMeta
