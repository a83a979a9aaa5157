import KotlinMeta.Decoding.TypeReference
import KotlinMeta.Proofs.Sequence

/-! # The variables of a type

What the ways to build and take apart types do to the type parameters that they refer to. The
function type behind an interface keeps the references of all arguments but one: the last argument
of a suspending function says nothing.
-/

set_option autoImplicit false

namespace KotlinMeta

/-! ## Lists -/

theorem TypeExpr.listVariables_eq_flatMap (ts : List TypeExpr) :
    TypeExpr.listVariables ts = ts.flatMap TypeExpr.variables := by
  induction ts with
  | nil => rfl
  | cons t rest ih => rw [TypeExpr.listVariables, ih, List.flatMap_cons]

/-- The type parameters that an argument refers to. -/
def TypeArg.variables (a : TypeArg) : List TypeVar := TypeExpr.optionVariables a.type

theorem TypeArg.listVariables_eq_flatMap (as : List TypeArg) :
    TypeArg.listVariables as = as.flatMap TypeArg.variables := by
  induction as with
  | nil => rfl
  | cons a rest ih =>
      obtain ⟨variance, type⟩ := a
      rw [TypeArg.listVariables, ih, List.flatMap_cons]
      rfl

/-! ## Building types -/

namespace TypeExpr

@[simp]
theorem withNullable_withNullable (a b : Bool) (t : TypeExpr) :
    (t.withNullable a).withNullable b = t.withNullable b := by
  cases t <;> rfl

@[simp]
theorem isNullable_withNullable (a : Bool) (t : TypeExpr) :
    (t.withNullable a).isNullable = a := by
  cases t <;> rfl

@[simp]
theorem variables_withNullable (a : Bool) (t : TypeExpr) :
    (t.withNullable a).variables = t.variables := by
  cases t <;> rfl

@[simp]
theorem variables_producerOf (t : TypeExpr) : (producerOf t).variables = t.variables := rfl

@[simp]
theorem variables_consumerOf (t : TypeExpr) : (consumerOf t).variables = t.variables := rfl

end TypeExpr

/-- A star has no type. -/
def TypeArg.StarIsBare (a : TypeArg) : Prop := a.variance = .star → a.type = none

theorem TypeArg.variables_toType {a : TypeArg} (h : a.StarIsBare) :
    a.toType.variables = a.variables := by
  obtain ⟨variance, type⟩ := a
  cases variance with
  | star =>
      cases h rfl
      rfl
  | invariant => cases type <;> rfl
  | covariant => cases type <;> rfl
  | contravariant => cases type <;> rfl

/-! ## Function types -/

theorem variables_soleArgument {t result : TypeExpr} (h : soleArgument t = .ok result) :
    result.variables = t.variables := by
  unfold soleArgument at h
  split at h
  · rename_i name argument nullable
    obtain ⟨variance, type⟩ := argument
    cases type with
    | none => cases h
    | some type =>
        cases h
        exact (List.append_nil _).symm
  · cases h

theorem variables_continuationResult {continuation result : TypeExpr}
    (h : continuationResult continuation = .ok result) :
    result.variables = continuation.variables := by
  unfold continuationResult at h
  split at h
  · rename_i bound direction nullable
    rw [variables_soleArgument h]
    rfl
  · exact variables_soleArgument h

theorem variables_returnSlot {isSuspend : Bool} {slots parameters : List TypeExpr}
    {last returnType : TypeExpr}
    (h : returnSlot isSuspend slots last = .ok (parameters, returnType)) :
    (parameters ++ [returnType]).flatMap TypeExpr.variables =
      (if isSuspend then slots else slots ++ [last]).flatMap TypeExpr.variables := by
  cases isSuspend with
  | false =>
      cases h
      rfl
  | true =>
      rw [returnSlot, if_pos rfl] at h
      split at h
      · cases h
      · rename_i continuation hlast
        cases hresult : continuationResult continuation with
        | error e =>
            rw [hresult] at h
            cases h
        | ok result =>
            rw [hresult] at h
            cases h
            obtain ⟨before, rfl⟩ := List.getLast?_eq_some_iff.mp hlast
            rw [List.dropLast_concat, List.flatMap_append, List.flatMap_singleton,
              variables_continuationResult hresult, if_pos rfl, List.flatMap_append,
              List.flatMap_singleton]

theorem variables_functionOf {flags : Flags} {parameters : List TypeExpr}
    {returnType t : TypeExpr} (h : functionOf flags parameters returnType = .ok t) :
    t.variables = (parameters ++ [returnType]).flatMap TypeExpr.variables := by
  unfold functionOf at h
  split at h
  · split at h
    · cases h
    · cases h
      simp [TypeExpr.variables, TypeExpr.optionVariables, TypeExpr.listVariables_eq_flatMap]
  · cases h
    simp [TypeExpr.variables, TypeExpr.optionVariables, TypeExpr.listVariables_eq_flatMap]

/-- A function type refers to what its slots refer to, but for the last slot where it suspends. -/
theorem variables_functionType {flags : Flags} {slots : List TypeExpr} {last t : TypeExpr}
    (h : functionType flags slots last = .ok t) :
    t.variables =
      (if flags.isSuspendType then slots else slots ++ [last]).flatMap TypeExpr.variables := by
  obtain ⟨⟨parameters, returnType⟩, hreturn, hfunction⟩ := Except.bind_eq_ok.mp h
  rw [variables_functionOf hfunction, variables_returnSlot hreturn]

/-- The last argument of a suspending function type says nothing. -/
def saysNothingLast (name : ClassName) (flags : Flags) : Bool :=
  flags.isSuspendType && isFunctionName name.qualified

/-- A class with arguments refers to what its arguments refer to, but for a last one that says
nothing. -/
theorem variables_namedType {name : ClassName} {flags : Flags} {arguments : List TypeArg}
    {t : TypeExpr} (hbare : ∀ a ∈ arguments, a.StarIsBare)
    (h : namedType name flags arguments = .ok t) :
    t.variables =
      (if saysNothingLast name flags then arguments.dropLast else arguments).flatMap
        TypeArg.variables := by
  rw [namedType] at h
  split at h
  · -- an interface of functions: the type is the function type behind it
    rename_i last hname hlast
    obtain ⟨before, rfl⟩ := List.getLast?_eq_some_iff.mp hlast
    rw [List.dropLast_concat] at h ⊢
    rw [variables_functionType h]
    have hbefore : (before.map TypeArg.toType).flatMap TypeExpr.variables =
        before.flatMap TypeArg.variables := by
      rw [List.flatMap_map]
      exact List.flatMap_congr fun a ha =>
        TypeArg.variables_toType (hbare a (List.mem_append_left _ ha))
    have hlast : last.toType.variables = last.variables :=
      TypeArg.variables_toType (hbare last (by simp))
    cases hs : flags.isSuspendType <;> simp [saysNothingLast, hs, hname, hbefore, hlast]
  · -- any other class, or such an interface without arguments, of which none can be dropped
    rename_i hnot
    cases h
    rw [TypeExpr.variables, TypeArg.listVariables_eq_flatMap]
    cases hlast : arguments.getLast? with
    | none =>
        rw [List.getLast?_eq_none_iff] at hlast
        subst hlast
        split <;> rfl
    | some last =>
        have hname : isFunctionName name.qualified = false := by
          by_contra hname
          exact hnot last (by simpa using hname) hlast
        rw [saysNothingLast, hname, Bool.and_false]
        rfl

end KotlinMeta
