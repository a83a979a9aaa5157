import KotlinMeta.Decoding.TypeReference
import KotlinMeta.Proofs.ClassName.Functions
import KotlinMeta.Proofs.Sequence

/-! # Well-formed types

`TypeExpr` has room for more than the types of a program. `TypeExpr.WellFormed` singles those out:
function types have a form of their own, stars say nothing else, and a bare star stands only where
a function type takes it. What resolution puts together from well-formed parts is well-formed, up
to the function type behind an interface (`wellFormed_namedType`).
-/

set_option autoImplicit false

namespace KotlinMeta

/-! ## The types of a program -/

/-- Where a type stands. -/
inductive Position where
  | ordinary
  /-- The receiver, a parameter or the result of a function type. -/
  | slot

/-- Of a suspending function the result is an argument of its continuation, and no slot. -/
def Position.ofResult (isSuspend : Bool) : Position := if isSuspend then .ordinary else .slot

/-- A class that can be applied to these arguments, and still is no function type. -/
structure ClassName.Takes (c : ClassName) (arguments : List TypeArg) : Prop where
  named : c.simpleNames ≠ []
  bounded : c.qualified ≠ unboundedFunctionName
  plain : IsInterfaceName c.qualified → arguments = []

mutual

/-- A type that can stand in a position. -/
inductive TypeExpr.WellFormed : Position → TypeExpr → Prop
  | named {position : Position} {name : ClassName} {arguments : List TypeArg} {nullable : Bool}
      (takes : name.Takes arguments) (parts : ∀ a ∈ arguments, TypeArg.WellFormed a) :
      TypeExpr.WellFormed position (.named name arguments nullable)
  | var {position : Position} {v : TypeVar} {nullable : Bool} :
      TypeExpr.WellFormed position (.var v nullable)
  | function {position : Position} {receiver : Option TypeExpr} {parameters : List TypeExpr}
      {returnType : TypeExpr} {isSuspend nullable : Bool}
      (receives : ∀ t ∈ receiver, TypeExpr.WellFormed .slot t)
      (takes : ∀ t ∈ parameters, TypeExpr.WellFormed .slot t)
      (returns : TypeExpr.WellFormed (.ofResult isSuspend) returnType) :
      TypeExpr.WellFormed position (.function receiver parameters returnType isSuspend nullable)
  | producer {position : Position} {bound : TypeExpr} {nullable : Bool}
      (bounded : TypeExpr.WellFormed .ordinary bound) :
      TypeExpr.WellFormed position (.wildcard (some bound) .producer nullable)
  | consumer {position : Position} {bound : TypeExpr} {nullable : Bool}
      (bounded : TypeExpr.WellFormed .ordinary bound) :
      TypeExpr.WellFormed position (.wildcard (some bound) .consumer nullable)
  | star : TypeExpr.WellFormed .slot (.wildcard none .star false)

/-- An argument: a star without a type, or a type with another variance. -/
inductive TypeArg.WellFormed : TypeArg → Prop
  | star : TypeArg.WellFormed ⟨.star, none⟩
  | projection {variance : Variance} {type : TypeExpr} (projects : variance ≠ .star)
      (informs : variance = .covariant → type.isAny = false)
      (formed : TypeExpr.WellFormed .ordinary type) : TypeArg.WellFormed ⟨variance, some type⟩

end

/-! ## Building well-formed types -/

namespace TypeExpr

theorem WellFormed.slot {position : Position} {t : TypeExpr} (h : t.WellFormed position) :
    t.WellFormed .slot := by
  cases h with
  | star => exact .star
  | named takes parts => exact .named takes parts
  | var => exact .var
  | function receives takes returns => exact .function receives takes returns
  | producer bounded => exact .producer bounded
  | consumer bounded => exact .consumer bounded

/-- A type that can stand anywhere may be nullable; a star may not. -/
theorem WellFormed.withNullable {t : TypeExpr} (h : t.WellFormed .ordinary) (value : Bool) :
    (t.withNullable value).WellFormed .ordinary := by
  cases h with
  | named takes parts => exact .named takes parts
  | var => exact .var
  | function receives takes returns => exact .function receives takes returns
  | producer bounded => exact .producer bounded
  | consumer bounded => exact .consumer bounded

end TypeExpr

theorem TypeArg.WellFormed.toType {a : TypeArg} (h : a.WellFormed) :
    a.toType.WellFormed .slot := by
  cases h with
  | star => exact .star
  | @projection variance type projects informs formed =>
      cases variance with
      | invariant => exact formed.slot
      | covariant => exact .producer formed
      | contravariant => exact .consumer formed
      | star => exact absurd rfl projects

theorem wellFormed_projectedArgument (variance : NodeVariance) {type : TypeExpr}
    (h : type.WellFormed .ordinary) : (projectedArgument variance type).WellFormed := by
  cases variance with
  | invariant => exact .projection nofun nofun h
  | contravariant => exact .projection nofun nofun h
  | covariant =>
      rw [projectedArgument]
      split
      · exact .projection nofun nofun h
      · rename_i hany
        exact .projection nofun (fun _ => by simpa using hany) h

/-! ## Function types -/

theorem wellFormed_soleArgument {position : Position} {t result : TypeExpr}
    (ht : t.WellFormed position) (h : soleArgument t = .ok result) :
    result.WellFormed .ordinary := by
  unfold soleArgument at h
  split at h
  · rename_i name argument nullable
    cases ht with
    | named takes parts =>
        cases parts argument List.mem_cons_self with
        | star => cases h
        | projection projects informs formed =>
            cases h
            exact formed
  · cases h

/-- The result of a continuation is one of its parts, and never a bare star. -/
theorem wellFormed_continuationResult {t result : TypeExpr} (ht : t.WellFormed .slot)
    (h : continuationResult t = .ok result) : result.WellFormed .ordinary := by
  unfold continuationResult at h
  split at h
  · cases ht with
    | producer bounded => exact wellFormed_soleArgument bounded h
    | consumer bounded => exact wellFormed_soleArgument bounded h
  · exact wellFormed_soleArgument ht h

theorem wellFormed_returnSlot {isSuspend : Bool} {slots parameters : List TypeExpr}
    {last returnType : TypeExpr} (hslots : ∀ t ∈ slots, t.WellFormed .slot)
    (hlast : last.WellFormed .slot)
    (h : returnSlot isSuspend slots last = .ok (parameters, returnType)) :
    (∀ t ∈ parameters, t.WellFormed .slot) ∧ returnType.WellFormed (.ofResult isSuspend) := by
  cases isSuspend with
  | false =>
      cases h
      exact ⟨hslots, hlast⟩
  | true =>
      rw [returnSlot, if_pos rfl] at h
      split at h
      · cases h
      · rename_i continuation hcontinuation
        obtain ⟨before, rfl⟩ := List.getLast?_eq_some_iff.mp hcontinuation
        cases hresult : continuationResult continuation with
        | error e =>
            rw [hresult] at h
            cases h
        | ok result =>
            rw [hresult, List.dropLast_concat] at h
            cases h
            refine ⟨fun t ht => hslots t (List.mem_append_left _ ht), ?_⟩
            exact wellFormed_continuationResult (hslots continuation (by simp)) hresult

theorem wellFormed_functionOf {flags : Flags} {parameters : List TypeExpr}
    {returnType t : TypeExpr} (hparameters : ∀ t ∈ parameters, t.WellFormed .slot)
    (hreturn : returnType.WellFormed (.ofResult flags.isSuspendType))
    (h : functionOf flags parameters returnType = .ok t) : t.WellFormed .ordinary := by
  unfold functionOf at h
  split at h
  · split at h
    · cases h
    · rename_i receiver rest
      cases h
      refine .function ?_ (fun t ht => hparameters t (List.mem_cons_of_mem _ ht)) hreturn
      rintro t ⟨⟩
      exact hparameters receiver List.mem_cons_self
  · cases h
    refine .function ?_ hparameters hreturn
    intro t ht
    cases ht

theorem wellFormed_functionType {flags : Flags} {slots : List TypeExpr} {last t : TypeExpr}
    (hslots : ∀ t ∈ slots, t.WellFormed .slot) (hlast : last.WellFormed .slot)
    (h : functionType flags slots last = .ok t) : t.WellFormed .ordinary := by
  obtain ⟨⟨parameters, returnType⟩, hreturn, hfunction⟩ := Except.bind_eq_ok.mp h
  obtain ⟨hparameters, hreturn⟩ := wellFormed_returnSlot hslots hlast hreturn
  exact wellFormed_functionOf hparameters hreturn hfunction

/-- A class with well-formed arguments stands for a well-formed type: where it could not take them
as a class, it is a function type. -/
theorem wellFormed_namedType {name : ClassName} {flags : Flags} {arguments : List TypeArg}
    {t : TypeExpr} (hnamed : name.simpleNames ≠ [])
    (hbounded : name.qualified ≠ unboundedFunctionName)
    (harguments : ∀ a ∈ arguments, a.WellFormed) (h : namedType name flags arguments = .ok t) :
    t.WellFormed .ordinary := by
  rw [namedType] at h
  split at h
  · rename_i last hfunction hlast
    obtain ⟨before, rfl⟩ := List.getLast?_eq_some_iff.mp hlast
    rw [List.dropLast_concat] at h
    refine wellFormed_functionType ?_ (harguments last (by simp)).toType h
    intro u hu
    obtain ⟨a, ha, rfl⟩ := List.mem_map.mp hu
    exact (harguments a (List.mem_append_left _ ha)).toType
  · rename_i hnot
    cases h
    refine .named ⟨hnamed, hbounded, fun hfunction => ?_⟩ harguments
    rw [← List.getLast?_eq_none_iff, Option.eq_none_iff_forall_ne_some]
    exact fun last hlast => hnot last (isFunctionName_iff.mpr hfunction) hlast

end KotlinMeta
