import KotlinMeta.Proofs.TypeExpr.Variables

/-! # The parts of a type

`TypeExpr.children` lists the types that a type is directly made of, and
`TypeExpr.induction_on_children` is the induction that goes into them. What a part names or refers
to, the whole does.
-/

set_option autoImplicit false

namespace KotlinMeta

/-! ## Names of classes -/

mutual

/-- The classes and aliases that a type names, from left to right and once for each time. -/
def TypeExpr.classNames : TypeExpr → List ClassName
  | .named name arguments _ => name :: TypeArg.listClassNames arguments
  | .var _ _ => []
  | .function receiver parameters returnType _ _ =>
    TypeExpr.optionClassNames receiver ++ TypeExpr.listClassNames parameters ++
      returnType.classNames
  | .wildcard bound _ _ => TypeExpr.optionClassNames bound

def TypeExpr.optionClassNames : Option TypeExpr → List ClassName
  | none => []
  | some t => t.classNames

def TypeExpr.listClassNames : List TypeExpr → List ClassName
  | [] => []
  | t :: rest => t.classNames ++ TypeExpr.listClassNames rest

def TypeArg.listClassNames : List TypeArg → List ClassName
  | [] => []
  | ⟨_, t⟩ :: rest => TypeExpr.optionClassNames t ++ TypeArg.listClassNames rest

end

namespace TypeExpr

/-! ## Children -/

/-- The types that a type is directly made of. -/
def children : TypeExpr → List TypeExpr
  | .named _ arguments _ => arguments.filterMap (·.type)
  | .var _ _ => []
  | .function receiver parameters returnType _ _ => receiver.toList ++ parameters ++ [returnType]
  | .wildcard bound _ _ => bound.toList

theorem sizeOf_lt_of_mem_toList {t : Option TypeExpr} {u : TypeExpr} (h : u ∈ t.toList) :
    sizeOf u < sizeOf t := by
  cases Option.mem_toList.mp h
  simp only [Option.some.sizeOf_spec]
  omega

theorem sizeOf_lt_of_mem_children {t u : TypeExpr} (h : u ∈ t.children) :
    sizeOf u < sizeOf t := by
  cases t with
  | named name arguments nullable =>
      obtain ⟨⟨variance, type⟩, ha, hu⟩ := List.mem_filterMap.mp h
      have hlt := List.sizeOf_lt_of_mem ha
      cases hu
      simp only [TypeArg.mk.sizeOf_spec, Option.some.sizeOf_spec, named.sizeOf_spec] at hlt ⊢
      omega
  | var v nullable => cases h
  | function receiver parameters returnType isSuspend nullable =>
      rw [children, List.mem_append, List.mem_append, List.mem_singleton] at h
      simp only [function.sizeOf_spec]
      rcases h with (hu | hu) | rfl
      · have := sizeOf_lt_of_mem_toList hu
        omega
      · have := List.sizeOf_lt_of_mem hu
        omega
      · omega
  | wildcard bound direction nullable =>
      have := sizeOf_lt_of_mem_toList h
      simp only [wildcard.sizeOf_spec]
      omega

/-- Induction on types that goes into their parts, and not into the bounds of variables. -/
@[elab_as_elim]
theorem induction_on_children {motive : TypeExpr → Prop}
    (step : ∀ t : TypeExpr, (∀ u ∈ t.children, motive u) → motive t) (t : TypeExpr) : motive t :=
  step t fun u hu =>
    have := sizeOf_lt_of_mem_children hu
    induction_on_children step u
termination_by sizeOf t

/-! ## What the parts say -/

theorem classNames_subset_list {ts : List TypeExpr} {u : TypeExpr} (h : u ∈ ts) :
    u.classNames ⊆ listClassNames ts := by
  induction ts with
  | nil => cases h
  | cons t rest ih =>
      rw [listClassNames]
      rcases List.mem_cons.mp h with rfl | h
      · exact List.subset_append_left _ _
      · exact List.subset_append_of_subset_right _ (ih h)

theorem classNames_subset_arguments {arguments : List TypeArg} {u : TypeExpr}
    (h : u ∈ arguments.filterMap (·.type)) : u.classNames ⊆ TypeArg.listClassNames arguments := by
  induction arguments with
  | nil => cases h
  | cons a rest ih =>
      obtain ⟨variance, type⟩ := a
      rw [TypeArg.listClassNames]
      cases type with
      | none => exact List.subset_append_of_subset_right _ (ih h)
      | some t =>
          rcases List.mem_cons.mp h with rfl | h
          · exact List.subset_append_left _ _
          · exact List.subset_append_of_subset_right _ (ih h)

theorem classNames_subset_of_mem_children {t u : TypeExpr} (h : u ∈ t.children) :
    u.classNames ⊆ t.classNames := by
  cases t with
  | named name arguments nullable =>
      exact List.subset_cons_of_subset _ (classNames_subset_arguments h)
  | var v nullable => cases h
  | function receiver parameters returnType isSuspend nullable =>
      rw [children, List.mem_append, List.mem_append, List.mem_singleton] at h
      rw [classNames]
      rcases h with (hu | hu) | rfl
      · cases Option.mem_toList.mp hu
        exact List.subset_append_of_subset_left _ (List.subset_append_left _ _)
      · exact List.subset_append_of_subset_left _
          (List.subset_append_of_subset_right _ (classNames_subset_list hu))
      · exact List.subset_append_right _ _
  | wildcard bound direction nullable =>
      cases Option.mem_toList.mp h
      exact List.Subset.refl _

theorem variables_subset_of_mem_children {t u : TypeExpr} (h : u ∈ t.children) :
    u.variables ⊆ t.variables := by
  cases t with
  | named name arguments nullable =>
      obtain ⟨a, ha, hu⟩ := List.mem_filterMap.mp h
      intro v hv
      rw [TypeExpr.variables, TypeArg.listVariables_eq_flatMap]
      refine List.mem_flatMap.mpr ⟨a, ha, ?_⟩
      rwa [TypeArg.variables, hu]
  | var v nullable => cases h
  | function receiver parameters returnType isSuspend nullable =>
      rw [children, List.mem_append, List.mem_append, List.mem_singleton] at h
      rw [TypeExpr.variables]
      rcases h with (hu | hu) | rfl
      · cases Option.mem_toList.mp hu
        exact List.subset_append_of_subset_left _ (List.subset_append_left _ _)
      · intro v hv
        rw [listVariables_eq_flatMap]
        have hmem : v ∈ parameters.flatMap TypeExpr.variables :=
          List.mem_flatMap.mpr ⟨u, hu, hv⟩
        exact List.mem_append_left _ (List.mem_append_right _ hmem)
      · exact List.subset_append_right _ _
  | wildcard bound direction nullable =>
      cases Option.mem_toList.mp h
      exact List.Subset.refl _

end TypeExpr

end KotlinMeta
