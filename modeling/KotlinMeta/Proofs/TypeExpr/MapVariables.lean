import KotlinMeta.Proofs.TypeExpr.Outline
import KotlinMeta.TypeExpr.Notation

/-! # Replacing the variables of a type

Replacing variables acts on the list of variables and on nothing else: the new variables are the
images of the old ones, and the outline is kept. So what is done to other variables does not matter
(`TypeExpr.mapVariables_congr`), and a type can only stay alike if each of its variables does.
All of this is put together in `TypeExpr.mapVariables_faithful`.
-/

set_option autoImplicit false

namespace KotlinMeta

/-! ## The variables and the outline of the result -/

section
variable (f : TypeVar → TypeVar)

theorem TypeExpr.mapList_eq_map (ts : List TypeExpr) :
    TypeExpr.mapList f ts = ts.map (TypeExpr.mapVariables f) := by
  induction ts with
  | nil => rfl
  | cons t rest ih => rw [TypeExpr.mapList, ih, List.map_cons]

mutual

theorem TypeExpr.variables_mapVariables :
    ∀ t : TypeExpr, (t.mapVariables f).variables = t.variables.map f
  | .named name arguments nullable => by
    rw [TypeExpr.mapVariables, TypeExpr.variables, TypeExpr.variables,
      TypeArg.listVariables_mapList arguments]
  | .var v nullable => rfl
  | .function receiver parameters returnType isSuspend nullable => by
    rw [TypeExpr.mapVariables, TypeExpr.variables, TypeExpr.variables,
      TypeExpr.optionVariables_mapOption receiver,
      TypeExpr.listVariables_mapList parameters, returnType.variables_mapVariables,
      List.map_append, List.map_append]
  | .wildcard bound direction nullable => by
    rw [TypeExpr.mapVariables, TypeExpr.variables, TypeExpr.variables,
      TypeExpr.optionVariables_mapOption bound]

theorem TypeExpr.optionVariables_mapOption :
    ∀ t : Option TypeExpr, TypeExpr.optionVariables (TypeExpr.mapOption f t) =
      (TypeExpr.optionVariables t).map f
  | none => rfl
  | some t => by
    rw [TypeExpr.mapOption, TypeExpr.optionVariables, TypeExpr.optionVariables,
      t.variables_mapVariables]

theorem TypeExpr.listVariables_mapList :
    ∀ ts : List TypeExpr, TypeExpr.listVariables (TypeExpr.mapList f ts) =
      (TypeExpr.listVariables ts).map f
  | [] => rfl
  | t :: rest => by
    rw [TypeExpr.mapList, TypeExpr.listVariables, TypeExpr.listVariables, t.variables_mapVariables,
      TypeExpr.listVariables_mapList rest, List.map_append]

theorem TypeArg.listVariables_mapList :
    ∀ as : List TypeArg, TypeArg.listVariables (TypeArg.mapList f as) =
      (TypeArg.listVariables as).map f
  | [] => rfl
  | ⟨variance, t⟩ :: rest => by
    rw [TypeArg.mapList, TypeArg.listVariables, TypeArg.listVariables,
      TypeExpr.optionVariables_mapOption t,
      TypeArg.listVariables_mapList rest, List.map_append]

end

theorem TypeExpr.isSome_mapOption (t : Option TypeExpr) :
    (TypeExpr.mapOption f t).isSome = t.isSome := by
  cases t <;> rfl

theorem TypeArg.map_entry_mapList (as : List TypeArg) :
    (TypeArg.mapList f as).map TypeArg.entry = as.map TypeArg.entry := by
  induction as with
  | nil => rfl
  | cons a rest ih =>
      obtain ⟨variance, t⟩ := a
      rw [TypeArg.mapList, List.map_cons, List.map_cons, ih, TypeArg.entry, TypeArg.entry,
        TypeExpr.isSome_mapOption]

mutual

theorem TypeExpr.outline_mapVariables : ∀ t : TypeExpr, (t.mapVariables f).outline = t.outline
  | .named name arguments nullable => by
    rw [TypeExpr.mapVariables, TypeExpr.outline, TypeExpr.outline, TypeArg.map_entry_mapList,
      TypeArg.listOutline_mapList arguments]
  | .var v nullable => rfl
  | .function receiver parameters returnType isSuspend nullable => by
    rw [TypeExpr.mapVariables, TypeExpr.outline, TypeExpr.outline, TypeExpr.isSome_mapOption,
      TypeExpr.optionOutline_mapOption receiver, TypeExpr.listOutline_mapList parameters,
      returnType.outline_mapVariables, TypeExpr.mapList_eq_map, List.length_map]
  | .wildcard bound direction nullable => by
    rw [TypeExpr.mapVariables, TypeExpr.outline, TypeExpr.outline, TypeExpr.isSome_mapOption,
      TypeExpr.optionOutline_mapOption bound]

theorem TypeExpr.optionOutline_mapOption :
    ∀ t : Option TypeExpr,
      TypeExpr.optionOutline (TypeExpr.mapOption f t) = TypeExpr.optionOutline t
  | none => rfl
  | some t => by
    rw [TypeExpr.mapOption, TypeExpr.optionOutline, TypeExpr.optionOutline,
      t.outline_mapVariables]

theorem TypeExpr.listOutline_mapList :
    ∀ ts : List TypeExpr, TypeExpr.listOutline (TypeExpr.mapList f ts) = TypeExpr.listOutline ts
  | [] => rfl
  | t :: rest => by
    rw [TypeExpr.mapList, TypeExpr.listOutline, TypeExpr.listOutline, t.outline_mapVariables,
      TypeExpr.listOutline_mapList rest]

theorem TypeArg.listOutline_mapList :
    ∀ as : List TypeArg, TypeArg.listOutline (TypeArg.mapList f as) = TypeArg.listOutline as
  | [] => rfl
  | ⟨variance, t⟩ :: rest => by
    rw [TypeArg.mapList, TypeArg.listOutline, TypeArg.listOutline,
      TypeExpr.optionOutline_mapOption t, TypeArg.listOutline_mapList rest]

end

end

/-! ## Variables that are replaced alike -/

section
variable {f g : TypeVar → TypeVar} {t : TypeExpr}

/-- Only the variables of a type count for what it becomes. -/
theorem TypeExpr.mapVariables_congr (h : ∀ v ∈ t.variables, f v = g v) :
    t.mapVariables f = t.mapVariables g := by
  refine TypeExpr.eq_of_outline ?_ ?_
  · rw [TypeExpr.outline_mapVariables, TypeExpr.outline_mapVariables]
  · rw [TypeExpr.variables_mapVariables, TypeExpr.variables_mapVariables]
    exact List.map_congr_left h

/-- With every variable in its own place a type stays as it is. -/
theorem TypeExpr.mapVariables_eq_self (h : ∀ v ∈ t.variables, f v = v) :
    t.mapVariables f = t := by
  refine TypeExpr.eq_of_outline (t.outline_mapVariables f) ?_
  calc (t.mapVariables f).variables
      = t.variables.map f := t.variables_mapVariables f
    _ = t.variables.map id := List.map_congr_left h
    _ = t.variables := List.map_id _

end

/-- Replacing variables twice is replacing them once. -/
theorem TypeExpr.mapVariables_mapVariables (f g : TypeVar → TypeVar) (t : TypeExpr) :
    (t.mapVariables f).mapVariables g = t.mapVariables (fun v => g (f v)) := by
  refine TypeExpr.eq_of_outline ?_ ?_
  · simp only [TypeExpr.outline_mapVariables]
  · simp only [TypeExpr.variables_mapVariables, List.map_map]
    rfl

/-! ## Types that look the same -/

mutual

theorem TypeExpr.alike_refl : ∀ t : TypeExpr, t.alike t = true
  | .named name arguments nullable => by
    rw [TypeExpr.alike, TypeArg.listAlike_refl arguments, beq_self_eq_true, beq_self_eq_true]
    rfl
  | .var v nullable => by
    rw [TypeExpr.alike, v.alike_refl, beq_self_eq_true]
    rfl
  | .function receiver parameters returnType isSuspend nullable => by
    rw [TypeExpr.alike, TypeExpr.optionAlike_refl receiver, TypeExpr.listAlike_refl parameters,
      returnType.alike_refl, beq_self_eq_true, beq_self_eq_true]
    rfl
  | .wildcard bound direction nullable => by
    rw [TypeExpr.alike, TypeExpr.optionAlike_refl bound, beq_self_eq_true, beq_self_eq_true]
    rfl

theorem TypeExpr.optionAlike_refl : ∀ t : Option TypeExpr, TypeExpr.optionAlike t t = true
  | none => by rw [TypeExpr.optionAlike]
  | some t => by rw [TypeExpr.optionAlike, t.alike_refl]

theorem TypeExpr.listAlike_refl : ∀ ts : List TypeExpr, TypeExpr.listAlike ts ts = true
  | [] => by rw [TypeExpr.listAlike]
  | t :: rest => by
    rw [TypeExpr.listAlike, t.alike_refl, TypeExpr.listAlike_refl rest]
    rfl

theorem TypeArg.listAlike_refl : ∀ as : List TypeArg, TypeArg.listAlike as as = true
  | [] => by rw [TypeArg.listAlike]
  | ⟨variance, t⟩ :: rest => by
    rw [TypeArg.listAlike, TypeExpr.optionAlike_refl t, TypeArg.listAlike_refl rest,
      beq_self_eq_true]
    rfl

theorem TypeVar.alike_refl : ∀ v : TypeVar, v.alike v = true
  | ⟨key, name, id, variance, upperBounds, reified⟩ => by
    rw [TypeVar.alike, TypeExpr.listAlike_refl upperBounds, beq_self_eq_true, beq_self_eq_true,
      beq_self_eq_true, beq_self_eq_true]
    rfl

end

section
variable (f : TypeVar → TypeVar)

mutual

/-- A type stays alike only if each of its variables does. -/
theorem TypeExpr.alike_of_mapVariables_alike :
    ∀ t : TypeExpr, (t.mapVariables f).alike t = true → ∀ v ∈ t.variables, (f v).alike v = true
  | .named name arguments nullable, h => by
    simp only [TypeExpr.mapVariables, TypeExpr.alike, Bool.and_eq_true] at h
    exact TypeArg.alike_of_mapList_alike arguments h.1.2
  | .var v nullable, h => by
    simp only [TypeExpr.mapVariables, TypeExpr.alike, Bool.and_eq_true] at h
    intro w hw
    rw [List.mem_singleton.mp hw]
    exact h.1
  | .function receiver parameters returnType isSuspend nullable, h => by
    simp only [TypeExpr.mapVariables, TypeExpr.alike, Bool.and_eq_true] at h
    obtain ⟨⟨⟨⟨hreceiver, hparameters⟩, hreturn⟩, -⟩, -⟩ := h
    intro v hv
    rw [TypeExpr.variables, List.mem_append, List.mem_append] at hv
    rcases hv with (hv | hv) | hv
    · exact TypeExpr.alike_of_mapOption_alike receiver hreceiver v hv
    · exact TypeExpr.alike_of_mapList_alike parameters hparameters v hv
    · exact returnType.alike_of_mapVariables_alike hreturn v hv
  | .wildcard bound direction nullable, h => by
    simp only [TypeExpr.mapVariables, TypeExpr.alike, Bool.and_eq_true] at h
    exact TypeExpr.alike_of_mapOption_alike bound h.1.1

theorem TypeExpr.alike_of_mapOption_alike :
    ∀ t : Option TypeExpr, TypeExpr.optionAlike (TypeExpr.mapOption f t) t = true →
      ∀ v ∈ TypeExpr.optionVariables t, (f v).alike v = true
  | none, _ => fun v hv => absurd hv List.not_mem_nil
  | some t, h => by
    rw [TypeExpr.mapOption, TypeExpr.optionAlike] at h
    exact t.alike_of_mapVariables_alike h

theorem TypeExpr.alike_of_mapList_alike :
    ∀ ts : List TypeExpr, TypeExpr.listAlike (TypeExpr.mapList f ts) ts = true →
      ∀ v ∈ TypeExpr.listVariables ts, (f v).alike v = true
  | [], _ => fun v hv => absurd hv List.not_mem_nil
  | t :: rest, h => by
    simp only [TypeExpr.mapList, TypeExpr.listAlike, Bool.and_eq_true] at h
    intro v hv
    rw [TypeExpr.listVariables, List.mem_append] at hv
    rcases hv with hv | hv
    · exact t.alike_of_mapVariables_alike h.1 v hv
    · exact TypeExpr.alike_of_mapList_alike rest h.2 v hv

theorem TypeArg.alike_of_mapList_alike :
    ∀ as : List TypeArg, TypeArg.listAlike (TypeArg.mapList f as) as = true →
      ∀ v ∈ TypeArg.listVariables as, (f v).alike v = true
  | [], _ => fun v hv => absurd hv List.not_mem_nil
  | ⟨variance, t⟩ :: rest, h => by
    simp only [TypeArg.mapList, TypeArg.listAlike, Bool.and_eq_true] at h
    intro v hv
    rw [TypeArg.listVariables, List.mem_append] at hv
    rcases hv with hv | hv
    · exact TypeExpr.alike_of_mapOption_alike t h.1.2 v hv
    · exact TypeArg.alike_of_mapList_alike rest h.2 v hv

end

end

/-! ## The text of a type -/

section
variable {f : TypeVar → TypeVar}

mutual

/-- Of the variables of a type its text shows the names only. -/
theorem TypeExpr.display_mapVariables (hf : ∀ v, (f v).name = v.name) :
    ∀ t : TypeExpr, (t.mapVariables f).display = t.display
  | .named name arguments nullable => by
    have hempty : (TypeArg.mapList f arguments).isEmpty = arguments.isEmpty := by
      rcases arguments with _ | ⟨⟨_, _⟩, _⟩ <;> rfl
    rw [TypeExpr.mapVariables, TypeExpr.display, TypeExpr.display, hempty,
      TypeArg.displays_mapList hf arguments]
  | .var v nullable => by rw [TypeExpr.mapVariables, TypeExpr.display, TypeExpr.display, hf v]
  | .function receiver parameters returnType isSuspend nullable => by
    rw [TypeExpr.mapVariables, TypeExpr.display, TypeExpr.display,
      TypeExpr.receiverDisplay_mapOption hf receiver, TypeExpr.displays_mapList hf parameters,
      returnType.display_mapVariables hf]
  | .wildcard none direction nullable => by cases direction <;> rfl
  | .wildcard (some bound) direction nullable => by
    cases direction with
    | star => rfl
    | producer =>
        rw [TypeExpr.mapVariables, TypeExpr.mapOption, TypeExpr.display, TypeExpr.display,
          bound.display_mapVariables hf]
    | consumer =>
        rw [TypeExpr.mapVariables, TypeExpr.mapOption, TypeExpr.display, TypeExpr.display,
          bound.display_mapVariables hf]

theorem TypeExpr.receiverDisplay_mapOption (hf : ∀ v, (f v).name = v.name) :
    ∀ t : Option TypeExpr,
      TypeExpr.receiverDisplay (TypeExpr.mapOption f t) = TypeExpr.receiverDisplay t
  | none => rfl
  | some t => by
    have hfunction : (t.mapVariables f).isFunction = t.isFunction := by
      cases t <;> rfl
    rw [TypeExpr.mapOption, TypeExpr.receiverDisplay, TypeExpr.receiverDisplay, hfunction,
      t.display_mapVariables hf]

theorem TypeExpr.displays_mapList (hf : ∀ v, (f v).name = v.name) :
    ∀ ts : List TypeExpr, TypeExpr.displays (TypeExpr.mapList f ts) = TypeExpr.displays ts
  | [] => rfl
  | t :: rest => by
    rw [TypeExpr.mapList, TypeExpr.displays, TypeExpr.displays, t.display_mapVariables hf,
      TypeExpr.displays_mapList hf rest]

theorem TypeArg.displays_mapList (hf : ∀ v, (f v).name = v.name) :
    ∀ as : List TypeArg, TypeArg.displays (TypeArg.mapList f as) = TypeArg.displays as
  | [] => rfl
  | ⟨variance, none⟩ :: rest => by
    rw [TypeArg.mapList, TypeArg.displays, TypeArg.displays, TypeArg.displays_mapList hf rest]
    rfl
  | ⟨variance, some t⟩ :: rest => by
    rw [TypeArg.mapList, TypeExpr.mapOption, TypeArg.displays, TypeArg.displays, TypeArg.display,
      TypeArg.display, t.display_mapVariables hf, TypeArg.displays_mapList hf rest]

end

/-- It suffices that the variables of the type itself keep their names. -/
theorem TypeExpr.display_mapVariables_of_names {t : TypeExpr}
    (h : ∀ v ∈ t.variables, (f v).name = v.name) : (t.mapVariables f).display = t.display := by
  let g : TypeVar → TypeVar := fun v => if (f v).name = v.name then f v else v
  have hg : ∀ v, (g v).name = v.name := by
    intro v
    by_cases hv : (f v).name = v.name
    · simp only [g, if_pos hv, hv]
    · simp only [g, if_neg hv]
  have hsame : t.mapVariables f = t.mapVariables g :=
    TypeExpr.mapVariables_congr fun v hv => (if_pos (h v hv)).symm
  rw [hsame, t.display_mapVariables hg]

end

/-! ## All that replacing variables does -/

/-- **Replacing variables does just that.** A type in which every variable is kept stays as it is,
and to replace variables twice is to replace them once. The variables of the result are the images
of the variables, from left to right, while everything else is kept: the result is the only type
with the same outline and these variables. If the image of some variable looks different, so does
the result, and if the images have the names of the variables, the text of the type stays the
same. -/
theorem TypeExpr.mapVariables_faithful (t : TypeExpr) (f g : TypeVar → TypeVar) :
    t.mapVariables (fun v => v) = t ∧
    (t.mapVariables f).mapVariables g = t.mapVariables (fun v => g (f v)) ∧
    (t.mapVariables f).variables = t.variables.map f ∧
    (t.mapVariables f).outline = t.outline ∧
    (∀ u : TypeExpr, u.outline = t.outline → u.variables = t.variables.map f →
      u = t.mapVariables f) ∧
    ((∃ v ∈ t.variables, (f v).alike v = false) → (t.mapVariables f).alike t = false) ∧
    ((∀ v ∈ t.variables, (f v).name = v.name) → (t.mapVariables f).display = t.display) := by
  refine ⟨TypeExpr.mapVariables_eq_self fun _ _ => rfl, t.mapVariables_mapVariables f g,
    t.variables_mapVariables f, t.outline_mapVariables f, fun u houtline hvariables => ?_,
    fun ⟨v, hv, hdiffers⟩ => ?_, fun hnames => t.display_mapVariables_of_names hnames⟩
  · refine TypeExpr.eq_of_outline ?_ ?_
    · rw [houtline, t.outline_mapVariables f]
    · rw [hvariables, t.variables_mapVariables f]
  · refine Bool.eq_false_iff.mpr fun halike => ?_
    have hsame := TypeExpr.alike_of_mapVariables_alike f t halike v hv
    rw [hdiffers] at hsame
    cases hsame

/-- `(suspend (Map<in K, T?>?).(out K, *) -> T)?` with two parameters. -/
def mapReader (t k : TypeVar) : TypeExpr :=
  .function
    (some (.named ⟨"kotlin.collections", ["Map"]⟩
      [.contravariant (.ofVar k), .invariant (.var t true)] true))
    [.producerOf (.ofVar k), .star] (.ofVar t) true true

theorem mapVariables_faithful_mapReader :
    let t : TypeVar := .plain (.declared [] 0) "T" 0
    let k : TypeVar := .plain (.declared [] 1) "K" 1
    let f : TypeVar → TypeVar := fun v => { v with key := .copyOf v.key, reified := true }
    (mapReader t k).variables = [k, t, k, t] ∧
      (mapReader t k).mapVariables f = mapReader (f t) (f k) ∧
      ((mapReader t k).mapVariables f).alike (mapReader t k) = false ∧
      ((mapReader t k).mapVariables f).display = (mapReader t k).display := by
  intro t k f
  obtain ⟨-, -, -, -, honly, hdiffers, hdisplay⟩ :=
    (mapReader t k).mapVariables_faithful f fun v => v
  have hk : (f k).alike k = false := by simp [f, k, TypeVar.plain, TypeVar.alike]
  exact ⟨rfl, (honly (mapReader (f t) (f k)) rfl rfl).symm,
    hdiffers ⟨k, List.mem_cons_self, hk⟩, hdisplay fun v _ => rfl⟩

end KotlinMeta
