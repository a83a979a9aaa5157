import KotlinMeta.Decoding.TypeReference
import KotlinMeta.Node.Build
import KotlinMeta.Proofs.ClassName.Functions
import KotlinMeta.Proofs.Sequence

/-! # The form of a type node

A type node has room for more than it means: a bound, an outer type, a classifier, arguments and
the two sides of an alias can all be there at once. `TypeNode.form` applies the rules of precedence
and picks the part that counts; which side of an alias that is depends on whether aliases are kept.

Every recursion over type nodes follows the form. `TypeNode.induction_on_form` is the induction that
belongs to it, and `TypeNode.resolve_eq` says what resolution does for each form.
-/

set_option autoImplicit false

namespace KotlinMeta

/-- The part of a type node that counts. -/
inductive TypeNode.Form where
  | flexible (upper : TypeNode)
  | inner (outer : TypeNode)
  | unclassified (arguments : List ProjectionNode)
  | parameter (id : UInt32)
  /-- A node that stands for another one: the abbreviation of a class where aliases are kept, the
  expansion of an alias where they are not. -/
  | indirect (target : TypeNode)
  /-- An alias without the expansion that is asked for. -/
  | dangling (name : String) (arguments : List ProjectionNode)
  /-- A class or kept alias with its arguments. -/
  | applied (name : String) (arguments : List ProjectionNode)

namespace TypeNode

/-- The part of a node that counts. -/
def form (keepAliases : Bool) (t : TypeNode) : Form :=
  match t.flexibleUpperBound, t.outerType, t.classifier with
  | some bound, _, _ => .flexible bound.type
  | none, some outer, _ => .inner outer
  | none, none, none => .unclassified t.arguments
  | none, none, some (.typeParameter id) => .parameter id
  | none, none, some (.classNamed name) =>
    match t.abbreviatedType, keepAliases with
    | some written, true => .indirect written
    | _, _ => .applied name t.arguments
  | none, none, some (.typeAlias name) =>
    match keepAliases, t.expandedType with
    | true, _ => .applied name t.arguments
    | false, some expanded => .indirect expanded
    | false, none => .dangling name t.arguments

/-- The nodes in the part that counts. -/
def Form.children : Form → List TypeNode
  | .flexible t | .inner t | .indirect t => [t]
  | .parameter _ => []
  | .unclassified arguments | .dangling _ arguments | .applied _ arguments =>
    arguments.filterMap (·.type)

/-! ## Cases and induction -/

/-- The cases of a node in the order of precedence. -/
@[elab_as_elim]
theorem cases_by_precedence {motive : TypeNode → Prop}
    (flexible : ∀ flags classifier arguments abbreviated expanded outer upper id,
      motive ⟨flags, classifier, arguments, abbreviated, expanded, outer, some ⟨upper, id⟩⟩)
    (inner : ∀ flags classifier arguments abbreviated expanded outer,
      motive ⟨flags, classifier, arguments, abbreviated, expanded, some outer, none⟩)
    (unclassified : ∀ flags arguments abbreviated expanded,
      motive ⟨flags, none, arguments, abbreviated, expanded, none, none⟩)
    (parameter : ∀ flags id arguments abbreviated expanded,
      motive ⟨flags, some (.typeParameter id), arguments, abbreviated, expanded, none, none⟩)
    (classNamed : ∀ flags name arguments abbreviated expanded,
      motive ⟨flags, some (.classNamed name), arguments, abbreviated, expanded, none, none⟩)
    (typeAlias : ∀ flags name arguments abbreviated expanded,
      motive ⟨flags, some (.typeAlias name), arguments, abbreviated, expanded, none, none⟩)
    (t : TypeNode) : motive t := by
  obtain ⟨flags, classifier, arguments, abbreviated, expanded, outer, bound⟩ := t
  cases bound with
  | some bound =>
      obtain ⟨upper, id⟩ := bound
      exact flexible flags classifier arguments abbreviated expanded outer upper id
  | none =>
      cases outer with
      | some outer => exact inner flags classifier arguments abbreviated expanded outer
      | none =>
          rcases classifier with _ | name | id | name
          · exact unclassified flags arguments abbreviated expanded
          · exact classNamed flags name arguments abbreviated expanded
          · exact parameter flags id arguments abbreviated expanded
          · exact typeAlias flags name arguments abbreviated expanded

theorem sizeOf_lt_of_mem_arguments {arguments : List ProjectionNode} {u : TypeNode}
    (h : u ∈ arguments.filterMap (·.type)) : sizeOf u < sizeOf arguments := by
  -- the type of an argument is inside the argument, and that inside the list
  obtain ⟨⟨variance, type⟩, hp, hu⟩ := List.mem_filterMap.mp h
  have hlt := List.sizeOf_lt_of_mem hp
  cases hu
  simp only [ProjectionNode.mk.sizeOf_spec, Option.some.sizeOf_spec] at hlt
  omega

theorem sizeOf_arguments_lt (t : TypeNode) : sizeOf t.arguments < sizeOf t := by
  cases t
  simp only [mk.sizeOf_spec]
  omega

theorem sizeOf_lt_of_mem_children {keepAliases : Bool} {t u : TypeNode}
    (h : u ∈ (t.form keepAliases).children) : sizeOf u < sizeOf t := by
  have harguments : u ∈ t.arguments.filterMap (·.type) → sizeOf u < sizeOf t := fun hu =>
    Nat.lt_trans (sizeOf_lt_of_mem_arguments hu) (sizeOf_arguments_lt t)
  have htarget : ∀ target, sizeOf target < sizeOf t → u ∈ [target] → sizeOf u < sizeOf t := by
    intro target hlt hu
    rwa [List.mem_singleton.mp hu]
  cases t using cases_by_precedence with
  | flexible flags classifier arguments abbreviated expanded outer upper id =>
      exact htarget upper (by simp; omega) h
  | inner flags classifier arguments abbreviated expanded outer =>
      exact htarget outer (by simp; omega) h
  | unclassified flags arguments abbreviated expanded => exact harguments h
  | parameter flags id arguments abbreviated expanded => cases h
  | classNamed flags name arguments abbreviated expanded =>
      rcases abbreviated with _ | written <;> cases keepAliases
      · exact harguments h
      · exact harguments h
      · exact harguments h
      · exact htarget written (by simp; omega) h
  | typeAlias flags name arguments abbreviated expanded =>
      rcases expanded with _ | expanded <;> cases keepAliases
      · exact harguments h
      · exact harguments h
      · exact htarget expanded (by simp; omega) h
      · exact harguments h

/-- Induction on type nodes that goes into the part that counts and into no other. -/
@[elab_as_elim]
theorem induction_on_form {motive : TypeNode → Prop} (keepAliases : Bool)
    (step : ∀ t : TypeNode, (∀ u ∈ (t.form keepAliases).children, motive u) → motive t)
    (t : TypeNode) : motive t :=
  step t fun u hu =>
    have := sizeOf_lt_of_mem_children hu
    induction_on_form keepAliases step u
termination_by sizeOf t

/-! ## Resolution by form -/

theorem resolveAll_eq_mapM (context : TypeContext) (arguments : List ProjectionNode) :
    ProjectionNode.resolveAll context arguments =
      arguments.mapM (ProjectionNode.resolve context) := by
  induction arguments with
  | nil => rw [ProjectionNode.resolveAll, List.mapM_nil]; rfl
  | cons p rest ih => rw [ProjectionNode.resolveAll, List.mapM_cons, ih]

/-- What a node with these flags resolves to, by the part that counts. -/
def Form.resolve (context : TypeContext) (flags : Flags) : Form → Except DecodeError TypeExpr
  | .flexible upper => do
    return (TypeExpr.producerOf (← upper.resolve context)).withNullable flags.isNullableType
  | .inner outer => do
    return (TypeExpr.consumerOf (← outer.resolve context)).withNullable flags.isNullableType
  | .unclassified _ => .error .noClassifier
  | .parameter id =>
    match context.lookup id with
    | some v => .ok (.var v flags.isNullableType)
    | none => .error (.undeclaredParameter id)
  | .indirect target => do
    let t ← target.resolve context
    return t.withNullable (flags.isNullableType || t.isNullable)
  | .dangling name _ => .error (.noExpansion name)
  | .applied name arguments => do
    let name ← referredClass name
    let arguments ← arguments.mapM (ProjectionNode.resolve context)
    return (← namedType name flags arguments).withNullable flags.isNullableType

/-- **Resolution looks at the flags and the part that counts.** -/
theorem resolve_eq (context : TypeContext) (t : TypeNode) :
    t.resolve context = (t.form context.keepAliases).resolve context t.flags := by
  obtain ⟨lookup, keepAliases⟩ := context
  cases t using cases_by_precedence with
  | flexible flags classifier arguments abbreviated expanded outer upper id => rw [resolve]; rfl
  | inner flags classifier arguments abbreviated expanded outer => rw [resolve]; rfl
  | unclassified flags arguments abbreviated expanded => rw [resolve]; rfl
  | parameter flags id arguments abbreviated expanded => rw [resolve]; rfl
  | classNamed flags name arguments abbreviated expanded =>
      rcases abbreviated with _ | written <;> cases keepAliases <;>
        simp only [resolve, form, Form.resolve, resolveAll_eq_mapM]
  | typeAlias flags name arguments abbreviated expanded =>
      cases keepAliases <;> rcases expanded with _ | expanded <;>
        simp [resolve, form, Form.resolve, resolveAll_eq_mapM]

section
variable {context : TypeContext}

/-- A class that can be named is resolved with its arguments. -/
theorem Form.resolve_applied {flags : Flags} {name : String} {c : ClassName}
    (hname : referredClass name = .ok c) (arguments : List ProjectionNode) :
    (Form.applied name arguments).resolve context flags = do
      let args ← arguments.mapM (ProjectionNode.resolve context)
      return (← namedType c flags args).withNullable flags.isNullableType := by
  rw [Form.resolve, hname]
  rfl

/-- The interface of all functions is refused for its name, whatever the arguments are. -/
theorem Form.resolve_unbounded {flags : Flags} {name : String} (arguments : List ProjectionNode)
    (hname : (ClassName.ofMetadata name).qualified = unboundedFunctionName) :
    (Form.applied name arguments).resolve context flags =
      .error (.unboundedFunction unboundedFunctionName) := by
  rw [Form.resolve, referredClass, if_pos hname, hname]
  rfl

/-- A class with arguments that can be resolved. -/
theorem resolve_of_form_applied {t : TypeNode} {name : String} {c : ClassName}
    {arguments : List ProjectionNode} {args : List TypeArg}
    (hform : t.form context.keepAliases = .applied name arguments)
    (hname : referredClass name = .ok c)
    (harguments : arguments.mapM (ProjectionNode.resolve context) = .ok args) :
    t.resolve context =
      (fun type => type.withNullable t.flags.isNullableType) <$> namedType c t.flags args := by
  rw [resolve_eq, hform, Form.resolve_applied hname, harguments]
  rfl

/-- A class that is no function type stands for itself. -/
theorem namedType_of_plain {c : ClassName} {arguments : List TypeArg}
    (h : IsInterfaceName c.qualified → arguments = []) (flags : Flags) :
    namedType c flags arguments = .ok (.named c arguments false) := by
  rw [namedType]
  split
  · rename_i last hfunction hlast
    rw [h (isFunctionName_iff.mp hfunction)] at hlast
    cases hlast
  · rfl

/-- A class that is no function type, with arguments that can be resolved. -/
theorem resolve_of_form_plain {t : TypeNode} {name : String} {c : ClassName}
    {arguments : List ProjectionNode} {args : List TypeArg}
    (hform : t.form context.keepAliases = .applied name arguments)
    (hname : referredClass name = .ok c)
    (harguments : arguments.mapM (ProjectionNode.resolve context) = .ok args)
    (hplain : IsInterfaceName c.qualified → args = []) :
    t.resolve context = .ok (.named c args t.flags.isNullableType) := by
  rw [resolve_of_form_applied hform hname harguments, namedType_of_plain hplain]
  rfl

end

end TypeNode

theorem ProjectionNode.resolve_of {context : TypeContext} (variance : NodeVariance) {t : TypeNode}
    {type : TypeExpr} (h : t.resolve context = .ok type) :
    (ProjectionNode.of variance t).resolve context = .ok (projectedArgument variance type) := by
  rw [ProjectionNode.of, ProjectionNode.resolve, h]
  rfl

end KotlinMeta
