import KotlinMeta.Node.Build
import KotlinMeta.Proofs.Flags.Bits
import KotlinMeta.Proofs.TypeExpr.Variables
import KotlinMeta.Proofs.TypeNode.Form

/-! # The live part of a type node

`TypeNode.live` drops from a node, at every depth, whatever the rules of precedence pass over, and
puts the target of an alias in the place of the alias. The main result `TypeNode.resolve_live` says
that resolution cannot tell a node from its live part, whether it succeeds or fails.
-/

set_option autoImplicit false

namespace KotlinMeta

/-- The nullable flag alone. -/
def Flags.nullableMask : Flags := Flags.none.withOwnBit 0

/-- The flags that say something about a class or alias with its arguments. -/
def Flags.appliedMask : Flags := ((Flags.none.withOwnBit 0).withOwnBit 1).withOwnBit 2

/-! ## The live part -/

/-- The node with the nullable flag set if `nullable` is. -/
def TypeNode.orNullable (nullable : Bool) (t : TypeNode) : TypeNode :=
  if nullable then t.nullable else t

mutual

/-- The node without what resolution passes over. -/
def TypeNode.live (keepAliases : Bool) : TypeNode → TypeNode
  | ⟨flags, classifier, arguments, abbreviated, expanded, outer, flexible⟩ =>
    match flexible, outer with
    | some ⟨upper, _⟩, _ =>
      { TypeNode.empty with
        flags := flags.intersect Flags.nullableMask
        flexibleUpperBound := some ⟨upper.live keepAliases, none⟩ }
    | none, some outer =>
      { TypeNode.empty with
        flags := flags.intersect Flags.nullableMask
        outerType := some (outer.live keepAliases) }
    | none, none =>
      match classifier, keepAliases, abbreviated, expanded with
      | some (.typeParameter id), _, _, _ =>
        { TypeNode.ofParameter id with flags := flags.intersect Flags.nullableMask }
      | some (.classNamed _), true, some written, _ =>
        (written.live keepAliases).orNullable flags.isNullableType
      | some (.typeAlias _), false, _, some expanded =>
        (expanded.live keepAliases).orNullable flags.isNullableType
      | classifier, _, _, _ =>
        { TypeNode.empty with
          flags := flags.intersect Flags.appliedMask
          classifier
          arguments := ProjectionNode.listLive keepAliases arguments }

def ProjectionNode.listLive (keepAliases : Bool) : List ProjectionNode → List ProjectionNode
  | [] => []
  | ⟨variance, type⟩ :: rest =>
    ⟨variance, TypeNode.optionLive keepAliases type⟩ :: ProjectionNode.listLive keepAliases rest

def TypeNode.optionLive (keepAliases : Bool) : Option TypeNode → Option TypeNode
  | none => none
  | some t => some (t.live keepAliases)

end

/-! ## Nullability from outside -/

namespace TypeNode

variable (context : TypeContext)

/-- A function type depends on the flags through two of them. -/
theorem namedType_congr {f g : Flags} (hs : f.isSuspendType = g.isSuspendType)
    (he : f.isExtensionFunctionType = g.isExtensionFunctionType) (name : ClassName)
    (arguments : List TypeArg) : namedType name f arguments = namedType name g arguments := by
  simp only [namedType, functionType, functionOf, hs, he]

theorem ownBit_orNullable (b : Bool) (t : TypeNode) (n : Nat) :
    (t.orNullable b).flags.ownBit n = (t.flags.ownBit n || (b && decide (n = 0))) := by
  cases b with
  | false => simp [orNullable]
  | true =>
      rw [Bool.true_and]
      exact Flags.ownBit_withOwnBit t.flags (by decide) n

theorem form_orNullable (keepAliases b : Bool) (t : TypeNode) :
    (t.orNullable b).form keepAliases = t.form keepAliases := by
  cases b <;> rfl

/-- The nullable flag of a node adds nullability at the outermost level and does nothing else. -/
theorem resolve_orNullable (b : Bool) (t : TypeNode) :
    (t.orNullable b).resolve context =
      (fun type => type.withNullable (b || type.isNullable)) <$> t.resolve context := by
  have hn : (t.orNullable b).flags.isNullableType = (b || t.flags.isNullableType) := by
    rw [Flags.isNullableType, ownBit_orNullable, Flags.isNullableType]
    simp [Bool.or_comm]
  have hs : (t.orNullable b).flags.isSuspendType = t.flags.isSuspendType := by
    rw [Flags.isSuspendType, ownBit_orNullable, Flags.isSuspendType]
    simp
  have he : (t.orNullable b).flags.isExtensionFunctionType = t.flags.isExtensionFunctionType := by
    rw [Flags.isExtensionFunctionType, ownBit_orNullable, Flags.isExtensionFunctionType]
    simp
  -- the part that counts is the same one, and of the flags only the nullable one differs
  rw [resolve_eq, form_orNullable, resolve_eq]
  generalize (t.orNullable b).flags = g at hn hs he
  cases t.form context.keepAliases with
  | flexible upper => simp [Form.resolve, hn]
  | inner outer => simp [Form.resolve, hn]
  | unclassified arguments => rfl
  | parameter id =>
      simp only [Form.resolve, hn]
      cases context.lookup id <;> rfl
  | indirect target => simp [Form.resolve, hn, Bool.or_assoc]
  | dangling name arguments => rfl
  | applied name arguments => simp [Form.resolve, hn, namedType_congr hs he]

/-! ## Resolution of the live part -/

theorem isNullableType_intersect (f : Flags) :
    (f.intersect Flags.nullableMask).isNullableType = f.isNullableType := by
  have hmask : Flags.nullableMask.ownBit 0 = true := by decide
  rw [Flags.isNullableType, Flags.ownBit_intersect, hmask, Bool.and_true, Flags.isNullableType]

/-- A class or alias with its arguments keeps the three flags that say something about it. -/
theorem ownBit_intersect_appliedMask (f : Flags) {n : Nat} (hn : n < 3) :
    (f.intersect Flags.appliedMask).ownBit n = f.ownBit n := by
  have hmask : ∀ m < 3, Flags.appliedMask.ownBit m = true := by decide
  rw [Flags.ownBit_intersect, hmask n hn, Bool.and_true]

theorem mapM_resolve_live {arguments : List ProjectionNode}
    (ih : ∀ u ∈ arguments.filterMap (·.type),
      (u.live context.keepAliases).resolve context = u.resolve context) :
    (ProjectionNode.listLive context.keepAliases arguments).mapM
        (ProjectionNode.resolve context) =
      arguments.mapM (ProjectionNode.resolve context) := by
  induction arguments with
  | nil => rfl
  | cons p rest ihrest =>
      obtain ⟨variance, type⟩ := p
      have hrest := ihrest fun u hu => ih u (by
        cases type with
        | none => exact hu
        | some t => exact List.mem_cons_of_mem t hu)
      rw [ProjectionNode.listLive, List.mapM_cons, List.mapM_cons, hrest]
      congr 1
      cases type with
      | none => rfl
      | some t =>
          cases variance with
          | none => rfl
          | some variance =>
              rw [optionLive, ProjectionNode.resolve, ProjectionNode.resolve,
                ih t List.mem_cons_self]

/-- A class or alias that stands for itself, with whatever is passed over in it. -/
theorem resolve_applied_live {t u : TypeNode} {name : String} {arguments : List ProjectionNode}
    (ht : t.form context.keepAliases = .applied name arguments)
    (hu : u.form context.keepAliases =
      .applied name (ProjectionNode.listLive context.keepAliases arguments))
    (hflags : u.flags = t.flags.intersect Flags.appliedMask)
    (ih : ∀ v ∈ (t.form context.keepAliases).children,
      (v.live context.keepAliases).resolve context = v.resolve context) :
    u.resolve context = t.resolve context := by
  have hbit : ∀ n < 3, u.flags.ownBit n = t.flags.ownBit n := fun n hn => by
    rw [hflags, ownBit_intersect_appliedMask _ hn]
  rw [ht] at ih
  rw [resolve_eq, hu, resolve_eq, ht, Form.resolve, Form.resolve, mapM_resolve_live context ih]
  simp only [Flags.isNullableType, hbit 0 (by decide),
    namedType_congr (hbit 1 (by decide)) (hbit 2 (by decide))]

/-- Resolution cannot tell a node from its live part. -/
theorem resolve_live_part (t : TypeNode) :
    (t.live context.keepAliases).resolve context = t.resolve context := by
  obtain ⟨lookup, keepAliases⟩ := context
  -- the hypothesis is about the nodes in the part that counts, and no others are left in `live`
  induction t using induction_on_form keepAliases with
  | step t ih =>
    have htarget : ∀ target, target ∈ (Form.indirect target).children :=
      List.mem_singleton_self
    cases t using cases_by_precedence with
    | flexible flags classifier arguments abbreviated expanded outer upper id =>
        simp only [live, TypeNode.empty, resolve, isNullableType_intersect,
          ih upper (htarget upper)]
    | inner flags classifier arguments abbreviated expanded outer =>
        simp only [live, TypeNode.empty, resolve, isNullableType_intersect,
          ih outer (htarget outer)]
    | unclassified flags arguments abbreviated expanded =>
        simp only [live, TypeNode.empty, resolve]
    | parameter flags id arguments abbreviated expanded =>
        simp only [live, resolve, TypeNode.ofParameter, isNullableType_intersect, TypeNode.empty]
    | classNamed flags name arguments abbreviated expanded =>
        rcases abbreviated with _ | written <;> cases keepAliases <;> simp only [live]
        · exact resolve_applied_live ⟨lookup, false⟩ rfl rfl rfl ih
        · exact resolve_applied_live ⟨lookup, true⟩ rfl rfl rfl ih
        · exact resolve_applied_live ⟨lookup, false⟩ rfl rfl rfl ih
        -- the abbreviation of a kept alias: nullable if either node is
        · rw [resolve_orNullable, ih written (htarget written)]
          simp [resolve, monad_norm]
    | typeAlias flags name arguments abbreviated expanded =>
        cases keepAliases with
        | true =>
            simp only [live]
            exact resolve_applied_live ⟨lookup, true⟩ rfl rfl rfl ih
        | false =>
            rcases expanded with _ | expanded
            · simp only [live, TypeNode.empty, resolve]
              rfl
            · simp only [live, resolve_orNullable, ih expanded (htarget expanded)]
              simp [resolve, monad_norm]

end TypeNode

/-! ## Edits at every depth -/

mutual

/-- The node with `edit` applied to every node in it, live or not, the innermost first. -/
def TypeNode.everywhere (edit : TypeNode → TypeNode) : TypeNode → TypeNode
  | ⟨flags, classifier, arguments, abbreviated, expanded, outer, flexible⟩ =>
    edit
      { flags, classifier
        arguments := ProjectionNode.listEverywhere edit arguments
        abbreviatedType := TypeNode.optionEverywhere edit abbreviated
        expandedType := TypeNode.optionEverywhere edit expanded
        outerType := TypeNode.optionEverywhere edit outer
        flexibleUpperBound := FlexibleBoundNode.optionEverywhere edit flexible }

def ProjectionNode.listEverywhere (edit : TypeNode → TypeNode) :
    List ProjectionNode → List ProjectionNode
  | [] => []
  | ⟨variance, type⟩ :: rest =>
    ⟨variance, TypeNode.optionEverywhere edit type⟩ :: ProjectionNode.listEverywhere edit rest

def TypeNode.optionEverywhere (edit : TypeNode → TypeNode) : Option TypeNode → Option TypeNode
  | none => none
  | some t => some (t.everywhere edit)

def FlexibleBoundNode.optionEverywhere (edit : TypeNode → TypeNode) :
    Option FlexibleBoundNode → Option FlexibleBoundNode
  | none => none
  | some ⟨upper, id⟩ => some ⟨upper.everywhere edit, id⟩

end

namespace TypeNode

theorem listLive_everywhere {keepAliases : Bool} {edit : TypeNode → TypeNode}
    {arguments : List ProjectionNode}
    (ih : ∀ u ∈ arguments.filterMap (·.type),
      (u.everywhere edit).live keepAliases = u.live keepAliases) :
    ProjectionNode.listLive keepAliases (ProjectionNode.listEverywhere edit arguments) =
      ProjectionNode.listLive keepAliases arguments := by
  induction arguments with
  | nil => rfl
  | cons p rest ihrest =>
      obtain ⟨variance, type⟩ := p
      have hrest := ihrest fun u hu => ih u (by
        cases type with
        | none => exact hu
        | some t => exact List.mem_cons_of_mem t hu)
      rw [ProjectionNode.listEverywhere, ProjectionNode.listLive, ProjectionNode.listLive, hrest]
      cases type with
      | none => rfl
      | some t =>
          have ht := ih t List.mem_cons_self
          rw [optionEverywhere, optionLive, optionLive, ht]

/-- An edit that leaves the live part of each node alone leaves the live part of the whole alone. -/
theorem live_everywhere {keepAliases : Bool} {edit : TypeNode → TypeNode}
    (hedit : ∀ t, (edit t).live keepAliases = t.live keepAliases) (t : TypeNode) :
    (t.everywhere edit).live keepAliases = t.live keepAliases := by
  -- `hedit` takes the outermost edit away, and the hypothesis those inside the part that counts
  induction t using induction_on_form keepAliases with
  | step t ih =>
    have htarget : ∀ target, target ∈ (Form.indirect target).children :=
      List.mem_singleton_self
    cases t using cases_by_precedence with
    | flexible flags classifier arguments abbreviated expanded outer upper id =>
        rw [everywhere, hedit]
        simp only [FlexibleBoundNode.optionEverywhere, live, ih upper (htarget upper)]
    | inner flags classifier arguments abbreviated expanded outer =>
        rw [everywhere, hedit]
        simp only [FlexibleBoundNode.optionEverywhere, optionEverywhere, live,
          ih outer (htarget outer)]
    | unclassified flags arguments abbreviated expanded =>
        rw [everywhere, hedit]
        simp only [FlexibleBoundNode.optionEverywhere, optionEverywhere, live,
          listLive_everywhere ih]
    | parameter flags id arguments abbreviated expanded =>
        rw [everywhere, hedit]
        simp only [FlexibleBoundNode.optionEverywhere, optionEverywhere, live]
    | classNamed flags name arguments abbreviated expanded =>
        rw [everywhere, hedit]
        rcases abbreviated with _ | written <;> cases keepAliases <;>
          simp only [FlexibleBoundNode.optionEverywhere, optionEverywhere, live]
        · rw [listLive_everywhere ih]
        · rw [listLive_everywhere ih]
        · rw [listLive_everywhere ih]
        · rw [ih written (htarget written)]
    | typeAlias flags name arguments abbreviated expanded =>
        rw [everywhere, hedit]
        rcases expanded with _ | expanded <;> cases keepAliases <;>
          simp only [FlexibleBoundNode.optionEverywhere, optionEverywhere, live]
        · rw [listLive_everywhere ih]
        · rw [listLive_everywhere ih]
        · rw [ih expanded (htarget expanded)]
        · rw [listLive_everywhere ih]

/-! ## Resolution by the live part -/

/-- The arguments of an alias whose expansion is there, replaced. -/
def withAliasArguments (replacement : TypeNode → List ProjectionNode) (t : TypeNode) : TypeNode :=
  match t.classifier, t.expandedType with
  | some (.typeAlias _), some _ => { t with arguments := replacement t }
  | _, _ => t

theorem live_withAliasArguments (replacement : TypeNode → List ProjectionNode) (t : TypeNode) :
    (t.withAliasArguments replacement).live false = t.live false := by
  cases t using cases_by_precedence with
  | flexible flags classifier arguments abbreviated expanded outer upper id =>
      rw [withAliasArguments]
      split <;> simp only [live]
  | inner flags classifier arguments abbreviated expanded outer =>
      rw [withAliasArguments]
      split <;> simp only [live]
  | unclassified flags arguments abbreviated expanded => rfl
  | parameter flags id arguments abbreviated expanded => rfl
  | classNamed flags name arguments abbreviated expanded => rfl
  | typeAlias flags name arguments abbreviated expanded =>
      rcases expanded with _ | expanded
      · rfl
      · simp only [withAliasArguments, live]

theorem live_abbreviatedType (abbreviated : Option TypeNode) (t : TypeNode) :
    { t with abbreviatedType := abbreviated }.live false = t.live false := by
  cases t using cases_by_precedence with
  | typeAlias flags name arguments written expanded =>
      rcases expanded with _ | expanded <;> simp only [live]
  | _ => simp only [live]

theorem live_expandedType (expanded : Option TypeNode) (t : TypeNode) :
    { t with expandedType := expanded }.live true = t.live true := by
  cases t using cases_by_precedence with
  | classNamed flags name arguments abbreviated behind =>
      rcases abbreviated with _ | written <;> simp only [live]
  | _ => simp only [live]

/-- An edit that leaves the live part of each node alone does not change what a type refers to. -/
theorem resolve_everywhere (context : TypeContext) {edit : TypeNode → TypeNode}
    (hedit : ∀ t, (edit t).live context.keepAliases = t.live context.keepAliases) (t : TypeNode) :
    (t.everywhere edit).resolve context = t.resolve context := by
  rw [← resolve_live_part, live_everywhere hedit, resolve_live_part]

/-- **Resolution depends on the live part of a node alone, and an alias is nothing but another
way to write its target.** In order: a node resolves as its live part does; where aliases are
expanded, neither abbreviations nor the arguments of an alias matter at any depth, and where they
are kept, expansions do not; an alias resolves as its expansion with the nullability of both, and
so does a class as its abbreviation. -/
theorem resolve_live (lookup : ParameterLookup) (t : TypeNode) :
    (∀ keepAliases,
      t.resolve ⟨lookup, keepAliases⟩ = (t.live keepAliases).resolve ⟨lookup, keepAliases⟩) ∧
    (∀ abbreviation : TypeNode → Option TypeNode,
      (t.everywhere fun u => { u with abbreviatedType := abbreviation u }).resolve
        ⟨lookup, false⟩ = t.resolve ⟨lookup, false⟩) ∧
    (∀ arguments : TypeNode → List ProjectionNode,
      (t.everywhere (withAliasArguments arguments)).resolve ⟨lookup, false⟩ =
        t.resolve ⟨lookup, false⟩) ∧
    (∀ expansion : TypeNode → Option TypeNode,
      (t.everywhere fun u => { u with expandedType := expansion u }).resolve
        ⟨lookup, true⟩ = t.resolve ⟨lookup, true⟩) ∧
    (∀ flags name arguments abbreviated,
      TypeNode.resolve ⟨lookup, false⟩
          ⟨flags, some (.typeAlias name), arguments, abbreviated, some t, none, none⟩ =
        (t.orNullable flags.isNullableType).resolve ⟨lookup, false⟩) ∧
    (∀ flags name arguments expanded,
      TypeNode.resolve ⟨lookup, true⟩
          ⟨flags, some (.classNamed name), arguments, some t, expanded, none, none⟩ =
        (t.orNullable flags.isNullableType).resolve ⟨lookup, true⟩) := by
  refine ⟨?_, ?_, ?_, ?_, ?_, ?_⟩
  · intro keepAliases
    exact (resolve_live_part ⟨lookup, keepAliases⟩ t).symm
  · intro abbreviation
    exact resolve_everywhere ⟨lookup, false⟩ (fun u => live_abbreviatedType (abbreviation u) u) t
  · intro arguments
    exact resolve_everywhere ⟨lookup, false⟩ (live_withAliasArguments arguments) t
  · intro expansion
    exact resolve_everywhere ⟨lookup, true⟩ (fun u => live_expandedType (expansion u) u) t
  · intro flags name arguments abbreviated
    rw [resolve_orNullable]
    simp [resolve, monad_norm]
  · intro flags name arguments expanded
    rw [resolve_orNullable]
    simp [resolve, monad_norm]

end TypeNode

end KotlinMeta
