import KotlinMeta.Proofs.ClassName.Functions
import KotlinMeta.Proofs.TypeNode.Slots

/-! # The type nodes that resolve

`TypeNode.Acceptable` says without reference to resolution of the node itself which nodes stand for
types, and `TypeNode.Rejected` which failure a node has that does not: the first one from left to
right, where the name of a class comes before its arguments and the function type behind it after
them. The main result `TypeNode.resolve_accepts` says that resolution goes by these two.
-/

set_option autoImplicit false

namespace KotlinMeta

/-! ## Acceptable nodes -/

mutual

/-- A node is acceptable if the part of it that counts is. -/
inductive TypeNode.Acceptable (context : TypeContext) : TypeNode → Prop
  | of_form {t : TypeNode}
      (acceptable : TypeNode.Form.Acceptable context t.flags (t.form context.keepAliases)) :
      TypeNode.Acceptable context t

inductive TypeNode.Form.Acceptable (context : TypeContext) : Flags → TypeNode.Form → Prop
  | flexible {flags : Flags} {upper : TypeNode} (bound : TypeNode.Acceptable context upper) :
      TypeNode.Form.Acceptable context flags (.flexible upper)
  | inner {flags : Flags} {outer : TypeNode} (around : TypeNode.Acceptable context outer) :
      TypeNode.Form.Acceptable context flags (.inner outer)
  | parameter {flags : Flags} {id : UInt32} (known : context.lookup id ≠ none) :
      TypeNode.Form.Acceptable context flags (.parameter id)
  | indirect {flags : Flags} {target : TypeNode} (behind : TypeNode.Acceptable context target) :
      TypeNode.Form.Acceptable context flags (.indirect target)
  | applied {flags : Flags} {name : String} {arguments : List ProjectionNode}
      (bounded : (ClassName.ofMetadata name).qualified ≠ unboundedFunctionName)
      (parts : ∀ p ∈ arguments, ProjectionNode.Acceptable context p)
      (function : IsInterfaceName (ClassName.ofMetadata name).qualified → arguments ≠ [] →
        ∃ slots, List.Forall₂ (SlotOf context) arguments slots ∧ FunctionSlots flags slots) :
      TypeNode.Form.Acceptable context flags (.applied name arguments)

/-- A projection is a star, or it has a variance and a type. -/
inductive ProjectionNode.Acceptable (context : TypeContext) : ProjectionNode → Prop
  | star : ProjectionNode.Acceptable context ⟨none, none⟩
  | typed {variance : NodeVariance} {t : TypeNode} (type : TypeNode.Acceptable context t) :
      ProjectionNode.Acceptable context ⟨some variance, some t⟩

end

/-! ## Rejected nodes -/

mutual

/-- The first failure of a node is that of the part that counts. -/
inductive TypeNode.Rejected (context : TypeContext) : TypeNode → DecodeError → Prop
  | of_form {t : TypeNode} {e : DecodeError}
      (rejected : TypeNode.Form.Rejected context t.flags (t.form context.keepAliases) e) :
      TypeNode.Rejected context t e

inductive TypeNode.Form.Rejected (context : TypeContext) :
    Flags → TypeNode.Form → DecodeError → Prop
  | flexible {flags : Flags} {upper : TypeNode} {e : DecodeError}
      (bound : TypeNode.Rejected context upper e) :
      TypeNode.Form.Rejected context flags (.flexible upper) e
  | inner {flags : Flags} {outer : TypeNode} {e : DecodeError}
      (around : TypeNode.Rejected context outer e) :
      TypeNode.Form.Rejected context flags (.inner outer) e
  | unclassified {flags : Flags} {arguments : List ProjectionNode} :
      TypeNode.Form.Rejected context flags (.unclassified arguments) .noClassifier
  | parameter {flags : Flags} {id : UInt32} (unknown : context.lookup id = none) :
      TypeNode.Form.Rejected context flags (.parameter id) (.undeclaredParameter id)
  | indirect {flags : Flags} {target : TypeNode} {e : DecodeError}
      (behind : TypeNode.Rejected context target e) :
      TypeNode.Form.Rejected context flags (.indirect target) e
  | dangling {flags : Flags} {name : String} {arguments : List ProjectionNode} :
      TypeNode.Form.Rejected context flags (.dangling name arguments) (.noExpansion name)
  | unbounded {flags : Flags} {name : String} {arguments : List ProjectionNode}
      (unbounded : (ClassName.ofMetadata name).qualified = unboundedFunctionName) :
      TypeNode.Form.Rejected context flags (.applied name arguments)
        (.unboundedFunction unboundedFunctionName)
  | argument {flags : Flags} {name : String} {before after : List ProjectionNode}
      {p : ProjectionNode} {e : DecodeError}
      (bounded : (ClassName.ofMetadata name).qualified ≠ unboundedFunctionName)
      (first : ∀ q ∈ before, ProjectionNode.Acceptable context q)
      (part : ProjectionNode.Rejected context p e) :
      TypeNode.Form.Rejected context flags (.applied name (before ++ p :: after)) e
  | function {flags : Flags} {name : String} {arguments : List ProjectionNode}
      {slots : List TypeExpr} {e : DecodeError}
      (interface : IsInterfaceName (ClassName.ofMetadata name).qualified)
      (filled : List.Forall₂ (SlotOf context) arguments slots)
      (defect : FunctionDefect flags slots e) :
      TypeNode.Form.Rejected context flags (.applied name arguments) e

inductive ProjectionNode.Rejected (context : TypeContext) : ProjectionNode → DecodeError → Prop
  | noVariance {t : TypeNode} :
      ProjectionNode.Rejected context ⟨none, some t⟩ .noProjectionVariance
  | noType {variance : NodeVariance} :
      ProjectionNode.Rejected context ⟨some variance, none⟩ (.noProjectionType variance)
  | typed {variance : NodeVariance} {t : TypeNode} {e : DecodeError}
      (type : TypeNode.Rejected context t e) :
      ProjectionNode.Rejected context ⟨some variance, some t⟩ e

end

/-! ## Resolution by the grammar -/

section
variable {context : TypeContext}

/-- Resolution of a node goes by the two predicates. -/
def TypeNode.Decided (context : TypeContext) (t : TypeNode) : Prop :=
  Decides (t.Acceptable context) (t.Rejected context) (t.resolve context)

theorem ProjectionNode.decides_resolve {p : ProjectionNode} (h : ∀ t ∈ p.type, t.Decided context) :
    Decides (p.Acceptable context) (p.Rejected context) (p.resolve context) := by
  obtain ⟨variance, type⟩ := p
  rcases variance with _ | variance <;> rcases type with _ | t
  · exact (Decides.ok _).congr ⟨fun _ => .star, fun _ => trivial⟩ fun e => ⟨False.elim, nofun⟩
  · refine (Decides.error _).congr ⟨False.elim, nofun⟩ fun e => ?_
    exact ⟨fun he => he ▸ .noVariance, fun | .noVariance => rfl⟩
  · refine (Decides.error _).congr ⟨False.elim, nofun⟩ fun e => ?_
    exact ⟨fun he => he ▸ .noType, fun | .noType => rfl⟩
  · have ht := (h t rfl).map (projectedArgument variance)
    exact ht.congr ⟨.typed, fun | .typed ht => ht⟩ fun e => ⟨.typed, fun | .typed ht => ht⟩

/-- The function type behind an interface, or any other class, once the arguments are there. -/
theorem decides_namedType_of_mapM {arguments : List ProjectionNode} {args : List TypeArg}
    (h : arguments.mapM (ProjectionNode.resolve context) = .ok args) (name : ClassName)
    (flags : Flags) :
    Decides
      (IsInterfaceName name.qualified → arguments ≠ [] →
        ∃ slots, List.Forall₂ (SlotOf context) arguments slots ∧ FunctionSlots flags slots)
      (fun e => IsInterfaceName name.qualified ∧
        ∃ slots, List.Forall₂ (SlotOf context) arguments slots ∧ FunctionDefect flags slots e)
      (namedType name flags args) := by
  have hslots : ∀ {P : List TypeExpr → Prop},
      (∃ slots, List.Forall₂ (SlotOf context) arguments slots ∧ P slots) ↔
        P (args.map TypeArg.toType) := by
    intro P
    simp [forall₂_slotOf_iff, h]
  have hnil : arguments = [] ↔ args = [] := by
    have hlength := (mapM_eq_ok_iff.mp h).length_eq
    rw [← List.length_eq_zero_iff, hlength, List.length_eq_zero_iff]
  by_cases hfunction : IsInterfaceName name.qualified ∧ args ≠ []
  · obtain ⟨hname, hne⟩ := hfunction
    refine (decides_namedType hname hne flags).congr ?_ fun e => ?_
    · rw [hslots]
      exact ⟨fun hfits _ _ => hfits, fun hfits => hfits hname (mt hnil.mp hne)⟩
    · rw [hslots]
      exact (and_iff_right hname).symm
  · have hplain : IsInterfaceName name.qualified → args = [] := by
      intro hname
      by_contra hne
      exact hfunction ⟨hname, hne⟩
    rw [TypeNode.namedType_of_plain hplain]
    refine (Decides.ok _).congr ⟨fun _ hname hne => ?_, fun _ => trivial⟩
      fun e => ⟨False.elim, ?_⟩
    · exact absurd (hnil.mpr (hplain hname)) hne
    · rintro ⟨hname, hdefect⟩
      rw [hslots, hplain hname] at hdefect
      exact hdefect.ne_nil rfl

namespace TypeNode

/-- The name of the interface of all functions is the first thing that is wrong. -/
theorem Form.decides_unbounded {flags : Flags} {name : String} (arguments : List ProjectionNode)
    (hname : (ClassName.ofMetadata name).qualified = unboundedFunctionName) :
    Decides ((Form.applied name arguments).Acceptable context flags)
      ((Form.applied name arguments).Rejected context flags)
      ((Form.applied name arguments).resolve context flags) := by
  rw [Form.resolve_unbounded arguments hname]
  refine (Decides.error _).congr ⟨False.elim, fun | .applied bounded _ _ => bounded hname⟩
    fun e => ⟨fun he => he ▸ .unbounded hname, fun hrejected => ?_⟩
  cases hrejected with
  | unbounded => rfl
  | argument bounded => exact absurd hname bounded
  | function interface => exact absurd hname (IsInterfaceName.ne_unbounded interface)

/-- Any other class has its arguments decided, and then the function type if it stands for one. -/
theorem Form.decides_applied {flags : Flags} {name : String} {arguments : List ProjectionNode}
    (hname : (ClassName.ofMetadata name).qualified ≠ unboundedFunctionName)
    (h : ∀ p ∈ arguments, Decides (p.Acceptable context) (p.Rejected context) (p.resolve context)) :
    Decides ((Form.applied name arguments).Acceptable context flags)
      ((Form.applied name arguments).Rejected context flags)
      ((Form.applied name arguments).resolve context flags) := by
  have hclass : referredClass name = .ok (.ofMetadata name) := if_neg hname
  have hchain := (Decides.mapM h).bind fun args hargs =>
    (decides_namedType_of_mapM hargs (.ofMetadata name) flags).map
      (TypeExpr.withNullable flags.isNullableType)
  rw [Form.resolve_applied hclass]
  refine hchain.congr ?_ fun e => ?_
  · constructor
    · exact fun ⟨parts, function⟩ => .applied hname parts function
    · exact fun | .applied _ parts function => ⟨parts, function⟩
  · constructor
    · rintro (⟨before, p, after, rfl, first, part⟩ | ⟨-, interface, slots, filled, defect⟩)
      · exact .argument hname first part
      · exact .function interface filled defect
    · intro hrejected
      cases hrejected with
      | unbounded unbounded => exact absurd unbounded hname
      | @argument _ _ before after p _ bounded first part =>
          exact Or.inl ⟨before, p, after, rfl, first, part⟩
      | function interface filled defect =>
          -- an argument has a slot only if it is acceptable
          refine Or.inr ⟨fun p hp => ?_, interface, _, filled, defect⟩
          obtain ⟨slot, -, hslot⟩ := exists_of_mem_left filled hp
          obtain ⟨a, ha, -⟩ := slotOf_iff.mp hslot
          exact (h p hp).ok_iff.mp ⟨a, ha⟩

theorem Form.decides_resolve {flags : Flags} {form : Form}
    (h : ∀ t ∈ form.children, t.Decided context) :
    Decides (form.Acceptable context flags) (form.Rejected context flags)
      (form.resolve context flags) := by
  cases form with
  | flexible upper =>
      refine ((h upper (List.mem_singleton_self _)).map _).congr ?_ fun e => ?_
      · exact ⟨.flexible, fun | .flexible hupper => hupper⟩
      · exact ⟨.flexible, fun | .flexible hupper => hupper⟩
  | inner outer =>
      refine ((h outer (List.mem_singleton_self _)).map _).congr ?_ fun e => ?_
      · exact ⟨.inner, fun | .inner houter => houter⟩
      · exact ⟨.inner, fun | .inner houter => houter⟩
  | indirect target =>
      refine ((h target (List.mem_singleton_self _)).map _).congr ?_ fun e => ?_
      · exact ⟨.indirect, fun | .indirect htarget => htarget⟩
      · exact ⟨.indirect, fun | .indirect htarget => htarget⟩
  | unclassified arguments =>
      refine (Decides.error _).congr ⟨False.elim, nofun⟩ fun e => ?_
      exact ⟨fun he => he ▸ .unclassified, fun | .unclassified => rfl⟩
  | dangling name arguments =>
      refine (Decides.error _).congr ⟨False.elim, nofun⟩ fun e => ?_
      exact ⟨fun he => he ▸ .dangling, fun | .dangling => rfl⟩
  | parameter id =>
      rw [Form.resolve]
      cases hlookup : context.lookup id with
      | some v =>
          have hknown : context.lookup id ≠ none := by simp [hlookup]
          refine (Decides.ok _).congr ⟨fun _ => .parameter hknown, fun _ => trivial⟩ fun e => ?_
          refine ⟨False.elim, fun hrejected => ?_⟩
          cases hrejected with
          | parameter hunknown => exact hknown hunknown
      | none =>
          refine (Decides.error _).congr ⟨False.elim, fun haccepted => ?_⟩ fun e => ?_
          · cases haccepted with
            | parameter hknown => exact hknown hlookup
          · constructor
            · rintro rfl
              exact .parameter hlookup
            · intro hrejected
              cases hrejected with
              | parameter => rfl
  | applied name arguments =>
      by_cases hname : (ClassName.ofMetadata name).qualified = unboundedFunctionName
      · exact Form.decides_unbounded arguments hname
      · refine Form.decides_applied hname fun p hp =>
          ProjectionNode.decides_resolve fun t ht => ?_
        exact h t (List.mem_filterMap.mpr ⟨p, hp, ht⟩)

theorem decided (context : TypeContext) (t : TypeNode) : t.Decided context := by
  obtain ⟨lookup, keepAliases⟩ := context
  induction t using induction_on_form keepAliases with
  | step t ih =>
    rw [Decided, resolve_eq]
    exact (Form.decides_resolve ih).congr ⟨.of_form, fun | .of_form h => h⟩
      fun e => ⟨.of_form, fun | .of_form h => h⟩

/-- **Resolution accepts the grammar and nothing else**, and what it rejects fails with the first
thing that is wrong. -/
theorem resolve_accepts (context : TypeContext) (t : TypeNode) :
    ((∃ type, t.resolve context = .ok type) ↔ t.Acceptable context) ∧
      ∀ e, t.resolve context = .error e ↔ t.Rejected context e :=
  ⟨(decided context t).ok_iff, (decided context t).error_iff⟩

end TypeNode

end

end KotlinMeta
