import KotlinMeta.Proofs.Decoding.Parts
import KotlinMeta.Proofs.TypeNode.References

/-! # The first failure of a class

Decoding a class looks at its nodes in a fixed order. `ClassNode.checks` lists what it looks at,
each type with the numbers that can be seen from it, and `ClassNode.decode_checked` says that the
class fails with the failure of the first check that fails. A reference that no declaration can be
seen for is therefore to blame, unless something before it is.
-/

set_option autoImplicit false

namespace KotlinMeta

/-! ## Checks -/

/-- Something that decoding looks at. -/
inductive Check where
  /-- A type where these numbers can be seen. -/
  | type (visible : List UInt32) (t : TypeNode)
  /-- A value parameter without any type. -/
  | untyped (name : String)
  /-- The number of primary constructors. -/
  | primaries (className : String) (count : Nat)

/-- The look-up finds something for these numbers and for no others. -/
def Declares (lookup : ParameterLookup) (visible : List UInt32) : Prop :=
  ∀ k, lookup k ≠ none ↔ k ∈ visible

namespace Check

def Passes (keepAliases : Bool) : Check → Prop
  | .type visible t =>
    ∃ lookup type, Declares lookup visible ∧ t.resolve ⟨lookup, keepAliases⟩ = .ok type
  | .untyped _ => False
  | .primaries _ count => count ≤ 1

def Fails (keepAliases : Bool) (e : DecodeError) : Check → Prop
  | .type visible t =>
    ∃ lookup, Declares lookup visible ∧ t.resolve ⟨lookup, keepAliases⟩ = .error e
  | .untyped name => e = .untypedParameter name
  | .primaries className count => 1 < count ∧ e = .severalPrimaries className count

end Check

/-- The result of going through the checks: success if all of them pass, or the failure of the
first that does not. -/
def Checked {α : Type} (keepAliases : Bool) (checks : List Check) (r : Except DecodeError α) :
    Prop :=
  match r with
  | .ok _ => ∀ check ∈ checks, check.Passes keepAliases
  | .error e => ∃ before check after, checks = before ++ check :: after ∧
      (∀ b ∈ before, b.Passes keepAliases) ∧ check.Fails keepAliases e

namespace Checked

variable {α β : Type} {keepAliases : Bool}

theorem ok (a : α) : Checked keepAliases [] (.ok a) := fun _ h => absurd h List.not_mem_nil

theorem bind {checks more : List Check} {x : Except DecodeError α}
    {f : α → Except DecodeError β} (hx : Checked keepAliases checks x)
    (hf : ∀ a, x = .ok a → Checked keepAliases more (f a)) :
    Checked keepAliases (checks ++ more) (x >>= f) := by
  cases x with
  | error e =>
      obtain ⟨before, check, after, rfl, hpasses, hfails⟩ := hx
      exact ⟨before, check, after ++ more, List.append_assoc .., hpasses, hfails⟩
  | ok a =>
      have hrest := hf a rfl
      show Checked keepAliases (checks ++ more) (f a)
      cases hfa : f a with
      | error e =>
          rw [hfa] at hrest
          obtain ⟨before, check, after, rfl, hpasses, hfails⟩ := hrest
          refine ⟨checks ++ before, check, after, (List.append_assoc ..).symm, ?_, hfails⟩
          intro b hb
          rcases List.mem_append.mp hb with hb | hb
          · exact hx b hb
          · exact hpasses b hb
      | ok b =>
          rw [hfa] at hrest
          intro check hcheck
          rcases List.mem_append.mp hcheck with hcheck | hcheck
          · exact hx check hcheck
          · exact hrest check hcheck

/-- A check that does not pass, or one before it, is to blame. -/
theorem fails_of_not_passes {before after : List Check} {check : Check} {r : Except DecodeError α}
    (h : Checked keepAliases (before ++ check :: after) r) (hcheck : ¬ check.Passes keepAliases) :
    ∃ e, r = .error e ∧ (check.Fails keepAliases e ∨ ∃ b ∈ before, b.Fails keepAliases e) := by
  cases r with
  | ok a => exact absurd (h check (by simp)) hcheck
  | error e =>
      obtain ⟨passed, failed, rest, hsplit, hpassed, hfailed⟩ := h
      refine ⟨e, rfl, ?_⟩
      rcases split_cases hsplit with hbefore | ⟨-, rfl⟩ | hafter
      · exact Or.inr ⟨failed, hbefore, hfailed⟩
      · exact Or.inl hfailed
      · exact absurd (hpassed check hafter) hcheck

theorem map {checks : List Check} {x : Except DecodeError α} (hx : Checked keepAliases checks x)
    (f : α → β) : Checked keepAliases checks (x >>= fun a => .ok (f a)) := by
  rw [← List.append_nil checks]
  exact hx.bind fun a _ => .ok (f a)

theorem mapM {γ : Type} {checks : γ → List Check} {f : γ → Except DecodeError α} {xs : List γ}
    (h : ∀ x ∈ xs, Checked keepAliases (checks x) (f x)) :
    Checked keepAliases (xs.flatMap checks) (xs.mapM f) := by
  induction xs with
  | nil => exact .ok []
  | cons x xs ih =>
      rw [List.flatMap_cons, List.mapM_cons]
      refine (h x List.mem_cons_self).bind fun a _ => ?_
      exact (ih fun y hy => h y (List.mem_cons_of_mem x hy)).map _

theorem mapM_zipIdx {γ : Type} {checks : γ → List Check} {f : γ × Nat → Except DecodeError α}
    {xs : List γ} (h : ∀ x i, Checked keepAliases (checks x) (f (x, i))) :
    Checked keepAliases (xs.flatMap checks) (xs.zipIdx.mapM f) := by
  have hnumbered : xs.zipIdx.flatMap (fun x => checks x.1) = xs.flatMap checks := by
    rw [← List.flatMap_map (f := Prod.fst) (g := checks), List.zipIdx_map_fst]
  rw [← hnumbered]
  exact .mapM fun x _ => h x.1 x.2

/-- A type resolved where exactly these numbers are declared. -/
theorem type {lookup : ParameterLookup} {visible : List UInt32} (h : Declares lookup visible)
    (t : TypeNode) :
    Checked keepAliases [.type visible t] (t.resolve ⟨lookup, keepAliases⟩) := by
  cases ht : t.resolve ⟨lookup, keepAliases⟩ with
  | error e => exact ⟨[], _, [], rfl, fun b hb => absurd hb List.not_mem_nil, lookup, h, ht⟩
  | ok type =>
      intro check hcheck
      rw [List.mem_singleton.mp hcheck]
      exact ⟨lookup, type, h, ht⟩

theorem types {lookup : ParameterLookup} {visible : List UInt32} (h : Declares lookup visible)
    (ts : List TypeNode) :
    Checked keepAliases (ts.map (.type visible))
      (ts.mapM (TypeNode.resolve ⟨lookup, keepAliases⟩)) := by
  rw [← List.flatMap_singleton' (ts.map _), List.flatMap_map]
  exact .mapM fun t _ => .type h t

end Checked

/-! ## What decoding looks at -/

/-- The bounds of type parameters, each seeing the parameters before it. -/
def boundChecks (visible : List UInt32) : List TypeParameterNode → List Check
  | [] => []
  | p :: rest => p.upperBounds.map (.type visible) ++ boundChecks (p.id :: visible) rest

/-- The numbers that can be seen where type parameters are declared, too. -/
def withParameters (ps : List TypeParameterNode) (visible : List UInt32) : List UInt32 :=
  (ps.map (·.id)).reverse ++ visible

def ValueParameterNode.check (visible : List UInt32) (p : ValueParameterNode) : Check :=
  match p.varargElementType, p.type with
  | some element, _ => .type visible element
  | none, some t => .type visible t
  | none, none => .untyped p.name

def ConstructorNode.checks (visible : List UInt32) (c : ConstructorNode) : List Check :=
  c.valueParameters.map (ValueParameterNode.check visible)

def FunctionNode.checks (visible : List UInt32) (f : FunctionNode) : List Check :=
  let inside := withParameters f.typeParameters visible
  boundChecks visible f.typeParameters ++ f.receiverType.toList.map (.type inside) ++
    f.valueParameters.map (ValueParameterNode.check inside) ++ [.type inside f.returnType]

def PropertyNode.checks (visible : List UInt32) (p : PropertyNode) : List Check :=
  let inside := withParameters p.typeParameters visible
  boundChecks visible p.typeParameters ++ p.receiverType.toList.map (.type inside) ++
    [.type inside p.returnType]

/-- What decoding a class looks at, in order. -/
def ClassNode.checks (c : ClassNode) : List Check :=
  let visible := withParameters c.typeParameters []
  let primaries := (c.constructors.filter (·.flags.isPrimaryConstructor)).length
  boundChecks [] c.typeParameters ++ c.supertypes.map (.type visible) ++
    c.constructors.flatMap (ConstructorNode.checks visible) ++ [.primaries c.name primaries] ++
    c.properties.flatMap (PropertyNode.checks visible) ++
    c.functions.flatMap (FunctionNode.checks visible)

/-! ## Decoding goes through the checks -/

section
variable {s : Scope} {visible : List UInt32} (h : Declares s.lookup visible)
include h

theorem Declares.declare (v : TypeVar) : Declares (s.declare v).lookup (v.id :: visible) := by
  intro k
  rw [Scope.lookup_ne_none_iff, List.mem_cons, ← h k, Scope.lookup_ne_none_iff]
  simp only [Scope.visible, Scope.declare, List.flatten_cons, List.mem_append, List.mem_singleton]
  constructor
  · rintro ⟨w, (hw | rfl) | hw, hid⟩
    · exact Or.inr ⟨w, Or.inl hw, hid⟩
    · exact Or.inl hid.symm
    · exact Or.inr ⟨w, Or.inr hw, hid⟩
  · rintro (rfl | ⟨w, hw | hw, hid⟩)
    · exact ⟨v, Or.inl (Or.inr rfl), rfl⟩
    · exact ⟨w, Or.inl (Or.inl hw), hid⟩
    · exact ⟨w, Or.inr hw, hid⟩

theorem Declares.child (n : Nat) : Declares (s.child n).lookup visible := by
  intro k
  rw [← h k, Scope.lookup_ne_none_iff, Scope.lookup_ne_none_iff]
  rfl

end

/-- Declaring type parameters goes through their bounds. -/
theorem Scope.extended_checked (keepAliases : Bool) {s : Scope} {visible : List UInt32}
    (h : Declares s.lookup visible) (ps : List TypeParameterNode) :
    Checked keepAliases (boundChecks visible ps) (s.extended keepAliases ps) ∧
      ∀ s', s.extended keepAliases ps = .ok s' →
        Declares s'.lookup (withParameters ps visible) := by
  induction ps generalizing s visible with
  | nil =>
      refine ⟨.ok s, fun s' hs' => ?_⟩
      cases hs'
      exact h
  | cons p rest ih =>
      rw [extended_cons, boundChecks]
      have hresolve : Checked keepAliases (p.upperBounds.map (.type visible))
          (p.resolve (s.context keepAliases) s.nextKey) := (Checked.types h p.upperBounds).map _
      have hid : ∀ v, p.resolve (s.context keepAliases) s.nextKey = .ok v → v.id = p.id :=
        fun v hv => (TypeParameterNode.resolve_eq_ok hv).2.2.1
      refine ⟨hresolve.bind fun v hv => ?_, fun s' hs' => ?_⟩
      · rw [← hid v hv]
        exact (ih (h.declare v)).1
      · obtain ⟨v, hv, hs'⟩ := Except.bind_eq_ok.mp hs'
        have hrest := (ih (h.declare v)).2 s' hs'
        rw [hid v hv] at hrest
        simpa [withParameters] using hrest

section
variable {options : DecodeOptions} {s : Scope} {visible : List UInt32}
  (h : Declares s.lookup visible)
include h

theorem ValueParameterNode.decode_checked (p : ValueParameterNode) :
    Checked options.keepAliases [p.check visible] (p.decode options s) := by
  obtain ⟨flags, name, t, element⟩ := p
  rcases element with _ | element
  · rcases t with _ | t
    · exact ⟨[], _, [], rfl, fun b hb => absurd hb List.not_mem_nil, rfl⟩
    · exact (Checked.type h t).map _
  · exact (Checked.type h element).map _

theorem ValueParameterNode.decode_checked_list (ps : List ValueParameterNode) :
    Checked options.keepAliases (ps.map (ValueParameterNode.check visible))
      (ps.mapM (ValueParameterNode.decode options s)) := by
  rw [← List.flatMap_singleton' (ps.map _), List.flatMap_map]
  exact .mapM fun p _ => p.decode_checked h

theorem TypeNode.decodeOption_checked (t : Option TypeNode) :
    Checked options.keepAliases (t.toList.map (.type visible))
      (TypeNode.decodeOption options s t) := by
  cases t with
  | none => exact .ok none
  | some t => exact (Checked.type h t).map _

theorem ConstructorNode.decode_checked (c : ConstructorNode) :
    Checked options.keepAliases (c.checks visible) (c.decode options s) :=
  (ValueParameterNode.decode_checked_list h c.valueParameters).map _

theorem FunctionNode.decode_checked (f : FunctionNode) :
    Checked options.keepAliases (f.checks visible) (f.decode options s) := by
  obtain ⟨hextended, hinside⟩ :=
    Scope.extended_checked options.keepAliases h f.typeParameters
  rw [FunctionNode.checks, List.append_assoc, List.append_assoc]
  refine hextended.bind fun s' hs' => ?_
  refine (TypeNode.decodeOption_checked (hinside s' hs') f.receiverType).bind fun r _ => ?_
  refine (ValueParameterNode.decode_checked_list (hinside s' hs') f.valueParameters).bind
    fun q _ => ?_
  exact (Checked.type (hinside s' hs') f.returnType).map _

theorem PropertyNode.decode_checked (p : PropertyNode) :
    Checked options.keepAliases (p.checks visible) (p.decode options s) := by
  obtain ⟨hextended, hinside⟩ :=
    Scope.extended_checked options.keepAliases h p.typeParameters
  rw [PropertyNode.checks, List.append_assoc]
  refine hextended.bind fun s' hs' => ?_
  refine (TypeNode.decodeOption_checked (hinside s' hs') p.receiverType).bind fun r _ => ?_
  exact (Checked.type (hinside s' hs') p.returnType).map _

end

theorem primaries_eq {options : DecodeOptions} {s : Scope} {cs : List ConstructorNode}
    {ds : List ConstructorDecl}
    (h : List.Forall₂ (fun k e => k.decode options s = .ok e) cs ds) :
    (ds.filter (·.isPrimary)).length =
      (cs.filter (·.flags.isPrimaryConstructor)).length := by
  induction h with
  | nil => rfl
  | cons hd _ ih =>
      obtain ⟨hflags, -⟩ := ConstructorNode.decode_eq_ok hd
      rw [List.filter_cons, List.filter_cons, ConstructorDecl.isPrimary, hflags]
      split
      · rw [List.length_cons, List.length_cons, ih]
      · exact ih

/-- **A class is decoded by going through its checks**: it fails with the failure of the first
check that fails, and succeeds if all pass. -/
theorem ClassNode.decode_checked (options : DecodeOptions) (c : ClassNode) :
    Checked options.keepAliases c.checks (c.decode options) := by
  have hroot : Declares Scope.root.lookup [] := by
    intro k
    rw [Scope.lookup_ne_none_iff]
    simp [Scope.visible, Scope.root]
  obtain ⟨hextended, hvisible⟩ := Scope.extended_checked options.keepAliases hroot c.typeParameters
  rw [ClassNode.checks]
  simp only [List.append_assoc]
  refine hextended.bind fun s hs => ?_
  have hs := hvisible s hs
  refine (Checked.types hs c.supertypes).bind fun supertypes _ => ?_
  refine (Checked.mapM fun k _ => k.decode_checked hs).bind fun constructors hconstructors => ?_
  refine Checked.bind ?_ fun _ _ => ?_
  -- decoding counts the primary constructors among the declarations, the check among the nodes
  · rw [checkPrimaries, primaries_eq (mapM_eq_ok_iff.mp hconstructors)]
    split
    · rename_i hseveral
      exact ⟨[], _, [], rfl, fun b hb => absurd hb List.not_mem_nil, hseveral, rfl⟩
    · rename_i hone
      intro check hcheck
      rw [List.mem_singleton.mp hcheck]
      exact Nat.le_of_not_lt hone
  refine (Checked.mapM_zipIdx fun p i => p.decode_checked (hs.child i)).bind fun properties _ => ?_
  exact (Checked.mapM_zipIdx fun f i => f.decode_checked (hs.child _)).map _

/-- A type fails where it is looked at, no matter what the numbers stand for that are not among
the first ones looked up. -/
def TypeNode.FailsWithin (keepAliases : Bool) (visible seen : List UInt32) (e : DecodeError)
    (t : TypeNode) : Prop :=
  ∃ lookup, Declares lookup visible ∧
    ∀ other, (∀ k ∈ seen, other k = lookup k) → t.resolve ⟨other, keepAliases⟩ = .error e

/-- A live reference without a declaration is to blame, unless an earlier check fails or its own
type fails before the reference is looked up. -/
theorem Checked.undeclared {α : Type} {keepAliases : Bool} {r : Except DecodeError α}
    {visible : List UInt32} {t : TypeNode} {k : UInt32} {before after : List Check}
    {seen rest : List UInt32} (h : Checked keepAliases (before ++ .type visible t :: after) r)
    (hreferences : t.references keepAliases = seen ++ k :: rest) (hk : k ∉ visible) :
    ∃ e, r = .error e ∧
      (e = .undeclaredParameter k ∨ (∃ b ∈ before, b.Fails keepAliases e) ∨
        t.FailsWithin keepAliases visible seen e) := by
  have hundeclared : ∀ {lookup : ParameterLookup}, Declares lookup visible → lookup k = none :=
    fun h => by_contra fun hne => hk ((h k).mp hne)
  -- no look-up that declares `visible` has anything for `k`: the check of `t` cannot pass
  have hfails : ¬ (Check.type visible t).Passes keepAliases := by
    rintro ⟨lookup, type, hdeclares, htype⟩
    refine (t.resolve_reads lookup keepAliases).declared htype k ?_ (hundeclared hdeclares)
    rw [hreferences]
    simp
  have hblame : ∀ e, (Check.type visible t).Fails keepAliases e →
      e = .undeclaredParameter k ∨ t.FailsWithin keepAliases visible seen e := by
    rintro e ⟨lookup, hdeclares, ht⟩
    have hreads := t.resolve_reads lookup keepAliases
    rw [hreferences] at hreads
    rcases hreads.undeclared (hundeclared hdeclares) with herror | ⟨e', hother⟩
    · rw [ht] at herror
      cases herror
      exact Or.inl rfl
    · have herror := hother lookup fun j _ => rfl
      rw [ht] at herror
      cases herror
      exact Or.inr ⟨lookup, hdeclares, hother⟩
  obtain ⟨e, hr, hwhich⟩ := h.fails_of_not_passes hfails
  refine ⟨e, hr, ?_⟩
  rcases hwhich with hown | hbefore
  · exact (hblame e hown).imp_right Or.inr
  · exact Or.inr (Or.inl hbefore)

/-- **A live reference without a declaration is to blame for the failure of its class**, unless
an earlier check fails or its own type fails before the reference is looked up. -/
theorem ClassNode.decode_undeclared (options : DecodeOptions) (c : ClassNode)
    {visible : List UInt32} {t : TypeNode} {k : UInt32} {before after : List Check}
    {seen rest : List UInt32}
    (hchecks : c.checks = before ++ .type visible t :: after)
    (hreferences : t.references options.keepAliases = seen ++ k :: rest) (hk : k ∉ visible) :
    ∃ e, c.decode options = .error e ∧
      (e = .undeclaredParameter k ∨ (∃ b ∈ before, b.Fails options.keepAliases e) ∨
        t.FailsWithin options.keepAliases visible seen e) := by
  have hchecked := c.decode_checked options
  rw [hchecks] at hchecked
  exact hchecked.undeclared hreferences hk

end KotlinMeta
