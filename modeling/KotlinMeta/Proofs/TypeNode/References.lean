import KotlinMeta.Proofs.TypeExpr.Variables
import KotlinMeta.Proofs.TypeNode.Form

/-! # The type parameters that a type node refers to

`TypeNode.references` lists the numbers of type parameters in the live part of a node in the order
in which resolution looks them up, and `TypeNode.occurrences` those of them that are left in the
type. `TypeNode.resolve_variables` says what the variables of the type are, and
`TypeNode.resolve_reads` which number is to blame for a failure.
-/

set_option autoImplicit false

namespace KotlinMeta

/-! ## Numbers in a node -/

/-- The last argument says nothing: the classifier is the interface of a suspending function. -/
def Classifier.saysNothingLast (flags : Flags) : Option Classifier → Bool
  | some (.classNamed name) | some (.typeAlias name) =>
    KotlinMeta.saysNothingLast (ClassName.ofMetadata name) flags
  | some (.typeParameter _) | none => false

mutual

/-- The numbers of the type parameters in the live part of a node, from left to right, with or
without the arguments that say nothing. -/
def TypeNode.numbers (keepAliases sayingOnly : Bool) : TypeNode → List UInt32
  | ⟨flags, classifier, arguments, abbreviated, expanded, outer, flexible⟩ =>
    match flexible, outer with
    | some ⟨upper, _⟩, _ => upper.numbers keepAliases sayingOnly
    | none, some outer => outer.numbers keepAliases sayingOnly
    | none, none =>
      match classifier, keepAliases, abbreviated, expanded with
      | some (.typeParameter id), _, _, _ => [id]
      | some (.classNamed _), true, some written, _ => written.numbers keepAliases sayingOnly
      | some (.typeAlias _), false, _, some expanded => expanded.numbers keepAliases sayingOnly
      | classifier, _, _, _ =>
        let each := ProjectionNode.listNumbers keepAliases sayingOnly arguments
        if sayingOnly && Classifier.saysNothingLast flags classifier then each.dropLast.flatten
        else each.flatten

def ProjectionNode.listNumbers (keepAliases sayingOnly : Bool) :
    List ProjectionNode → List (List UInt32)
  | [] => []
  | ⟨_, type⟩ :: rest =>
    TypeNode.optionNumbers keepAliases sayingOnly type ::
      ProjectionNode.listNumbers keepAliases sayingOnly rest

def TypeNode.optionNumbers (keepAliases sayingOnly : Bool) : Option TypeNode → List UInt32
  | none => []
  | some t => t.numbers keepAliases sayingOnly

end

def ProjectionNode.numbers (keepAliases sayingOnly : Bool) (p : ProjectionNode) : List UInt32 :=
  TypeNode.optionNumbers keepAliases sayingOnly p.type

theorem ProjectionNode.listNumbers_eq_map (keepAliases sayingOnly : Bool)
    (arguments : List ProjectionNode) :
    ProjectionNode.listNumbers keepAliases sayingOnly arguments =
      arguments.map (ProjectionNode.numbers keepAliases sayingOnly) := by
  induction arguments with
  | nil => rfl
  | cons p rest ih =>
      obtain ⟨variance, type⟩ := p
      rw [ProjectionNode.listNumbers, ih]
      rfl

namespace TypeNode

/-- The numbers that a live reference stands behind. -/
def references (keepAliases : Bool) (t : TypeNode) : List UInt32 := t.numbers keepAliases false

/-- The references that are left in the type. -/
def occurrences (keepAliases : Bool) (t : TypeNode) : List UInt32 := t.numbers keepAliases true

/-- The arguments that say something. -/
def saying (sayingOnly : Bool) (flags : Flags) (name : String) (arguments : List ProjectionNode) :
    List ProjectionNode :=
  if sayingOnly && saysNothingLast (ClassName.ofMetadata name) flags then arguments.dropLast
  else arguments

/-- The numbers in the part that counts. -/
def Form.numbers (keepAliases sayingOnly : Bool) (flags : Flags) : Form → List UInt32
  | .flexible t | .inner t | .indirect t => t.numbers keepAliases sayingOnly
  | .parameter id => [id]
  | .unclassified arguments => arguments.flatMap (ProjectionNode.numbers keepAliases sayingOnly)
  | .dangling name arguments | .applied name arguments =>
    (saying sayingOnly flags name arguments).flatMap
      (ProjectionNode.numbers keepAliases sayingOnly)

theorem numbers_eq (keepAliases sayingOnly : Bool) (t : TypeNode) :
    t.numbers keepAliases sayingOnly =
      (t.form keepAliases).numbers keepAliases sayingOnly t.flags := by
  have happlied : ∀ flags name arguments,
      (if sayingOnly && saysNothingLast (ClassName.ofMetadata name) flags then
          (ProjectionNode.listNumbers keepAliases sayingOnly arguments).dropLast.flatten
        else (ProjectionNode.listNumbers keepAliases sayingOnly arguments).flatten) =
      (saying sayingOnly flags name arguments).flatMap
        (ProjectionNode.numbers keepAliases sayingOnly) := by
    intro flags name arguments
    rw [saying, ProjectionNode.listNumbers_eq_map, ← List.map_dropLast, ← List.flatMap_def,
      ← List.flatMap_def]
    split <;> rfl
  cases t using cases_by_precedence with
  | flexible flags classifier arguments abbreviated expanded outer upper id => rfl
  | inner flags classifier arguments abbreviated expanded outer => rfl
  | unclassified flags arguments abbreviated expanded =>
      simp [numbers, form, Form.numbers, Classifier.saysNothingLast,
        ProjectionNode.listNumbers_eq_map, List.flatMap_def]
  | parameter flags id arguments abbreviated expanded => rfl
  | classNamed flags name arguments abbreviated expanded =>
      rcases abbreviated with _ | written <;> cases keepAliases
      · exact happlied flags name arguments
      · exact happlied flags name arguments
      · exact happlied flags name arguments
      · rfl
  | typeAlias flags name arguments abbreviated expanded =>
      rcases expanded with _ | expanded <;> cases keepAliases
      · exact happlied flags name arguments
      · exact happlied flags name arguments
      · rfl
      · exact happlied flags name arguments

end TypeNode

/-! ## Variables of the type -/

/-- The declarations are what the numbers stand for, one by one. -/
def LookedUp (lookup : ParameterLookup) (numbers : List UInt32) (vs : List TypeVar) : Prop :=
  List.Forall₂ (fun k v => lookup k = some v) numbers vs

theorem ProjectionNode.resolve_eq_ok {context : TypeContext} {p : ProjectionNode} {a : TypeArg}
    (h : p.resolve context = .ok a) :
    (p.type = none ∧ a = .star) ∨
      ∃ variance t type, p.type = some t ∧ t.resolve context = .ok type ∧
        a = projectedArgument variance type := by
  obtain ⟨variance, type⟩ := p
  rcases variance with _ | variance <;> rcases type with _ | t
  · rw [ProjectionNode.resolve] at h
    cases h
    exact Or.inl ⟨rfl, rfl⟩
  · cases h
  · cases h
  · rw [ProjectionNode.resolve, Except.bind_eq_ok] at h
    obtain ⟨type, ht, h⟩ := h
    cases h
    exact Or.inr ⟨variance, t, type, rfl, ht, rfl⟩

theorem starIsBare_of_resolve {context : TypeContext} {p : ProjectionNode} {a : TypeArg}
    (h : p.resolve context = .ok a) : a.StarIsBare := by
  rcases ProjectionNode.resolve_eq_ok h with ⟨-, rfl⟩ | ⟨variance, t, type, -, -, rfl⟩
  · exact fun _ => rfl
  · intro hstar
    cases variance with
    | invariant => cases hstar
    | contravariant => cases hstar
    | covariant =>
        rw [projectedArgument] at hstar
        split at hstar <;> cases hstar

theorem variables_projectedArgument (variance : NodeVariance) (type : TypeExpr) :
    (projectedArgument variance type).variables = type.variables := by
  cases variance with
  | invariant => rfl
  | contravariant => rfl
  | covariant =>
      rw [projectedArgument]
      split <;> rfl

theorem eq_of_referredClass {name : String} {c : ClassName} (h : referredClass name = .ok c) :
    c = ClassName.ofMetadata name := by
  rw [referredClass] at h
  split at h
  · cases h
  · cases h
    rfl

/-- Arguments whose types have the variables that they should. -/
theorem ProjectionNode.lookedUp_of_mapM {lookup : ParameterLookup} {keepAliases : Bool}
    {arguments : List ProjectionNode} {args : List TypeArg}
    (h : List.Forall₂ (fun p a => ProjectionNode.resolve ⟨lookup, keepAliases⟩ p = .ok a)
      arguments args)
    (hchild : ∀ u ∈ arguments.filterMap (·.type), ∀ type,
      u.resolve ⟨lookup, keepAliases⟩ = .ok type →
        LookedUp lookup (u.numbers keepAliases true) type.variables) :
    List.Forall₂ (fun p a => LookedUp lookup (ProjectionNode.numbers keepAliases true p)
      a.variables) arguments args := by
  apply forall₂_imp_of_mem h
  intro p hp a _ hpa
  rw [ProjectionNode.numbers]
  rcases ProjectionNode.resolve_eq_ok hpa with ⟨hnone, rfl⟩ | ⟨variance, u, type, hu, htype, rfl⟩
  · rw [hnone]
    exact .nil
  · rw [hu, variables_projectedArgument]
    exact hchild u (List.mem_filterMap.mpr ⟨p, hp, hu⟩) type htype

namespace TypeNode

/-- **The variables of a type are the declarations that the occurrences stand for**, in order. -/
theorem resolve_variables (context : TypeContext) (t : TypeNode) {type : TypeExpr}
    (h : t.resolve context = .ok type) :
    LookedUp context.lookup (t.occurrences context.keepAliases) type.variables := by
  obtain ⟨lookup, keepAliases⟩ := context
  induction t using induction_on_form keepAliases generalizing type with
  | step t ih =>
    rw [resolve_eq] at h
    rw [occurrences, numbers_eq]
    generalize hform : t.form keepAliases = form at h ih ⊢
    have hchild : ∀ {u : TypeNode} {type : TypeExpr}, u ∈ form.children →
        u.resolve ⟨lookup, keepAliases⟩ = .ok type →
        LookedUp lookup (u.numbers keepAliases true) type.variables := fun hu h => ih _ hu h
    cases form with
    | flexible upper =>
        obtain ⟨bound, hbound, h⟩ := Except.bind_eq_ok.mp h
        cases h
        rw [TypeExpr.variables_withNullable, TypeExpr.variables_producerOf]
        exact hchild (List.mem_singleton_self _) hbound
    | inner outer =>
        obtain ⟨bound, hbound, h⟩ := Except.bind_eq_ok.mp h
        cases h
        rw [TypeExpr.variables_withNullable, TypeExpr.variables_consumerOf]
        exact hchild (List.mem_singleton_self _) hbound
    | indirect target =>
        obtain ⟨type, htype, h⟩ := Except.bind_eq_ok.mp h
        cases h
        rw [TypeExpr.variables_withNullable]
        exact hchild (List.mem_singleton_self _) htype
    | unclassified arguments => cases h
    | dangling name arguments => cases h
    | parameter id =>
        rw [Form.resolve] at h
        split at h
        · rename_i v hv
          cases h
          exact .cons hv .nil
        · cases h
    | applied name arguments =>
        obtain ⟨c, hc, h⟩ := Except.bind_eq_ok.mp h
        obtain ⟨args, hargs, h⟩ := Except.bind_eq_ok.mp h
        obtain ⟨type, htype, h⟩ := Except.bind_eq_ok.mp h
        cases h
        -- the arguments one by one; the function type then drops a last one that says nothing
        obtain rfl : c = ClassName.ofMetadata name := eq_of_referredClass hc
        rw [mapM_eq_ok_iff] at hargs
        have hbare : ∀ a ∈ args, a.StarIsBare := by
          intro a ha
          obtain ⟨p, -, hp⟩ := exists_of_mem_right hargs ha
          exact starIsBare_of_resolve hp
        have heach := ProjectionNode.lookedUp_of_mapM hargs fun u hu type h => hchild hu h
        rw [TypeExpr.variables_withNullable, variables_namedType hbare htype, Form.numbers, saying,
          Bool.true_and]
        split
        · exact List.rel_flatMap (forall₂_dropLast heach) fun _ _ h => h
        · exact List.rel_flatMap heach fun _ _ h => h

end TypeNode

/-! ## The order of looking up -/

/-- `run` looks these numbers up in order, and nothing else. If it succeeds, all of them are
declared. If it fails, it has seen a first part of them, and a number without a declaration among
these is the last one seen and to blame for the failure. What numbers not seen stand for does not
matter. -/
def Reads {α : Type} (lookup : ParameterLookup) (numbers : List UInt32)
    (run : ParameterLookup → Except DecodeError α) : Prop :=
  match run lookup with
  | .ok a =>
    (∀ k ∈ numbers, lookup k ≠ none) ∧
      ∀ other, (∀ k ∈ numbers, other k = lookup k) → run other = .ok a
  | .error e =>
    ∃ seen rest, numbers = seen ++ rest ∧
      (∀ other, (∀ k ∈ seen, other k = lookup k) → run other = .error e) ∧
      ∀ front k back, seen = front ++ k :: back → lookup k = none →
        back = [] ∧ e = .undeclaredParameter k

section
variable {α β : Type} {lookup : ParameterLookup}

theorem Reads.ok (a : α) : Reads lookup [] fun _ => .ok a :=
  ⟨fun _ hk => absurd hk List.not_mem_nil, fun _ _ => rfl⟩

theorem Reads.error (numbers : List UInt32) (e : DecodeError) :
    Reads lookup numbers fun _ => (.error e : Except DecodeError α) :=
  ⟨[], numbers, rfl, fun _ _ => rfl, fun front k back h => by simp at h⟩

/-- What does not look anything up. -/
theorem Reads.const (r : Except DecodeError α) : Reads lookup [] fun _ => r := by
  cases r with
  | ok a => exact .ok a
  | error e => exact .error [] e

theorem Reads.one (k : UInt32) (next : TypeVar → α) :
    Reads lookup [k] fun l =>
      match l k with
      | some v => .ok (next v)
      | none => .error (.undeclaredParameter k) := by
  rw [Reads]
  cases hk : lookup k with
  | some v =>
      refine ⟨fun j hj => ?_, fun other hother => ?_⟩
      · rw [List.mem_singleton.mp hj, hk]
        exact Option.some_ne_none v
      · rw [hother k List.mem_cons_self, hk]
  | none =>
      refine ⟨[k], [], rfl, fun other hother => ?_, fun front j back hsplit _ => ?_⟩
      · rw [hother k List.mem_cons_self, hk]
      · cases front with
        | nil =>
            cases hsplit
            exact ⟨rfl, rfl⟩
        | cons i front => simp at hsplit

theorem Reads.bind {first : ParameterLookup → Except DecodeError α}
    {second : α → ParameterLookup → Except DecodeError β} {numbers more : List UInt32}
    (hfirst : Reads lookup numbers first)
    (hsecond : ∀ a, first lookup = .ok a → Reads lookup more (second a)) :
    Reads lookup (numbers ++ more) fun l => first l >>= fun a => second a l := by
  rw [Reads] at hfirst ⊢
  cases hf : first lookup with
  | error e =>
      rw [hf] at hfirst
      -- the first run stops here, and the second one never looks anything up
      obtain ⟨seen, rest, rfl, hother, hblame⟩ := hfirst
      refine ⟨seen, rest ++ more, List.append_assoc .., ?_, hblame⟩
      intro other hagree
      rw [hother other hagree]
      rfl
  | ok a =>
      rw [hf] at hfirst
      obtain ⟨hdeclared, hother⟩ := hfirst
      have hrun := hsecond a hf
      rw [Reads] at hrun
      show match second a lookup with | .ok b => _ | .error e => _
      cases hs : second a lookup with
      | ok b =>
          rw [hs] at hrun
          refine ⟨?_, ?_⟩
          · intro k hk
            rcases List.mem_append.mp hk with hk | hk
            · exact hdeclared k hk
            · exact hrun.1 k hk
          · intro other hagree
            rw [hother other fun k hk => hagree k (List.mem_append_left _ hk)]
            exact hrun.2 other fun k hk => hagree k (List.mem_append_right _ hk)
      | error e =>
          rw [hs] at hrun
          obtain ⟨seen, rest, rfl, hfail, hblame⟩ := hrun
          refine ⟨numbers ++ seen, rest, (List.append_assoc ..).symm, ?_, ?_⟩
          · intro other hagree
            rw [hother other fun k hk => hagree k (List.mem_append_left _ hk)]
            exact hfail other fun k hk => hagree k (List.mem_append_right _ hk)
          · -- the number without a declaration is one of the second run: the first succeeded
            intro front k back hsplit hk
            have hfirst : k ∉ numbers := fun hmem => hdeclared k hmem hk
            obtain ⟨front', hseen⟩ := split_of_not_mem hsplit hfirst
            exact hblame front' k back hseen hk

theorem Reads.map {run : ParameterLookup → Except DecodeError α} {numbers : List UInt32}
    (h : Reads lookup numbers run) (next : α → Except DecodeError β) :
    Reads lookup numbers fun l => run l >>= next := by
  rw [← List.append_nil numbers]
  exact h.bind fun a _ => .const (next a)

theorem Reads.mapM {γ : Type} {run : γ → ParameterLookup → Except DecodeError α}
    {numbers : γ → List UInt32} {xs : List γ} (h : ∀ x ∈ xs, Reads lookup (numbers x) (run x)) :
    Reads lookup (xs.flatMap numbers) fun l => xs.mapM fun x => run x l := by
  induction xs with
  | nil => exact .ok []
  | cons x xs ih =>
      rw [List.flatMap_cons]
      simp only [List.mapM_cons]
      refine (h x List.mem_cons_self).bind ?_
      intro a _
      exact (ih fun y hy => h y (List.mem_cons_of_mem x hy)).map _

theorem Reads.declared {run : ParameterLookup → Except DecodeError α} {numbers : List UInt32}
    (h : Reads lookup numbers run) {a : α} (hrun : run lookup = .ok a) :
    ∀ k ∈ numbers, lookup k ≠ none := by
  rw [Reads, hrun] at h
  exact h.1

/-- A run depends on what it looks up and on nothing else. -/
theorem Reads.congr {run : ParameterLookup → Except DecodeError α} {numbers : List UInt32}
    (h : Reads lookup numbers run) {other : ParameterLookup}
    (hagree : ∀ k ∈ numbers, other k = lookup k) : run other = run lookup := by
  rw [Reads] at h
  split at h
  · rename_i a ha
    rw [ha, h.2 other hagree]
  · rename_i e he
    obtain ⟨seen, rest, rfl, hother, -⟩ := h
    rw [he, hother other fun k hk => hagree k (List.mem_append_left rest hk)]

/-- A number without a declaration is to blame, unless a failure comes before it. -/
theorem Reads.undeclared {run : ParameterLookup → Except DecodeError α} {before after : List UInt32}
    {k : UInt32} (h : Reads lookup (before ++ k :: after) run) (hk : lookup k = none) :
    run lookup = .error (.undeclaredParameter k) ∨
      ∃ e, ∀ other, (∀ j ∈ before, other j = lookup j) → run other = .error e := by
  rw [Reads] at h
  split at h
  · exact absurd hk (h.1 k (by simp))
  · rename_i e he
    obtain ⟨seen, rest, hsplit, hother, hblame⟩ := h
    -- the run has stopped before it looked `k` up, or `k` is among what it has seen
    rcases List.append_eq_append_iff.mp hsplit.symm with
      ⟨between, rfl, -⟩ | ⟨between, hseen, hafter⟩
    · refine Or.inr ⟨e, fun other hagree => hother other fun j hj => ?_⟩
      exact hagree j (List.mem_append_left _ hj)
    · cases between with
      | nil =>
          refine Or.inr ⟨e, fun other hagree => hother other fun j hj => ?_⟩
          rw [hseen, List.append_nil] at hj
          exact hagree j hj
      | cons k' between =>
          cases hafter
          obtain ⟨-, rfl⟩ := hblame before k between hseen hk
          exact Or.inl he

end

namespace TypeNode

/-- **Resolution looks the live references of a node up, in order.** -/
theorem resolve_reads (lookup : ParameterLookup) (keepAliases : Bool) (t : TypeNode) :
    Reads lookup (t.references keepAliases) fun l => t.resolve ⟨l, keepAliases⟩ := by
  induction t using induction_on_form keepAliases with
  | step t ih =>
    simp only [resolve_eq]
    rw [references, numbers_eq]
    generalize t.form keepAliases = form at ih ⊢
    cases form with
    | flexible upper => exact (ih upper (List.mem_singleton_self _)).map _
    | inner outer => exact (ih outer (List.mem_singleton_self _)).map _
    | indirect target => exact (ih target (List.mem_singleton_self _)).map _
    | unclassified arguments => exact .error _ _
    | dangling name arguments => exact .error _ _
    | parameter id => exact .one id _
    | applied name arguments =>
        -- the name of the class is checked first, and the function type is made last
        refine (Reads.const (referredClass name)).bind fun c _ => ?_
        have hsaying : saying false t.flags name arguments = arguments := rfl
        rw [hsaying]
        refine Reads.map (.mapM fun p hp => ?_) _
        obtain ⟨variance, type⟩ := p
        rcases variance with _ | variance <;> rcases type with _ | u
        · exact .ok TypeArg.star
        · exact .error _ _
        · exact .error _ _
        · exact (ih u (List.mem_filterMap.mpr ⟨_, hp, rfl⟩)).map _

end TypeNode

end KotlinMeta
