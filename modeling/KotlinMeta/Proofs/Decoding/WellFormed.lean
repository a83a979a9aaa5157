import KotlinMeta.Proofs.ClassName.Spelling
import KotlinMeta.Proofs.Decoding.Places
import KotlinMeta.Proofs.TypeExpr.WellFormed

/-! # Decoding gives well-formed types

Resolution turns a node into a well-formed type whose variables come from the look-up
(`TypeNode.resolve_wellFormed`), and every type of a decoded class is resolved from some node
(`ClassNode.resolved_of_decode`).
-/

set_option autoImplicit false

namespace KotlinMeta

/-! ## Resolution -/

theorem ne_unbounded_of_referredClass {name : String} {c : ClassName}
    (h : referredClass name = .ok c) : c.qualified ≠ unboundedFunctionName := by
  rw [referredClass] at h
  split at h
  · cases h
  · rename_i hne
    cases h
    exact hne

/-- Arguments whose types are well-formed. -/
theorem ProjectionNode.wellFormed_of_mapM {context : TypeContext}
    {arguments : List ProjectionNode} {args : List TypeArg}
    (h : arguments.mapM (ProjectionNode.resolve context) = .ok args)
    (hchild : ∀ u ∈ arguments.filterMap (·.type), ∀ type,
      u.resolve context = .ok type → type.WellFormed .ordinary) :
    ∀ a ∈ args, a.WellFormed := by
  rw [mapM_eq_ok_iff] at h
  intro a ha
  obtain ⟨p, hp, hpa⟩ := exists_of_mem_right h ha
  rcases ProjectionNode.resolve_eq_ok hpa with ⟨-, rfl⟩ | ⟨variance, u, type, hu, htype, rfl⟩
  · exact .star
  · have hmem : u ∈ arguments.filterMap (·.type) := List.mem_filterMap.mpr ⟨p, hp, hu⟩
    exact wellFormed_projectedArgument variance (hchild u hmem type htype)

/-- **Resolution gives a well-formed type.** -/
theorem TypeNode.resolve_wellFormed (context : TypeContext) (t : TypeNode) {type : TypeExpr}
    (h : t.resolve context = .ok type) : type.WellFormed .ordinary := by
  -- the statement is about types that stand anywhere: a bare star is never the type of a node
  induction t using induction_on_form context.keepAliases generalizing type with
  | step t ih =>
    rw [resolve_eq] at h
    generalize t.form context.keepAliases = form at h ih
    cases form with
    | flexible upper =>
        obtain ⟨bound, hbound, h⟩ := Except.bind_eq_ok.mp h
        cases h
        exact .producer (ih upper (List.mem_singleton_self _) hbound)
    | inner outer =>
        obtain ⟨bound, hbound, h⟩ := Except.bind_eq_ok.mp h
        cases h
        exact .consumer (ih outer (List.mem_singleton_self _) hbound)
    | unclassified arguments => cases h
    | dangling name arguments => cases h
    | parameter id =>
        rw [Form.resolve] at h
        split at h
        · cases h
          exact .var
        · cases h
    | indirect target =>
        obtain ⟨type, htype, h⟩ := Except.bind_eq_ok.mp h
        cases h
        exact (ih target (List.mem_singleton_self _) htype).withNullable _
    | applied name arguments =>
        obtain ⟨c, hc, h⟩ := Except.bind_eq_ok.mp h
        obtain ⟨args, hargs, h⟩ := Except.bind_eq_ok.mp h
        obtain ⟨type, htype, h⟩ := Except.bind_eq_ok.mp h
        cases h
        have hnamed : c.simpleNames ≠ [] := by
          rw [eq_of_referredClass hc]
          exact ClassName.simpleNames_ofMetadata_ne_nil name
        have harguments : ∀ a ∈ args, a.WellFormed :=
          ProjectionNode.wellFormed_of_mapM hargs fun u hu type h => ih u hu h
        refine TypeExpr.WellFormed.withNullable ?_ _
        exact wellFormed_namedType hnamed (ne_unbounded_of_referredClass hc) harguments htype

/-! ## Classes -/

/-- The type of some node in some scope. -/
def TypeExpr.Resolved (options : DecodeOptions) (u : TypeExpr) : Prop :=
  ∃ (s : Scope) (t : TypeNode), t.decode options s = .ok u

section
variable {options : DecodeOptions} {s : Scope}

theorem resolved_of_extended {s' : Scope} {ps : List TypeParameterNode}
    (hempty : s.declared = []) (h : s.extended options.keepAliases ps = .ok s') :
    ∀ u ∈ s'.declared.flatMap (·.upperBounds), u.Resolved options := by
  obtain ⟨vs, rfl, hlength, heach⟩ := Scope.extended_eq_ok h
  intro u hu
  obtain ⟨v, hv, hu⟩ := List.mem_flatMap.mp hu
  have hv : v ∈ vs := by simpa [Scope.declareList, hempty] using hv
  obtain ⟨i, hi, rfl⟩ := List.mem_iff_getElem.mp hv
  have hp : ps[i]? = some ps[i] := List.getElem?_eq_getElem (by omega)
  obtain ⟨-, -, -, -, hbounds⟩ :=
    TypeParameterNode.resolve_eq_ok (heach i ps[i] vs[i] hp (List.getElem?_eq_getElem hi))
  obtain ⟨t, -, ht⟩ := exists_of_mem_right hbounds hu
  exact ⟨_, t, ht⟩

theorem resolved_of_option {t : Option TypeNode} {type : Option TypeExpr}
    (h : Option.Rel (fun t type => t.decode options s = .ok type) t type) :
    ∀ u ∈ type.toList, u.Resolved options := by
  cases h with
  | none => simp
  | some h =>
      intro u hu
      rw [Option.toList_some, List.mem_singleton] at hu
      subst hu
      exact ⟨s, _, h⟩

theorem resolved_of_valueParameter {p : ValueParameterNode} {q : Parameter}
    (h : p.decode options s = .ok q) : q.declaredType.Resolved options := by
  obtain ⟨flags, name, t, element⟩ := p
  rcases element with _ | element
  · rcases t with _ | t
    · cases h
    · obtain ⟨type, htype, h⟩ := Except.bind_eq_ok.mp h
      cases h
      exact ⟨s, t, htype⟩
  · obtain ⟨type, htype, h⟩ := Except.bind_eq_ok.mp h
    cases h
    exact ⟨s, element, htype⟩

theorem resolved_of_valueParameters {ps : List ValueParameterNode} {qs : List Parameter}
    (h : List.Forall₂ (fun p q => p.decode options s = .ok q) ps qs) :
    ∀ u ∈ qs.map Parameter.declaredType, u.Resolved options := by
  intro u hu
  obtain ⟨q, hq, rfl⟩ := List.mem_map.mp hu
  obtain ⟨p, -, hp⟩ := exists_of_mem_right h hq
  exact resolved_of_valueParameter hp

theorem PropertyNode.resolved_of_decode {n : Nat} {p : PropertyNode} {d : PropertyDecl}
    (h : p.decode options (s.child n) = .ok d) : ∀ u ∈ d.member.types, u.Resolved options := by
  obtain ⟨s', hs', htypeParameters, hreceiver, htype⟩ := PropertyNode.decode_eq_ok h
  intro u hu
  rw [PropertyDecl.member, List.mem_append, List.mem_append, List.mem_singleton] at hu
  rcases hu with (hu | hu) | rfl
  · rw [htypeParameters] at hu
    exact resolved_of_extended rfl hs' u hu
  · exact resolved_of_option hreceiver u hu
  · exact ⟨s', _, htype⟩

theorem FunctionNode.resolved_of_decode {n : Nat} {f : FunctionNode} {d : FunctionDecl}
    (h : f.decode options (s.child n) = .ok d) : ∀ u ∈ d.member.types, u.Resolved options := by
  obtain ⟨s', hs', htypeParameters, hreceiver, hparameters, hreturn⟩ := FunctionNode.decode_eq_ok h
  intro u hu
  rw [FunctionDecl.member, List.mem_append, List.mem_append, List.mem_append,
    List.mem_singleton] at hu
  rcases hu with ((hu | hu) | hu) | rfl
  · rw [htypeParameters] at hu
    exact resolved_of_extended rfl hs' u hu
  · exact resolved_of_option hreceiver u hu
  · exact resolved_of_valueParameters hparameters u hu
  · exact ⟨s', _, hreturn⟩

/-- Every type of a decoded class is the type of a node, but for the superclass of a class that
names none. -/
theorem ClassNode.resolved_of_decode {c : ClassNode} {d : ClassDecl}
    (h : c.decode options = .ok d) :
    (∀ u ∈ d.ownTypes, u = .any ∨ u.Resolved options) ∧
      ∀ m ∈ d.members, ∀ u ∈ m.types, u.Resolved options := by
  obtain ⟨s, supertypes, hs, htypeParameters, hsupertypes, hsuper, hconstructors, hproperties,
    hfunctions⟩ := ClassNode.decode_eq_ok h
  constructor
  · intro u hu
    rw [ClassDecl.ownTypes, List.mem_append, List.mem_append] at hu
    rcases hu with (hu | hu) | hu
    · rw [htypeParameters] at hu
      exact Or.inr (resolved_of_extended rfl hs u hu)
    · rcases hsuper.eq_any_or_mem hu with rfl | hu
      · exact Or.inl rfl
      · obtain ⟨t, -, ht⟩ := exists_of_mem_right hsupertypes hu
        exact Or.inr ⟨s, t, ht⟩
    · obtain ⟨e, he, hu⟩ := List.mem_flatMap.mp hu
      obtain ⟨k, -, hk⟩ := exists_of_mem_right hconstructors he
      exact Or.inr (resolved_of_valueParameters (ConstructorNode.decode_eq_ok hk).2 u hu)
  · intro m hm
    rcases List.mem_append.mp hm with hm | hm
    · obtain ⟨e, he, rfl⟩ := List.mem_map.mp hm
      obtain ⟨p, -, hp⟩ := exists_of_mem_right hproperties he
      exact PropertyNode.resolved_of_decode hp
    · obtain ⟨e, he, rfl⟩ := List.mem_map.mp hm
      obtain ⟨f, -, hf⟩ := exists_of_mem_right hfunctions he
      exact FunctionNode.resolved_of_decode hf

theorem TypeExpr.Resolved.wellFormed {u : TypeExpr} (h : u.Resolved options) :
    u.WellFormed .ordinary := by
  obtain ⟨s, t, ht⟩ := h
  exact t.resolve_wellFormed _ ht

theorem TypeExpr.wellFormed_any : TypeExpr.any.WellFormed .ordinary :=
  .named ⟨by decide, by decide, fun _ => rfl⟩ nofun

end

/-! ## All types that are decoded -/

/-- **Decoding gives well-formed types over the type parameters that can be seen.** The type of a
node has only variables that the look-up has returned, and in the types of a class, bounds
included, there are only parameters of the class and of the member around them. -/
theorem decoded_types_wellFormed :
    (∀ (context : TypeContext) (t : TypeNode) (type : TypeExpr), t.resolve context = .ok type →
      type.WellFormed .ordinary ∧ ∀ v ∈ type.variables, ∃ id, context.lookup id = some v) ∧
    ∀ (options : DecodeOptions) (c : ClassNode) (d : ClassDecl), c.decode options = .ok d →
      (∀ u ∈ d.ownTypes, u.WellFormed .ordinary ∧ u.Within d.typeParameters) ∧
      ∀ m ∈ d.members, ∀ u ∈ m.types,
        u.WellFormed .ordinary ∧ u.Within (m.typeParameters ++ d.typeParameters) := by
  constructor
  · intro context t type h
    refine ⟨t.resolve_wellFormed context h, fun v hv => ?_⟩
    obtain ⟨id, -, hid⟩ := exists_of_mem_right (t.resolve_variables context h) hv
    exact ⟨id, hid⟩
  · intro options c d h
    obtain ⟨hown, hmembers⟩ := ClassNode.resolved_of_decode h
    have hscoped := properlyScoped_of_decode h
    constructor
    · intro u hu
      refine ⟨?_, hscoped.own u hu⟩
      rcases hown u hu with rfl | hresolved
      · exact TypeExpr.wellFormed_any
      · exact hresolved.wellFormed
    · intro m hm u hu
      exact ⟨(hmembers m hm u hu).wellFormed, hscoped.members m hm u hu⟩

/-- A suspending function type with a receiver, a star, an `in` argument and a continuation in a
wildcard. -/
def handlerType : TypeNode :=
  { (TypeNode.ofClass "kotlin/Function4").suspending.extension.nullable with
    arguments :=
      [.invariant (.ofParameter 0), .star, .of .contravariant (.ofClass "kotlin/Any"),
        .of .covariant ((TypeNode.ofClass "kotlin/coroutines/Continuation").withArgument
          (.of .contravariant (.ofParameter 0))),
        .star] }

/-- A class with a function that takes a handler. -/
def handlerClass : ClassNode :=
  { ClassNode.of Flags.none "sample/Handlers" with
    typeParameters := [.of "T" 0 .contravariant]
    functions :=
      [{ FunctionNode.of Flags.none "handle" (.ofClass "kotlin/Unit") with
        valueParameters := [.of "block" handlerType] }] }

/-- The node is a function type over stars, wildcards and a variable, and its class can be
decoded. -/
theorem decoded_types_wellFormed_handlerClass :
    (∃ type, handlerType.resolve ⟨fun id => some (.plain (.declared [] 0) "T" id), true⟩ =
        .ok type ∧
      type.display = "(suspend T.(*, in kotlin.Any) -> T)?" ∧ type.WellFormed .ordinary) ∧
    ∃ d, handlerClass.decode ⟨false⟩ = .ok d ∧
      d.members.map (·.types.map TypeExpr.display) =
        [["(suspend T.(*, in kotlin.Any) -> T)?", "kotlin.Unit"]] ∧
      ∀ m ∈ d.members, ∀ u ∈ m.types,
        u.WellFormed .ordinary ∧ u.Within (m.typeParameters ++ d.typeParameters) := by
  obtain ⟨type, htype, hdisplay⟩ :
      ∃ type, handlerType.resolve ⟨fun id => some (.plain (.declared [] 0) "T" id), true⟩ =
        .ok type ∧ type.display = "(suspend T.(*, in kotlin.Any) -> T)?" :=
    ⟨_, rfl, by decide +kernel⟩
  obtain ⟨d, hd, hdisplays⟩ : ∃ d, handlerClass.decode ⟨false⟩ = .ok d ∧
      d.members.map (·.types.map TypeExpr.display) =
        [["(suspend T.(*, in kotlin.Any) -> T)?", "kotlin.Unit"]] :=
    ⟨_, rfl, by decide +kernel⟩
  exact ⟨⟨type, htype, hdisplay, (decoded_types_wellFormed.1 _ _ type htype).1⟩,
    d, hd, hdisplays, (decoded_types_wellFormed.2 _ _ d hd).2⟩

end KotlinMeta
