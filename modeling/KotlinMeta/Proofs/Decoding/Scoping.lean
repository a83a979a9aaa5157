import KotlinMeta.Proofs.Decoding.Parts
import KotlinMeta.Proofs.TypeNode.References

/-! # Lexical scoping

`LexicallyScoped` relates a class node to its declaration part by part: what can be seen from the
part, and that the variables in it are the declarations that the numbers of the node denote there.
`lexicallyScoped_of_decode` says that decoding a class establishes it.
-/

set_option autoImplicit false

namespace KotlinMeta

/-! ## What the parts of a declaration refer to -/

/-- The type of a node where `visible` can be seen, the nearest list first: each variable of the
type is what the reference at its place denotes, and every other live reference denotes something,
too. -/
structure Refers (keepAliases : Bool) (visible : List (List TypeVar)) (t : TypeNode)
    (type : TypeExpr) : Prop where
  occurrences : List.Forall₂ (Denotes visible) (t.occurrences keepAliases) type.variables
  references : ∀ k ∈ t.references keepAliases, ∃ v, Denotes visible k v

/-- Type parameters declared inside `outer`. The bounds of each refer to those before it and to
`outer`. -/
structure ParametersScoped (keepAliases : Bool) (outer : List (List TypeVar))
    (ps : List TypeParameterNode) (vs : List TypeVar) : Prop where
  parameters : vs.map (fun v => (v.name, v.id, v.reified)) =
    ps.map fun p => (p.name, p.id, p.flags.isReified)
  bounds : ∀ i (p : TypeParameterNode) (v : TypeVar), ps[i]? = some p → vs[i]? = some v →
    List.Forall₂ (Refers keepAliases (vs.take i :: outer)) p.upperBounds v.upperBounds

/-- A value parameter. The array type of a variable number of arguments is not looked at. -/
def ValueParameterScoped (keepAliases : Bool) (visible : List (List TypeVar))
    (p : ValueParameterNode) (q : Parameter) : Prop :=
  match p.varargElementType, p.type with
  | some element, _ => ∃ type, q.type = .vararg type ∧ Refers keepAliases visible element type
  | none, some t => ∃ type, q.type = .single type ∧ Refers keepAliases visible t type
  | none, none => False

/-- A function of a class with type parameters `outer`. -/
structure FunctionScoped (keepAliases : Bool) (outer : List TypeVar) (f : FunctionNode)
    (d : FunctionDecl) : Prop where
  typeParameters : ParametersScoped keepAliases [outer] f.typeParameters d.typeParameters
  receiverType :
    Option.Rel (Refers keepAliases [d.typeParameters, outer]) f.receiverType d.receiverType
  parameters :
    List.Forall₂ (ValueParameterScoped keepAliases [d.typeParameters, outer]) f.valueParameters
      d.parameters
  returnType : Refers keepAliases [d.typeParameters, outer] f.returnType d.returnType

/-- A property of a class with type parameters `outer`. -/
structure PropertyScoped (keepAliases : Bool) (outer : List TypeVar) (p : PropertyNode)
    (d : PropertyDecl) : Prop where
  typeParameters : ParametersScoped keepAliases [outer] p.typeParameters d.typeParameters
  receiverType :
    Option.Rel (Refers keepAliases [d.typeParameters, outer]) p.receiverType d.receiverType
  type : Refers keepAliases [d.typeParameters, outer] p.returnType d.type

/-- A class and its members. -/
structure LexicallyScoped (keepAliases : Bool) (c : ClassNode) (d : ClassDecl) : Prop where
  typeParameters : ParametersScoped keepAliases [] c.typeParameters d.typeParameters
  supertypes : ∃ types, d.Inherits types ∧
    List.Forall₂ (Refers keepAliases [d.typeParameters]) c.supertypes types
  constructors : List.Forall₂
    (fun k e => List.Forall₂ (ValueParameterScoped keepAliases [d.typeParameters])
      k.valueParameters e.parameters)
    c.constructors d.constructors
  properties : List.Forall₂ (PropertyScoped keepAliases d.typeParameters) c.properties d.properties
  functions : List.Forall₂ (FunctionScoped keepAliases d.typeParameters) c.functions d.functions

/-! ## Decoding scopes lexically -/

variable {options : DecodeOptions} {s : Scope}

theorem refers_of_resolve {keepAliases : Bool} {t : TypeNode} {type : TypeExpr}
    (h : t.resolve (s.context keepAliases) = .ok type) :
    Refers keepAliases s.visible t type where
  occurrences :=
    forall₂_imp_of_mem (t.resolve_variables (s.context keepAliases) h) fun k _ v _ hkv =>
      (s.lookup_eq_some_iff k v).mp hkv
  references := by
    intro k hk
    obtain ⟨v, hv⟩ := Option.ne_none_iff_exists'.mp
      ((t.resolve_reads s.lookup keepAliases).declared h k hk)
    exact ⟨v, (s.lookup_eq_some_iff k v).mp hv⟩

/-- Parameters declared in an empty scope. -/
theorem parametersScoped_of_extended {keepAliases : Bool} {s' : Scope}
    {ps : List TypeParameterNode} (hempty : s.declared = [])
    (h : s.extended keepAliases ps = .ok s') :
    ParametersScoped keepAliases s.outer ps s'.declared ∧
      s'.visible = s'.declared :: s.outer ∧
      s'.declared.map (·.key) = (List.range s'.declared.length).map (.declared s.path) := by
  obtain ⟨vs, rfl, hlength, heach⟩ := Scope.extended_eq_ok h
  have hdeclared : (s.declareList vs).declared = vs := by simp [Scope.declareList, hempty]
  -- the `i`-th parameter is resolved in a scope with the `i` parameters before it
  have hat : ∀ i (p : TypeParameterNode) (v : TypeVar), ps[i]? = some p → vs[i]? = some v →
      v.key = .declared s.path i ∧
        (v.name, v.id, v.reified) = (p.name, p.id, p.flags.isReified) ∧
        List.Forall₂ (Refers keepAliases (vs.take i :: s.outer)) p.upperBounds v.upperBounds := by
    intro i p v hp hv
    obtain ⟨hkey, hname, hid, hreified, hbounds⟩ :=
      TypeParameterNode.resolve_eq_ok (heach i p v hp hv)
    refine ⟨by simpa [hempty] using hkey, by rw [hname, hid, hreified], ?_⟩
    refine hbounds.imp fun t type ht => ?_
    simpa [Scope.visible, Scope.declareList, hempty] using refers_of_resolve ht
  rw [hdeclared]
  refine ⟨⟨?_, fun i p v hp hv => (hat i p v hp hv).2.2⟩, by rw [Scope.visible, hdeclared]; rfl, ?_⟩
  · refine List.ext_getElem (by simp [hlength]) ?_
    intro i hi hi'
    rw [List.length_map] at hi hi'
    simpa using (hat i _ _ (List.getElem?_eq_getElem hi') (List.getElem?_eq_getElem hi)).2.1
  · refine List.ext_getElem (by simp) ?_
    intro i hi hi'
    rw [List.length_map] at hi
    have hi' : i < ps.length := by omega
    simpa using (hat i _ _ (List.getElem?_eq_getElem hi') (List.getElem?_eq_getElem hi)).1

theorem valueParameterScoped_of_decode {p : ValueParameterNode} {q : Parameter}
    (h : p.decode options s = .ok q) :
    ValueParameterScoped options.keepAliases s.visible p q := by
  obtain ⟨flags, name, t, element⟩ := p
  rcases element with _ | element
  · rcases t with _ | t
    · cases h
    · obtain ⟨type, htype, h⟩ := Except.bind_eq_ok.mp h
      cases h
      exact ⟨type, rfl, refers_of_resolve htype⟩
  · obtain ⟨type, htype, h⟩ := Except.bind_eq_ok.mp h
    cases h
    exact ⟨type, rfl, refers_of_resolve htype⟩

theorem optionRefers_of_decode {t : Option TypeNode} {type : Option TypeExpr}
    (h : Option.Rel (fun t type => t.decode options s = .ok type) t type) :
    Option.Rel (Refers options.keepAliases s.visible) t type := by
  cases h with
  | none => exact .none
  | some h => exact .some (refers_of_resolve h)

/-- A function whose scope is the child number `n` of the scope of a class. -/
theorem functionScoped_of_decode {n : Nat} {f : FunctionNode} {d : FunctionDecl}
    (hroot : s.outer = []) (h : f.decode options (s.child n) = .ok d) :
    FunctionScoped options.keepAliases s.declared f d ∧
      d.typeParameters.map (·.key) =
        (List.range d.typeParameters.length).map (.declared (n :: s.path)) := by
  obtain ⟨s', hs', htypeParameters, hreceiver, hparameters, hreturn⟩ :=
    FunctionNode.decode_eq_ok h
  obtain ⟨hscoped, hvisible, hkeys⟩ := parametersScoped_of_extended rfl hs'
  have hvisible : s'.visible = [d.typeParameters, s.declared] := by
    rw [hvisible, htypeParameters, Scope.child, hroot]
  rw [htypeParameters]
  refine ⟨⟨?_, ?_, ?_, ?_⟩, hkeys⟩
  · rw [htypeParameters]
    simpa [Scope.child, hroot] using hscoped
  · rw [← hvisible]
    exact optionRefers_of_decode hreceiver
  · rw [← hvisible]
    exact hparameters.imp fun p q hp => valueParameterScoped_of_decode hp
  · rw [← hvisible]
    exact refers_of_resolve hreturn

/-- A property whose scope is the child number `n` of the scope of a class. -/
theorem propertyScoped_of_decode {n : Nat} {p : PropertyNode} {d : PropertyDecl}
    (hroot : s.outer = []) (h : p.decode options (s.child n) = .ok d) :
    PropertyScoped options.keepAliases s.declared p d ∧
      d.typeParameters.map (·.key) =
        (List.range d.typeParameters.length).map (.declared (n :: s.path)) := by
  obtain ⟨s', hs', htypeParameters, hreceiver, htype⟩ := PropertyNode.decode_eq_ok h
  obtain ⟨hscoped, hvisible, hkeys⟩ := parametersScoped_of_extended rfl hs'
  have hvisible : s'.visible = [d.typeParameters, s.declared] := by
    rw [hvisible, htypeParameters, Scope.child, hroot]
  rw [htypeParameters]
  refine ⟨⟨?_, ?_, ?_⟩, hkeys⟩
  · rw [htypeParameters]
    simpa [Scope.child, hroot] using hscoped
  · rw [← hvisible]
    exact optionRefers_of_decode hreceiver
  · rw [← hvisible]
    exact refers_of_resolve htype

/-- Every part of a decoded class refers to what it can see. -/
theorem lexicallyScoped_of_decode {c : ClassNode} {d : ClassDecl} (h : c.decode options = .ok d) :
    LexicallyScoped options.keepAliases c d := by
  obtain ⟨s, types, hs, htypeParameters, htypes, hsuper, hconstructors, hproperties, hfunctions⟩ :=
    ClassNode.decode_eq_ok h
  obtain ⟨hscoped, hvisible, -⟩ := parametersScoped_of_extended rfl hs
  have hvisible : s.visible = [d.typeParameters] := by
    rw [hvisible, htypeParameters]
    rfl
  have hroot : s.outer = [] := by
    obtain ⟨vs, rfl, -⟩ := Scope.extended_eq_ok hs
    rfl
  constructor
  · rw [htypeParameters]
    exact hscoped
  · refine ⟨types, hsuper, htypes.imp fun t type ht => ?_⟩
    rw [← hvisible]
    exact refers_of_resolve ht
  · refine hconstructors.imp fun k e hk => ?_
    obtain ⟨-, hparameters⟩ := ConstructorNode.decode_eq_ok hk
    rw [← hvisible]
    exact hparameters.imp fun p q hp => valueParameterScoped_of_decode hp
  · rw [htypeParameters]
    exact forall₂_of_zipIdx hproperties fun p i e hp => (propertyScoped_of_decode hroot hp).1
  · rw [htypeParameters]
    exact forall₂_of_zipIdx hfunctions fun f i e hf => (functionScoped_of_decode hroot hf).1

end KotlinMeta
