import KotlinMeta.Decoding.Class
import KotlinMeta.Proofs.Scope.Lookup

/-! # The parts of a decoded declaration

One inversion lemma for each decoder: when it succeeds, from which node and in which scope each
part of the declaration was read.
-/

set_option autoImplicit false

namespace KotlinMeta

variable {options : DecodeOptions} {s : Scope}

theorem TypeParameterNode.resolve_eq_ok {context : TypeContext} {key : VarKey}
    {p : TypeParameterNode} {v : TypeVar} (h : p.resolve context key = .ok v) :
    v.key = key ∧ v.name = p.name ∧ v.id = p.id ∧ v.reified = p.flags.isReified ∧
      List.Forall₂ (fun t type => t.resolve context = .ok type) p.upperBounds v.upperBounds := by
  obtain ⟨upperBounds, hbounds, h⟩ := Except.bind_eq_ok.mp h
  cases h
  exact ⟨rfl, rfl, rfl, rfl, mapM_eq_ok_iff.mp hbounds⟩

/-- A declaration has the variance `in` or none. -/
theorem TypeParameterNode.variance_of_resolve {context : TypeContext} {key : VarKey}
    {p : TypeParameterNode} {v : TypeVar} (h : p.resolve context key = .ok v) :
    v.variance = none ∨ v.variance = some .contravariant := by
  obtain ⟨upperBounds, -, h⟩ := Except.bind_eq_ok.mp h
  cases h
  cases p.variance with
  | contravariant => exact Or.inr rfl
  | covariant | invariant => exact Or.inl rfl

theorem TypeNode.decodeOption_eq_ok {t : Option TypeNode} {type : Option TypeExpr}
    (h : TypeNode.decodeOption options s t = .ok type) :
    Option.Rel (fun t type => t.decode options s = .ok type) t type := by
  cases t with
  | none =>
      cases h
      exact .none
  | some t =>
      obtain ⟨type, ht, h⟩ := Except.bind_eq_ok.mp h
      cases h
      exact .some ht

theorem ConstructorNode.decode_eq_ok {c : ConstructorNode} {d : ConstructorDecl}
    (h : c.decode options s = .ok d) :
    d.flags = c.flags ∧
      List.Forall₂ (fun p q => p.decode options s = .ok q) c.valueParameters d.parameters := by
  obtain ⟨parameters, hparameters, h⟩ := Except.bind_eq_ok.mp h
  cases h
  exact ⟨rfl, mapM_eq_ok_iff.mp hparameters⟩

/-- The types of a member are read where its own parameters are declared. -/
theorem FunctionNode.decode_eq_ok {f : FunctionNode} {d : FunctionDecl}
    (h : f.decode options s = .ok d) :
    ∃ s', s.extended options.keepAliases f.typeParameters = .ok s' ∧
      d.typeParameters = s'.declared ∧
      Option.Rel (fun t type => t.decode options s' = .ok type) f.receiverType d.receiverType ∧
      List.Forall₂ (fun p q => p.decode options s' = .ok q) f.valueParameters d.parameters ∧
      f.returnType.decode options s' = .ok d.returnType := by
  obtain ⟨s', hs', h⟩ := Except.bind_eq_ok.mp h
  obtain ⟨receiverType, hreceiver, h⟩ := Except.bind_eq_ok.mp h
  obtain ⟨parameters, hparameters, h⟩ := Except.bind_eq_ok.mp h
  obtain ⟨returnType, hreturn, h⟩ := Except.bind_eq_ok.mp h
  cases h
  exact ⟨s', hs', rfl, TypeNode.decodeOption_eq_ok hreceiver, mapM_eq_ok_iff.mp hparameters,
    hreturn⟩

theorem PropertyNode.decode_eq_ok {p : PropertyNode} {d : PropertyDecl}
    (h : p.decode options s = .ok d) :
    ∃ s', s.extended options.keepAliases p.typeParameters = .ok s' ∧
      d.typeParameters = s'.declared ∧
      Option.Rel (fun t type => t.decode options s' = .ok type) p.receiverType d.receiverType ∧
      p.returnType.decode options s' = .ok d.type := by
  obtain ⟨s', hs', h⟩ := Except.bind_eq_ok.mp h
  obtain ⟨receiverType, hreceiver, h⟩ := Except.bind_eq_ok.mp h
  obtain ⟨type, htype, h⟩ := Except.bind_eq_ok.mp h
  cases h
  exact ⟨s', hs', rfl, TypeNode.decodeOption_eq_ok hreceiver, htype⟩

/-- The first type is the superclass, which is `kotlin.Any` if there is none, and the others are the
superinterfaces in order. -/
def ClassDecl.Inherits (d : ClassDecl) (types : List TypeExpr) : Prop :=
  d.superclass = types.headD .any ∧ d.superinterfaces = types.tail

theorem ClassDecl.Inherits.eq_any_or_mem {d : ClassDecl} {types : List TypeExpr}
    (h : d.Inherits types) {u : TypeExpr} (hu : u ∈ d.superclass :: d.superinterfaces) :
    u = .any ∨ u ∈ types := by
  rw [h.1, h.2] at hu
  cases types with
  | nil => exact Or.inl (List.mem_singleton.mp hu)
  | cons superclass interfaces => exact Or.inr hu

theorem ClassDecl.Inherits.getElem?_eq_some {d : ClassDecl} {types : List TypeExpr}
    (h : d.Inherits types) {i : Nat} {type : TypeExpr} (hi : types[i]? = some type) :
    (d.superclass :: d.superinterfaces)[i]? = some type := by
  rw [h.1, h.2]
  cases types with
  | nil => cases hi
  | cons superclass interfaces => exact hi

theorem superTypes_eq (types : List TypeExpr) :
    superTypes types = (types.headD .any, types.tail) := by
  cases types <;> rfl

/-- Supertypes and constructors are read in the scope of the class, and each member in a scope of
its own inside it. -/
theorem ClassNode.decode_eq_ok {c : ClassNode} {d : ClassDecl} (h : c.decode options = .ok d) :
    ∃ s supertypes, Scope.root.extended options.keepAliases c.typeParameters = .ok s ∧
      d.typeParameters = s.declared ∧
      List.Forall₂ (fun t type => t.decode options s = .ok type) c.supertypes supertypes ∧
      d.Inherits supertypes ∧
      List.Forall₂ (fun k e => k.decode options s = .ok e) c.constructors d.constructors ∧
      List.Forall₂ (fun p e => p.1.decode options (s.child p.2) = .ok e)
        c.properties.zipIdx d.properties ∧
      List.Forall₂ (fun f e => f.1.decode options (s.child (c.properties.length + f.2)) = .ok e)
        c.functions.zipIdx d.functions := by
  obtain ⟨s, hs, h⟩ := Except.bind_eq_ok.mp h
  obtain ⟨supertypes, hsupertypes, h⟩ := Except.bind_eq_ok.mp h
  obtain ⟨constructors, hconstructors, h⟩ := Except.bind_eq_ok.mp h
  obtain ⟨-, -, h⟩ := Except.bind_eq_ok.mp h
  obtain ⟨properties, hproperties, h⟩ := Except.bind_eq_ok.mp h
  obtain ⟨functions, hfunctions, h⟩ := Except.bind_eq_ok.mp h
  cases h
  have hsuper := superTypes_eq supertypes
  exact ⟨s, supertypes, hs, rfl, mapM_eq_ok_iff.mp hsupertypes,
    ⟨congrArg Prod.fst hsuper, congrArg Prod.snd hsuper⟩, mapM_eq_ok_iff.mp hconstructors,
    mapM_eq_ok_iff.mp hproperties, mapM_eq_ok_iff.mp hfunctions⟩

theorem ClassNode.variance_of_decode {c : ClassNode} {d : ClassDecl} (h : c.decode options = .ok d)
    {v : TypeVar} (hv : v ∈ d.typeParameters) :
    v.variance = none ∨ v.variance = some .contravariant := by
  obtain ⟨s, -, hs, htypeParameters, -⟩ := ClassNode.decode_eq_ok h
  obtain ⟨vs, rfl, hlength, heach⟩ := Scope.extended_eq_ok hs
  rw [htypeParameters] at hv
  obtain ⟨i, hi⟩ := List.mem_iff_getElem?.mp (show v ∈ vs from hv)
  have hlt : i < c.typeParameters.length := hlength ▸ (List.getElem?_eq_some_iff.mp hi).1
  exact TypeParameterNode.variance_of_resolve
    (heach i _ v (List.getElem?_eq_getElem hlt) hi)

theorem ClassNode.name_of_decode {c : ClassNode} {d : ClassDecl} (h : c.decode options = .ok d) :
    d.name = .ofMetadata c.name := by
  obtain ⟨_, -, h⟩ := Except.bind_eq_ok.mp h
  obtain ⟨_, -, h⟩ := Except.bind_eq_ok.mp h
  obtain ⟨_, -, h⟩ := Except.bind_eq_ok.mp h
  obtain ⟨_, -, h⟩ := Except.bind_eq_ok.mp h
  obtain ⟨_, -, h⟩ := Except.bind_eq_ok.mp h
  obtain ⟨_, -, h⟩ := Except.bind_eq_ok.mp h
  cases h
  rfl

end KotlinMeta
