import Mathlib.Data.List.Nodup
import Mathlib.Logic.Relation
import KotlinMeta.Node.Build
import KotlinMeta.Proofs.Decoding.Checks
import KotlinMeta.Proofs.Decoding.Scoping

/-! # Where type parameters occur

What lexical scoping says about the declaration alone: a type parameter of a class occurs anywhere
in the class, that of a member only in the member, and bounds refer to nothing declared later. The
keys of all parameters differ, so that occurrences of different parameters cannot be mixed up.
-/

set_option autoImplicit false

namespace KotlinMeta

/-! ## Members -/

/-- What the member of a class declares and the types in it. -/
structure Member where
  typeParameters : List TypeVar
  types : List TypeExpr

def PropertyDecl.member (p : PropertyDecl) : Member where
  typeParameters := p.typeParameters
  types := p.typeParameters.flatMap (·.upperBounds) ++ p.receiverType.toList ++ [p.type]

def FunctionDecl.member (f : FunctionDecl) : Member where
  typeParameters := f.typeParameters
  types :=
    f.typeParameters.flatMap (·.upperBounds) ++ f.receiverType.toList ++
      f.parameters.map Parameter.declaredType ++ [f.returnType]

namespace ClassDecl

/-- The properties, then the functions. -/
def members (d : ClassDecl) : List Member :=
  d.properties.map PropertyDecl.member ++ d.functions.map FunctionDecl.member

/-- The types outside of all members. -/
def ownTypes (d : ClassDecl) : List TypeExpr :=
  d.typeParameters.flatMap (·.upperBounds) ++ d.superclass :: d.superinterfaces ++
    d.constructors.flatMap (·.parameters.map Parameter.declaredType)

/-- All type parameters, those of the class first. -/
def declared (d : ClassDecl) : List TypeVar :=
  d.typeParameters ++ d.members.flatMap (·.typeParameters)

end ClassDecl

/-! ## Which variables occur where -/

/-- All variables of the type are among these declarations. -/
def TypeExpr.Within (vs : List TypeVar) (t : TypeExpr) : Prop := ∀ w ∈ t.variables, w ∈ vs

/-- The bounds of each parameter refer to parameters before it or outside. -/
def BoundsOrdered (outer vs : List TypeVar) : Prop :=
  ∀ (i : Nat) (v : TypeVar), vs[i]? = some v →
    ∀ bound ∈ v.upperBounds, bound.Within (vs.take i ++ outer)

variable {options : DecodeOptions} {keepAliases : Bool} {visible : List (List TypeVar)}

theorem Refers.within {t : TypeNode} {type : TypeExpr} (h : Refers keepAliases visible t type) :
    type.Within visible.flatten := by
  intro w hw
  obtain ⟨k, -, hk⟩ := exists_of_mem_right h.occurrences hw
  obtain ⟨vs, hvs, hmem⟩ := hk.mem
  exact List.mem_flatten.mpr ⟨vs, hvs, hmem⟩

theorem Refers.within_of_option {t : Option TypeNode} {type : Option TypeExpr}
    (h : Option.Rel (Refers keepAliases visible) t type) :
    ∀ u ∈ type.toList, u.Within visible.flatten := by
  cases h with
  | none => simp
  | some h => simpa using h.within

theorem ValueParameterScoped.within {p : ValueParameterNode} {q : Parameter}
    (h : ValueParameterScoped keepAliases visible p q) :
    q.declaredType.Within visible.flatten := by
  rw [ValueParameterScoped] at h
  rw [Parameter.declaredType]
  split at h
  · obtain ⟨type, htype, h⟩ := h
    rw [htype]
    exact h.within
  · obtain ⟨type, htype, h⟩ := h
    rw [htype]
    exact h.within
  · cases h

theorem ValueParameterScoped.within_of_list {ps : List ValueParameterNode} {qs : List Parameter}
    (h : List.Forall₂ (ValueParameterScoped keepAliases visible) ps qs) :
    ∀ u ∈ qs.map Parameter.declaredType, u.Within visible.flatten := by
  intro u hu
  obtain ⟨q, hq, rfl⟩ := List.mem_map.mp hu
  obtain ⟨p, -, hp⟩ := exists_of_mem_right h hq
  exact hp.within

theorem ParametersScoped.boundsOrdered {outer : List (List TypeVar)} {ps : List TypeParameterNode}
    {vs : List TypeVar} (h : ParametersScoped keepAliases outer ps vs) :
    BoundsOrdered outer.flatten vs := by
  intro i v hv bound hbound
  have hi : i < ps.length := by
    have hlength := congrArg List.length h.parameters
    rw [List.length_map, List.length_map] at hlength
    rw [← hlength]
    exact (List.getElem?_eq_some_iff.mp hv).1
  obtain ⟨t, -, ht⟩ := exists_of_mem_right (h.bounds i ps[i] v (by simp [hi]) hv) hbound
  exact ht.within

/-- Bounds in order see nothing but the list itself and what is outside. -/
theorem BoundsOrdered.within {outer vs : List TypeVar} (h : BoundsOrdered outer vs) :
    ∀ u ∈ vs.flatMap (·.upperBounds), u.Within (vs ++ outer) := by
  intro u hu w hw
  obtain ⟨v, hv, hu⟩ := List.mem_flatMap.mp hu
  obtain ⟨i, hi⟩ := List.mem_iff_getElem?.mp hv
  rcases List.mem_append.mp (h i v hi u hu w hw) with hmem | hmem
  · exact List.mem_append_left _ (List.mem_of_mem_take hmem)
  · exact List.mem_append_right _ hmem

/-- Parameters that come first are in order among themselves. -/
theorem BoundsOrdered.of_append {outer before after : List TypeVar}
    (h : BoundsOrdered outer (before ++ after)) : BoundsOrdered outer before := by
  intro i v hv bound hbound w hw
  have hi : i < before.length := (List.getElem?_eq_some_iff.mp hv).1
  have hmem := h i v (by rw [List.getElem?_append_left hi, hv]) bound hbound w hw
  rwa [List.take_append_of_le_length (Nat.le_of_lt hi)] at hmem

theorem BoundsOrdered.within_before {outer before after : List TypeVar} {v : TypeVar}
    (h : BoundsOrdered outer (before ++ v :: after)) :
    ∀ bound ∈ v.upperBounds, bound.Within (before ++ outer) := by
  intro bound hbound
  have hv : (before ++ v :: after)[before.length]? = some v := by simp
  have hwithin := h before.length v hv bound hbound
  rwa [List.take_left] at hwithin

theorem PropertyScoped.member {outer : List TypeVar} {p : PropertyNode} {d : PropertyDecl}
    (h : PropertyScoped keepAliases outer p d) :
    BoundsOrdered outer d.typeParameters ∧
      ∀ u ∈ d.member.types, u.Within (d.typeParameters ++ outer) := by
  have hbounds : BoundsOrdered outer d.typeParameters := by
    simpa using h.typeParameters.boundsOrdered
  refine ⟨hbounds, fun u hu => ?_⟩
  rcases List.mem_append.mp hu with hu | hu
  · rcases List.mem_append.mp hu with hu | hu
    · exact hbounds.within u hu
    · simpa using Refers.within_of_option h.receiverType u hu
  · rw [List.mem_singleton.mp hu]
    simpa using h.type.within

theorem FunctionScoped.member {outer : List TypeVar} {f : FunctionNode} {d : FunctionDecl}
    (h : FunctionScoped keepAliases outer f d) :
    BoundsOrdered outer d.typeParameters ∧
      ∀ u ∈ d.member.types, u.Within (d.typeParameters ++ outer) := by
  have hbounds : BoundsOrdered outer d.typeParameters := by
    simpa using h.typeParameters.boundsOrdered
  refine ⟨hbounds, fun u hu => ?_⟩
  rcases List.mem_append.mp hu with hu | hu
  · rcases List.mem_append.mp hu with hu | hu
    · rcases List.mem_append.mp hu with hu | hu
      · exact hbounds.within u hu
      · simpa using Refers.within_of_option h.receiverType u hu
    · simpa using ValueParameterScoped.within_of_list h.parameters u hu
  · rw [List.mem_singleton.mp hu]
    simpa using h.returnType.within

namespace LexicallyScoped

variable {c : ClassNode} {d : ClassDecl} (h : LexicallyScoped keepAliases c d)
include h

theorem boundsOrdered : BoundsOrdered [] d.typeParameters := by
  simpa using h.typeParameters.boundsOrdered

/-- Outside of the members only parameters of the class occur. -/
theorem ownTypes_within : ∀ u ∈ d.ownTypes, u.Within d.typeParameters := by
  intro u hu
  have hflatten : ∀ u : TypeExpr, u.Within [d.typeParameters].flatten → u.Within d.typeParameters :=
    fun u hu => by simpa using hu
  rcases List.mem_append.mp hu with hu | hu
  · rcases List.mem_append.mp hu with hu | hu
    · simpa using h.boundsOrdered.within u hu
    · obtain ⟨types, hsuper, htypes⟩ := h.supertypes
      rcases hsuper.eq_any_or_mem hu with rfl | hu
      · intro w hw
        cases hw
      · obtain ⟨t, -, ht⟩ := exists_of_mem_right htypes hu
        exact hflatten u ht.within
  · obtain ⟨e, he, hu⟩ := List.mem_flatMap.mp hu
    obtain ⟨k, -, hk⟩ := exists_of_mem_right h.constructors he
    exact hflatten u (ValueParameterScoped.within_of_list hk u hu)

/-- In a member only parameters of the member and of the class occur. -/
theorem members_within : ∀ m ∈ d.members, BoundsOrdered d.typeParameters m.typeParameters ∧
    ∀ u ∈ m.types, u.Within (m.typeParameters ++ d.typeParameters) := by
  intro m hm
  rcases List.mem_append.mp hm with hm | hm
  · obtain ⟨e, he, rfl⟩ := List.mem_map.mp hm
    obtain ⟨p, -, hp⟩ := exists_of_mem_right h.properties he
    exact hp.member
  · obtain ⟨e, he, rfl⟩ := List.mem_map.mp hm
    obtain ⟨f, -, hf⟩ := exists_of_mem_right h.functions he
    exact hf.member

end LexicallyScoped

/-! ## Keys -/

/-- The parameters of the class have its own path in their keys, and those of each member the
number of the member. -/
structure KeyedByPlace (d : ClassDecl) : Prop where
  own : d.typeParameters.map (·.key) =
    (List.range d.typeParameters.length).map (VarKey.declared [])
  member : ∀ (i : Nat) (m : Member), d.members[i]? = some m →
    m.typeParameters.map (·.key) =
      (List.range m.typeParameters.length).map (VarKey.declared [i])

theorem keyedByPlace_of_decode {c : ClassNode} {d : ClassDecl} (h : c.decode options = .ok d) :
    KeyedByPlace d := by
  obtain ⟨s, types, hs, htypeParameters, -, -, -, hproperties, hfunctions⟩ :=
    ClassNode.decode_eq_ok h
  obtain ⟨-, -, hkeys⟩ := parametersScoped_of_extended rfl hs
  obtain ⟨hroot, hpath⟩ : s.outer = [] ∧ s.path = [] := by
    obtain ⟨vs, rfl, -⟩ := Scope.extended_eq_ok hs
    exact ⟨rfl, rfl⟩
  constructor
  · rw [htypeParameters]
    exact hkeys
  · intro i m hm
    rw [ClassDecl.members, List.getElem?_append] at hm
    split at hm
    · rw [List.getElem?_map, Option.map_eq_some_iff] at hm
      obtain ⟨e, he, rfl⟩ := hm
      obtain ⟨p, -, hp⟩ := forall₂_zipIdx_getElem? hproperties he
      rw [← hpath]
      exact (propertyScoped_of_decode hroot hp).2
    · rename_i hi
      rw [List.getElem?_map, Option.map_eq_some_iff] at hm
      obtain ⟨e, he, rfl⟩ := hm
      obtain ⟨f, -, hf⟩ := forall₂_zipIdx_getElem? hfunctions he
      have hlength : c.properties.length + (i - (d.properties.map PropertyDecl.member).length) =
          i := by
        have := hproperties.length_eq
        rw [List.length_zipIdx] at this
        rw [List.length_map] at hi ⊢
        omega
      rw [hlength] at hf
      rw [← hpath]
      exact (functionScoped_of_decode hroot hf).2

/-- The type parameters of a member occur in no type outside of all members and in none of any
other member. -/
def MembersApart (d : ClassDecl) : Prop :=
  ∀ (i : Nat) (m : Member), d.members[i]? = some m → ∀ v ∈ m.typeParameters,
    (∀ u ∈ d.ownTypes, ∀ w ∈ u.variables, w.key ≠ v.key) ∧
      ∀ (j : Nat) (m' : Member), d.members[j]? = some m' → j ≠ i →
        ∀ u ∈ m'.types, ∀ w ∈ u.variables, w.key ≠ v.key

/-- A bound of the parameter with key `a` refers to the parameter with key `b`. -/
def BoundEdge (d : ClassDecl) (a b : VarKey) : Prop :=
  ∃ v ∈ d.declared, v.key = a ∧ ∃ bound ∈ v.upperBounds, ∃ w ∈ bound.variables, w.key = b

/-- The place is further out, or before the other in the same list. -/
def VarKey.Before : VarKey → VarKey → Prop
  | .declared path n, .declared path' n' =>
    path.length < path'.length ∨ path.length = path'.length ∧ n < n'
  | _, _ => False

theorem VarKey.Before.trans {a b c : VarKey} (hab : a.Before b) (hbc : b.Before c) :
    a.Before c := by
  cases a <;> cases b <;> cases c <;> simp only [VarKey.Before] at hab hbc ⊢
  omega

theorem VarKey.Before.irrefl {a : VarKey} (h : a.Before a) : False := by
  cases a <;> simp [VarKey.Before] at h

/-- Where bounds refer only to what is declared before, they do not run in a circle. -/
theorem not_transGen_boundEdge {d : ClassDecl}
    (hbefore : ∀ a b, BoundEdge d a b → b.Before a) (k : VarKey) :
    ¬ Relation.TransGen (BoundEdge d) k k := by
  -- along bounds places only get earlier, and none is before itself
  have hpath : ∀ b, Relation.TransGen (BoundEdge d) k b → b.Before k := by
    intro b h
    induction h with
    | single hedge => exact hbefore _ _ hedge
    | tail _ hedge ih => exact (hbefore _ _ hedge).trans ih
  exact fun h => (hpath k h).irrefl

namespace KeyedByPlace

variable {d : ClassDecl} (h : KeyedByPlace d)
include h

theorem key_of_own {i : Nat} {v : TypeVar} (hv : d.typeParameters[i]? = some v) :
    v.key = .declared [] i := by
  have := congrArg (·[i]?) h.own
  simp only [List.getElem?_map, hv] at this
  obtain ⟨hi, -⟩ := List.getElem?_eq_some_iff.mp hv
  simpa [hi] using this

theorem key_of_member {i n : Nat} {m : Member} {v : TypeVar} (hm : d.members[i]? = some m)
    (hv : m.typeParameters[n]? = some v) : v.key = .declared [i] n := by
  have := congrArg (·[n]?) (h.member i m hm)
  simp only [List.getElem?_map, hv] at this
  obtain ⟨hn, -⟩ := List.getElem?_eq_some_iff.mp hv
  simpa [hn] using this

theorem key_of_mem_own {v : TypeVar} (hv : v ∈ d.typeParameters) :
    ∃ n, v.key = .declared [] n := by
  obtain ⟨n, hn⟩ := List.mem_iff_getElem?.mp hv
  exact ⟨n, h.key_of_own hn⟩

theorem key_of_mem_member {i : Nat} {m : Member} {v : TypeVar} (hm : d.members[i]? = some m)
    (hv : v ∈ m.typeParameters) : ∃ n, v.key = .declared [i] n := by
  obtain ⟨n, hn⟩ := List.mem_iff_getElem?.mp hv
  exact ⟨n, h.key_of_member hm hn⟩

/-- No two parameters have the same key. -/
theorem nodup : (d.declared.map (·.key)).Nodup := by
  have hplace : ∀ (path : List Nat) (n : Nat), ((List.range n).map (VarKey.declared path)).Nodup :=
    fun path n => List.nodup_range.map fun i j hij => by cases hij; rfl
  have hmember : ∀ i (m : Member) k, d.members[i]? = some m → k ∈ m.typeParameters.map (·.key) →
      ∃ n, k = .declared [i] n := by
    intro i m k hm hk
    obtain ⟨v, hv, rfl⟩ := List.mem_map.mp hk
    exact h.key_of_mem_member hm hv
  rw [ClassDecl.declared, List.map_append, List.map_flatMap, List.nodup_append', List.nodup_flatMap,
    List.pairwise_iff_getElem]
  -- within the class, within a member, between two members, between the class and a member
  refine ⟨?_, ⟨?_, ?_⟩, ?_⟩
  · rw [h.own]
    exact hplace _ _
  · intro m hm
    obtain ⟨i, hi⟩ := List.mem_iff_getElem?.mp hm
    rw [h.member i m hi]
    exact hplace _ _
  · intro i j hi hj hij k hki hkj
    obtain ⟨n, rfl⟩ := hmember i _ k (List.getElem?_eq_getElem hi) hki
    obtain ⟨n', hn'⟩ := hmember j _ _ (List.getElem?_eq_getElem hj) hkj
    cases hn'
    omega
  · intro k hk hk'
    obtain ⟨v, hv, rfl⟩ := List.mem_map.mp hk
    obtain ⟨n, hn⟩ := h.key_of_mem_own hv
    obtain ⟨m, hm, hk'⟩ := List.mem_flatMap.mp hk'
    obtain ⟨i, hi⟩ := List.mem_iff_getElem?.mp hm
    obtain ⟨n', hn'⟩ := hmember i m _ hi hk'
    rw [hn] at hn'
    cases hn'

/-- The parameters of a member occur nowhere outside of it. -/
theorem membersApart (hown : ∀ u ∈ d.ownTypes, u.Within d.typeParameters)
    (hmembers : ∀ m ∈ d.members, ∀ u ∈ m.types, u.Within (m.typeParameters ++ d.typeParameters)) :
    MembersApart d := by
  -- every variable has the key of its owner, and `v` belongs to the member `i`
  intro i m hm v hv
  obtain ⟨n, hkey⟩ := h.key_of_mem_member hm hv
  refine ⟨fun u hu w hw heq => ?_, fun j m' hm' hij u hu w hw heq => ?_⟩
  · obtain ⟨n', hkey'⟩ := h.key_of_mem_own (hown u hu w hw)
    rw [hkey, hkey'] at heq
    cases heq
  · rcases List.mem_append.mp (hmembers m' (List.mem_of_getElem? hm') u hu w hw) with hw | hw
    · obtain ⟨n', hkey'⟩ := h.key_of_mem_member hm' hw
      rw [hkey, hkey'] at heq
      cases heq
      exact hij rfl
    · obtain ⟨n', hkey'⟩ := h.key_of_mem_own hw
      rw [hkey, hkey'] at heq
      cases heq

/-- A bound of a parameter refers only to what is declared before the parameter. -/
theorem before_of_boundEdge (hown : BoundsOrdered [] d.typeParameters)
    (hmembers : ∀ m ∈ d.members, BoundsOrdered d.typeParameters m.typeParameters)
    {a b : VarKey} (hedge : BoundEdge d a b) : b.Before a := by
  obtain ⟨v, hv, rfl, bound, hbound, w, hw, rfl⟩ := hedge
  -- a parameter of the class sees those before it, one of a member those of the class, too
  rcases List.mem_append.mp hv with hv | hv
  · obtain ⟨n, hn⟩ := List.mem_iff_getElem?.mp hv
    rw [h.key_of_own hn]
    have hw := hown n v hn bound hbound w hw
    rw [List.append_nil] at hw
    obtain ⟨k, hk, hkw⟩ := exists_of_mem_take hw
    rw [h.key_of_own hkw]
    exact Or.inr ⟨rfl, hk⟩
  · obtain ⟨m, hm, hv⟩ := List.mem_flatMap.mp hv
    obtain ⟨i, hi⟩ := List.mem_iff_getElem?.mp hm
    obtain ⟨n, hn⟩ := List.mem_iff_getElem?.mp hv
    rw [h.key_of_member hi hn]
    rcases List.mem_append.mp (hmembers m hm n v hn bound hbound w hw) with hw | hw
    · obtain ⟨k, hk, hkw⟩ := exists_of_mem_take hw
      rw [h.key_of_member hi hkw]
      exact Or.inr ⟨rfl, hk⟩
    · obtain ⟨k, hk⟩ := List.mem_iff_getElem?.mp hw
      rw [h.key_of_own hk]
      exact Or.inl (Nat.lt_succ_self 0)

end KeyedByPlace

/-! ## The whole class -/

/-- Every variable is one of the parameters that are declared around it. -/
structure ProperlyScoped (d : ClassDecl) : Prop where
  keys : (d.declared.map (·.key)).Nodup
  own : ∀ u ∈ d.ownTypes, u.Within d.typeParameters
  members : ∀ m ∈ d.members, ∀ u ∈ m.types, u.Within (m.typeParameters ++ d.typeParameters)
  ownBounds : BoundsOrdered [] d.typeParameters
  memberBounds : ∀ m ∈ d.members, BoundsOrdered d.typeParameters m.typeParameters
  acyclic : ∀ k, ¬ Relation.TransGen (BoundEdge d) k k
  apart : MembersApart d

theorem properlyScoped_of_decode {c : ClassNode} {d : ClassDecl} (h : c.decode options = .ok d) :
    ProperlyScoped d := by
  have hscoped := lexicallyScoped_of_decode h
  have hkeyed := keyedByPlace_of_decode h
  have hmembers : ∀ m ∈ d.members, ∀ u ∈ m.types, u.Within (m.typeParameters ++ d.typeParameters) :=
    fun m hm => (hscoped.members_within m hm).2
  have hbounds : ∀ m ∈ d.members, BoundsOrdered d.typeParameters m.typeParameters :=
    fun m hm => (hscoped.members_within m hm).1
  exact {
    keys := hkeyed.nodup
    own := hscoped.ownTypes_within
    members := hmembers
    ownBounds := hscoped.boundsOrdered
    memberBounds := hbounds
    acyclic := not_transGen_boundEdge fun a b hab =>
      hkeyed.before_of_boundEdge hscoped.boundsOrdered hbounds hab
    apart := hkeyed.membersApart hscoped.ownTypes_within hmembers }

/-- **Type parameters are scoped lexically.** Where a class can be decoded, each variable is the
declaration that the number at its place denotes, so that bounds are in order and free of circles
and the parameters of a member stay inside it. A live reference without a declaration makes
decoding fail and is to blame, unless the failure comes before it. Further type parameters at the
end of a list leave those that were there as they are. -/
theorem ClassNode.decode_scoping (options : DecodeOptions) (c : ClassNode) :
    (∀ d, c.decode options = .ok d →
      LexicallyScoped options.keepAliases c d ∧ ProperlyScoped d) ∧
    (∀ before visible t after seen k rest, c.checks = before ++ .type visible t :: after →
      t.references options.keepAliases = seen ++ k :: rest → k ∉ visible →
      ∃ e, c.decode options = .error e ∧
        (e = .undeclaredParameter k ∨ (∃ b ∈ before, b.Fails options.keepAliases e) ∨
          t.FailsWithin options.keepAliases visible seen e)) ∧
    (∀ more d d', c.decode options = .ok d →
      { c with typeParameters := c.typeParameters ++ more }.decode options = .ok d' →
      d.typeParameters <+: d'.typeParameters) ∧
    (∀ (s : Scope) (p : PropertyNode) more d d', p.decode options s = .ok d →
      { p with typeParameters := p.typeParameters ++ more }.decode options s = .ok d' →
      d.typeParameters <+: d'.typeParameters) ∧
    (∀ (s : Scope) (f : FunctionNode) more d d', f.decode options s = .ok d →
      { f with typeParameters := f.typeParameters ++ more }.decode options s = .ok d' →
      d.typeParameters <+: d'.typeParameters) := by
  refine ⟨?_, ?_, ?_, ?_, ?_⟩
  · intro d h
    exact ⟨lexicallyScoped_of_decode h, properlyScoped_of_decode h⟩
  · intro before visible t after seen k rest hchecks hreferences hk
    exact c.decode_undeclared options hchecks hreferences hk
  · intro more d d' h h'
    obtain ⟨s, -, hs, hd, -⟩ := ClassNode.decode_eq_ok h
    obtain ⟨s', -, hs', hd', -⟩ := ClassNode.decode_eq_ok h'
    rw [hd, hd']
    exact Scope.declared_prefix_of_extended_append hs hs'
  · intro s p more d d' h h'
    obtain ⟨s₁, hs, hd, -⟩ := PropertyNode.decode_eq_ok h
    obtain ⟨s₂, hs', hd', -⟩ := PropertyNode.decode_eq_ok h'
    rw [hd, hd']
    exact Scope.declared_prefix_of_extended_append hs hs'
  · intro s f more d d' h h'
    obtain ⟨s₁, hs, hd, -⟩ := FunctionNode.decode_eq_ok h
    obtain ⟨s₂, hs', hd', -⟩ := FunctionNode.decode_eq_ok h'
    rw [hd, hd']
    exact Scope.declared_prefix_of_extended_append hs hs'

/-- A class with a function that has a type parameter with a number of the class. -/
def shadowingClass : ClassNode :=
  { ClassNode.of Flags.none "sample/Box" with
    typeParameters :=
      [.of "T" 0 .invariant,
        { TypeParameterNode.of "U" 1 .contravariant with upperBounds := [.ofParameter 0] }]
    functions :=
      [{ FunctionNode.of Flags.none "swap" (.ofParameter 0) with
        typeParameters :=
          [{ TypeParameterNode.of "V" 0 .invariant with
            upperBounds := [.ofParameter 0, .ofParameter 1] }]
        receiverType := some (.ofParameter 1) }] }

/-- The result of the function is its own `V`, not the `T` of the class. -/
theorem decode_scoping_shadowingClass :
    ∃ d, shadowingClass.decode ⟨false⟩ = .ok d ∧
      LexicallyScoped false shadowingClass d ∧ ProperlyScoped d ∧
      d.functions.map (fun f => f.returnType.variables.map (·.key)) =
        [[.declared [0] 0]] := by
  obtain ⟨d, hd, hkeys⟩ : ∃ d, shadowingClass.decode ⟨false⟩ = .ok d ∧
      d.functions.map (fun f => f.returnType.variables.map (·.key)) = [[.declared [0] 0]] :=
    ⟨_, rfl, rfl⟩
  obtain ⟨hscoped, hproper⟩ := (shadowingClass.decode_scoping ⟨false⟩).1 d hd
  exact ⟨d, hd, hscoped, hproper, hkeys⟩

end KotlinMeta
