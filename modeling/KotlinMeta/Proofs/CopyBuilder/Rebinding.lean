import KotlinMeta.Proofs.CopyBuilder.TypeVariables
import KotlinMeta.Proofs.Decoding.Renumber
import KotlinMeta.Proofs.TypeNode.References

/-! # Types over the counterparts

A builder takes the types of properties as they were decoded and puts the counterparts in the place
of the type parameters of the class. It could as well have decoded them again in a scope that
declares the counterparts: resolution only puts the declarations that it finds where the numbers
were (`resolve_rebind`), and a counterpart has the number of its parameter.
-/

set_option autoImplicit false

namespace KotlinMeta

/-! ## Resolution with other declarations -/

/-- The same numbers, of which the declarations are replaced. -/
def ParameterLookup.replaced (lookup : ParameterLookup) (f : TypeVar → TypeVar) :
    ParameterLookup := fun k => (lookup k).map f

/-- The failure with the variables of the type that it may quote replaced. -/
def DecodeError.replaced (f : TypeVar → TypeVar) (e : DecodeError) : DecodeError :=
  e.rebind (fun k => k) f

/-- Other declarations give the type, or the failure, with the variables replaced. -/
theorem TypeNode.resolve_replaced (lookup : ParameterLookup) (f : TypeVar → TypeVar)
    (keepAliases : Bool) (t : TypeNode) :
    t.resolve ⟨lookup.replaced f, keepAliases⟩ =
      mapResult (DecodeError.replaced f) (TypeExpr.mapVariables f)
        (t.resolve ⟨lookup, keepAliases⟩) := by
  have hsame := @resolve_renumber lookup (lookup.replaced f) (fun k => k) f keepAliases
    (fun _ => rfl) t
  rwa [renumber_self] at hsame

/-- Only a failure that quotes a type changes, and only in this type. -/
theorem DecodeError.replaced_cases (f : TypeVar → TypeVar) (e : DecodeError) :
    e.replaced f = e ∨
      ∃ slot, e = .suspendFunction (.notContinuation slot) ∧
        e.replaced f = .suspendFunction (.notContinuation (slot.mapVariables f)) := by
  cases e with
  | suspendFunction defect =>
      cases defect with
      | notContinuation slot => exact Or.inr ⟨slot, rfl, rfl⟩
      | _ => exact Or.inl rfl
  | _ => exact Or.inl rfl

/-- A property without type parameters, read where every declaration is replaced. -/
theorem PropertyNode.decode_replaced {options : DecodeOptions} {s s' : Scope}
    {f : TypeVar → TypeVar} {p : PropertyNode} {q : PropertyDecl} (hplain : p.typeParameters = [])
    (hlookup : s'.lookup = s.lookup.replaced f) (hdeclared : s'.declared = s.declared)
    (h : p.decode options s = .ok q) :
    p.decode options s' =
      .ok { q with
        receiverType := TypeExpr.mapOption f q.receiverType
        type := q.type.mapVariables f } := by
  have htype : ∀ t : TypeNode, t.decode options s' =
      mapResult (DecodeError.replaced f) (TypeExpr.mapVariables f) (t.decode options s) := by
    intro t
    rw [TypeNode.decode, Scope.context, hlookup]
    exact t.resolve_replaced s.lookup f options.keepAliases
  have hreceiver : TypeNode.decodeOption options s' p.receiverType =
      mapResult (DecodeError.replaced f) (TypeExpr.mapOption f)
        (TypeNode.decodeOption options s p.receiverType) := by
    cases p.receiverType with
    | none => rfl
    | some t => exact bind_eq_mapResult (htype t) fun _ => rfl
  have hproperty : p.decode options s' =
      mapResult (DecodeError.replaced f) (fun q => { q with
        receiverType := TypeExpr.mapOption f q.receiverType
        type := q.type.mapVariables f }) (p.decode options s) := by
    rw [decode, decode, hplain]
    show (TypeNode.decodeOption options s' p.receiverType >>= _) =
      mapResult _ _ (TypeNode.decodeOption options s p.receiverType >>= _)
    refine bind_eq_mapResult hreceiver fun receiverType => ?_
    refine bind_eq_mapResult (htype p.returnType) fun type => ?_
    rw [hdeclared]
    rfl
  rw [hproperty, h]
  rfl

namespace CopyBuilder

open Source

/-! ## The scope of the counterparts -/

/-- The scope of a member of the class if the class declared the type variables of the builder. -/
def memberScope (file : File) (ordinal : Nat) : Scope :=
  (Scope.root.declareList file.builder.typeVariables).child ordinal

/-- The counterparts of the parameters of a class are found under the same numbers. -/
theorem Paired.lookup_child {vs : List TypeVar} {pairs : Counterparts} (h : Paired vs pairs)
    (hkeys : (vs.map (·.key)).Nodup) (ordinal : Nat) :
    ((Scope.root.declareList (pairs.map (·.2))).child ordinal).lookup =
      ((Scope.root.declareList vs).child ordinal).lookup.replaced (counterpart pairs) := by
  funext k
  have hid : ∀ v ∈ vs, (counterpart pairs v).id = v.id := by
    intro v hv
    obtain ⟨p, hp, rfl, hcounterpart⟩ := h.counterpart_eq hkeys hv
    have hsame := h.same p hp
    rw [hcounterpart]
    simp only [Prod.mk.injEq] at hsame
    exact hsame.2.1
  have hvisible : ((Scope.root.declareList (pairs.map (·.2))).child ordinal).visible =
      ((Scope.root.declareList vs).child ordinal).visible.map (List.map (counterpart pairs)) := by
    rw [← h.map_counterpart hkeys]
    rfl
  refine @Scope.lookup_map _ _ (fun k => k) _ k hvisible fun v hv => ?_
  have hmem : v ∈ vs := by
    simpa [Scope.visible, Scope.child, Scope.declareList, Scope.root] using hv
  rw [hid v hmem]

/-- With the counterparts in the scope of the class, the decoder reads a property of the class with
the type that the property of the builder has. -/
def ReadWith (options : DecodeOptions) (c : ClassNode) (d : ClassDecl) (file : File)
    (b : PropertyDecl) (q : PropertyDef) : Prop :=
  ∃ (i : Nat) (p : PropertyNode), c.properties[i]? = some p ∧ d.properties[i]? = some b ∧
    p.decode options (memberScope file i) =
      .ok { b with
        receiverType :=
          TypeExpr.mapOption (counterpart (counterparts d.typeParameters)) b.receiverType
        type := q.type }

/-- The builder's property for a property of the class without type parameters of its own. -/
theorem readWith_builderProperty {options : DecodeOptions} {c : ClassNode} {d : ClassDecl}
    (hdecode : c.decode options = .ok d) (settings : SynthesisOptions)
    (backing : List PropertyDecl) (source : String) {b : PropertyDecl} (hb : b ∈ d.properties)
    (hplain : b.typeParameters = []) :
    ReadWith options c d (builderFile settings d backing source) b
      (builderProperty (TypeExpr.mapVariables (counterpart (counterparts d.typeParameters)))
        source b) := by
  obtain ⟨i, hi⟩ := List.mem_iff_getElem?.mp hb
  obtain ⟨hkeys, hpaired⟩ := paired_of_decode hdecode
  obtain ⟨s, supertypes, hs, hparameters, -, -, -, hproperties, -⟩ :=
    ClassNode.decode_eq_ok hdecode
  obtain ⟨vs, rfl, -, -⟩ := Scope.extended_eq_ok hs
  obtain rfl : d.typeParameters = vs := hparameters
  obtain ⟨p, hp, hpb⟩ := forall₂_zipIdx_getElem? hproperties hi
  have hpplain : p.typeParameters = [] := by
    obtain ⟨s', hs', hown, -, -⟩ := PropertyNode.decode_eq_ok hpb
    obtain ⟨own, rfl, hlength, -⟩ := Scope.extended_eq_ok hs'
    rw [hplain] at hown
    have hnone : own = [] := hown.symm
    rw [hnone] at hlength
    exact List.length_eq_zero_iff.mp hlength.symm
  have hlookup : (memberScope (builderFile settings d backing source) i).lookup =
      ((Scope.root.declareList d.typeParameters).child i).lookup.replaced
        (counterpart (counterparts d.typeParameters)) :=
    hpaired.lookup_child hkeys i
  exact ⟨i, p, hp, hi, PropertyNode.decode_replaced hpplain hlookup rfl hpb⟩

/-- **Resolution commutes with replacing variables**, which does not touch a failure but for the
type that it may quote. So the types of a builder are those that the decoder reads where the class
declares the counterparts, and what is declared for other numbers does not matter. -/
theorem resolve_rebind :
    (∀ (lookup : ParameterLookup) (f : TypeVar → TypeVar) (keepAliases : Bool) (t : TypeNode),
      t.resolve ⟨lookup.replaced f, keepAliases⟩ =
        mapResult (DecodeError.replaced f) (TypeExpr.mapVariables f)
          (t.resolve ⟨lookup, keepAliases⟩)) ∧
      (∀ (f : TypeVar → TypeVar) (e : DecodeError),
        (e.replaced f = e ∨
          ∃ slot, e = .suspendFunction (.notContinuation slot) ∧
            e.replaced f = .suspendFunction (.notContinuation (slot.mapVariables f))) ∧
        ((∀ v, (f v).name = v.name) → (e.replaced f).message = e.message)) ∧
      (∀ (options : DecodeOptions) (settings : SynthesisOptions) (c : ClassNode) (d : ClassDecl)
          (file : File), c.decode options = .ok d → synthesize settings d = .ok file →
        ∃ backing, backingProperties d = .ok backing ∧
          List.Forall₂
            (fun b q => q.name = b.name ∧ (b.typeParameters = [] → ReadWith options c d file b q))
            backing file.builder.properties.tail) ∧
      ∀ (lookup other : ParameterLookup) (keepAliases : Bool) (t : TypeNode),
        (∀ k ∈ t.references keepAliases, other k = lookup k) →
          t.resolve ⟨other, keepAliases⟩ = t.resolve ⟨lookup, keepAliases⟩ := by
  refine ⟨?_, ?_, ?_, ?_⟩
  · intro lookup f keepAliases t
    exact t.resolve_replaced lookup f keepAliases
  · intro f e
    exact ⟨e.replaced_cases f, fun hname => e.message_rebind hname fun k _ => rfl⟩
  · intro options settings c d file hdecode hfile
    obtain ⟨backing, source, hbacking, -, rfl⟩ := synthesize_eq_ok hfile
    refine ⟨backing, hbacking, ?_⟩
    show List.Forall₂ _ backing (backing.map (builderProperty _ source))
    rw [List.forall₂_map_right_iff, List.forall₂_same]
    intro b hb
    refine ⟨rfl, fun hplain => ?_⟩
    obtain ⟨constructor, -, hall⟩ := backingProperties_eq_ok hbacking
    obtain ⟨-, -, hmem, -⟩ := exists_of_mem_right hall hb
    exact readWith_builderProperty hdecode settings backing source hmem hplain
  · intro lookup other keepAliases t hagree
    exact (t.resolve_reads lookup keepAliases).congr hagree

/-- The first property of the builder refers to the counterpart of `U`, the second to `V`, and the
decoder reads both types where the class declares the variables of the builder. -/
theorem resolve_rebind_sinkClass : ∃ d file,
    sinkClass.decode ⟨false⟩ = .ok d ∧ synthesize ⟨none⟩ d = .ok file ∧
      file.builder.properties.tail.map (fun (q : PropertyDef) => q.type.variables.map (·.key)) =
        [[.copyOf (.declared [] 1)], [.declared [] 2]] ∧
      ∀ q ∈ file.builder.properties.tail, ∃ (i : Nat) (p : PropertyNode) (b : PropertyDecl),
        sinkClass.properties[i]? = some p ∧ p.decode ⟨false⟩ (memberScope file i) = .ok b ∧
          b.type = q.type := by
  obtain ⟨d, source, hd, hbacking, hfile, hplain, -, htypes⟩ := synthesize_sinkClass
  obtain ⟨backing, hbacking', heach⟩ := resolve_rebind.2.2.1 ⟨false⟩ ⟨none⟩ sinkClass d _ hd hfile
  rw [hbacking] at hbacking'
  cases hbacking'
  refine ⟨d, _, hd, hfile, ?_, fun q hq => ?_⟩
  · rw [← htypes]
    exact List.map_map
  · obtain ⟨b, hb, -, hread⟩ := exists_of_mem_right heach hq
    obtain ⟨i, p, hp, -, hread⟩ := hread (hplain b (List.mem_reverse.mp hb))
    exact ⟨i, p, _, hp, hread, rfl⟩

end CopyBuilder

end KotlinMeta
