import KotlinMeta.Proofs.Decoding.Checks
import KotlinMeta.Proofs.Decoding.Renumber

/-! # One part at a time

A class is decoded part by part, and no part depends on another one except on the type parameters
of the class. The failure of a class is that of its first part that fails
(`ClassNode.decode_failsFirst`). A part is decoded to what it is decoded to alone, in a class with
the same type parameters and nothing else (`ClassNode.Composed`). The array type of a variable
number of arguments can be left out (`ClassNode.decode_withoutArrayTypes`). The main result
`ClassNode.decode_compositional` puts the three together.
-/

set_option autoImplicit false

namespace KotlinMeta

/-! ## The outcome of each part -/

section
variable (options : DecodeOptions)

/-- The scope with type parameters declared up to the first that cannot be. -/
def Scope.including (keepAliases : Bool) (s : Scope) (ps : List TypeParameterNode) : Scope :=
  (s.declareAll keepAliases ps).1

/-- The outcomes of type parameters, each where those before it are declared. -/
def parameterOutcomes (keepAliases : Bool) (s : Scope) :
    List TypeParameterNode → List (Option DecodeError)
  | [] => []
  | p :: rest =>
    failure? (p.resolve (s.context keepAliases) s.nextKey) ::
      parameterOutcomes keepAliases (s.including keepAliases [p]) rest

def TypeNode.outcome (s : Scope) (t : TypeNode) : Option DecodeError :=
  failure? (t.decode options s)

def ValueParameterNode.outcome (s : Scope) (p : ValueParameterNode) : Option DecodeError :=
  failure? (p.decode options s)

def FunctionNode.outcomes (s : Scope) (f : FunctionNode) : List (Option DecodeError) :=
  let inside := s.including options.keepAliases f.typeParameters
  parameterOutcomes options.keepAliases s f.typeParameters ++
    f.receiverType.toList.map (TypeNode.outcome options inside) ++
    f.valueParameters.map (ValueParameterNode.outcome options inside) ++
    [f.returnType.outcome options inside]

def PropertyNode.outcomes (s : Scope) (p : PropertyNode) : List (Option DecodeError) :=
  let inside := s.including options.keepAliases p.typeParameters
  parameterOutcomes options.keepAliases s p.typeParameters ++
    p.receiverType.toList.map (TypeNode.outcome options inside) ++
    [p.returnType.outcome options inside]

/-- At most one constructor is marked as the primary one. -/
def ClassNode.primaryOutcome (c : ClassNode) : Option DecodeError :=
  let primaries := (c.constructors.filter (·.flags.isPrimaryConstructor)).length
  if 1 < primaries then some (.severalPrimaries c.name primaries) else none

/-- The outcomes of all parts of a class, in order. Each part is read in its own scope, where
`ClassNode.checks` only says which numbers can be seen. -/
def ClassNode.outcomes (c : ClassNode) : List (Option DecodeError) :=
  let s := Scope.root.including options.keepAliases c.typeParameters
  parameterOutcomes options.keepAliases .root c.typeParameters ++
    c.supertypes.map (TypeNode.outcome options s) ++
    c.constructors.flatMap (·.valueParameters.map (ValueParameterNode.outcome options s)) ++
    [c.primaryOutcome] ++
    c.properties.zipIdx.flatMap (fun (p, i) => p.outcomes options (s.child i)) ++
    c.functions.zipIdx.flatMap fun (f, i) =>
      f.outcomes options (s.child (c.properties.length + i))

theorem Scope.including_of_extended {keepAliases : Bool} {s s' : Scope}
    {ps : List TypeParameterNode} (h : s.extended keepAliases ps = .ok s') :
    s.including keepAliases ps = s' := by
  rw [extended] at h
  rw [including]
  split at h
  · rename_i hdeclared
    cases h
    rw [hdeclared]
  · cases h

theorem Scope.extended_failsFirst (keepAliases : Bool) (s : Scope) (ps : List TypeParameterNode) :
    FailsFirst (parameterOutcomes keepAliases s ps) (s.extended keepAliases ps) := by
  induction ps generalizing s with
  | nil => exact .ok s
  | cons p rest ih =>
      rw [extended_cons, parameterOutcomes, ← List.singleton_append]
      refine (FailsFirst.one _).bind fun v hv => ?_
      have hincluding : s.including keepAliases [p] = s.declare v := by
        rw [including, declareAll, hv]
        rfl
      rw [hincluding]
      exact ih (s.declare v)

theorem TypeNode.decodeOption_failsFirst (s : Scope) (t : Option TypeNode) :
    FailsFirst (t.toList.map (TypeNode.outcome options s)) (TypeNode.decodeOption options s t) := by
  cases t with
  | none => exact .ok none
  | some t => exact (FailsFirst.one (t.decode options s)).map _

theorem FunctionNode.decode_failsFirst (s : Scope) (f : FunctionNode) :
    FailsFirst (f.outcomes options s) (f.decode options s) := by
  rw [FunctionNode.outcomes, List.append_assoc, List.append_assoc]
  refine (s.extended_failsFirst options.keepAliases f.typeParameters).bind fun s' hs' => ?_
  rw [Scope.including_of_extended hs']
  refine (TypeNode.decodeOption_failsFirst options s' f.receiverType).bind fun _ _ => ?_
  refine (FailsFirst.each _ f.valueParameters).bind fun _ _ => ?_
  exact (FailsFirst.one _).map _

theorem PropertyNode.decode_failsFirst (s : Scope) (p : PropertyNode) :
    FailsFirst (p.outcomes options s) (p.decode options s) := by
  rw [PropertyNode.outcomes, List.append_assoc]
  refine (s.extended_failsFirst options.keepAliases p.typeParameters).bind fun s' hs' => ?_
  rw [Scope.including_of_extended hs']
  refine (TypeNode.decodeOption_failsFirst options s' p.receiverType).bind fun _ _ => ?_
  exact (FailsFirst.one _).map _

/-- **The failure of a class is that of its first part that fails.** -/
theorem ClassNode.decode_failsFirst (c : ClassNode) :
    FailsFirst (c.outcomes options) (c.decode options) := by
  rw [ClassNode.outcomes]
  simp only [List.append_assoc]
  refine (Scope.root.extended_failsFirst options.keepAliases c.typeParameters).bind fun s hs => ?_
  rw [Scope.including_of_extended hs]
  refine (FailsFirst.each _ c.supertypes).bind fun _ _ => ?_
  refine (FailsFirst.mapM fun k _ => (FailsFirst.each _ k.valueParameters).map _).bind
    fun constructors hconstructors => ?_
  refine FailsFirst.bind ?_ fun _ _ => ?_
  -- decoding counts the primary constructors among the declarations
  · rw [checkPrimaries, primaries_eq (mapM_eq_ok_iff.mp hconstructors), primaryOutcome]
    split <;> rfl
  refine (FailsFirst.mapM fun p _ => p.1.decode_failsFirst options (s.child p.2)).bind
    fun _ _ => ?_
  exact (FailsFirst.mapM fun f _ => f.1.decode_failsFirst options (s.child _)).map _

end

/-! ## Parts alone -/

section
variable (p : TypeParameterNode) (v : ValueParameterNode) (f : FunctionNode) (q : PropertyNode)

theorem TypeNode.map_renumber_self (ts : List TypeNode) :
    ts.map (TypeNode.renumber fun id => id) = ts := by
  rw [funext TypeNode.renumber_self, List.map_id']

theorem TypeNode.option_map_renumber_self (t : Option TypeNode) :
    t.map (TypeNode.renumber fun id => id) = t := by
  rw [funext TypeNode.renumber_self, Option.map_id']

theorem TypeParameterNode.renumber_self : p.renumber (fun id => id) = p := by
  rw [renumber, TypeNode.map_renumber_self]

theorem ValueParameterNode.renumber_self : v.renumber (fun id => id) = v := by
  rw [renumber, TypeNode.option_map_renumber_self, TypeNode.option_map_renumber_self]

theorem FunctionNode.renumber_self : f.renumber (fun id => id) = f := by
  rw [renumber, funext TypeParameterNode.renumber_self, funext ValueParameterNode.renumber_self,
    TypeNode.renumber_self, TypeNode.option_map_renumber_self, List.map_id', List.map_id']

theorem PropertyNode.renumber_self : q.renumber (fun id => id) = q := by
  rw [renumber, funext TypeParameterNode.renumber_self, TypeNode.renumber_self,
    TypeNode.option_map_renumber_self, List.map_id']

end

/-- The scope of the first member of a class becomes that of the member number `i`. -/
def Relabelling.moved (i : Nat) : Relabelling :=
  .ofPath fun path => if path = [0] then [i] else path

/-- The scope of a class stays as it is when its members move. -/
theorem Scope.relabel_moved_of_extended {keepAliases : Bool} {s : Scope}
    {ps : List TypeParameterNode} (h : Scope.root.extended keepAliases ps = .ok s) (i : Nat) :
    (s.child 0).relabel (.moved i) = s.child i := by
  have hsame : s.relabel (.moved i) = s := by
    have hrelabel :=
      Scope.root.extended_relabel (r := .moved i) Function.injective_id keepAliases ps
    have hps : ps.map (TypeParameterNode.renumber (Relabelling.moved i).id) = ps := by
      rw [Relabelling.moved, Relabelling.ofPath, funext TypeParameterNode.renumber_self,
        List.map_id']
    have hroot : Scope.root.relabel (.moved i) = .root := rfl
    rw [hps, hroot, h] at hrelabel
    exact (Except.ok.inj hrelabel).symm
  have hpath : s.path = [] := by
    obtain ⟨vs, rfl, -⟩ := Scope.extended_eq_ok h
    rfl
  have hdeclared : s.declared.map (TypeVar.relabel (.moved i)) = s.declared :=
    congrArg declared hsame
  have houter : s.outer.map (List.map (TypeVar.relabel (.moved i))) = s.outer :=
    congrArg outer hsame
  have hchild : (Relabelling.moved i).path [0] = [i] := rfl
  rw [relabel, child, child, List.map_cons, hdeclared, houter, hpath, hchild]
  rfl

section
variable {options : DecodeOptions} {s : Scope} {i : Nat}
  (hmoved : (s.child 0).relabel (.moved i) = s.child i)
include hmoved

/-- A property in another place is the same one with other labels. -/
theorem PropertyNode.decode_moved {p : PropertyNode} {d : PropertyDecl}
    (h : p.decode options (s.child i) = .ok d) :
    ∃ e, p.decode options (s.child 0) = .ok e ∧ d = e.relabel (.moved i) := by
  have hrelabel := p.decode_relabel (r := .moved i) Function.injective_id options (s.child 0)
  rw [hmoved, Relabelling.moved, Relabelling.ofPath, p.renumber_self, h] at hrelabel
  obtain ⟨e, he, hd⟩ := mapResult_eq_ok.mp hrelabel.symm
  exact ⟨e, he, hd.symm⟩

theorem FunctionNode.decode_moved {f : FunctionNode} {d : FunctionDecl}
    (h : f.decode options (s.child i) = .ok d) :
    ∃ e, f.decode options (s.child 0) = .ok e ∧ d = e.relabel (.moved i) := by
  have hrelabel := f.decode_relabel (r := .moved i) Function.injective_id options (s.child 0)
  rw [hmoved, Relabelling.moved, Relabelling.ofPath, f.renumber_self, h] at hrelabel
  obtain ⟨e, he, hd⟩ := mapResult_eq_ok.mp hrelabel.symm
  exact ⟨e, he, hd.symm⟩

end

section
variable {options : DecodeOptions}

/-- Decoding a class is decoding its parts. -/
theorem ClassNode.decode_of_parts {c : ClassNode} {s : Scope} {supertypes : List TypeExpr}
    {constructors : List ConstructorDecl} {properties : List PropertyDecl}
    {functions : List FunctionDecl}
    (hs : Scope.root.extended options.keepAliases c.typeParameters = .ok s)
    (hsupertypes :
      List.Forall₂ (fun t type => t.decode options s = .ok type) c.supertypes supertypes)
    (hconstructors :
      List.Forall₂ (fun k e => k.decode options s = .ok e) c.constructors constructors)
    (hprimaries : checkPrimaries c.name constructors = .ok ())
    (hproperties : List.Forall₂ (fun p e => p.1.decode options (s.child p.2) = .ok e)
      c.properties.zipIdx properties)
    (hfunctions : List.Forall₂
      (fun f e => f.1.decode options (s.child (c.properties.length + f.2)) = .ok e)
      c.functions.zipIdx functions) :
    ∃ d, c.decode options = .ok d ∧ d.typeParameters = s.declared ∧
      d.Inherits supertypes ∧
      d.constructors = constructors ∧ d.properties = properties ∧ d.functions = functions := by
  have hdecode : c.decode options = .ok _ :=
    Except.bind_eq_ok.mpr ⟨s, hs,
      Except.bind_eq_ok.mpr ⟨supertypes, mapM_eq_ok_iff.mpr hsupertypes,
        Except.bind_eq_ok.mpr ⟨constructors, mapM_eq_ok_iff.mpr hconstructors,
          Except.bind_eq_ok.mpr ⟨(), hprimaries,
            Except.bind_eq_ok.mpr ⟨properties, mapM_eq_ok_iff.mpr hproperties,
              Except.bind_eq_ok.mpr ⟨functions, mapM_eq_ok_iff.mpr hfunctions, rfl⟩⟩⟩⟩⟩⟩
  have hsuper := superTypes_eq supertypes
  exact ⟨_, hdecode, rfl, ⟨congrArg Prod.fst hsuper, congrArg Prod.snd hsuper⟩, rfl, rfl, rfl⟩

theorem checkPrimaries_singleton (className : String) (k : ConstructorDecl) :
    checkPrimaries className [k] = .ok () := by
  have hlength := List.length_filter_le ConstructorDecl.isPrimary [k]
  exact if_neg (Nat.not_lt.mpr hlength)

/-- The class with its type parameters and no other part. -/
def ClassNode.bare (c : ClassNode) : ClassNode :=
  { c with supertypes := [], constructors := [], properties := [], functions := [] }

/-- All value parameters of a class, those of its constructors first. -/
def ClassNode.valueParameters (c : ClassNode) : List ValueParameterNode :=
  c.constructors.flatMap (·.valueParameters) ++ c.functions.flatMap (·.valueParameters)

def ClassDecl.valueParameters (d : ClassDecl) : List Parameter :=
  d.constructors.flatMap (·.parameters) ++ d.functions.flatMap (·.parameters)

/-- A parameter has the type of one of its arguments if its node has one, and otherwise the type
that its node must have. -/
def TypedOnce (p : ValueParameterNode) (q : Parameter) : Prop :=
  match p.varargElementType with
  | some _ => ∃ element, q.type = .vararg element
  | none => p.type.isSome = true ∧ ∃ type, q.type = .single type

/-- A property that can be assigned has the flags of its setter, and any other one has none. -/
def SetterKept (p : PropertyNode) (q : PropertyDecl) : Prop :=
  q.isMutable = p.flags.isVar ∧ q.setterFlags = if q.isMutable then some p.setterFlags else none

/-- What the item `x.1` at the place `x.2` is decoded to: the only part of its kind that a class
with this item and no other one gets, moved to its place. -/
def DecodedAlone {γ δ : Type} (decode : γ → Except DecodeError ClassDecl)
    (parts : ClassDecl → List δ) (move : Nat → δ → δ) (x : γ × Nat) (y : δ) : Prop :=
  ∃ e alone, decode x.1 = .ok e ∧ parts e = [alone] ∧ y = move x.2 alone

/-- The declaration has the parts of the class in their order, each as it is decoded in the bare
class with this part alone. Members are in another place there, unless they come first. A supertype
is what its node resolves to where the type parameters of the class are declared. -/
structure ClassNode.Composed (options : DecodeOptions) (c : ClassNode) (d : ClassDecl) : Prop where
  typeParameters : ∃ e, c.bare.decode options = .ok e ∧ e.typeParameters = d.typeParameters
  supertypes : ∃ types, d.Inherits types ∧
    List.Forall₂
      (fun t type =>
        t.decode options (Scope.root.including options.keepAliases c.typeParameters) = .ok type ∧
        ∃ e, { c.bare with supertypes := [t] }.decode options = .ok e ∧ e.Inherits [type])
      c.supertypes types
  constructors : List.Forall₂
    (DecodedAlone (fun k => { c.bare with constructors := [k] }.decode options) (·.constructors)
      fun _ l => l)
    c.constructors.zipIdx d.constructors
  properties : List.Forall₂
    (DecodedAlone (fun p => { c.bare with properties := [p] }.decode options) (·.properties)
      fun i q => q.relabel (.moved i))
    c.properties.zipIdx d.properties
  functions : List.Forall₂
    (DecodedAlone (fun f => { c.bare with functions := [f] }.decode options) (·.functions)
      fun i g => g.relabel (.moved (c.properties.length + i)))
    c.functions.zipIdx d.functions
  valueParameters : List.Forall₂ TypedOnce c.valueParameters d.valueParameters
  setters : List.Forall₂ SetterKept c.properties d.properties

theorem ValueParameterNode.typedOnce_of_decode {s : Scope} {p : ValueParameterNode} {q : Parameter}
    (h : p.decode options s = .ok q) : TypedOnce p q := by
  obtain ⟨flags, name, type, element⟩ := p
  rcases element with _ | element
  · rcases type with _ | type
    · cases h
    · obtain ⟨type, -, h⟩ := Except.bind_eq_ok.mp h
      cases h
      exact ⟨rfl, type, rfl⟩
  · obtain ⟨type, -, h⟩ := Except.bind_eq_ok.mp h
    cases h
    exact ⟨type, rfl⟩

theorem PropertyNode.setterKept_of_decode {s : Scope} {p : PropertyNode} {d : PropertyDecl}
    (h : p.decode options s = .ok d) : SetterKept p d := by
  obtain ⟨_, -, h⟩ := Except.bind_eq_ok.mp h
  obtain ⟨_, -, h⟩ := Except.bind_eq_ok.mp h
  obtain ⟨_, -, h⟩ := Except.bind_eq_ok.mp h
  cases h
  exact ⟨rfl, rfl⟩

theorem ClassNode.valueParameters_of_decode {c : ClassNode} {d : ClassDecl}
    (h : c.decode options = .ok d) :
    List.Forall₂ TypedOnce c.valueParameters d.valueParameters := by
  obtain ⟨s, types, -, -, -, -, hconstructors, -, hfunctions⟩ := ClassNode.decode_eq_ok h
  have htyped : ∀ {s : Scope} {ps : List ValueParameterNode} {qs : List Parameter},
      List.Forall₂ (fun p q => p.decode options s = .ok q) ps qs → List.Forall₂ TypedOnce ps qs :=
    fun h => h.imp fun _ _ => ValueParameterNode.typedOnce_of_decode
  have hfunction : List.Forall₂ (fun f g => List.Forall₂ TypedOnce f.valueParameters g.parameters)
      c.functions d.functions := by
    refine forall₂_of_zipIdx hfunctions fun f i g hf => ?_
    obtain ⟨s', -, -, -, hparameters, -⟩ := FunctionNode.decode_eq_ok hf
    exact htyped hparameters
  refine List.rel_append (List.rel_flatMap hconstructors fun k l hk => ?_)
    (List.rel_flatMap hfunction fun _ _ h => h)
  exact htyped (ConstructorNode.decode_eq_ok hk).2

/-- **Each part is decoded as if it were alone.** -/
theorem ClassNode.composed_of_decode {c : ClassNode} {d : ClassDecl}
    (h : c.decode options = .ok d) : c.Composed options d := by
  obtain ⟨s, types, hs, htypeParameters, htypes, hsuper, hconstructors, hproperties, hfunctions⟩ :=
    ClassNode.decode_eq_ok h
  have hmoved := Scope.relabel_moved_of_extended hs
  constructor
  · obtain ⟨e, he, hparameters, -⟩ := decode_of_parts (c := c.bare) hs .nil .nil rfl .nil .nil
    exact ⟨e, he, hparameters.trans htypeParameters.symm⟩
  · refine ⟨types, hsuper, htypes.imp fun t type ht => ?_⟩
    obtain ⟨e, he, -, hsuper, -⟩ := decode_of_parts (c := { c.bare with supertypes := [t] }) hs
      (.cons ht .nil) .nil rfl .nil .nil
    rw [Scope.including_of_extended hs]
    exact ⟨ht, e, he, hsuper⟩
  · refine forall₂_zipIdx_of (hconstructors.imp fun k l hk i => ?_)
    obtain ⟨e, he, -, -, hconstructors, -⟩ :=
      decode_of_parts (c := { c.bare with constructors := [k] }) hs .nil (.cons hk .nil)
        (checkPrimaries_singleton _ l) .nil .nil
    exact ⟨e, l, he, hconstructors, rfl⟩
  · refine hproperties.imp fun p q hp => ?_
    obtain ⟨alone, halone, hq⟩ := PropertyNode.decode_moved (hmoved p.2) hp
    obtain ⟨e, he, -, -, -, hproperties, -⟩ :=
      decode_of_parts (c := { c.bare with properties := [p.1] }) hs .nil .nil rfl
        (.cons halone .nil) .nil
    exact ⟨e, alone, he, hproperties, hq⟩
  · refine hfunctions.imp fun f g hf => ?_
    obtain ⟨alone, halone, hg⟩ := FunctionNode.decode_moved (hmoved _) hf
    obtain ⟨e, he, -, -, -, -, hfunctions⟩ :=
      decode_of_parts (c := { c.bare with functions := [f.1] }) hs .nil .nil rfl .nil
        (.cons halone .nil)
    exact ⟨e, alone, he, hfunctions, hg⟩
  · exact valueParameters_of_decode h
  · exact forall₂_of_zipIdx hproperties fun p i q hp => PropertyNode.setterKept_of_decode hp

/-- The parts that two classes share are decoded alike wherever they stand. Only the labels tell two
places of a member apart. -/
structure ClassNode.PartsAgree (c : ClassNode) (d : ClassDecl) (c' : ClassNode) (d' : ClassDecl) :
    Prop where
  typeParameters : d.typeParameters = d'.typeParameters
  supertypes : ∀ (i j : Nat) (t : TypeNode), c.supertypes[i]? = some t →
    c'.supertypes[j]? = some t →
    ∃ type : TypeExpr, (d.superclass :: d.superinterfaces)[i]? = some type ∧
      (d'.superclass :: d'.superinterfaces)[j]? = some type
  constructors : ∀ (i j : Nat) (k : ConstructorNode), c.constructors[i]? = some k →
    c'.constructors[j]? = some k →
    ∃ l : ConstructorDecl, d.constructors[i]? = some l ∧ d'.constructors[j]? = some l
  properties : ∀ (i j : Nat) (p : PropertyNode), c.properties[i]? = some p →
    c'.properties[j]? = some p →
    ∃ q : PropertyDecl, d.properties[i]? = some (q.relabel (.moved i)) ∧
      d'.properties[j]? = some (q.relabel (.moved j))
  functions : ∀ (i j : Nat) (f : FunctionNode), c.functions[i]? = some f →
    c'.functions[j]? = some f →
    ∃ g : FunctionDecl,
      d.functions[i]? = some (g.relabel (.moved (c.properties.length + i))) ∧
      d'.functions[j]? = some (g.relabel (.moved (c'.properties.length + j)))

/-- An item that two classes share is decoded to the same part alone. -/
theorem DecodedAlone.agree {γ δ : Type} {decode : γ → Except DecodeError ClassDecl}
    {parts : ClassDecl → List δ} {move move' : Nat → δ → δ} {xs xs' : List γ} {ys ys' : List δ}
    (h : List.Forall₂ (DecodedAlone decode parts move) xs.zipIdx ys)
    (h' : List.Forall₂ (DecodedAlone decode parts move') xs'.zipIdx ys') {i j : Nat} {x : γ}
    (hi : xs[i]? = some x) (hj : xs'[j]? = some x) :
    ∃ alone, ys[i]? = some (move i alone) ∧ ys'[j]? = some (move' j alone) := by
  have hi : xs.zipIdx[i]? = some (x, i) := by simp [hi]
  have hj : xs'.zipIdx[j]? = some (x, j) := by simp [hj]
  obtain ⟨y, hy, e, alone, he, halone, rfl⟩ := exists_getElem?_of_forall₂ h hi
  obtain ⟨y', hy', e', alone', he', halone', rfl⟩ := exists_getElem?_of_forall₂ h' hj
  obtain rfl : e = e' := Except.ok.inj (he.symm.trans he')
  obtain rfl : alone = alone' := List.singleton_inj.mp (halone.symm.trans halone')
  exact ⟨alone, hy, hy'⟩

/-- **Other members do not matter.** -/
theorem ClassNode.Composed.partsAgree {c c' : ClassNode} {d d' : ClassDecl}
    (h : c.Composed options d) (h' : c'.Composed options d') (hbare : c.bare = c'.bare) :
    c.PartsAgree d c' d' := by
  obtain ⟨⟨e, he, hparameters⟩, ⟨types, hsuper, htypes⟩, hconstructors, hproperties, hfunctions, -,
    -⟩ := h
  obtain ⟨⟨e', he', hparameters'⟩, ⟨types', hsuper', htypes'⟩, hconstructors', hproperties',
    hfunctions', -, -⟩ := h'
  rw [← hbare] at he' hconstructors' hproperties' hfunctions'
  obtain rfl : e = e' := Except.ok.inj (he.symm.trans he')
  have hsame : c.typeParameters = c'.typeParameters := by
    show c.bare.typeParameters = c'.bare.typeParameters
    rw [hbare]
  exact {
    typeParameters := hparameters.symm.trans hparameters'
    supertypes := by
      intro i j t hi hj
      obtain ⟨type, htype, hdecode, -⟩ := exists_getElem?_of_forall₂ htypes hi
      obtain ⟨type', htype', hdecode', -⟩ := exists_getElem?_of_forall₂ htypes' hj
      rw [← hsame] at hdecode'
      obtain rfl : type = type' := Except.ok.inj (hdecode.symm.trans hdecode')
      exact ⟨type, hsuper.getElem?_eq_some htype, hsuper'.getElem?_eq_some htype'⟩
    constructors := fun i j k hi hj => DecodedAlone.agree hconstructors hconstructors' hi hj
    properties := fun i j p hi hj => DecodedAlone.agree hproperties hproperties' hi hj
    functions := fun i j f hi hj => DecodedAlone.agree hfunctions hfunctions' hi hj }

end

/-! ## Array types -/

/-- The parameter without the type of the array that a variable number of arguments comes in. -/
def ValueParameterNode.withoutArrayType (p : ValueParameterNode) : ValueParameterNode :=
  { p with type := if p.varargElementType.isSome then none else p.type }

def ConstructorNode.withoutArrayTypes (k : ConstructorNode) : ConstructorNode :=
  { k with valueParameters := k.valueParameters.map ValueParameterNode.withoutArrayType }

def FunctionNode.withoutArrayTypes (f : FunctionNode) : FunctionNode :=
  { f with valueParameters := f.valueParameters.map ValueParameterNode.withoutArrayType }

/-- The class without the array types of its parameters. -/
def ClassNode.withoutArrayTypes (c : ClassNode) : ClassNode :=
  { c with
    constructors := c.constructors.map ConstructorNode.withoutArrayTypes
    functions := c.functions.map FunctionNode.withoutArrayTypes }

section
variable (options : DecodeOptions)

theorem ValueParameterNode.decode_withoutArrayType (s : Scope) (p : ValueParameterNode) :
    p.withoutArrayType.decode options s = p.decode options s := by
  obtain ⟨flags, name, type, element⟩ := p
  cases element <;> rfl

theorem ValueParameterNode.mapM_withoutArrayType (s : Scope) (ps : List ValueParameterNode) :
    (ps.map withoutArrayType).mapM (ValueParameterNode.decode options s) =
      ps.mapM (ValueParameterNode.decode options s) := by
  rw [List.mapM_map]
  exact congrArg (ps.mapM ·) (funext fun p => p.decode_withoutArrayType options s)

theorem ConstructorNode.decode_withoutArrayTypes (s : Scope) (k : ConstructorNode) :
    k.withoutArrayTypes.decode options s = k.decode options s := by
  rw [decode, decode, withoutArrayTypes, ValueParameterNode.mapM_withoutArrayType]

theorem FunctionNode.decode_withoutArrayTypes (s : Scope) (f : FunctionNode) :
    f.withoutArrayTypes.decode options s = f.decode options s := by
  simp only [decode, withoutArrayTypes, ValueParameterNode.mapM_withoutArrayType]

/-- **The array type of a variable number of arguments does not matter.** -/
theorem ClassNode.decode_withoutArrayTypes (c : ClassNode) :
    c.withoutArrayTypes.decode options = c.decode options := by
  have hconstructors : ∀ s,
      (c.constructors.map ConstructorNode.withoutArrayTypes).mapM
        (ConstructorNode.decode options s) =
      c.constructors.mapM (ConstructorNode.decode options s) := by
    intro s
    rw [List.mapM_map]
    exact congrArg (c.constructors.mapM ·) (funext fun k => k.decode_withoutArrayTypes options s)
  have hfunctions : ∀ s : Scope,
      ((c.functions.map FunctionNode.withoutArrayTypes).zipIdx.mapM fun (f, i) =>
        f.decode options (s.child (c.properties.length + i))) =
      c.functions.zipIdx.mapM fun (f, i) =>
        f.decode options (s.child (c.properties.length + i)) := by
    intro s
    rw [List.zipIdx_map, List.mapM_map]
    exact congrArg (c.functions.zipIdx.mapM ·)
      (funext fun f => f.1.decode_withoutArrayTypes options _)
  simp only [decode, withoutArrayTypes, hconstructors, hfunctions]

end

/-! ## The whole class -/

/-- **A class is decoded part by part.** Decoding succeeds when every part does, and fails with the
failure of the first part that fails. The declaration has each part as it is decoded alone, so that
two classes that differ only in other members agree on it, and array types do not matter. -/
theorem ClassNode.decode_compositional (options : DecodeOptions) (c : ClassNode) :
    ((∃ d, c.decode options = .ok d) ↔ ∀ o ∈ c.outcomes options, o = none) ∧
      (∀ e, c.decode options = .error e ↔
        ∃ before after, c.outcomes options = before ++ some e :: after ∧
          ∀ o ∈ before, o = none) ∧
      (∀ d, c.decode options = .ok d → c.Composed options d) ∧
      (∀ c' d d', c.decode options = .ok d → c'.decode options = .ok d' → c.bare = c'.bare →
        c.PartsAgree d c' d') ∧
      c.withoutArrayTypes.decode options = c.decode options := by
  have hfirst := c.decode_failsFirst options
  refine ⟨hfirst.exists_ok_iff, fun e => hfirst.eq_error_iff, fun d h => composed_of_decode h, ?_,
    c.decode_withoutArrayTypes options⟩
  intro c' d d' h h' hbare
  exact (composed_of_decode h).partsAgree (composed_of_decode h') hbare

/-- A class with a part of each kind and three supertypes. The array type of the constructor's
parameter refers to nothing. -/
def crateClass : ClassNode :=
  { ClassNode.of Flags.none "sample/Crate" with
    typeParameters := [.of "T" 0 .invariant]
    supertypes :=
      [(TypeNode.ofClass "sample/Base").withArguments [.ofParameter 0], .ofClass "sample/Named",
        (TypeNode.ofClass "sample/Source").withArguments [.ofParameter 0]]
    constructors := [⟨Flags.none, [.vararg "items" (.ofParameter 9) (.ofParameter 0)]⟩]
    properties := [.of Flags.none "first" (.ofParameter 0)]
    functions :=
      [{ FunctionNode.of Flags.none "map" (.ofParameter 1) with
        typeParameters := [.of "V" 1 .invariant] }] }

/-- The scope of the function is the second one in the class and the first one alone. -/
theorem decode_compositional_crateClass :
    let t : TypeVar := .plain (.declared [] 0) "T" 0
    ∃ d, crateClass.decode ⟨false⟩ = .ok d ∧ crateClass.Composed ⟨false⟩ d ∧
      (∀ o ∈ crateClass.outcomes ⟨false⟩, o = none) ∧
      d.superclass = .named ⟨"sample", ["Base"]⟩ [.invariant (.ofVar t)] false ∧
      d.superinterfaces = [.named ⟨"sample", ["Named"]⟩ [] false,
        .named ⟨"sample", ["Source"]⟩ [.invariant (.ofVar t)] false] ∧
      d.functions.map (fun f => f.returnType.variables.map (·.key)) = [[.declared [1] 0]] := by
  intro t
  obtain ⟨d, hd, hsuperclass, hinterfaces, hkeys⟩ : ∃ d, crateClass.decode ⟨false⟩ = .ok d ∧
      d.superclass = .named ⟨"sample", ["Base"]⟩ [.invariant (.ofVar t)] false ∧
      d.superinterfaces = [.named ⟨"sample", ["Named"]⟩ [] false,
        .named ⟨"sample", ["Source"]⟩ [.invariant (.ofVar t)] false] ∧
      d.functions.map (fun f => f.returnType.variables.map (·.key)) = [[.declared [1] 0]] :=
    ⟨_, rfl, rfl, rfl, rfl⟩
  obtain ⟨hok, -, hcomposed, -, -⟩ := crateClass.decode_compositional ⟨false⟩
  exact ⟨d, hd, hcomposed d hd, hok.mp ⟨d, hd⟩, hsuperclass, hinterfaces, hkeys⟩

end KotlinMeta
