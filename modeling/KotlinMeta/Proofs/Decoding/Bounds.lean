import KotlinMeta.Node.Build
import KotlinMeta.Proofs.Decoding.Checks
import KotlinMeta.Proofs.Decoding.Scoping

/-! # Bounds of the type parameters of a member

A bound is resolved where the parameters before it are declared, and a parameter of a member hides
the parameter of the class with the same number only from then on. A bound that refers to its own
parameter or to a later one therefore gets the parameter of the class with this number, or fails if
there is none. The main result `memberBounds_scoped` says so of every reference in a bound to a
number that the member declares.
-/

set_option autoImplicit false

namespace KotlinMeta

/-! ## What a number stands for in a bound -/

/-- In a bound of the parameter number `i` among `vs`, the number `k` stands for `w`: where `k` is
the number of an earlier parameter this parameter, and where it is that of the parameter itself or
of a later one a parameter from outside. -/
def BoundDenotes (outer vs : List TypeVar) (i : Nat) (k : UInt32) (w : TypeVar) : Prop :=
  ∀ (j : Nat) (v : TypeVar), vs[j]? = some v → v.id = k →
    (j < i → w = v) ∧ (i ≤ j → w ∈ outer ∧ w.id = k ∧ w.key ∉ vs.map (·.key))

theorem index_eq_of_nodup_ids {vs : List TypeVar} (hids : (vs.map (·.id)).Nodup) {i j : Nat}
    {v w : TypeVar} (hv : vs[i]? = some v) (hw : vs[j]? = some w) (hid : v.id = w.id) : i = j := by
  obtain ⟨hi, -⟩ := List.getElem?_eq_some_iff.mp hv
  have hi : i < (vs.map (·.id)).length := by rwa [List.length_map]
  refine (List.getElem?_inj hi hids).mp ?_
  rw [List.getElem?_map, List.getElem?_map, hv, hw, Option.map_some, Option.map_some, hid]

theorem boundDenotes_of_denotes {outer vs : List TypeVar} (hids : (vs.map (·.id)).Nodup)
    (hkeys : ∀ u ∈ outer, u.key ∉ vs.map (·.key)) {i : Nat} {k : UInt32} {w : TypeVar}
    (h : Denotes [vs.take i, outer] k w) : BoundDenotes outer vs i k w := by
  intro j v hv hid
  rcases h with hlast | ⟨hnone, hlast | ⟨-, hfalse⟩⟩
  · -- an earlier parameter has the number, and no other one has it
    obtain ⟨l, hl, hw⟩ := exists_of_mem_take hlast.mem
    obtain ⟨-, -, -, hwid, -⟩ := hlast
    obtain rfl : l = j := index_eq_of_nodup_ids hids hw hv (hwid.trans hid.symm)
    refine ⟨fun _ => ?_, fun hle => absurd hl (Nat.not_lt.mpr hle)⟩
    exact Option.some.inj (hw.symm.trans hv)
  · refine ⟨fun hlt => absurd hid (hnone v ?_), fun _ => ⟨hlast.mem, ?_, hkeys w hlast.mem⟩⟩
    · refine List.mem_of_getElem? (i := j) ?_
      rw [List.getElem?_take, if_pos hlt, hv]
    · obtain ⟨-, -, -, hwid, -⟩ := hlast
      exact hwid
  · exact absurd hfalse id

/-! ## The checks of a bound -/

theorem boundChecks_append (visible : List UInt32) (ps qs : List TypeParameterNode) :
    boundChecks visible (ps ++ qs) =
      boundChecks visible ps ++ boundChecks (withParameters ps visible) qs := by
  induction ps generalizing visible with
  | nil => rfl
  | cons p rest ih =>
      rw [List.cons_append, boundChecks, boundChecks, ih, List.append_assoc]
      simp [withParameters]

/-- What is looked at before a bound that comes after the bounds `front` of the same parameter and
after the parameters `earlier`. -/
def boundsBefore (visible : List UInt32) (earlier : List TypeParameterNode)
    (front : List TypeNode) : List Check :=
  boundChecks visible earlier ++ front.map (.type (withParameters earlier visible))

theorem boundChecks_split (visible : List UInt32) (earlier later : List TypeParameterNode)
    {p : TypeParameterNode} {front back : List TypeNode} {t : TypeNode}
    (hbounds : p.upperBounds = front ++ t :: back) :
    ∃ after, boundChecks visible (earlier ++ p :: later) =
      boundsBefore visible earlier front ++ .type (withParameters earlier visible) t :: after := by
  refine ⟨back.map (.type (withParameters earlier visible)) ++
    boundChecks (p.id :: withParameters earlier visible) later, ?_⟩
  rw [boundChecks_append, boundChecks, hbounds, boundsBefore, List.map_append, List.map_cons]
  simp only [List.append_assoc, List.cons_append]

/-! ## Bounds of a member -/

/-- What the bounds of the parameters of a member refer to in a class with the parameters `outer`.
Where the class declares no such number, declaring them fails: the reference is to blame, unless an
earlier bound fails, or the same bound before it comes to the reference. -/
structure BoundsScoped (keepAliases : Bool) (outer : List TypeVar) (ps : List TypeParameterNode)
    (r : Except DecodeError (List TypeVar)) : Prop where
  denotes : ∀ vs, r = .ok vs → ∀ (i : Nat) (p : TypeParameterNode) (v : TypeVar),
    ps[i]? = some p → vs[i]? = some v →
    List.Forall₂
      (fun t bound =>
        List.Forall₂ (BoundDenotes outer vs i) (t.occurrences keepAliases) bound.variables)
      p.upperBounds v.upperBounds
  undeclared : ∀ earlier p later front t back seen k rest, ps = earlier ++ p :: later →
    p.upperBounds = front ++ t :: back → t.references keepAliases = seen ++ k :: rest →
    k ∈ (p :: later).map (·.id) → k ∉ outer.map (·.id) →
    ∃ e, r = .error e ∧
      (e = .undeclaredParameter k ∨
        (∃ check ∈ boundsBefore (outer.map (·.id)) earlier front, check.Fails keepAliases e) ∨
        t.FailsWithin keepAliases (withParameters earlier (outer.map (·.id))) seen e)

/-- The scope of a class where its type parameters are declared. -/
structure OfClass (s : Scope) : Prop where
  outer : s.outer = []
  keys : s.declared.map (·.key) = (List.range s.declared.length).map (.declared [])

theorem ofClass_of_extended {keepAliases : Bool} {cs : List TypeParameterNode} {s : Scope}
    (h : Scope.root.extended keepAliases cs = .ok s) : OfClass s := by
  obtain ⟨-, -, hkeys⟩ := parametersScoped_of_extended rfl h
  obtain ⟨vs, rfl, -⟩ := Scope.extended_eq_ok h
  exact ⟨rfl, hkeys⟩

theorem Declares.ofClass {s : Scope} (h : OfClass s) (n : Nat) :
    Declares (s.child n).lookup (s.declared.map (·.id)) := by
  intro k
  rw [Scope.lookup_ne_none_iff, List.mem_map]
  simp [Scope.visible, Scope.child, h.outer]

section
variable {keepAliases : Bool} {s : Scope} (n : Nat) {ps : List TypeParameterNode}
  (hclass : OfClass s) (hids : (ps.map (·.id)).Nodup)
include hclass hids

/-- The bounds of parameters that are declared in a member. -/
theorem boundDenotes_of_extended {s' : Scope} (h : (s.child n).extended keepAliases ps = .ok s')
    (i : Nat) (p : TypeParameterNode) (v : TypeVar) (hp : ps[i]? = some p)
    (hv : s'.declared[i]? = some v) :
    List.Forall₂
      (fun t bound => List.Forall₂ (BoundDenotes s.declared s'.declared i)
        (t.occurrences keepAliases) bound.variables)
      p.upperBounds v.upperBounds := by
  obtain ⟨hscoped, -, hkeys⟩ := parametersScoped_of_extended rfl h
  have hids : (s'.declared.map (·.id)).Nodup := by
    have := congrArg (List.map fun x => x.2.1) hscoped.parameters
    rw [List.map_map, List.map_map] at this
    exact this ▸ hids
  -- the path of a parameter of the class is empty, and that of a parameter of the member is not
  have hapart : ∀ u ∈ s.declared, u.key ∉ s'.declared.map (·.key) := by
    intro u hu hmem
    have hclassKey : u.key ∈ s.declared.map (·.key) := List.mem_map.mpr ⟨u, hu, rfl⟩
    rw [hkeys] at hmem
    rw [hclass.keys] at hclassKey
    obtain ⟨a, -, ha⟩ := List.mem_map.mp hmem
    obtain ⟨b, -, hb⟩ := List.mem_map.mp hclassKey
    rw [← hb] at ha
    cases ha
  have hvisible : (s.child n).outer = [s.declared] := by rw [Scope.child, hclass.outer]
  have hrefers := hscoped.bounds i p v hp hv
  rw [hvisible] at hrefers
  refine hrefers.imp fun t bound ht => ht.occurrences.imp fun k w hkw => ?_
  exact boundDenotes_of_denotes hids hapart hkw

/-- The parameters of a member with some more to decode after them. -/
theorem boundsScoped_of_checked {r : Except DecodeError (List TypeVar)} {more : List Check}
    (hok : ∀ vs, r = .ok vs → ∃ s', (s.child n).extended keepAliases ps = .ok s' ∧ vs = s'.declared)
    (hchecked : Checked keepAliases (boundChecks (s.declared.map (·.id)) ps ++ more) r) :
    BoundsScoped keepAliases s.declared ps r := by
  constructor
  · intro vs hvs
    obtain ⟨s', hs', rfl⟩ := hok vs hvs
    exact boundDenotes_of_extended n hclass hids hs'
  · rintro earlier p later front t back seen k rest rfl hbounds hreferences hk houter
    have hearlier : k ∉ withParameters earlier (s.declared.map (·.id)) := by
      rw [withParameters, List.mem_append, List.mem_reverse]
      rw [List.map_append, List.nodup_append] at hids
      rintro (hmem | hmem)
      · exact hids.2.2 k hmem k hk rfl
      · exact houter hmem
    obtain ⟨after, hsplit⟩ :=
      boundChecks_split (s.declared.map (·.id)) earlier later hbounds
    rw [hsplit, List.append_assoc, List.cons_append] at hchecked
    exact hchecked.undeclared hreferences hearlier

end

/-- **Bounds of a member see the class until the member hides it.** In a bound of a parameter of a
function or property, the number of an earlier parameter of the member is this parameter whatever
the class declares. The number of the parameter itself or of a later one is never a parameter of the
member: it is the parameter of the class with this number, and decoding fails if there is none. -/
theorem memberBounds_scoped (options : DecodeOptions) {cs : List TypeParameterNode} {s : Scope}
    (hs : Scope.root.extended options.keepAliases cs = .ok s) (n : Nat) :
    (∀ f : FunctionNode, (f.typeParameters.map (·.id)).Nodup →
      BoundsScoped options.keepAliases s.declared f.typeParameters
        (do return (← f.decode options (s.child n)).typeParameters)) ∧
      ∀ p : PropertyNode, (p.typeParameters.map (·.id)).Nodup →
        BoundsScoped options.keepAliases s.declared p.typeParameters
          (do return (← p.decode options (s.child n)).typeParameters) := by
  have hclass := ofClass_of_extended hs
  have hdeclares := Declares.ofClass hclass n
  refine ⟨fun f hids => ?_, fun p hids => ?_⟩
  · have hchecked : Checked options.keepAliases (f.checks (s.declared.map (·.id)))
        (do return (← f.decode options (s.child n)).typeParameters) :=
      (f.decode_checked hdeclares).map _
    rw [FunctionNode.checks, List.append_assoc, List.append_assoc] at hchecked
    refine boundsScoped_of_checked n hclass hids ?_ hchecked
    intro vs hvs
    obtain ⟨d, hd, hvs⟩ := Except.bind_eq_ok.mp hvs
    obtain ⟨s', hs', htypeParameters, -⟩ := FunctionNode.decode_eq_ok hd
    cases hvs
    exact ⟨s', hs', htypeParameters⟩
  · have hchecked : Checked options.keepAliases (p.checks (s.declared.map (·.id)))
        (do return (← p.decode options (s.child n)).typeParameters) :=
      (p.decode_checked hdeclares).map _
    rw [PropertyNode.checks, List.append_assoc] at hchecked
    refine boundsScoped_of_checked n hclass hids ?_ hchecked
    intro vs hvs
    obtain ⟨d, hd, hvs⟩ := Except.bind_eq_ok.mp hvs
    obtain ⟨s', hs', htypeParameters, -⟩ := PropertyNode.decode_eq_ok hd
    cases hvs
    exact ⟨s', hs', htypeParameters⟩

/-- A class with a function whose type parameter `V` has the number of the class's `T` and refers to
this number and to an earlier parameter in its bounds. -/
def pickClass : ClassNode :=
  { ClassNode.of Flags.none "sample/Box" with
    typeParameters := [.of "T" 0 .invariant]
    functions :=
      [{ FunctionNode.of Flags.none "pick" (.ofParameter 0) with
        typeParameters :=
          [.of "U" 1 .invariant,
            { TypeParameterNode.of "V" 0 .invariant with
              upperBounds := [.ofParameter 0, .ofParameter 1] }] }] }

/-- The keys of the variables in each bound of each type parameter. -/
def boundKeys (vs : List TypeVar) : List (List (List VarKey)) :=
  vs.map fun v => v.upperBounds.map fun bound => bound.variables.map (·.key)

/-- The first bound of `V` is the `T` of the class, and the second one the `U` of the function. -/
theorem memberBounds_scoped_pickClass :
    ∃ s, Scope.root.extended false pickClass.typeParameters = .ok s ∧
      ∀ f ∈ pickClass.functions, (f.typeParameters.map (·.id)).Nodup ∧
        BoundsScoped false s.declared f.typeParameters
          (do return (← f.decode ⟨false⟩ (s.child 0)).typeParameters) ∧
        (do return boundKeys (← f.decode ⟨false⟩ (s.child 0)).typeParameters) =
          .ok [[], [[.declared [] 0], [.declared [0] 0]]] := by
  have hs : Scope.root.extended false pickClass.typeParameters = .ok _ := rfl
  refine ⟨_, hs, fun f hf => ?_⟩
  obtain rfl := List.mem_singleton.mp hf
  have hids : ([1, 0] : List UInt32).Nodup := by decide
  exact ⟨hids, (memberBounds_scoped ⟨false⟩ hs 0).1 _ hids, rfl⟩

/-- The number of `V` in a bound of its own is the parameter of the class, and no parameter at all
in a class without type parameters. -/
theorem bound_captured_by_class :
    ∃ d, pickClass.decode ⟨false⟩ = .ok d ∧
      d.typeParameters.map (·.key) = [.declared [] 0] ∧
      d.functions.map (·.typeParameters.map fun v => (v.id, v.key)) =
        [[(1, .declared [0] 0), (0, .declared [0] 1)]] ∧
      d.functions.map (boundKeys ·.typeParameters) =
        [[[], [[.declared [] 0], [.declared [0] 0]]]] ∧
      { pickClass with typeParameters := [] }.decode ⟨false⟩ =
        .error (.undeclaredParameter 0) :=
  ⟨_, rfl, rfl, rfl, rfl, rfl⟩

end KotlinMeta
