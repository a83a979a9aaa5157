import Mathlib.Data.List.Induction
import Mathlib.Data.List.Nodup
import KotlinMeta.Node.Build
import KotlinMeta.Proofs.CopyBuilder.Backing
import KotlinMeta.Proofs.CopyBuilder.Names
import KotlinMeta.Proofs.Decoding.Places
import KotlinMeta.Proofs.Source.Types
import KotlinMeta.Proofs.TypeExpr.MapVariables
import KotlinMeta.Proofs.TypeExpr.Variables

/-! # The type variables of a copy builder

The builder and the extension declare a counterpart of each type parameter of the class.
`Paired` is what holds of a list of parameters and their counterparts while it grows: it is kept
by one more parameter whose bounds refer to those before it (`Paired.concat`), and that is how a
decoded class declares them. Whatever the generated file refers to is then a counterpart, and
none of these has a variance.
-/

set_option autoImplicit false

namespace KotlinMeta.CopyBuilder

open Source

/-! ## Parameters and their counterparts -/

/-- The place that a counterpart comes from. -/
def origin : VarKey → VarKey
  | .copyOf k => k
  | k => k

/-- Parameters whose bounds refer to those before them, each with its counterpart. -/
structure Paired (vs : List TypeVar) (pairs : Counterparts) : Prop where
  originals : pairs.map (·.1) = vs
  same : ∀ p ∈ pairs, (p.2.name, p.2.id, p.2.reified) = (p.1.name, p.1.id, p.1.reified)
  invariant : ∀ p ∈ pairs, p.2.variance = none
  bounds : ∀ p ∈ pairs, ∀ u ∈ p.2.upperBounds, u.Within (pairs.map (·.2))
  /-- A counterpart that looks like the parameter is the parameter. -/
  kept : ∀ p ∈ pairs, p.2.alike p.1 = true → p.2 = p.1
  keys : ∀ p ∈ pairs, p.2 = p.1 ∨ p.2.key = .copyOf p.1.key

theorem Paired.nil : Paired [] [] := by
  constructor <;> simp

theorem Paired.fst_mem {vs : List TypeVar} {pairs : Counterparts} (h : Paired vs pairs)
    {p : TypeVar × TypeVar} (hp : p ∈ pairs) : p.1 ∈ vs := by
  rw [← h.originals]
  exact List.mem_map.mpr ⟨p, hp, rfl⟩

theorem counterparts_concat (vs : List TypeVar) (v : TypeVar) :
    counterparts (vs ++ [v]) =
      counterparts vs ++ [(v, withoutVariance (counterparts vs) v)] := by
  rw [counterparts, List.foldl_append]
  rfl

/-- A counterpart comes from a pair for the place of the parameter, or there is no such pair. -/
theorem counterpart_cases (pairs : Counterparts) (v : TypeVar) :
    ((∀ p ∈ pairs, p.1.key ≠ v.key) ∧ counterpart pairs v = v) ∨
      ∃ p ∈ pairs, p.1.key = v.key ∧ counterpart pairs v = p.2 := by
  rw [counterpart]
  cases hfind : pairs.find? fun pair => pair.1.key == v.key with
  | none =>
      refine Or.inl ⟨fun p hp => ?_, rfl⟩
      simpa using List.find?_eq_none.mp hfind p hp
  | some p =>
      have hkey : p.1.key = v.key := by simpa using List.find?_some hfind
      exact Or.inr ⟨p, List.mem_of_find?_eq_some hfind, hkey, rfl⟩

/-- The counterpart of a declared parameter is the one it is paired with. -/
theorem Paired.counterpart_eq {vs : List TypeVar} {pairs : Counterparts} (h : Paired vs pairs)
    (hkeys : (vs.map (·.key)).Nodup) {v : TypeVar} (hv : v ∈ vs) :
    ∃ p ∈ pairs, p.1 = v ∧ counterpart pairs v = p.2 := by
  rw [← h.originals] at hv hkeys
  obtain ⟨q, hq, rfl⟩ := List.mem_map.mp hv
  rcases counterpart_cases pairs q.1 with ⟨hnone, -⟩ | ⟨p, hp, hkey, hcounterpart⟩
  · exact absurd rfl (hnone q hq)
  · -- the pair found has the key of `q`, and no two parameters share one
    refine ⟨p, hp, ?_, hcounterpart⟩
    exact List.inj_on_of_nodup_map hkeys (List.mem_map.mpr ⟨p, hp, rfl⟩) hv hkey

/-- The counterpart of the first of a pair is the second. -/
theorem Paired.counterpart_fst {vs : List TypeVar} {pairs : Counterparts} (h : Paired vs pairs)
    (hkeys : (vs.map (·.key)).Nodup) {p : TypeVar × TypeVar} (hp : p ∈ pairs) :
    counterpart pairs p.1 = p.2 := by
  obtain ⟨q, hq, hfirst, hcounterpart⟩ := h.counterpart_eq hkeys (h.fst_mem hp)
  rw [← h.originals, List.map_map] at hkeys
  rw [hcounterpart, List.inj_on_of_nodup_map hkeys hq hp (congrArg TypeVar.key hfirst)]

/-- The counterparts of the parameters, in order. -/
theorem Paired.map_counterpart {vs : List TypeVar} {pairs : Counterparts} (h : Paired vs pairs)
    (hkeys : (vs.map (·.key)).Nodup) : vs.map (counterpart pairs) = pairs.map (·.2) := by
  calc vs.map (counterpart pairs)
      = pairs.map fun p => counterpart pairs p.1 := by rw [← h.originals, List.map_map]; rfl
    _ = pairs.map (·.2) := List.map_congr_left fun p hp => h.counterpart_fst hkeys hp

/-- A type over declared parameters becomes a type over their counterparts. -/
theorem Paired.within_mapVariables {vs : List TypeVar} {pairs : Counterparts}
    (h : Paired vs pairs) (hkeys : (vs.map (·.key)).Nodup) {u : TypeExpr} (hu : u.Within vs) :
    (u.mapVariables (counterpart pairs)).Within (pairs.map (·.2)) := by
  intro w hw
  rw [TypeExpr.variables_mapVariables] at hw
  obtain ⟨v, hv, rfl⟩ := List.mem_map.mp hw
  obtain ⟨p, hp, -, hcounterpart⟩ := h.counterpart_eq hkeys (hu v hv)
  rw [hcounterpart]
  exact List.mem_map.mpr ⟨p, hp, rfl⟩

/-- A parameter keeps its declaration, or gets a new one without variance that does not look like
the old one. -/
theorem withoutVariance_cases (pairs : Counterparts) (v : TypeVar) :
    (withoutVariance pairs v = v ∧ v.variance = none ∧
      TypeExpr.listAlike (TypeExpr.mapList (counterpart pairs) v.upperBounds) v.upperBounds =
        true) ∨
    (withoutVariance pairs v =
        { v with
          key := .copyOf v.key
          variance := none
          upperBounds := TypeExpr.mapList (counterpart pairs) v.upperBounds } ∧
      (withoutVariance pairs v).alike v = false) := by
  rw [withoutVariance, ← TypeExpr.mapList_eq_map]
  split
  · rename_i h
    rw [Bool.and_eq_true, Option.isNone_iff_eq_none] at h
    exact Or.inl ⟨rfl, h⟩
  · rename_i h
    refine Or.inr ⟨rfl, ?_⟩
    obtain ⟨key, name, id, variance, upperBounds, reified⟩ := v
    cases variance with
    | none => simpa [TypeVar.alike] using h
    | some variance => simp [TypeVar.alike]

/-- But for its place, its variance and its bounds, a parameter is kept as it is. -/
theorem withoutVariance_same (pairs : Counterparts) (v : TypeVar) :
    ((withoutVariance pairs v).name, (withoutVariance pairs v).id,
      (withoutVariance pairs v).reified) = (v.name, v.id, v.reified) := by
  rcases withoutVariance_cases pairs v with ⟨heq, -⟩ | ⟨heq, -⟩ <;> rw [heq]

theorem variance_withoutVariance (pairs : Counterparts) (v : TypeVar) :
    (withoutVariance pairs v).variance = none := by
  rcases withoutVariance_cases pairs v with ⟨heq, hvariance, -⟩ | ⟨heq, -⟩
  · rw [heq]
    exact hvariance
  · rw [heq]

theorem withoutVariance_of_alike {pairs : Counterparts} {v : TypeVar}
    (h : (withoutVariance pairs v).alike v = true) : withoutVariance pairs v = v := by
  rcases withoutVariance_cases pairs v with ⟨heq, -⟩ | ⟨-, hunlike⟩
  · exact heq
  · rw [hunlike] at h
    cases h

theorem key_withoutVariance (pairs : Counterparts) (v : TypeVar) :
    withoutVariance pairs v = v ∨ (withoutVariance pairs v).key = .copyOf v.key := by
  rcases withoutVariance_cases pairs v with ⟨heq, -⟩ | ⟨heq, -⟩
  · exact Or.inl heq
  · rw [heq]
    exact Or.inr rfl

/-- Bounds over parameters become bounds over their counterparts, also where the declaration is
kept: its bounds look the same afterwards, so that each parameter in them is its own
counterpart. -/
theorem Paired.bounds_withoutVariance {vs : List TypeVar} {pairs : Counterparts}
    (h : Paired vs pairs) (hkeys : (vs.map (·.key)).Nodup) {v : TypeVar}
    (hv : ∀ u ∈ v.upperBounds, u.Within vs) :
    ∀ u ∈ (withoutVariance pairs v).upperBounds, u.Within (pairs.map (·.2)) := by
  rcases withoutVariance_cases pairs v with ⟨heq, -, halike⟩ | ⟨heq, -⟩
  · rw [heq]
    intro u hu w hw
    obtain ⟨p, hp, rfl, hcounterpart⟩ := h.counterpart_eq hkeys (hv u hu w hw)
    have hmem : p.1 ∈ TypeExpr.listVariables v.upperBounds := by
      rw [TypeExpr.listVariables_eq_flatMap]
      exact List.mem_flatMap.mpr ⟨u, hu, hw⟩
    have hlike : p.2.alike p.1 = true := by
      rw [← hcounterpart]
      exact TypeExpr.alike_of_mapList_alike _ _ halike p.1 hmem
    exact List.mem_map.mpr ⟨p, hp, h.kept p hp hlike⟩
  · rw [heq]
    intro u hu
    rw [TypeExpr.mapList_eq_map] at hu
    obtain ⟨bound, hbound, rfl⟩ := List.mem_map.mp hu
    exact h.within_mapVariables hkeys (hv bound hbound)

/-- One more parameter, with bounds over those before it. -/
theorem Paired.concat {vs : List TypeVar} {pairs : Counterparts} (h : Paired vs pairs)
    (hkeys : (vs.map (·.key)).Nodup) {v : TypeVar} (hv : ∀ u ∈ v.upperBounds, u.Within vs) :
    Paired (vs ++ [v]) (pairs ++ [(v, withoutVariance pairs v)]) := by
  have hbounds := h.bounds_withoutVariance hkeys hv
  -- what holds of all pairs so far and of the new one holds of all
  have hnew : ∀ {P : TypeVar × TypeVar → Prop}, (∀ p ∈ pairs, P p) →
      P (v, withoutVariance pairs v) → ∀ p ∈ pairs ++ [(v, withoutVariance pairs v)], P p := by
    intro P hold hnew p hp
    rcases List.mem_append.mp hp with hp | hp
    · exact hold p hp
    · rw [List.mem_singleton.mp hp]
      exact hnew
  constructor
  · rw [List.map_append, h.originals]
    rfl
  · exact hnew h.same (withoutVariance_same pairs v)
  · exact hnew h.invariant (variance_withoutVariance pairs v)
  · rw [List.map_append]
    apply hnew
    · intro p hp u hu w hw
      exact List.mem_append_left _ (h.bounds p hp u hu w hw)
    · intro u hu w hw
      exact List.mem_append_left _ (hbounds u hu w hw)
  · exact hnew h.kept withoutVariance_of_alike
  · exact hnew h.keys (key_withoutVariance pairs v)

/-- **The parameters of a decoded class and their counterparts.** -/
theorem paired_counterparts {vs : List TypeVar} (hkeys : (vs.map (·.key)).Nodup)
    (hordered : BoundsOrdered [] vs) : Paired vs (counterparts vs) := by
  -- from the first parameter to the last, as the pairs are built
  induction vs using List.reverseRecOn with
  | nil => exact .nil
  | append_singleton vs v ih =>
      rw [List.map_append] at hkeys
      have hpaired := ih hkeys.of_append_left hordered.of_append
      rw [counterparts_concat]
      exact hpaired.concat hkeys.of_append_left fun u hu => by
        simpa using hordered.within_before u hu

/-- But for variance and bounds the counterparts are declared like the parameters. -/
theorem Paired.map_same {vs : List TypeVar} {pairs : Counterparts} (h : Paired vs pairs) :
    (pairs.map (·.2)).map (fun v => (v.name, v.id, v.reified)) =
      vs.map fun v => (v.name, v.id, v.reified) := by
  calc (pairs.map (·.2)).map (fun v => (v.name, v.id, v.reified))
      = (pairs.map (·.1)).map fun v => (v.name, v.id, v.reified) := by
        rw [List.map_map, List.map_map]
        exact List.map_congr_left h.same
    _ = vs.map fun v => (v.name, v.id, v.reified) := by rw [h.originals]

/-- The counterparts are different parameters. -/
theorem Paired.nodup {vs : List TypeVar} {pairs : Counterparts} (h : Paired vs pairs)
    (hkeys : (vs.map (·.key)).Nodup)
    (hdeclared : ∀ v ∈ vs, ∃ path n, v.key = .declared path n) :
    ((pairs.map (·.2)).map (·.key)).Nodup := by
  -- a key and that of its counterpart come from the same place, and places differ
  have horigin : ((pairs.map (·.2)).map (·.key)).map origin = vs.map (·.key) := by
    rw [← h.originals, List.map_map, List.map_map, List.map_map]
    refine List.map_congr_left fun p hp => ?_
    obtain ⟨path, n, hkey⟩ := hdeclared p.1 (h.fst_mem hp)
    rcases h.keys p hp with heq | heq
    · simp [heq, hkey, origin]
    · simp [heq, origin]
  rw [← horigin] at hkeys
  exact hkeys.of_map

/-! ## The generated file -/

theorem types_builderProperties (rebind : TypeExpr → TypeExpr) (source : String)
    (backing : List PropertyDecl) :
    (backing.map (builderProperty rebind source)).flatMap PropertyDef.types =
      backing.map fun p => rebind p.type := by
  induction backing with
  | nil => rfl
  | cons p rest ih =>
      rw [List.map_cons, List.flatMap_cons, ih]
      rfl

theorem listTypes_named (names : List String) :
    Argument.listTypes (names.map fun name => .named name (.name name)) = [] := by
  induction names with
  | nil => rfl
  | cons name rest ih =>
      rw [List.map_cons, Argument.named, Argument.listTypes, ih]
      rfl

section
variable (options : SynthesisOptions) (c : ClassDecl) (backing : List PropertyDecl)
  (source : String)

theorem types_annotations :
    (options.generated.toList.map GeneratedMark.use).flatMap AnnotationUse.types = [] := by
  cases options.generated <;> rfl

theorem types_builder :
    let rebind := TypeExpr.mapVariables (counterpart (counterparts c.typeParameters))
    (builderFile options c backing source).builder.types =
      rebind c.asType :: rebind c.asType :: (backing.map (fun p => rebind p.type) ++
        [rebind c.asType]) := by
  intro rebind
  rw [ClassDef.types, builderFile, types_annotations, List.flatMap_cons, types_builderProperties]
  simp [FunctionDef.types, FunctionDef.of, builderConstructor, buildFunction, PropertyDef.types,
    sourceProperty, Statement.listTypes, Expr.types, Expr.optionTypes, Expr.callOn,
    listTypes_named, Lambda.optionTypes, rebind, -List.map_map]

theorem types_extension :
    let rebind := TypeExpr.mapVariables (counterpart (counterparts c.typeParameters))
    let builderType := TypeExpr.named (builderName c.name) (rebind c.asType).arguments false
    (builderFile options c backing source).extension.types =
      [rebind c.asType, .function (some builderType) [] .unit false false, rebind c.asType,
        builderType] := by
  intro rebind builderType
  rw [FunctionDef.types, builderFile, copyExtension, types_annotations]
  simp [Statement.listTypes, Expr.types, Expr.optionTypes, Expr.callOn, Expr.callWithLambda,
    Expr.invoke, Argument.listTypes, Argument.positional, Lambda.optionTypes, rebind, builderType]

/-- Every type of the file is over the counterparts if the types of the properties are over the
parameters of the class. -/
theorem within_of_mem_types (hpaired : Paired c.typeParameters (counterparts c.typeParameters))
    (hkeys : (c.typeParameters.map (·.key)).Nodup)
    (hbacking : ∀ p ∈ backing, p.type.Within c.typeParameters) :
    ∀ u ∈ (builderFile options c backing source).types,
      u.Within ((counterparts c.typeParameters).map (·.2)) := by
  have hself : c.asType.Within c.typeParameters := by
    intro v hv
    rw [ClassDecl.asType, TypeExpr.variables, TypeArg.listVariables_eq_flatMap,
      List.flatMap_map] at hv
    obtain ⟨w, hw, hv⟩ := List.mem_flatMap.mp hv
    rwa [List.mem_singleton.mp hv]
  have hsource := hpaired.within_mapVariables hkeys hself
  -- the builder is applied to the same arguments as the class
  have hbuilder : (TypeExpr.named (builderName c.name)
      (c.asType.mapVariables (counterpart (counterparts c.typeParameters))).arguments
        false).Within ((counterparts c.typeParameters).map (·.2)) := hsource
  intro u hu
  rw [File.types, types_builder, types_extension] at hu
  simp only [List.mem_append, List.mem_cons, List.mem_map, List.not_mem_nil, or_false] at hu
  rcases hu with (rfl | rfl | ⟨p, hp, rfl⟩ | rfl) | rfl | rfl | rfl | rfl
  · exact hsource
  · exact hsource
  · exact hpaired.within_mapVariables hkeys (hbacking p hp)
  · exact hsource
  · exact hsource
  -- the type of the block has the builder as its receiver and no other variables
  · intro v hv
    refine hbuilder v ?_
    simpa [TypeExpr.variables, TypeExpr.optionVariables, TypeExpr.listVariables, TypeExpr.unit,
      TypeExpr.ofClass, TypeArg.listVariables] using hv
  · exact hsource
  · exact hbuilder

/-- Whatever the file declares or refers to is a counterpart. -/
theorem mem_counterparts_of_mentions
    (hpaired : Paired c.typeParameters (counterparts c.typeParameters))
    (hkeys : (c.typeParameters.map (·.key)).Nodup)
    (hbacking : ∀ p ∈ backing, p.type.Within c.typeParameters) {v : TypeVar}
    (hv : (builderFile options c backing source).Mentions v) :
    v ∈ (counterparts c.typeParameters).map (·.2) := by
  -- along the path of bounds on which the file reaches `v`
  induction hv with
  | builder hv => exact hv
  | extension hv => exact hv
  | type hu hv =>
      exact within_of_mem_types options c backing source hpaired hkeys hbacking _ hu _ hv
  | bound _ hu hv ih =>
      obtain ⟨p, hp, rfl⟩ := List.mem_map.mp ih
      exact hpaired.bounds p hp _ hu _ hv

end

/-- A property without type parameters of its own refers to those of the class. -/
theorem within_of_property {d : ClassDecl} (hproper : ProperlyScoped d) {p : PropertyDecl}
    (hp : p ∈ d.properties) (hplain : p.typeParameters = []) : p.type.Within d.typeParameters := by
  have hmember : p.member ∈ d.members :=
    List.mem_append_left _ (List.mem_map.mpr ⟨p, hp, rfl⟩)
  have hwithin := hproper.members p.member hmember p.type (by simp [PropertyDecl.member])
  rwa [PropertyDecl.member, hplain] at hwithin

theorem within_of_backingProperties {d : ClassDecl} {backing : List PropertyDecl}
    (hproper : ProperlyScoped d) (hbacking : backingProperties d = .ok backing)
    (hplain : ∀ p ∈ backing, p.typeParameters = []) :
    ∀ p ∈ backing, p.type.Within d.typeParameters := by
  intro p hp
  obtain ⟨constructor, -, hall⟩ := backingProperties_eq_ok hbacking
  obtain ⟨-, -, hmem, -⟩ := exists_of_mem_right hall hp
  exact within_of_property hproper hmem (hplain p hp)

/-- The type parameters of a decoded class are different, and their counterparts go with them. -/
theorem paired_of_decode {options : DecodeOptions} {c : ClassNode} {d : ClassDecl}
    (h : c.decode options = .ok d) :
    (d.typeParameters.map (·.key)).Nodup ∧
      Paired d.typeParameters (counterparts d.typeParameters) := by
  have hproper := properlyScoped_of_decode h
  have hkeys : (d.typeParameters.map (·.key)).Nodup := by
    have hall := hproper.keys
    rw [ClassDecl.declared, List.map_append] at hall
    exact hall.of_append_left
  exact ⟨hkeys, paired_counterparts hkeys hproper.ownBounds⟩

/-- **The generated file is closed under its own type variables, and none of them has a
variance.** -/
theorem synthesize_typeVariables {options : DecodeOptions} {settings : SynthesisOptions}
    {c : ClassNode} {d : ClassDecl} {file : File} (hdecode : c.decode options = .ok d)
    (hfile : synthesize settings d = .ok file)
    (hplain : ∀ backing, backingProperties d = .ok backing →
      ∀ p ∈ backing, p.typeParameters = []) :
    file.builder.typeVariables = file.extension.typeVariables ∧
      file.builder.typeVariables.map (fun v => (v.name, v.id, v.reified)) =
        d.typeParameters.map (fun v => (v.name, v.id, v.reified)) ∧
      file.builder.typeVariables.map (fun v => (v.name, v.id, v.reified)) =
        c.typeParameters.map (fun p => (p.name, p.id, p.flags.isReified)) ∧
      (file.builder.typeVariables.map (·.key)).Nodup ∧
      (∀ v, file.Mentions v → v ∈ file.builder.typeVariables) ∧
      (∀ v, file.Mentions v → v.variance = none) := by
  obtain ⟨backing, source, hbacking, -, rfl⟩ := synthesize_eq_ok hfile
  have hproper := properlyScoped_of_decode hdecode
  have hkeyed := keyedByPlace_of_decode hdecode
  obtain ⟨hkeys, hpaired⟩ := paired_of_decode hdecode
  have hsame := hpaired.map_same
  have hproperties := within_of_backingProperties hproper hbacking (hplain backing hbacking)
  have hmentions : ∀ v, (builderFile settings d backing source).Mentions v →
      v ∈ (counterparts d.typeParameters).map (·.2) := fun v hv =>
    mem_counterparts_of_mentions settings d backing source hpaired hkeys hproperties hv
  refine ⟨rfl, hsame, ?_, ?_, hmentions, ?_⟩
  · rw [← (lexicallyScoped_of_decode hdecode).typeParameters.parameters, ← hsame]
    rfl
  · refine hpaired.nodup hkeys fun v hv => ?_
    obtain ⟨n, hn⟩ := List.mem_iff_getElem?.mp hv
    exact ⟨[], n, hkeyed.key_of_own hn⟩
  · intro v hv
    obtain ⟨p, hp, rfl⟩ := List.mem_map.mp (hmentions v hv)
    exact hpaired.invariant p hp

/-- A class that takes values in, with one parameter that is bounded by another. -/
def sinkClass : ClassNode :=
  { ClassNode.of Flags.none "sample/Sink" with
    typeParameters :=
      [.of "T" 0 .contravariant,
        { TypeParameterNode.of "U" 1 .invariant with upperBounds := [.ofParameter 0] },
        .of "V" 2 .covariant]
    constructors :=
      [⟨Flags.none.withOwnBit 0, [.of "first" (.ofParameter 1), .of "last" (.ofParameter 2)]⟩]
    properties :=
      [.of Flags.none "last" (.ofParameter 2), .of Flags.none "first" (.ofParameter 1)] }

/-- There is a builder of the class, whose properties are in the order of the constructor. -/
theorem synthesize_sinkClass : ∃ d source,
    sinkClass.decode ⟨false⟩ = .ok d ∧
      backingProperties d = .ok d.properties.reverse ∧
      synthesize ⟨none⟩ d = .ok (builderFile ⟨none⟩ d d.properties.reverse source) ∧
      (∀ p ∈ d.properties, p.typeParameters = []) ∧
      (counterparts d.typeParameters).map (·.2.key) =
        [.copyOf (.declared [] 0), .copyOf (.declared [] 1), .declared [] 2] ∧
      d.properties.reverse.map (fun p => (p.type.mapVariables
          (counterpart (counterparts d.typeParameters))).variables.map (·.key)) =
        [[.copyOf (.declared [] 1)], [.declared [] 2]] := by
  obtain ⟨d, hd, hbacking, hplain, hkeys, htypes⟩ : ∃ d, sinkClass.decode ⟨false⟩ = .ok d ∧
      backingProperties d = .ok d.properties.reverse ∧
      d.properties.map (·.typeParameters) = [[], []] ∧
      (counterparts d.typeParameters).map (·.2.key) =
        [.copyOf (.declared [] 0), .copyOf (.declared [] 1), .declared [] 2] ∧
      d.properties.reverse.map (fun p => (p.type.mapVariables
          (counterpart (counterparts d.typeParameters))).variables.map (·.key)) =
        [[.copyOf (.declared [] 1)], [.declared [] 2]] :=
    ⟨_, rfl, rfl, rfl, by decide +kernel, by decide +kernel⟩
  obtain ⟨k, hsource, -⟩ := sourceName_eq (d.properties.reverse.map (·.name))
  refine ⟨d, NameTable.underscored sourceSuggestion k, hd, hbacking, ?_, fun p hp => ?_, hkeys,
    htypes⟩
  · exact Except.bind_eq_ok.mpr ⟨_, hbacking, Except.bind_eq_ok.mpr ⟨_, hsource, rfl⟩⟩
  · have hmem : p.typeParameters ∈ d.properties.map (·.typeParameters) :=
      List.mem_map.mpr ⟨p, hp, rfl⟩
    rw [hplain] at hmem
    simpa using hmem

/-- `U` is replaced because of its bound, and `V` stays. -/
theorem synthesize_typeVariables_sinkClass : ∃ d file,
    sinkClass.decode ⟨false⟩ = .ok d ∧ synthesize ⟨none⟩ d = .ok file ∧
      file.builder.typeVariables.map (·.key) =
        [.copyOf (.declared [] 0), .copyOf (.declared [] 1), .declared [] 2] ∧
      ∀ v, file.Mentions v → v ∈ file.builder.typeVariables ∧ v.variance = none := by
  obtain ⟨d, source, hd, hbacking, hfile, hplain, hkeys, -⟩ := synthesize_sinkClass
  have hown : ∀ backing, backingProperties d = .ok backing →
      ∀ p ∈ backing, p.typeParameters = [] := by
    intro backing h p hp
    rw [hbacking] at h
    cases h
    exact hplain p (List.mem_reverse.mp hp)
  obtain ⟨-, -, -, -, hmentions, hinvariant⟩ := synthesize_typeVariables hd hfile hown
  refine ⟨d, _, hd, hfile, ?_, fun v hv => ⟨hmentions v hv, hinvariant v hv⟩⟩
  rw [← hkeys]
  exact List.map_map

end KotlinMeta.CopyBuilder
