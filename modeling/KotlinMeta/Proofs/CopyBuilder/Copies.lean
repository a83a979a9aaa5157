import Mathlib.Logic.Relation
import KotlinMeta.Proofs.CopyBuilder.TypeVariables
import KotlinMeta.Proofs.TypeExpr.Relabel

/-! # Which type parameters are copied

A builder declares a type parameter of the class anew only if it has to: if the parameter, or one
that can be reached from it through bounds, has a variance (`counterpart_eq_self_iff`). The decision
compares bounds by what they look like, and a bound looks different as soon as one parameter in it
was copied. So the decision goes along the bounds, from each parameter to those before it.

The counterparts are built up from left to right, and `counterpart_eq_withoutVariance` says that
this makes no difference: each is what it would be if all the others were known.
-/

set_option autoImplicit false

namespace KotlinMeta

/-! ## Reaching parameters through bounds -/

/-- An upper bound of the parameter refers to the other one. -/
def TypeVar.RefersTo (v w : TypeVar) : Prop := ∃ bound ∈ v.upperBounds, w ∈ bound.variables

/-- The other parameter is this one, or can be reached from it through bounds at any depth. -/
def TypeVar.Reaches : TypeVar → TypeVar → Prop := Relation.ReflTransGen TypeVar.RefersTo

theorem TypeVar.refersTo_iff {v w : TypeVar} :
    v.RefersTo w ↔ w ∈ TypeExpr.listVariables v.upperBounds := by
  rw [TypeExpr.listVariables_eq_flatMap, List.mem_flatMap]
  exact Iff.rfl

/-- What holds of all parameters that can be reached holds of the first and of all that can be
reached from its bounds. -/
theorem TypeVar.forall_reaches_iff {v : TypeVar} {P : TypeVar → Prop} :
    (∀ w, v.Reaches w → P w) ↔ P v ∧ ∀ u, v.RefersTo u → ∀ w, u.Reaches w → P w := by
  constructor
  · intro h
    exact ⟨h v .refl, fun u hu w hw => h w (.head hu hw)⟩
  · rintro ⟨hself, hrest⟩ w hw
    rcases Relation.ReflTransGen.cases_head hw with rfl | ⟨u, hu, hw⟩
    · exact hself
    · exact hrest u hu w hw

section
variable {vs : List TypeVar} (h : BoundsOrdered [] vs)
include h

/-- Where bounds see only parameters before, they reach nothing else. -/
theorem BoundsOrdered.mem_of_reaches {v w : TypeVar} (hv : v ∈ vs) (hw : v.Reaches w) :
    w ∈ vs := by
  induction hw with
  | refl => exact hv
  | tail _ hstep ih =>
      obtain ⟨bound, hbound, hx⟩ := hstep
      have hwithin := h.within bound (List.mem_flatMap.mpr ⟨_, ih, hbound⟩)
      simpa using hwithin _ hx

/-- Induction along bounds, from the parameters in the bounds of each to the parameter. -/
theorem BoundsOrdered.induction_on_bounds {motive : TypeVar → Prop}
    (step : ∀ v ∈ vs, (∀ w, v.RefersTo w → motive w) → motive v) {v : TypeVar} (hv : v ∈ vs) :
    motive v := by
  obtain ⟨before, after, hsplit⟩ := List.append_of_mem hv
  -- on the number of parameters before this one
  induction hlength : before.length using Nat.strong_induction_on generalizing v before after with
  | h n ih =>
    refine step v hv fun w hw => ?_
    obtain ⟨bound, hbound, hw⟩ := hw
    rw [hsplit] at h
    have hmem : w ∈ before := by simpa using h.within_before bound hbound w hw
    obtain ⟨before', between, hbefore⟩ := List.append_of_mem hmem
    rw [hbefore, List.append_assoc, List.cons_append] at hsplit
    have hw : w ∈ vs := by simp [hsplit]
    refine ih before'.length ?_ hw before' _ hsplit rfl
    rw [← hlength, hbefore, List.length_append, List.length_cons]
    omega

end

namespace CopyBuilder

open Source

/-! ## The counterparts of all parameters -/

/-- A counterpart depends on the counterparts of the parameters in its bounds only. -/
theorem withoutVariance_congr {pairs pairs' : Counterparts} {v : TypeVar}
    (h : ∀ w, v.RefersTo w → counterpart pairs w = counterpart pairs' w) :
    withoutVariance pairs v = withoutVariance pairs' v := by
  have hbounds : v.upperBounds.map (TypeExpr.mapVariables (counterpart pairs)) =
      v.upperBounds.map (TypeExpr.mapVariables (counterpart pairs')) := by
    refine List.map_congr_left fun bound hbound => ?_
    exact TypeExpr.mapVariables_congr fun w hw => h w ⟨bound, hbound, hw⟩
  rw [withoutVariance, withoutVariance, hbounds]

/-- The pairs of further parameters come after those that are there. -/
theorem exists_counterparts_append (vs ws : List TypeVar) :
    ∃ more, counterparts (vs ++ ws) = counterparts vs ++ more := by
  induction ws using List.reverseRecOn with
  | nil => exact ⟨[], by rw [List.append_nil, List.append_nil]⟩
  | append_singleton ws w ih =>
      obtain ⟨more, hmore⟩ := ih
      rw [← List.append_assoc, counterparts_concat, hmore, List.append_assoc]
      exact ⟨_, rfl⟩

section
variable {vs : List TypeVar} (hkeys : (vs.map (·.key)).Nodup) (hordered : BoundsOrdered [] vs)
include hkeys hordered

/-- **Each counterpart is made as if all of them were known.** -/
theorem counterpart_eq_withoutVariance {v : TypeVar} (hv : v ∈ vs) :
    counterpart (counterparts vs) v = withoutVariance (counterparts vs) v := by
  have hall := paired_counterparts hkeys hordered
  obtain ⟨before, after, rfl⟩ := List.append_of_mem hv
  have hbefore : Paired before (counterparts before) := by
    rw [List.map_append] at hkeys
    exact paired_counterparts hkeys.of_append_left hordered.of_append
  obtain ⟨more, hmore⟩ := exists_counterparts_append (before ++ [v]) after
  rw [List.append_assoc, List.singleton_append, counterparts_concat] at hmore
  -- the parameters in the bounds of `v` have had their counterparts since before `v`
  have hsame : ∀ w ∈ before, counterpart (counterparts before) w =
      counterpart (counterparts (before ++ v :: after)) w := by
    intro w hw
    rw [← hbefore.originals] at hw
    obtain ⟨p, hp, rfl⟩ := List.mem_map.mp hw
    have hmem : p ∈ counterparts (before ++ v :: after) := by
      rw [hmore]
      exact List.mem_append_left _ (List.mem_append_left _ hp)
    rw [List.map_append] at hkeys
    rw [hbefore.counterpart_fst hkeys.of_append_left hp, hall.counterpart_fst ?_ hmem]
    rwa [List.map_append]
  calc counterpart (counterparts (before ++ v :: after)) v
      = withoutVariance (counterparts before) v := by
        have hmem : (v, withoutVariance (counterparts before) v) ∈
            counterparts (before ++ v :: after) := by
          rw [hmore]
          simp
        exact hall.counterpart_fst hkeys hmem
    _ = withoutVariance (counterparts (before ++ v :: after)) v := by
        refine withoutVariance_congr fun w hw => ?_
        obtain ⟨bound, hbound, hw⟩ := hw
        exact hsame w (by simpa using hordered.within_before bound hbound w hw)

/-- A declaration is kept if it has no variance and nothing in its bounds is copied. -/
theorem counterpart_eq_self_iff_bounds {v : TypeVar} (hv : v ∈ vs) :
    counterpart (counterparts vs) v = v ↔
      v.variance = none ∧ ∀ w, v.RefersTo w → counterpart (counterparts vs) w = w := by
  have hall := paired_counterparts hkeys hordered
  rw [counterpart_eq_withoutVariance hkeys hordered hv]
  constructor
  · intro hkept
    rcases withoutVariance_cases (counterparts vs) v with ⟨-, hvariance, halike⟩ | ⟨-, hunlike⟩
    · refine ⟨hvariance, fun w hw => ?_⟩
      have hlike := TypeExpr.alike_of_mapList_alike _ _ halike w (TypeVar.refersTo_iff.mp hw)
      -- a counterpart that looks like the parameter is the parameter
      have hmem : w ∈ vs := hordered.mem_of_reaches hv (.single hw)
      obtain ⟨p, hp, rfl, hcounterpart⟩ := hall.counterpart_eq hkeys hmem
      rw [hcounterpart] at hlike ⊢
      exact hall.kept p hp hlike
    · rw [hkept, v.alike_refl] at hunlike
      cases hunlike
  · rintro ⟨hvariance, hbounds⟩
    have hsame : v.upperBounds.map (TypeExpr.mapVariables (counterpart (counterparts vs))) =
        v.upperBounds := by
      conv_rhs => rw [← List.map_id v.upperBounds]
      refine List.map_congr_left fun bound hbound => ?_
      exact TypeExpr.mapVariables_eq_self fun w hw => hbounds w ⟨bound, hbound, hw⟩
    rw [withoutVariance, hsame, hvariance, TypeExpr.listAlike_refl]
    rfl

/-- **A declaration is kept exactly if no variance can be reached from it.** -/
theorem counterpart_eq_self_iff {v : TypeVar} (hv : v ∈ vs) :
    counterpart (counterparts vs) v = v ↔ ∀ w, v.Reaches w → w.variance = none := by
  have step : ∀ v ∈ vs, (∀ w, v.RefersTo w → (counterpart (counterparts vs) w = w ↔
        ∀ x, w.Reaches x → x.variance = none)) →
      (counterpart (counterparts vs) v = v ↔ ∀ w, v.Reaches w → w.variance = none) := by
    intro v hv ih
    rw [counterpart_eq_self_iff_bounds hkeys hordered hv, TypeVar.forall_reaches_iff]
    exact and_congr_right fun _ => forall₂_congr ih
  exact hordered.induction_on_bounds step hv

/-- A new declaration of a parameter, without its variance. It looks different, and its bounds refer
to the counterparts that `f` gives. -/
structure IsCopy (f : TypeVar → TypeVar) (v copy : TypeVar) : Prop where
  key : copy.key = .copyOf v.key
  unlike : copy.alike v = false
  name : copy.name = v.name
  id : copy.id = v.id
  reified : copy.reified = v.reified
  invariant : copy.variance = none
  bounds : copy.upperBounds = v.upperBounds.map (TypeExpr.mapVariables f)

/-- A declaration that is not kept is copied. -/
theorem isCopy_counterpart {v : TypeVar} (hv : v ∈ vs)
    (hchanged : counterpart (counterparts vs) v ≠ v) :
    IsCopy (counterpart (counterparts vs)) v (counterpart (counterparts vs) v) := by
  rw [counterpart_eq_withoutVariance hkeys hordered hv] at hchanged ⊢
  rcases withoutVariance_cases (counterparts vs) v with ⟨hkept, -⟩ | ⟨hcopy, hunlike⟩
  · exact absurd hkept hchanged
  · refine ⟨?_, hunlike, ?_, ?_, ?_, ?_, ?_⟩ <;> rw [hcopy]
    rw [TypeExpr.mapList_eq_map]

end

/-! ## Names and text -/

/-- A counterpart has the name of the parameter, and any other parameter is its own. -/
theorem Paired.name_counterpart {vs declared : List TypeVar} {pairs : Counterparts}
    (h : Paired vs pairs) (hkeys : (declared.map (·.key)).Nodup) (hsub : vs ⊆ declared)
    {v : TypeVar} (hv : v ∈ declared) : (counterpart pairs v).name = v.name := by
  rcases counterpart_cases pairs v with ⟨-, hself⟩ | ⟨p, hp, hkey, hcounterpart⟩
  · rw [hself]
  · have hsame : p.1 = v := List.inj_on_of_nodup_map hkeys (hsub (h.fst_mem hp)) hv hkey
    rw [hcounterpart, ← hsame]
    exact congrArg Prod.fst (h.same p hp)

/-- In a property of the class every parameter keeps its name, also one that the property
declares. -/
theorem display_mapVariables_counterpart {d : ClassDecl} (hproper : ProperlyScoped d)
    (hpaired : Paired d.typeParameters (counterparts d.typeParameters)) {p : PropertyDecl}
    (hp : p ∈ d.properties) :
    (p.type.mapVariables (counterpart (counterparts d.typeParameters))).display =
      p.type.display := by
  have hmember : p.member ∈ d.members :=
    List.mem_append_left _ (List.mem_map.mpr ⟨p, hp, rfl⟩)
  refine TypeExpr.display_mapVariables_of_names fun v hv => ?_
  have hwithin := hproper.members p.member hmember p.type (by simp [PropertyDecl.member])
  have hdeclared : v ∈ d.declared := by
    rcases List.mem_append.mp (hwithin v hv) with hown | hclass
    · exact List.mem_append_right _ (List.mem_flatMap.mpr ⟨p.member, hmember, hown⟩)
    · exact List.mem_append_left _ hclass
  exact hpaired.name_counterpart hproper.keys (List.subset_append_left _ _) hdeclared

/-- **Type parameters are copied exactly where it is necessary.** A declaration is kept if no
parameter that can be reached from it through bounds, at any depth and itself included, has the
variance `in`. Otherwise it is copied, and the bounds of the copy refer to the counterparts. The
types of the properties are those behind the constructor over the counterparts, with the same
text. -/
theorem synthesize_copies {options : DecodeOptions} {settings : SynthesisOptions} {c : ClassNode}
    {d : ClassDecl} {file : File} (hdecode : c.decode options = .ok d)
    (hfile : synthesize settings d = .ok file) :
    ∃ f : TypeVar → TypeVar, file.builder.typeVariables = d.typeParameters.map f ∧
      (∀ v ∈ d.typeParameters, ∀ bound ∈ v.upperBounds, bound.Within d.typeParameters) ∧
      (∀ v ∈ d.typeParameters, f v = v ↔
        ¬ ∃ w ∈ d.typeParameters, v.Reaches w ∧ w.variance = some .contravariant) ∧
      (∀ v ∈ d.typeParameters, f v ≠ v → IsCopy f v (f v)) ∧
      ∃ backing, backingProperties d = .ok backing ∧
        List.Forall₂ (fun p q => q.name = p.name ∧ q.type = p.type.mapVariables f ∧
            q.type.display = p.type.display)
          backing file.builder.properties.tail := by
  obtain ⟨backing, source, hbacking, -, rfl⟩ := synthesize_eq_ok hfile
  obtain ⟨constructor, -, hall⟩ := backingProperties_eq_ok hbacking
  obtain ⟨hkeys, hpaired⟩ := paired_of_decode hdecode
  have hproper := properlyScoped_of_decode hdecode
  have hordered : BoundsOrdered [] d.typeParameters := hproper.ownBounds
  refine ⟨counterpart (counterparts d.typeParameters), (hpaired.map_counterpart hkeys).symm, ?_, ?_,
    fun v hv hchanged => isCopy_counterpart hkeys hordered hv hchanged, backing, hbacking, ?_⟩
  · intro v hv bound hbound
    simpa using hordered.within bound (List.mem_flatMap.mpr ⟨v, hv, hbound⟩)
  · intro v hv
    rw [counterpart_eq_self_iff hkeys hordered hv]
    constructor
    · rintro hnone ⟨w, -, hreaches, hvariance⟩
      rw [hnone w hreaches] at hvariance
      cases hvariance
    · intro hnever w hreaches
      have hw : w ∈ d.typeParameters := hordered.mem_of_reaches hv hreaches
      rcases ClassNode.variance_of_decode hdecode hw with hvariance | hvariance
      · exact hvariance
      · exact absurd ⟨w, hw, hreaches, hvariance⟩ hnever
  · show List.Forall₂ _ backing (backing.map (builderProperty _ source))
    rw [List.forall₂_map_right_iff, List.forall₂_same]
    intro p hp
    obtain ⟨-, -, hmem, -⟩ := exists_of_mem_right hall hp
    exact ⟨rfl, rfl, display_mapVariables_counterpart hproper hpaired hmem⟩

/-- `T` and `U` are copied, `U` because it is bounded by `T`, and `V` stays. -/
theorem synthesize_copies_sinkClass : ∃ d file,
    sinkClass.decode ⟨false⟩ = .ok d ∧ synthesize ⟨none⟩ d = .ok file ∧
      ∃ f T U V, d.typeParameters = [T, U, V] ∧ file.builder.typeVariables = [f T, f U, f V] ∧
        IsCopy f T (f T) ∧ IsCopy f U (f U) ∧ (f U).upperBounds = [.var (f T) false] ∧
        f V = V := by
  obtain ⟨d, source, hd, -, hfile, -⟩ := synthesize_sinkClass
  obtain ⟨T, U, V, hvars, hT, hU, hV, hVbounds⟩ : ∃ T U V, d.typeParameters = [T, U, V] ∧
      T.variance = some .contravariant ∧ U.upperBounds = [.var T false] ∧ V.variance = none ∧
      V.upperBounds = [] := by
    cases hd
    exact ⟨_, _, _, rfl, rfl, rfl, rfl, rfl⟩
  obtain ⟨f, htypes, -, hkept, hcopied, -⟩ := synthesize_copies hd hfile
  rw [hvars] at htypes hkept hcopied
  have hTmem : T ∈ [T, U, V] := .head _
  have hUmem : U ∈ [T, U, V] := .tail _ (.head _)
  have hVmem : V ∈ [T, U, V] := .tail _ (.tail _ (.head _))
  have hbound : U.RefersTo T := by
    refine ⟨.var T false, ?_, List.mem_singleton_self T⟩
    rw [hU]
    exact List.mem_singleton_self _
  have hcopyT : IsCopy f T (f T) := hcopied T hTmem fun h =>
    (hkept T hTmem).mp h ⟨T, hTmem, .refl, hT⟩
  have hcopyU : IsCopy f U (f U) := hcopied U hUmem fun h =>
    (hkept U hUmem).mp h ⟨T, hTmem, .single hbound, hT⟩
  refine ⟨d, _, hd, hfile, f, T, U, V, hvars, htypes, hcopyT, hcopyU, ?_, ?_⟩
  · rw [hcopyU.bounds, hU]
    rfl
  · refine (hkept V hVmem).mpr ?_
    rintro ⟨w, -, hreaches, hw⟩
    rcases Relation.ReflTransGen.cases_head hreaches with rfl | ⟨u, ⟨bound, hmem, -⟩, -⟩
    · rw [hV] at hw
      cases hw
    · rw [hVbounds] at hmem
      cases hmem

end CopyBuilder

end KotlinMeta
