import KotlinMeta.Proofs.ClassName.Functions
import KotlinMeta.Proofs.TypeNode.Live
import KotlinMeta.Proofs.TypeNode.Slots

/-! # Function types from the interfaces of functions

A node of an interface keeps all its slots and their order. Only of a suspending function the last
slot is dropped, and of its continuation nothing counts but the result that it carries: the main
result is `TypeNode.resolve_interface`.
-/

set_option autoImplicit false

namespace KotlinMeta

/-- The interface of function types of an arity, applied to arguments. -/
def TypeNode.ofInterface (flags : Flags) (arity : String) (arguments : List ProjectionNode)
    (expanded : Option TypeNode) : TypeNode :=
  { flags, classifier := some (.classNamed ("kotlin/Function" ++ arity)), arguments
    abbreviatedType := none, expandedType := expanded, outerType := none
    flexibleUpperBound := none }

/-- A class of this name is no function type, whatever its arguments are. -/
structure PlainName (name : String) : Prop where
  bounded : (ClassName.ofMetadata name).qualified ≠ unboundedFunctionName
  plain : ¬ IsInterfaceName (ClassName.ofMetadata name).qualified

/-- The second projection can stand for a continuation in the place of the first: what it carries
is the same. That is so if only the nullability of the continuation, its class or the variance of
the projection is another one. -/
inductive ContinuationLike (context : TypeContext) : ProjectionNode → ProjectionNode → Prop
  | slots {p p' : ProjectionNode} {slot slot' : TypeExpr} (filled : SlotOf context p slot)
      (filled' : SlotOf context p' slot')
      (carries : ∀ result, slot.unwrapped.Carries result → slot'.unwrapped.Carries result) :
      ContinuationLike context p p'
  | nullability {variance : NodeVariance} {t : TypeNode} {flags : Flags}
      (suspends : flags.isSuspendType = t.flags.isSuspendType)
      (receives : flags.isExtensionFunctionType = t.flags.isExtensionFunctionType) :
      ContinuationLike context ⟨some variance, some t⟩ ⟨some variance, some { t with flags }⟩
  | className {variance : NodeVariance} {t : TypeNode} {name name' : String}
      (named : t.classifier = some (.classNamed name)) (plain : PlainName name)
      (plain' : PlainName name') :
      ContinuationLike context ⟨some variance, some t⟩
        ⟨some variance, some { t with classifier := some (.classNamed name') }⟩
  | variance {variance variance' : NodeVariance} {t : TypeNode}
      (bare : ∀ bound direction nullable,
        t.resolve context ≠ .ok (.wildcard bound direction nullable)) :
      ContinuationLike context ⟨some variance, some t⟩ ⟨some variance', some t⟩

/-! ## Resolution of an interface -/

section
variable {context : TypeContext} {flags : Flags} {arity : String} {expanded : Option TypeNode}
  {arguments : List ProjectionNode}

theorem TypeNode.form_ofInterface (keepAliases : Bool) :
    (ofInterface flags arity arguments expanded).form keepAliases =
      .applied ("kotlin/Function" ++ arity) arguments := by
  cases keepAliases <;> rfl

/-- An interface whose arguments fill slots resolves to what these stand for. -/
theorem TypeNode.resolve_ofInterface_iff (harity : IsArity arity) (hne : arguments ≠ [])
    {slots : List TypeExpr} (hslots : List.Forall₂ (SlotOf context) arguments slots)
    {type : TypeExpr} :
    (ofInterface flags arity arguments expanded).resolve context = .ok type ↔
      ∃ function, FunctionOf flags slots function ∧
        type = function.withNullable flags.isNullableType := by
  obtain ⟨args, hargs, rfl⟩ := forall₂_slotOf_iff.mp hslots
  obtain ⟨front, last, rfl⟩ := ProjectionNode.exists_concat_of_mapM hargs hne
  rw [resolve_of_form_applied (form_ofInterface _) (referredClass_functionClass harity) hargs,
    namedType_concat (isInterfaceName_functionClass harity), List.map_append, List.map_singleton]
  constructor
  · intro h
    obtain ⟨function, hfunction, h⟩ := Except.bind_eq_ok.mp h
    cases h
    exact ⟨function, functionType_eq_ok_iff.mp hfunction, rfl⟩
  · rintro ⟨function, hfunction, rfl⟩
    exact Except.bind_eq_ok.mpr ⟨function, functionType_eq_ok_iff.mpr hfunction, rfl⟩

/-- All interfaces are resolved alike, whether they can be resolved or not. -/
theorem TypeNode.resolve_congr_interface {t t' : TypeNode} {name name' : String}
    (hform : t.form context.keepAliases = .applied name arguments)
    (hform' : t'.form context.keepAliases = .applied name' arguments) (hflags : t'.flags = t.flags)
    (hname : IsInterfaceName (ClassName.ofMetadata name).qualified)
    (hname' : IsInterfaceName (ClassName.ofMetadata name').qualified)
    (hne : arguments ≠ []) : t'.resolve context = t.resolve context := by
  have hclass : ∀ {n : String}, IsInterfaceName (ClassName.ofMetadata n).qualified →
      referredClass n = .ok (.ofMetadata n) :=
    fun hn => if_neg (IsInterfaceName.ne_unbounded hn)
  rw [resolve_eq, resolve_eq, hform, hform', Form.resolve_applied (hclass hname),
    Form.resolve_applied (hclass hname'), hflags]
  refine Except.bind_congr_of_ok fun args hargs => ?_
  obtain ⟨front, last, rfl⟩ := ProjectionNode.exists_concat_of_mapM hargs hne
  rw [namedType_concat hname', namedType_concat hname]

/-- The digits of an interface do not matter. -/
theorem TypeNode.resolve_ofInterface_congr (harity : IsArity arity) {arity' : String}
    (harity' : IsArity arity') (hne : arguments ≠ []) :
    (ofInterface flags arity' arguments expanded).resolve context =
      (ofInterface flags arity arguments expanded).resolve context :=
  resolve_congr_interface (form_ofInterface _) (form_ofInterface _) rfl
    (isInterfaceName_ofMetadata_functionClass harity)
    (isInterfaceName_ofMetadata_functionClass harity') hne

/-- An interface that resolves has arguments that fill slots. -/
theorem TypeNode.exists_slots_of_resolve {type : TypeExpr}
    (h : (ofInterface flags arity arguments expanded).resolve context = .ok type) :
    ∃ slots, List.Forall₂ (SlotOf context) arguments slots := by
  rw [resolve_eq, form_ofInterface] at h
  obtain ⟨c, -, h⟩ := Except.bind_eq_ok.mp h
  obtain ⟨args, hargs, -⟩ := Except.bind_eq_ok.mp h
  exact ⟨_, forall₂_slotOf_iff.mpr ⟨args, hargs, rfl⟩⟩

end

/-! ## Other continuations -/

namespace TypeExpr

/-- The second type carries what the first one does, under a wildcard or without one. -/
structure CarriesLike (t t' : TypeExpr) : Prop where
  bare : ∀ result, t.Carries result → t'.Carries result
  under : ∀ result, t.unwrapped.Carries result → t'.unwrapped.Carries result

theorem CarriesLike.self (t : TypeExpr) : CarriesLike t t := ⟨fun _ h => h, fun _ h => h⟩

/-- Another class with the same arguments. -/
theorem CarriesLike.named (name name' : ClassName) (arguments : List TypeArg)
    (nullable nullable' : Bool) :
    CarriesLike (.named name arguments nullable) (.named name' arguments nullable') := by
  have hcarries : ∀ result, (TypeExpr.named name arguments nullable).Carries result →
      (TypeExpr.named name' arguments nullable').Carries result := by
    rintro result ⟨_, variance, _, heq⟩
    cases heq
    exact ⟨name', variance, nullable', rfl⟩
  exact ⟨hcarries, hcarries⟩

theorem CarriesLike.withNullable (t : TypeExpr) (b : Bool) : CarriesLike t (t.withNullable b) := by
  cases t with
  | named name arguments nullable => exact .named name name arguments nullable b
  | var v nullable => exact ⟨nofun, nofun⟩
  | function receiver parameters returnType isSuspend nullable => exact ⟨nofun, nofun⟩
  | wildcard bound direction nullable =>
      -- the wildcard itself carries nothing, and its bound is the same
      cases bound with
      | none => exact ⟨nofun, nofun⟩
      | some bound => exact ⟨nofun, fun _ h => h⟩

end TypeExpr

section
variable {context : TypeContext}

theorem SlotOf.unique {p : ProjectionNode} {slot slot' : TypeExpr} (h : SlotOf context p slot)
    (h' : SlotOf context p slot') : slot = slot' := by
  obtain ⟨a, ha, rfl⟩ := slotOf_iff.mp h
  obtain ⟨a', ha', rfl⟩ := slotOf_iff.mp h'
  rw [ha] at ha'
  cases ha'
  rfl

theorem SlotOf.exists_type {variance : NodeVariance} {t : TypeNode} {slot : TypeExpr}
    (h : SlotOf context ⟨some variance, some t⟩ slot) : ∃ type, t.resolve context = .ok type := by
  cases h <;> exact ⟨_, ‹_›⟩

theorem slotOf_typed_iff {variance : NodeVariance} {t : TypeNode} {type slot : TypeExpr}
    (h : t.resolve context = .ok type) :
    SlotOf context ⟨some variance, some t⟩ slot ↔
      slot = (projectedArgument variance type).toType := by
  have hresolve := ProjectionNode.resolve_of variance h
  rw [slotOf_iff]
  constructor
  · rintro ⟨a, ha, rfl⟩
    rw [ProjectionNode.of] at hresolve
    rw [hresolve] at ha
    cases ha
    rfl
  · rintro rfl
    exact ⟨_, hresolve, rfl⟩

/-- The wildcard of a projection is looked through, so it carries what its bound does. -/
theorem carries_projected_iff {variance : NodeVariance} (h : variance ≠ .invariant)
    {type result : TypeExpr} :
    (projectedArgument variance type).toType.unwrapped.Carries result ↔ type.Carries result := by
  cases variance with
  | invariant => exact absurd rfl h
  | contravariant => exact Iff.rfl
  | covariant =>
      by_cases hany : type = .any
      · subst hany
        exact Iff.rfl
      · rw [projectedArgument, if_neg (mt TypeExpr.isAny_iff.mp hany)]
        exact Iff.rfl

/-- A projection of the same variance, of a type that carries what the other type carries. -/
theorem SlotOf.exists_carriesLike {variance : NodeVariance} {t t' : TypeNode} {u u' : TypeExpr}
    (ht : t.resolve context = .ok u) (ht' : t'.resolve context = .ok u')
    (hlike : u.CarriesLike u') {slot result : TypeExpr}
    (h : SlotOf context ⟨some variance, some t⟩ slot)
    (hcarries : slot.unwrapped.Carries result) :
    ∃ slot', SlotOf context ⟨some variance, some t'⟩ slot' ∧ slot'.unwrapped.Carries result := by
  obtain rfl := (slotOf_typed_iff ht).mp h
  refine ⟨_, (slotOf_typed_iff ht').mpr rfl, ?_⟩
  by_cases hvariance : variance = .invariant
  · subst hvariance
    exact hlike.under result hcarries
  · rw [carries_projected_iff hvariance] at hcarries ⊢
    exact hlike.bare result hcarries

/-- A projection of another variance, of a type that is no wildcard. -/
theorem SlotOf.exists_variance {variance variance' : NodeVariance} {t : TypeNode}
    (hbare : ∀ bound direction nullable,
      t.resolve context ≠ .ok (.wildcard bound direction nullable))
    {slot result : TypeExpr} (h : SlotOf context ⟨some variance, some t⟩ slot)
    (hcarries : slot.unwrapped.Carries result) :
    ∃ slot', SlotOf context ⟨some variance', some t⟩ slot' ∧ slot'.unwrapped.Carries result := by
  obtain ⟨type, htype⟩ := h.exists_type
  have hunwrapped : type.unwrapped = type := by
    cases type with
    | wildcard bound direction nullable => exact absurd htype (hbare bound direction nullable)
    | _ => rfl
  have hprojected : ∀ v : NodeVariance,
      (projectedArgument v type).toType.unwrapped.Carries result ↔ type.Carries result := by
    intro v
    by_cases hv : v = .invariant
    · subst hv
      show type.unwrapped.Carries result ↔ type.Carries result
      rw [hunwrapped]
    · exact carries_projected_iff hv
  obtain rfl := (slotOf_typed_iff htype).mp h
  rw [hprojected] at hcarries
  exact ⟨_, (slotOf_typed_iff htype).mpr rfl, (hprojected variance').mpr hcarries⟩

/-- Flags that agree on what makes a function type can only change the nullability of a type. -/
theorem TypeNode.exists_resolve_withFlags {t : TypeNode} {flags : Flags}
    (hs : flags.isSuspendType = t.flags.isSuspendType)
    (he : flags.isExtensionFunctionType = t.flags.isExtensionFunctionType) {type : TypeExpr}
    (h : t.resolve context = .ok type) :
    ∃ b, { t with flags }.resolve context = .ok (type.withNullable b) := by
  have hform : { t with flags }.form context.keepAliases = t.form context.keepAliases := rfl
  rw [resolve_eq] at h
  simp only [resolve_eq, hform]
  generalize t.form context.keepAliases = form at h ⊢
  cases form with
  | flexible upper =>
      obtain ⟨bound, hbound, h⟩ := Except.bind_eq_ok.mp h
      cases h
      exact ⟨flags.isNullableType, Except.bind_eq_ok.mpr ⟨bound, hbound, rfl⟩⟩
  | inner outer =>
      obtain ⟨bound, hbound, h⟩ := Except.bind_eq_ok.mp h
      cases h
      exact ⟨flags.isNullableType, Except.bind_eq_ok.mpr ⟨bound, hbound, rfl⟩⟩
  | unclassified arguments => cases h
  | dangling name arguments => cases h
  | parameter id =>
      rw [Form.resolve] at h
      split at h
      · rename_i v hv
        cases h
        refine ⟨flags.isNullableType, ?_⟩
        rw [Form.resolve, hv]
        rfl
      · cases h
  | indirect target =>
      obtain ⟨behind, hbehind, h⟩ := Except.bind_eq_ok.mp h
      cases h
      refine ⟨flags.isNullableType || behind.isNullable,
        Except.bind_eq_ok.mpr ⟨behind, hbehind, ?_⟩⟩
      rw [TypeExpr.withNullable_withNullable]
      rfl
  | applied name arguments =>
      obtain ⟨c, hc, h⟩ := Except.bind_eq_ok.mp h
      obtain ⟨args, hargs, h⟩ := Except.bind_eq_ok.mp h
      obtain ⟨named, hnamed, h⟩ := Except.bind_eq_ok.mp h
      cases h
      rw [← namedType_congr hs he] at hnamed
      refine ⟨flags.isNullableType, Except.bind_eq_ok.mpr ⟨c, hc, Except.bind_eq_ok.mpr
        ⟨args, hargs, Except.bind_eq_ok.mpr ⟨named, hnamed, ?_⟩⟩⟩⟩
      rw [TypeExpr.withNullable_withNullable]
      rfl

/-- The class of a node is its form, or it is passed over. -/
theorem TypeNode.form_withClass (keepAliases : Bool) {t : TypeNode} {name : String}
    (hname : t.classifier = some (.classNamed name)) (name' : String) :
    let t' := { t with classifier := some (.classNamed name') }
    t'.form keepAliases = t.form keepAliases ∨
      t.form keepAliases = .applied name t.arguments ∧
        t'.form keepAliases = .applied name' t.arguments := by
  obtain ⟨flags, classifier, arguments, abbreviated, expanded, outer, flexible⟩ := t
  cases hname
  cases flexible with
  | some bound => exact Or.inl rfl
  | none =>
      cases outer with
      | some outer => exact Or.inl rfl
      | none =>
          cases abbreviated with
          | none => exact Or.inr ⟨rfl, rfl⟩
          | some written =>
              cases keepAliases with
              | true => exact Or.inl rfl
              | false => exact Or.inr ⟨rfl, rfl⟩

/-- A class that is no function type in the place of another one. -/
theorem TypeNode.exists_resolve_withClass {t : TypeNode} {name name' : String}
    (hname : t.classifier = some (.classNamed name)) (hplain : PlainName name)
    (hplain' : PlainName name') {type : TypeExpr} (h : t.resolve context = .ok type) :
    ∃ type', { t with classifier := some (.classNamed name') }.resolve context = .ok type' ∧
      type.CarriesLike type' := by
  rcases form_withClass context.keepAliases hname name' with hform | ⟨hform, hform'⟩
  · refine ⟨type, ?_, .self type⟩
    rw [resolve_eq] at h ⊢
    rw [hform]
    exact h
  · have hclass : ∀ {n : String}, PlainName n → referredClass n = .ok (.ofMetadata n) :=
      fun hn => if_neg hn.bounded
    have hnamed : ∀ {n : String}, PlainName n → ∀ args,
        namedType (.ofMetadata n) t.flags args = .ok (.named (.ofMetadata n) args false) := by
      intro n hn args
      exact namedType_of_plain (fun hfunction => absurd hfunction hn.plain) t.flags
    rw [resolve_eq, hform] at h
    obtain ⟨c, hc, h⟩ := Except.bind_eq_ok.mp h
    obtain ⟨args, hargs, h⟩ := Except.bind_eq_ok.mp h
    rw [hclass hplain] at hc
    cases hc
    rw [hnamed hplain] at h
    cases h
    refine ⟨_, ?_, .named _ (.ofMetadata name') args _ t.flags.isNullableType⟩
    rw [resolve_of_form_applied hform' (hclass hplain') hargs, hnamed hplain']
    rfl

/-- What can stand for a continuation carries what the continuation carries. -/
theorem ContinuationLike.exists_slot {p p' : ProjectionNode} (h : ContinuationLike context p p')
    {slot result : TypeExpr} (hslot : SlotOf context p slot)
    (hcarries : slot.unwrapped.Carries result) :
    ∃ slot', SlotOf context p' slot' ∧ slot'.unwrapped.Carries result := by
  cases h with
  | slots filled filled' carries =>
      rw [hslot.unique filled] at hcarries
      exact ⟨_, filled', carries result hcarries⟩
  | nullability suspends receives =>
      obtain ⟨type, htype⟩ := hslot.exists_type
      obtain ⟨b, htype'⟩ := TypeNode.exists_resolve_withFlags suspends receives htype
      exact hslot.exists_carriesLike htype htype' (.withNullable type b) hcarries
  | className named plain plain' =>
      obtain ⟨type, htype⟩ := hslot.exists_type
      obtain ⟨type', htype', hlike⟩ :=
        TypeNode.exists_resolve_withClass named plain plain' htype
      exact hslot.exists_carriesLike htype htype' hlike hcarries
  | variance bare => exact hslot.exists_variance bare hcarries

end

/-! ## The function type -/

/-- The last slot of a suspending function does not matter, and of the one before it only what it
carries does. -/
theorem FunctionOf.carries {flags : Flags} (hs : flags.isSuspendType = true)
    {before : List TypeExpr} {continuation last function : TypeExpr}
    (h : FunctionOf flags (before ++ [continuation, last]) function) :
    ∃ result, continuation.unwrapped.Carries result ∧
      ∀ continuation' last', continuation'.unwrapped.Carries result →
        FunctionOf flags (before ++ [continuation', last']) function := by
  obtain ⟨returns, receives⟩ := h
  rename_i receiver parameters result
  have hsplit := returns
  rw [hs, returns_suspending_iff] at hsplit
  obtain ⟨c, l, hslots, hresult⟩ := hsplit
  obtain ⟨rfl, htrailing⟩ := List.append_inj' hslots rfl
  cases htrailing
  refine ⟨result, hresult, fun continuation' last' hcarries => .function ?_ receives⟩
  rw [hs]
  exact .suspending hcarries

namespace TypeNode

variable {context : TypeContext} {flags : Flags} {arity : String} {expanded : Option TypeNode}

/-- The last two arguments of a suspending function type, replaced. -/
theorem resolve_replace_trailing (harity : IsArity arity) (hs : flags.isSuspendType = true)
    {before : List ProjectionNode} {continuation last continuation' last' : ProjectionNode}
    (hlike : ContinuationLike context continuation continuation') {lastSlot : TypeExpr}
    (hlast : SlotOf context last' lastSlot) {type : TypeExpr}
    (h : (ofInterface flags arity (before ++ [continuation, last]) expanded).resolve context =
      .ok type) :
    (ofInterface flags arity (before ++ [continuation', last']) expanded).resolve context =
      .ok type := by
  have hne : ∀ p q, before ++ [p, q] ≠ [] := by simp
  obtain ⟨slots, hslots⟩ := exists_slots_of_resolve h
  obtain ⟨function, hfunction, htype⟩ :=
    (resolve_ofInterface_iff harity (hne _ _) hslots).mp h
  obtain ⟨front, back, rfl, hfront, hback⟩ := exists_append_of_forall₂ hslots
  cases hback with
  | cons hcontinuation hback =>
      cases hback with
      | cons _ hback =>
          cases hback
          obtain ⟨result, hresult, hreplace⟩ := hfunction.carries hs
          obtain ⟨slot', hslot', hcarries⟩ := hlike.exists_slot hcontinuation hresult
          have hslots' := List.rel_append hfront (.cons hslot' (.cons hlast .nil))
          rw [resolve_ofInterface_iff harity (hne _ _) hslots']
          exact ⟨function, hreplace slot' lastSlot hcarries, htype⟩

/-- **A function type has the slots of its interface, in order.** Where it suspends, the last slot
and all of the continuation but what it carries are left out, and nothing else is; so they can be
replaced. The digits in the name of the interface can be replaced in any case. -/
theorem resolve_interface (harity : IsArity arity) :
    (∀ arguments slots type, arguments ≠ [] → List.Forall₂ (SlotOf context) arguments slots →
      (ofInterface flags arity arguments expanded).resolve context = .ok type →
      ∃ receiver parameters result,
        type = .function receiver parameters result flags.isSuspendType flags.isNullableType ∧
        receiver.isSome = flags.isExtensionFunctionType ∧
        (flags.isSuspendType = false → slots = receiver.toList ++ parameters ++ [result]) ∧
        (flags.isSuspendType = true → ∃ continuation last,
          slots = receiver.toList ++ parameters ++ [continuation, last] ∧
            continuation.unwrapped.Carries result)) ∧
      (flags.isSuspendType = true → ∀ before continuation last continuation' last' slot type,
        ContinuationLike context continuation continuation' → SlotOf context last' slot →
        (ofInterface flags arity (before ++ [continuation, last]) expanded).resolve context =
          .ok type →
        (ofInterface flags arity (before ++ [continuation', last']) expanded).resolve context =
          .ok type) ∧
      ∀ arity' arguments, IsArity arity' → arguments ≠ [] →
        (ofInterface flags arity' arguments expanded).resolve context =
          (ofInterface flags arity arguments expanded).resolve context := by
  refine ⟨?_, ?_, ?_⟩
  · intro arguments slots type hne hslots h
    obtain ⟨function, ⟨returns, receives⟩, rfl⟩ :=
      (resolve_ofInterface_iff harity hne hslots).mp h
    refine ⟨_, _, _, rfl, receives, fun hs => ?_, fun hs => ?_⟩
    · rw [hs] at returns
      exact returns_plain_iff.mp returns
    · rw [hs] at returns
      exact returns_suspending_iff.mp returns
  · intro hs before continuation last continuation' last' slot type hlike hlast h
    exact resolve_replace_trailing harity hs hlike hlast h
  · intro arity' arguments harity' hne
    exact resolve_ofInterface_congr harity harity' hne

/-- The flags of a suspending function with a receiver. -/
def listenerFlags : Flags := (Flags.none.withOwnBit 1).withOwnBit 2

/-- Something that waits for a number. -/
def awaiting (name : String) : TypeNode :=
  { ofClass name with arguments := [.invariant (ofClass "kotlin/Int")] }

/-- A suspending function on a text that gives a number, whatever the continuation is called, how
it is projected, what comes after it and how the arity is written. -/
theorem resolve_interface_listener :
    IsArity "2" ∧ IsArity "007" ∧
      ∃ type, type = .function (some (.ofClass ⟨"kotlin", ["String"]⟩)) []
          (.ofClass ⟨"kotlin", ["Int"]⟩) true false ∧
        (ofInterface listenerFlags "2" [.invariant (ofClass "kotlin/String"),
          .invariant (awaiting "kotlin/coroutines/Continuation"), .star] none).resolve
            ⟨fun _ => none, false⟩ = .ok type ∧
        (ofInterface listenerFlags "007" [.invariant (ofClass "kotlin/String"),
          .of .contravariant (awaiting "sample/Task"), .invariant (ofClass "kotlin/Any")]
            none).resolve ⟨fun _ => none, false⟩ = .ok type := by
  have harity : IsArity "2" := isArity_toString 2
  have harity' : IsArity "007" := ⟨by decide, by simp⟩
  obtain ⟨-, hreplace, hdigits⟩ :=
    @resolve_interface ⟨fun _ => none, false⟩ listenerFlags "2" none harity
  have htask : (awaiting "sample/Task").resolve ⟨fun _ => none, false⟩ =
      .ok (.named ⟨"sample", ["Task"]⟩ [.invariant (.ofClass ⟨"kotlin", ["Int"]⟩)] false) := rfl
  have hrenamed : ContinuationLike ⟨fun _ => none, false⟩
      (.invariant (awaiting "kotlin/coroutines/Continuation"))
      (.invariant (awaiting "sample/Task")) :=
    .className rfl ⟨by decide, by decide⟩ ⟨by decide, by decide⟩
  have hprojected : ContinuationLike ⟨fun _ => none, false⟩
      (.invariant (awaiting "sample/Task")) (.of .contravariant (awaiting "sample/Task")) := by
    refine .variance fun bound direction nullable h => ?_
    rw [htask] at h
    cases h
  have hany : SlotOf ⟨fun _ => none, false⟩ (.invariant (ofClass "kotlin/Any")) .any :=
    .invariant rfl
  refine ⟨harity, harity', _, rfl, rfl, ?_⟩
  rw [hdigits "007" _ harity' (by simp)]
  have hfirst := hreplace rfl [.invariant (ofClass "kotlin/String")] _ .star _ .star .star _
    hrenamed .star rfl
  exact hreplace rfl [.invariant (ofClass "kotlin/String")] _ .star _ _ _ _ hprojected hany hfirst

end TypeNode

end KotlinMeta
