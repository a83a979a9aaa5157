import KotlinMeta.Proofs.ClassName.Functions
import KotlinMeta.Proofs.TypeExpr.Parts
import KotlinMeta.Proofs.TypeExpr.WellFormed
import KotlinMeta.Proofs.TypeNode.Live

/-! # The nodes that stand for types

`TypeExpr.encode` is the node that metadata hold for a type: a class with projections, a number for
a variable, an interface of functions for a function type, a flexible bound and an outer type for
the two kinds of wildcard. The main result `TypeExpr.resolve_encode` says that resolution takes the
node of a well-formed type back to the type.
-/

set_option autoImplicit false

namespace KotlinMeta

/-! ## Nodes -/

def Variance.encode : Variance → Option NodeVariance
  | .contravariant => some .contravariant
  | .covariant => some .covariant
  | .invariant => some .invariant
  | .star => none

/-- The interface of function types with this number of slots before the last. -/
def functionInterface (arity : Nat) : String := "kotlin/Function" ++ toString arity

namespace TypeNode

/-- A class with its arguments. -/
def ofApplied (name : String) (arguments : List ProjectionNode) : TypeNode :=
  { TypeNode.ofClass name with arguments }

/-- The slots that say what a function returns: a suspending function returns through a
continuation. -/
def resultSlots (isSuspend : Bool) (result : ProjectionNode) : List ProjectionNode :=
  if isSuspend then
    [.invariant (ofApplied "kotlin/coroutines/Continuation" [result]),
      .invariant (ofApplied "kotlin/Any" []).nullable]
  else [result]

/-- A function type with these slots. -/
def ofFunction (isSuspend isExtension : Bool) (slots : List ProjectionNode) : TypeNode :=
  let t := ofApplied (functionInterface (slots.length - 1)) slots
  let t := if isSuspend then t.suspending else t
  if isExtension then t.extension else t

end TypeNode

/-- The slot of a function type for a type with this node. -/
def TypeExpr.slotNode (node : TypeNode) : TypeExpr → ProjectionNode
  | .wildcard none .star false => .star
  | _ => .invariant node

mutual

/-- The node of a type. Only a slot can hold a bare star, which has no node of its own. -/
def TypeExpr.encode : TypeExpr → TypeNode
  | .named name arguments nullable =>
    (TypeNode.ofApplied name.metadata (TypeArg.listEncode arguments)).orNullable nullable
  | .var v nullable => (TypeNode.ofParameter v.id).orNullable nullable
  | .function receiver parameters returnType isSuspend nullable =>
    (TypeNode.ofFunction isSuspend receiver.isSome
      (TypeExpr.optionSlots receiver ++ TypeExpr.listSlots parameters ++
        TypeNode.resultSlots isSuspend (returnType.slotNode returnType.encode))).orNullable
      nullable
  | .wildcard (some bound) .producer nullable =>
    (TypeNode.empty.withFlexibleBound bound.encode).orNullable nullable
  | .wildcard (some bound) .consumer nullable =>
    (TypeNode.empty.withOuterType bound.encode).orNullable nullable
  | .wildcard _ _ nullable => TypeNode.empty.orNullable nullable

def TypeExpr.optionSlots : Option TypeExpr → List ProjectionNode
  | none => []
  | some t => [t.slotNode t.encode]

def TypeExpr.listSlots : List TypeExpr → List ProjectionNode
  | [] => []
  | t :: rest => t.slotNode t.encode :: TypeExpr.listSlots rest

def TypeArg.listEncode : List TypeArg → List ProjectionNode
  | [] => []
  | ⟨variance, type⟩ :: rest =>
    ⟨variance.encode, TypeExpr.optionEncode type⟩ :: TypeArg.listEncode rest

def TypeExpr.optionEncode : Option TypeExpr → Option TypeNode
  | none => none
  | some t => some t.encode

end

/-- The slot of a function type for a type. -/
def TypeExpr.slot (t : TypeExpr) : ProjectionNode := t.slotNode t.encode

def TypeArg.encode (a : TypeArg) : ProjectionNode :=
  ⟨a.variance.encode, TypeExpr.optionEncode a.type⟩

theorem TypeExpr.listSlots_eq_map (ts : List TypeExpr) :
    TypeExpr.listSlots ts = ts.map TypeExpr.slot := by
  induction ts with
  | nil => rfl
  | cons t rest ih => rw [TypeExpr.listSlots, ih, List.map_cons, TypeExpr.slot]

theorem TypeExpr.optionSlots_eq_map (t : Option TypeExpr) :
    TypeExpr.optionSlots t = t.toList.map TypeExpr.slot := by
  cases t <;> rfl

theorem TypeArg.listEncode_eq_map (as : List TypeArg) :
    TypeArg.listEncode as = as.map TypeArg.encode := by
  induction as with
  | nil => rfl
  | cons a rest ih =>
      obtain ⟨variance, type⟩ := a
      rw [TypeArg.listEncode, ih, List.map_cons, TypeArg.encode]

/-! ## Resolution of the nodes -/

section
variable {context : TypeContext}

namespace TypeNode

theorem form_ofApplied (keepAliases : Bool) (name : String) (arguments : List ProjectionNode) :
    (ofApplied name arguments).form keepAliases = .applied name arguments := by
  cases keepAliases <;> rfl

theorem form_ofFunction (keepAliases isSuspend isExtension : Bool)
    (slots : List ProjectionNode) :
    (ofFunction isSuspend isExtension slots).form keepAliases =
      .applied (functionInterface (slots.length - 1)) slots := by
  cases keepAliases <;> cases isSuspend <;> cases isExtension <;> rfl

theorem flags_ofFunction (isSuspend isExtension : Bool) (slots : List ProjectionNode) :
    (ofFunction isSuspend isExtension slots).flags.isNullableType = false ∧
      (ofFunction isSuspend isExtension slots).flags.isSuspendType = isSuspend ∧
      (ofFunction isSuspend isExtension slots).flags.isExtensionFunctionType = isExtension := by
  have hflags : (ofFunction isSuspend isExtension slots).flags =
      (ofFunction isSuspend isExtension []).flags := by
    cases isSuspend <;> cases isExtension <;> rfl
  have hall : ∀ isSuspend isExtension,
      (ofFunction isSuspend isExtension []).flags.isNullableType = false ∧
        (ofFunction isSuspend isExtension []).flags.isSuspendType = isSuspend ∧
        (ofFunction isSuspend isExtension []).flags.isExtensionFunctionType = isExtension := by
    decide
  rw [hflags]
  exact hall isSuspend isExtension

theorem resolve_ofApplied {name : String} {c : ClassName} {arguments : List ProjectionNode}
    {args : List TypeArg} (hname : referredClass name = .ok c)
    (harguments : arguments.mapM (ProjectionNode.resolve context) = .ok args)
    (hplain : IsInterfaceName c.qualified → args = []) :
    (ofApplied name arguments).resolve context = .ok (.named c args false) := by
  have hnone : (ofApplied name arguments).flags.isNullableType = false := by
    show Flags.none.isNullableType = false
    decide
  rw [resolve_of_form_plain (form_ofApplied _ _ _) hname harguments hplain, hnone]

/-- The flag of a node says whether the type is nullable, where nothing in the node does. -/
theorem resolve_orNullable_of_plain {t : TypeNode} {type : TypeExpr}
    (h : t.resolve context = .ok type) (hplain : type.isNullable = false) (nullable : Bool) :
    (t.orNullable nullable).resolve context = .ok (type.withNullable nullable) := by
  rw [resolve_orNullable, h]
  show Except.ok (type.withNullable (nullable || type.isNullable)) = _
  rw [hplain, Bool.or_false]

end TypeNode

namespace TypeExpr

/-- The argument that the slot of a type resolves to. -/
def slotArgument : TypeExpr → TypeArg
  | .wildcard none .star false => .star
  | t => .invariant t

theorem toType_slotArgument (t : TypeExpr) : t.slotArgument.toType = t := by
  unfold slotArgument
  split <;> rfl

theorem slotArgument_of_ordinary {t : TypeExpr} (h : t.WellFormed .ordinary) :
    t.slotArgument = .invariant t := by
  cases h <;> rfl

theorem resolve_slot {t : TypeExpr} (hwf : t.WellFormed .slot)
    (h : t.WellFormed .ordinary → t.encode.resolve context = .ok t) :
    t.slot.resolve context = .ok t.slotArgument := by
  have hordinary : t.WellFormed .ordinary → t.slotNode t.encode = .invariant t.encode →
      t.slot.resolve context = .ok (.invariant t) := by
    intro hwf heq
    rw [slot, heq]
    exact ProjectionNode.resolve_of .invariant (h hwf)
  cases hwf with
  | named takes parts => exact hordinary (.named takes parts) rfl
  | var => exact hordinary .var rfl
  | function receives takes returns => exact hordinary (.function receives takes returns) rfl
  | producer bounded => exact hordinary (.producer bounded) rfl
  | consumer bounded => exact hordinary (.consumer bounded) rfl
  | star => rfl

/-! ## Function types -/

/-- The arguments that the result slots of a function type resolve to. -/
def resultArguments (isSuspend : Bool) (result : TypeArg) : List TypeArg :=
  if isSuspend then
    [.invariant (.named ⟨"kotlin.coroutines", ["Continuation"]⟩ [result] false),
      .invariant (TypeExpr.any.withNullable true)]
  else [result]

theorem resolve_resultSlots (isSuspend : Bool) {p : ProjectionNode} {a : TypeArg}
    (h : p.resolve context = .ok a) :
    (TypeNode.resultSlots isSuspend p).mapM (ProjectionNode.resolve context) =
      .ok (resultArguments isSuspend a) := by
  cases isSuspend with
  | false =>
      rw [TypeNode.resultSlots, if_neg Bool.false_ne_true, List.mapM_cons, h]
      rfl
  | true =>
      have hcontinuation : (TypeNode.ofApplied "kotlin/coroutines/Continuation" [p]).resolve
          context = .ok (.named ⟨"kotlin.coroutines", ["Continuation"]⟩ [a] false) := by
        have harguments : [p].mapM (ProjectionNode.resolve context) = .ok [a] := by
          rw [List.mapM_cons, h]
          rfl
        have hplain : ¬ IsInterfaceName (ClassName.qualified
            ⟨"kotlin.coroutines", ["Continuation"]⟩) := by decide
        exact TypeNode.resolve_ofApplied rfl harguments fun hname => absurd hname hplain
      have hany : ((TypeNode.ofApplied "kotlin/Any" []).nullable).resolve context =
          .ok (TypeExpr.any.withNullable true) := by
        have hplain : (TypeNode.ofApplied "kotlin/Any" []).resolve context = .ok TypeExpr.any :=
          TypeNode.resolve_ofApplied rfl rfl fun _ => rfl
        exact TypeNode.resolve_orNullable_of_plain hplain rfl true
      rw [TypeNode.resultSlots, if_pos rfl, ProjectionNode.invariant, ProjectionNode.invariant,
        List.mapM_cons, ProjectionNode.resolve_of .invariant hcontinuation, List.mapM_cons,
        ProjectionNode.resolve_of .invariant hany]
      rfl

/-- The function type that slots stand for. -/
theorem namedType_slotArguments {c : ClassName} {flags : Flags} {receiver : Option TypeExpr}
    (parameters : List TypeExpr) {returnType : TypeExpr} (hname : IsInterfaceName c.qualified)
    (hextension : flags.isExtensionFunctionType = receiver.isSome)
    (hreturn : returnType.WellFormed (.ofResult flags.isSuspendType)) :
    namedType c flags ((receiver.toList ++ parameters).map slotArgument ++
        resultArguments flags.isSuspendType returnType.slotArgument) =
      .ok (.function receiver parameters returnType flags.isSuspendType false) := by
  have hslots : ((receiver.toList ++ parameters).map slotArgument).map TypeArg.toType =
      receiver.toList ++ parameters := by
    rw [List.map_map]
    exact (List.map_congr_left fun t _ => toType_slotArgument t).trans (List.map_id' _)
  have hfunction : functionOf flags (receiver.toList ++ parameters) returnType =
      .ok (.function receiver parameters returnType flags.isSuspendType false) := by
    unfold functionOf
    rw [hextension]
    cases receiver <;> rfl
  cases hsuspend : flags.isSuspendType with
  | false =>
      rw [hsuspend] at hfunction
      rw [resultArguments, if_neg Bool.false_ne_true, namedType, isFunctionName_iff.mpr hname,
        List.getLast?_concat]
      show functionType flags _ _ = _
      rw [List.dropLast_concat, hslots, toType_slotArgument, functionType, hsuspend]
      exact hfunction
  | true =>
      -- the slot before the last is the continuation, and the result is its only argument
      rw [hsuspend] at hfunction hreturn
      rw [slotArgument_of_ordinary hreturn, resultArguments, if_pos rfl, namedType,
        isFunctionName_iff.mpr hname]
      have hsplit : ∀ (slots : List TypeArg) (a b : TypeArg),
          slots ++ [a, b] = (slots ++ [a]) ++ [b] := by simp
      rw [hsplit, List.getLast?_concat]
      show functionType flags _ _ = _
      rw [List.dropLast_concat, List.map_append, hslots, functionType, hsuspend, returnSlot,
        if_pos rfl, List.map_singleton, List.getLast?_concat, List.dropLast_concat]
      exact hfunction

/-- The node of a function type whose slots can be resolved. -/
theorem resolve_ofFunction {receiver : Option TypeExpr} {parameters : List TypeExpr}
    {returnType : TypeExpr} {isSuspend : Bool}
    (hslots : ∀ t ∈ receiver.toList ++ parameters, t.slot.resolve context = .ok t.slotArgument)
    (hresult : returnType.slot.resolve context = .ok returnType.slotArgument)
    (hreturn : returnType.WellFormed (.ofResult isSuspend)) :
    (TypeNode.ofFunction isSuspend receiver.isSome ((receiver.toList ++ parameters).map slot ++
        TypeNode.resultSlots isSuspend returnType.slot)).resolve context =
      .ok (.function receiver parameters returnType isSuspend false) := by
  have harguments :
      ((receiver.toList ++ parameters).map slot ++
          TypeNode.resultSlots isSuspend returnType.slot).mapM (ProjectionNode.resolve context) =
        .ok ((receiver.toList ++ parameters).map slotArgument ++
          resultArguments isSuspend returnType.slotArgument) := by
    rw [mapM_eq_ok_iff]
    refine List.rel_append ?_ (mapM_eq_ok_iff.mp (resolve_resultSlots isSuspend hresult))
    rw [List.forall₂_map_left_iff, List.forall₂_map_right_iff, List.forall₂_same]
    exact hslots
  obtain ⟨hnullable, hsuspend, hextension⟩ := TypeNode.flags_ofFunction isSuspend receiver.isSome
    ((receiver.toList ++ parameters).map slot ++ TypeNode.resultSlots isSuspend returnType.slot)
  rw [← hsuspend] at hreturn
  have htype := fun arity => namedType_slotArguments parameters
    (isInterfaceName_functionClass (isArity_toString arity)) hextension hreturn
  rw [hsuspend] at htype
  rw [TypeNode.resolve_of_form_applied (TypeNode.form_ofFunction _ _ _ _)
    (referredClass_functionClass (isArity_toString _)) harguments, htype, hnullable]
  rfl

/-! ## Encoding and resolution -/

/-- The arguments of a class, each the node of a type. -/
theorem resolve_arguments {arguments : List TypeArg} (hwf : ∀ a ∈ arguments, a.WellFormed)
    (h : ∀ t ∈ arguments.filterMap (·.type), t.WellFormed .ordinary →
      t.encode.resolve context = .ok t) :
    (TypeArg.listEncode arguments).mapM (ProjectionNode.resolve context) = .ok arguments := by
  rw [TypeArg.listEncode_eq_map, mapM_eq_ok_iff, List.forall₂_map_left_iff, List.forall₂_same]
  intro a ha
  cases hwf a ha with
  | star => rfl
  | @projection variance type projects informs formed =>
      have htype : type.encode.resolve context = .ok type :=
        h type (List.mem_filterMap.mpr ⟨_, ha, rfl⟩) formed
      cases variance with
      | star => exact absurd rfl projects
      | invariant => exact ProjectionNode.resolve_of .invariant htype
      | contravariant => exact ProjectionNode.resolve_of .contravariant htype
      | covariant =>
          have hkept : projectedArgument .covariant type = ⟨.covariant, some type⟩ := by
            rw [projectedArgument, informs rfl, if_neg Bool.false_ne_true]
            rfl
          show (ProjectionNode.of .covariant type.encode).resolve context = _
          rw [ProjectionNode.resolve_of .covariant htype, hkept]

/-- **Resolution takes the node of a type back to the type**, whether aliases are kept or not: for
every well-formed type whose classes can be named in metadata and whose variables are what the
look-up gives for their numbers. -/
theorem resolve_encode (context : TypeContext) (t : TypeExpr) (hwf : t.WellFormed .ordinary)
    (hnames : ∀ c ∈ t.classNames, c.Recoverable)
    (hvars : ∀ v ∈ t.variables, context.lookup v.id = some v) :
    t.encode.resolve context = .ok t := by
  induction t using induction_on_children with
  | step t ih =>
    have hchild : ∀ u ∈ t.children, u.WellFormed .ordinary → u.encode.resolve context = .ok u :=
      fun u hu hwf => ih u hu hwf (fun c hc => hnames c (classNames_subset_of_mem_children hu hc))
        fun v hv => hvars v (variables_subset_of_mem_children hu hv)
    cases hwf with
    | @named _ name arguments nullable takes parts =>
        have hname : referredClass name.metadata = .ok name := by
          rw [referredClass, (hnames name List.mem_cons_self).read_metadata]
          exact if_neg takes.bounded
        have hclass := TypeNode.resolve_ofApplied hname (resolve_arguments parts hchild) takes.plain
        rw [encode]
        exact TypeNode.resolve_orNullable_of_plain hclass rfl nullable
    | @var _ v nullable =>
        have hv : (TypeNode.ofParameter v.id).resolve context = .ok (.var v false) := by
          rw [TypeNode.ofParameter, TypeNode.empty, TypeNode.resolve]
          simp only [hvars v List.mem_cons_self]
          rfl
        rw [encode]
        exact TypeNode.resolve_orNullable_of_plain hv rfl nullable
    | @function _ receiver parameters returnType isSuspend nullable receives takes returns =>
        have hslots : ∀ u ∈ receiver.toList ++ parameters,
            u.slot.resolve context = .ok u.slotArgument := by
          intro u hu
          refine resolve_slot ?_ (hchild u (List.mem_append_left _ hu))
          rcases List.mem_append.mp hu with hu | hu
          · exact receives u (Option.mem_toList.mp hu)
          · exact takes u hu
        have hresult : returnType.slot.resolve context = .ok returnType.slotArgument :=
          resolve_slot returns.slot (hchild returnType (by simp [children]))
        have hfunction := resolve_ofFunction hslots hresult returns
        rw [encode, optionSlots_eq_map, listSlots_eq_map, ← List.map_append]
        exact TypeNode.resolve_orNullable_of_plain hfunction rfl nullable
    | @producer _ bound nullable bounded =>
        have hbound : bound.encode.resolve context = .ok bound :=
          hchild bound (List.mem_singleton_self bound) bounded
        have hproducer : (TypeNode.empty.withFlexibleBound bound.encode).resolve context =
            .ok (.wildcard (some bound) .producer false) := by
          rw [TypeNode.withFlexibleBound, TypeNode.empty, TypeNode.resolve, hbound]
          rfl
        rw [encode]
        exact TypeNode.resolve_orNullable_of_plain hproducer rfl nullable
    | @consumer _ bound nullable bounded =>
        have hbound : bound.encode.resolve context = .ok bound :=
          hchild bound (List.mem_singleton_self bound) bounded
        have hconsumer : (TypeNode.empty.withOuterType bound.encode).resolve context =
            .ok (.wildcard (some bound) .consumer false) := by
          rw [TypeNode.withOuterType, TypeNode.empty, TypeNode.resolve, hbound]
          rfl
        rw [encode]
        exact TypeNode.resolve_orNullable_of_plain hconsumer rfl nullable

def listenedVar : TypeVar := .plain (.declared [] 0) "T" 7

/-- A suspending function type with a receiver, a star, both kinds of wildcard and an argument of
its own. -/
def listenerType : TypeExpr :=
  .function (some (.var listenedVar false))
    [.star, .producerOf (.ofClass ⟨"kotlin", ["String"]⟩),
      .wildcard (some (.var listenedVar true)) .consumer true]
    (.named ⟨"kotlin.collections", ["Map", "Entry"]⟩ [.covariant (.var listenedVar true), .star]
      false)
    true true

/-- The type is well-formed, and its node resolves to it where 7 is the number of the variable. -/
theorem resolve_encode_listenerType :
    listenerType.WellFormed .ordinary ∧
      ∀ keepAliases, listenerType.encode.resolve
          ⟨fun id => if id = 7 then some listenedVar else none, keepAliases⟩ = .ok listenerType := by
  have hwf : listenerType.WellFormed .ordinary := by
    refine .function ?_ ?_ (.named ⟨by decide, by decide, by decide⟩ ?_)
    · rintro t ⟨⟩
      exact .var
    · simp only [List.forall_mem_cons]
      have hstring : TypeExpr.WellFormed .ordinary (.ofClass ⟨"kotlin", ["String"]⟩) :=
        .named ⟨by decide, by decide, fun _ => rfl⟩ (List.forall_mem_nil _)
      exact ⟨.star, .producer hstring, .consumer .var, List.forall_mem_nil _⟩
    · simp only [List.forall_mem_cons]
      exact ⟨.projection (by decide) (fun _ => rfl) .var, .star, List.forall_mem_nil _⟩
  refine ⟨hwf, fun keepAliases => resolve_encode _ listenerType hwf ?_ ?_⟩
  · have hnames : listenerType.classNames =
        [⟨"kotlin", ["String"]⟩, ⟨"kotlin.collections", ["Map", "Entry"]⟩] := rfl
    rw [hnames]
    simp only [List.forall_mem_cons]
    exact ⟨⟨"kotlin/String", rfl⟩, ⟨"kotlin/collections/Map.Entry", rfl⟩, List.forall_mem_nil _⟩
  · intro v hv
    have hvars : listenerType.variables = List.replicate 3 listenedVar := rfl
    rw [hvars] at hv
    rw [List.eq_of_mem_replicate hv]
    rfl

end TypeExpr

end

end KotlinMeta
