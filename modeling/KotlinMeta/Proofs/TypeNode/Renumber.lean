import KotlinMeta.Proofs.TypeExpr.MapVariables
import KotlinMeta.Proofs.TypeNode.Form

/-! # New numbers and new variables

Resolution treats a number as a key for the look-up and a variable as a thing to put in its place.
Give each number of a node a new one and each declaration a new variable: as long as the new look-up
finds under the new number the new variable for what the old one found, the type is the old one with
the new variables, or the failure is the old one (`TypeNode.resolve_renumber`).
-/

set_option autoImplicit false

namespace KotlinMeta

/-! ## New numbers in a node -/

def Classifier.renumber (number : UInt32 → UInt32) : Classifier → Classifier
  | .classNamed name => .classNamed name
  | .typeParameter id => .typeParameter (number id)
  | .typeAlias name => .typeAlias name

mutual

/-- The node with a new number in every reference to a type parameter, also where resolution never
looks. -/
def TypeNode.renumber (number : UInt32 → UInt32) : TypeNode → TypeNode
  | ⟨flags, classifier, arguments, abbreviated, expanded, outer, flexible⟩ =>
    ⟨flags, classifier.map (Classifier.renumber number),
      ProjectionNode.listRenumber number arguments, TypeNode.optionRenumber number abbreviated,
      TypeNode.optionRenumber number expanded, TypeNode.optionRenumber number outer,
      FlexibleBoundNode.optionRenumber number flexible⟩

def TypeNode.optionRenumber (number : UInt32 → UInt32) : Option TypeNode → Option TypeNode
  | none => none
  | some t => some (t.renumber number)

def ProjectionNode.listRenumber (number : UInt32 → UInt32) :
    List ProjectionNode → List ProjectionNode
  | [] => []
  | p :: rest => p.renumber number :: ProjectionNode.listRenumber number rest

def ProjectionNode.renumber (number : UInt32 → UInt32) : ProjectionNode → ProjectionNode
  | ⟨variance, type⟩ => ⟨variance, TypeNode.optionRenumber number type⟩

def FlexibleBoundNode.optionRenumber (number : UInt32 → UInt32) :
    Option FlexibleBoundNode → Option FlexibleBoundNode
  | none => none
  | some ⟨type, flexibilityId⟩ => some ⟨type.renumber number, flexibilityId⟩

end

theorem ProjectionNode.listRenumber_eq_map (number : UInt32 → UInt32)
    (arguments : List ProjectionNode) :
    ProjectionNode.listRenumber number arguments =
      arguments.map (ProjectionNode.renumber number) := by
  induction arguments with
  | nil => rfl
  | cons p rest ih => rw [ProjectionNode.listRenumber, ih, List.map_cons]

@[simp]
theorem Classifier.renumber_self (c : Classifier) : c.renumber (fun id => id) = c := by
  cases c <;> rfl

mutual

/-- A node stays the same if each number does. -/
theorem TypeNode.renumber_self : ∀ t : TypeNode, t.renumber (fun id => id) = t
  | ⟨flags, classifier, arguments, abbreviated, expanded, outer, flexible⟩ => by
    have hclassifier : classifier.map (Classifier.renumber fun id => id) = classifier := by
      cases classifier <;> simp
    rw [TypeNode.renumber, hclassifier, ProjectionNode.listRenumber_self arguments,
      TypeNode.optionRenumber_self abbreviated, TypeNode.optionRenumber_self expanded,
      TypeNode.optionRenumber_self outer, FlexibleBoundNode.optionRenumber_self flexible]

theorem TypeNode.optionRenumber_self :
    ∀ t : Option TypeNode, TypeNode.optionRenumber (fun id => id) t = t
  | none => rfl
  | some t => by rw [TypeNode.optionRenumber, t.renumber_self]

theorem ProjectionNode.listRenumber_self :
    ∀ ps : List ProjectionNode, ProjectionNode.listRenumber (fun id => id) ps = ps
  | [] => rfl
  | p :: rest => by
    rw [ProjectionNode.listRenumber, p.renumber_self, ProjectionNode.listRenumber_self rest]

theorem ProjectionNode.renumber_self : ∀ p : ProjectionNode, p.renumber (fun id => id) = p
  | ⟨variance, type⟩ => by rw [ProjectionNode.renumber, TypeNode.optionRenumber_self type]

theorem FlexibleBoundNode.optionRenumber_self :
    ∀ b : Option FlexibleBoundNode, FlexibleBoundNode.optionRenumber (fun id => id) b = b
  | none => rfl
  | some ⟨type, flexibilityId⟩ => by
    rw [FlexibleBoundNode.optionRenumber, type.renumber_self]

end

namespace TypeNode

/-- The part that counts with new numbers. -/
def Form.renumber (number : UInt32 → UInt32) : Form → Form
  | .flexible upper => .flexible (upper.renumber number)
  | .inner outer => .inner (outer.renumber number)
  | .unclassified arguments => .unclassified (arguments.map (ProjectionNode.renumber number))
  | .parameter id => .parameter (number id)
  | .indirect target => .indirect (target.renumber number)
  | .dangling name arguments => .dangling name (arguments.map (ProjectionNode.renumber number))
  | .applied name arguments => .applied name (arguments.map (ProjectionNode.renumber number))

/-- New numbers do not change which part of a node counts. -/
theorem form_renumber (number : UInt32 → UInt32) (keepAliases : Bool) (t : TypeNode) :
    (t.renumber number).form keepAliases = (t.form keepAliases).renumber number := by
  have harguments := ProjectionNode.listRenumber_eq_map number
  cases t using cases_by_precedence with
  | flexible flags classifier arguments abbreviated expanded outer upper id => rfl
  | inner flags classifier arguments abbreviated expanded outer => rfl
  | unclassified flags arguments abbreviated expanded =>
      exact congrArg Form.unclassified (harguments arguments)
  | parameter flags id arguments abbreviated expanded => rfl
  | classNamed flags name arguments abbreviated expanded =>
      rcases abbreviated with _ | written <;> cases keepAliases
      · exact congrArg (Form.applied name) (harguments arguments)
      · exact congrArg (Form.applied name) (harguments arguments)
      · exact congrArg (Form.applied name) (harguments arguments)
      · rfl
  | typeAlias flags name arguments abbreviated expanded =>
      rcases expanded with _ | expanded <;> cases keepAliases
      · exact congrArg (Form.dangling name) (harguments arguments)
      · exact congrArg (Form.applied name) (harguments arguments)
      · rfl
      · exact congrArg (Form.applied name) (harguments arguments)

theorem flags_renumber (number : UInt32 → UInt32) (t : TypeNode) :
    (t.renumber number).flags = t.flags := by
  cases t
  rfl

end TypeNode

/-! ## New variables in types and failures -/

/-- The failure with a new number and with new variables in the type that it quotes. -/
def DecodeError.rebind (number : UInt32 → UInt32) (f : TypeVar → TypeVar) :
    DecodeError → DecodeError
  | .undeclaredParameter id => .undeclaredParameter (number id)
  | .suspendFunction (.notContinuation slot) =>
    .suspendFunction (.notContinuation (slot.mapVariables f))
  | e => e

def TypeArg.mapVariables (f : TypeVar → TypeVar) (a : TypeArg) : TypeArg :=
  ⟨a.variance, TypeExpr.mapOption f a.type⟩

theorem TypeArg.mapList_eq_map (f : TypeVar → TypeVar) (as : List TypeArg) :
    TypeArg.mapList f as = as.map (TypeArg.mapVariables f) := by
  induction as with
  | nil => rfl
  | cons a rest ih =>
      obtain ⟨variance, type⟩ := a
      rw [TypeArg.mapList, ih]
      rfl

section
variable (number : UInt32 → UInt32) (f : TypeVar → TypeVar)

namespace TypeExpr

theorem mapVariables_withNullable (b : Bool) (t : TypeExpr) :
    (t.withNullable b).mapVariables f = (t.mapVariables f).withNullable b := by
  cases t <;> rfl

theorem isNullable_mapVariables (t : TypeExpr) : (t.mapVariables f).isNullable = t.isNullable := by
  cases t <;> rfl

theorem isAny_mapVariables (t : TypeExpr) : (t.mapVariables f).isAny = t.isAny := by
  cases t with
  | named name arguments nullable => rcases arguments with _ | ⟨⟨_, _⟩, _⟩ <;> rfl
  | _ => rfl

end TypeExpr

theorem TypeArg.toType_mapVariables (a : TypeArg) :
    (a.mapVariables f).toType = a.toType.mapVariables f := by
  obtain ⟨variance, type⟩ := a
  cases variance <;> cases type <;> rfl

theorem projectedArgument_mapVariables (variance : NodeVariance) (type : TypeExpr) :
    projectedArgument variance (type.mapVariables f) =
      (projectedArgument variance type).mapVariables f := by
  cases variance with
  | invariant => rfl
  | contravariant => rfl
  | covariant =>
      rw [projectedArgument, projectedArgument, TypeExpr.isAny_mapVariables]
      split <;> rfl

theorem soleArgument_mapVariables (t : TypeExpr) :
    soleArgument (t.mapVariables f) =
      mapResult (DecodeError.rebind number f) (TypeExpr.mapVariables f) (soleArgument t) := by
  cases t with
  | named name arguments nullable =>
      rcases arguments with _ | ⟨⟨variance, type⟩, _ | ⟨⟨_, _⟩, _⟩⟩
      · rfl
      · cases type <;> rfl
      · rfl
  | _ => rfl

theorem continuationResult_mapVariables (t : TypeExpr) :
    continuationResult (t.mapVariables f) =
      mapResult (DecodeError.rebind number f) (TypeExpr.mapVariables f) (continuationResult t) := by
  cases t with
  | wildcard bound direction nullable =>
      cases bound with
      | none => rfl
      | some bound => exact soleArgument_mapVariables number f bound
  | named name arguments nullable =>
      exact soleArgument_mapVariables number f (.named name arguments nullable)
  | _ => rfl

theorem returnSlot_mapVariables (isSuspend : Bool) (slots : List TypeExpr) (last : TypeExpr) :
    returnSlot isSuspend (slots.map (TypeExpr.mapVariables f)) (last.mapVariables f) =
      mapResult (DecodeError.rebind number f)
        (Prod.map (List.map (TypeExpr.mapVariables f)) (TypeExpr.mapVariables f))
        (returnSlot isSuspend slots last) := by
  cases isSuspend with
  | false => rfl
  | true =>
      rw [returnSlot, returnSlot, if_pos rfl, if_pos rfl, List.getLast?_map]
      cases slots.getLast? with
      | none => rfl
      | some continuation =>
          show (continuationResult (continuation.mapVariables f)).map _ = mapResult _ _ _
          rw [continuationResult_mapVariables number f continuation, ← List.map_dropLast]
          show _ = mapResult _ _ ((continuationResult continuation).map _)
          cases continuationResult continuation <;> rfl

theorem functionOf_mapVariables (flags : Flags) (parameters : List TypeExpr)
    (returnType : TypeExpr) :
    functionOf flags (parameters.map (TypeExpr.mapVariables f)) (returnType.mapVariables f) =
      mapResult (DecodeError.rebind number f) (TypeExpr.mapVariables f)
        (functionOf flags parameters returnType) := by
  unfold functionOf
  split
  · cases parameters with
    | nil => rfl
    | cons receiver parameters =>
        simp only [List.map_cons, mapResult, TypeExpr.mapVariables, TypeExpr.mapOption,
          TypeExpr.mapList_eq_map]
  · simp only [mapResult, TypeExpr.mapVariables, TypeExpr.mapOption, TypeExpr.mapList_eq_map]

theorem namedType_mapVariables (name : ClassName) (flags : Flags) (arguments : List TypeArg) :
    namedType name flags (arguments.map (TypeArg.mapVariables f)) =
      mapResult (DecodeError.rebind number f) (TypeExpr.mapVariables f)
        (namedType name flags arguments) := by
  have hslots : ((arguments.map (TypeArg.mapVariables f)).dropLast).map TypeArg.toType =
      (arguments.dropLast.map TypeArg.toType).map (TypeExpr.mapVariables f) := by
    rw [← List.map_dropLast, List.map_map, List.map_map]
    exact List.map_congr_left fun a _ => TypeArg.toType_mapVariables f a
  have hnamed : (.ok (.named name (arguments.map (TypeArg.mapVariables f)) false) :
        Except DecodeError TypeExpr) =
      mapResult (DecodeError.rebind number f) (TypeExpr.mapVariables f)
        (.ok (.named name arguments false)) := by
    rw [mapResult, TypeExpr.mapVariables, TypeArg.mapList_eq_map]
  rw [namedType, namedType, List.getLast?_map]
  cases isFunctionName name.qualified with
  | false => exact hnamed
  | true =>
      cases arguments.getLast? with
      | none => exact hnamed
      | some last =>
          show functionType flags _ (last.mapVariables f).toType = mapResult _ _ (functionType ..)
          rw [TypeArg.toType_mapVariables, hslots]
          refine bind_eq_mapResult (returnSlot_mapVariables number f _ _ _) fun slots => ?_
          exact functionOf_mapVariables number f flags slots.1 slots.2

theorem referredClass_rebind (name : String) :
    referredClass name =
      mapResult (DecodeError.rebind number f) (fun c => c) (referredClass name) := by
  rw [referredClass]
  split <;> rfl

end

/-! ## Resolution -/

namespace TypeNode

variable {lookup lookup' : ParameterLookup} {number : UInt32 → UInt32} {f : TypeVar → TypeVar}

/-- **Resolution commutes with new numbers and new variables.** -/
theorem resolve_renumber (keepAliases : Bool)
    (hlookup : ∀ k, lookup' (number k) = (lookup k).map f) (t : TypeNode) :
    (t.renumber number).resolve ⟨lookup', keepAliases⟩ =
      mapResult (DecodeError.rebind number f) (TypeExpr.mapVariables f)
        (t.resolve ⟨lookup, keepAliases⟩) := by
  induction t using induction_on_form keepAliases with
  | step t ih =>
    rw [resolve_eq, resolve_eq, form_renumber, flags_renumber]
    generalize t.form keepAliases = form at ih ⊢
    cases form with
    | flexible upper =>
        refine bind_eq_mapResult (ih upper (List.mem_singleton_self _)) fun type => ?_
        exact congrArg Except.ok (TypeExpr.mapVariables_withNullable f _ (.producerOf type)).symm
    | inner outer =>
        refine bind_eq_mapResult (ih outer (List.mem_singleton_self _)) fun type => ?_
        exact congrArg Except.ok (TypeExpr.mapVariables_withNullable f _ (.consumerOf type)).symm
    | indirect target =>
        refine bind_eq_mapResult (ih target (List.mem_singleton_self _)) fun type => ?_
        rw [TypeExpr.isNullable_mapVariables, ← TypeExpr.mapVariables_withNullable]
        rfl
    | unclassified arguments => rfl
    | dangling name arguments => rfl
    | parameter id =>
        simp only [Form.renumber, Form.resolve, hlookup id]
        cases lookup id <;> rfl
    | applied name arguments =>
        -- the class keeps its name, and each argument with a type is a child of the form
        have hargument : ∀ p ∈ arguments,
            (p.renumber number).resolve ⟨lookup', keepAliases⟩ =
              mapResult (DecodeError.rebind number f) (TypeArg.mapVariables f)
                (p.resolve ⟨lookup, keepAliases⟩) := by
          rintro ⟨variance, type⟩ hp
          rcases variance with _ | variance <;> rcases type with _ | u
          · rfl
          · rfl
          · rfl
          · have hu : u ∈ arguments.filterMap (·.type) := List.mem_filterMap.mpr ⟨_, hp, rfl⟩
            refine bind_eq_mapResult (ih u hu) fun type => ?_
            exact congrArg Except.ok (projectedArgument_mapVariables f variance type)
        refine bind_eq_mapResult (referredClass_rebind number f name) fun c => ?_
        refine bind_eq_mapResult (mapM_eq_mapResult hargument) fun args => ?_
        refine bind_eq_mapResult (namedType_mapVariables number f c t.flags args) fun type => ?_
        exact congrArg Except.ok (TypeExpr.mapVariables_withNullable f _ type).symm

end TypeNode

end KotlinMeta
