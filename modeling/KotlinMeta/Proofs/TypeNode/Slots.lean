import KotlinMeta.Proofs.TypeNode.References

/-! # The slots of a function type

The interface of function types takes the receiver, the parameters and the result as arguments, one
slot for each. `SlotOf` says which type a projection puts into its slot, `FunctionOf` which function
type a list of slots stands for, and `FunctionDefect` what is wrong with slots that stand for none.
`decides_functionType` says that these are all the cases.
-/

set_option autoImplicit false

namespace KotlinMeta

/-! ## From projections to slots -/

theorem TypeExpr.isAny_iff {t : TypeExpr} : t.isAny = true ↔ t = .any := by
  constructor
  · intro h
    unfold isAny at h
    split at h
    · rename_i name
      rw [ClassName.isAny, beq_iff_eq] at h
      rw [h]
      rfl
    · cases h
  · rintro rfl
    rfl

/-- The type that a projection puts into its slot: a projection of any variance but the invariant
one is a wildcard, except for `out Any`. -/
inductive SlotOf (context : TypeContext) : ProjectionNode → TypeExpr → Prop
  | star : SlotOf context ⟨none, none⟩ .star
  | consumer {t : TypeNode} {type : TypeExpr} (resolves : t.resolve context = .ok type) :
      SlotOf context ⟨some .contravariant, some t⟩ (.consumerOf type)
  | producer {t : TypeNode} {type : TypeExpr} (resolves : t.resolve context = .ok type)
      (informs : type ≠ .any) : SlotOf context ⟨some .covariant, some t⟩ (.producerOf type)
  | outAny {t : TypeNode} (resolves : t.resolve context = .ok .any) :
      SlotOf context ⟨some .covariant, some t⟩ .any
  | invariant {t : TypeNode} {type : TypeExpr} (resolves : t.resolve context = .ok type) :
      SlotOf context ⟨some .invariant, some t⟩ type

section
variable {context : TypeContext}

/-- The slot of a projection is what its argument is as a type. -/
theorem slotOf_iff {p : ProjectionNode} {slot : TypeExpr} :
    SlotOf context p slot ↔ ∃ a, p.resolve context = .ok a ∧ a.toType = slot := by
  constructor
  · intro h
    cases h with
    | star => exact ⟨.star, rfl, rfl⟩
    | consumer resolves => exact ⟨_, ProjectionNode.resolve_of .contravariant resolves, rfl⟩
    | @producer t type resolves informs =>
        have hany : type.isAny = false := by rwa [Bool.eq_false_iff, Ne, TypeExpr.isAny_iff]
        refine ⟨_, ProjectionNode.resolve_of .covariant resolves, ?_⟩
        rw [projectedArgument, hany]
        rfl
    | outAny resolves => exact ⟨_, ProjectionNode.resolve_of .covariant resolves, rfl⟩
    | invariant resolves => exact ⟨_, ProjectionNode.resolve_of .invariant resolves, rfl⟩
  · rintro ⟨a, ha, rfl⟩
    obtain ⟨variance, t⟩ := p
    rcases variance with _ | variance <;> rcases t with _ | t
    · cases ha
      exact .star
    · cases ha
    · cases ha
    · obtain ⟨type, htype, ha⟩ := Except.bind_eq_ok.mp ha
      cases ha
      cases variance with
      | invariant => exact .invariant htype
      | contravariant => exact .consumer htype
      | covariant =>
          by_cases hany : type = .any
          · subst hany
            exact .outAny htype
          · rw [projectedArgument, if_neg (mt TypeExpr.isAny_iff.mp hany)]
            exact .producer htype hany

/-- Arguments that can be resolved fill their slots, one by one. -/
theorem forall₂_slotOf_iff {arguments : List ProjectionNode} {slots : List TypeExpr} :
    List.Forall₂ (SlotOf context) arguments slots ↔
      ∃ args, arguments.mapM (ProjectionNode.resolve context) = .ok args ∧
        args.map TypeArg.toType = slots := by
  constructor
  · intro h
    induction h with
    | nil => exact ⟨[], rfl, rfl⟩
    | cons hslot _ ih =>
        obtain ⟨a, ha, rfl⟩ := slotOf_iff.mp hslot
        obtain ⟨args, hargs, rfl⟩ := ih
        refine ⟨a :: args, ?_, rfl⟩
        rw [List.mapM_cons, ha, hargs]
        rfl
  · rintro ⟨args, hargs, rfl⟩
    rw [List.forall₂_map_right_iff]
    exact (mapM_eq_ok_iff.mp hargs).imp fun p a hp => slotOf_iff.mpr ⟨a, hp, rfl⟩

/-- Where there are arguments, there is a last one. -/
theorem ProjectionNode.exists_concat_of_mapM {arguments : List ProjectionNode}
    {args : List TypeArg} (h : arguments.mapM (ProjectionNode.resolve context) = .ok args)
    (hne : arguments ≠ []) : ∃ front last, args = front ++ [last] := by
  refine (List.eq_nil_or_concat' args).resolve_left ?_
  rintro rfl
  exact hne (List.forall₂_nil_right_iff.mp (mapM_eq_ok_iff.mp h))

end

/-! ## Continuations -/

/-- The type under a wildcard; any other type itself. -/
def TypeExpr.unwrapped : TypeExpr → TypeExpr
  | .wildcard (some bound) _ _ => bound
  | t => t

/-- A type with exactly one argument, which is no star. -/
def TypeExpr.Carries (t result : TypeExpr) : Prop :=
  ∃ name variance nullable, t = .named name [⟨variance, some result⟩] nullable

theorem continuationResult_eq (t : TypeExpr) : continuationResult t = soleArgument t.unwrapped := by
  cases t with
  | wildcard bound direction nullable => cases bound <;> rfl
  | _ => rfl

theorem soleArgument_eq_ok_iff {t result : TypeExpr} :
    soleArgument t = .ok result ↔ t.Carries result := by
  constructor
  · intro h
    unfold soleArgument at h
    split at h
    · rename_i name argument nullable
      obtain ⟨variance, type⟩ := argument
      cases type with
      | none => cases h
      | some type =>
          cases h
          exact ⟨name, variance, nullable, rfl⟩
    · cases h
  · rintro ⟨name, variance, nullable, rfl⟩
    rfl

/-- What is wrong with a type that carries no result. -/
inductive ContinuationDefect : TypeExpr → SuspendDefect → Prop
  | starResult {name : ClassName} {variance : Variance} {nullable : Bool} :
      ContinuationDefect (.named name [⟨variance, none⟩] nullable) .starResult
  | notContinuation {t : TypeExpr}
      (unfit : ∀ name argument nullable, t ≠ .named name [argument] nullable) :
      ContinuationDefect t (.notContinuation t)

theorem soleArgument_eq_error_iff {t : TypeExpr} {e : DecodeError} :
    soleArgument t = .error e ↔
      ∃ defect, ContinuationDefect t defect ∧ e = .suspendFunction defect := by
  constructor
  · intro h
    unfold soleArgument at h
    split at h
    · rename_i name argument nullable
      obtain ⟨variance, type⟩ := argument
      cases type with
      | none =>
          cases h
          exact ⟨_, .starResult, rfl⟩
      | some type => cases h
    · rename_i hunfit
      cases h
      exact ⟨_, .notContinuation fun name argument nullable => hunfit name argument nullable, rfl⟩
  · rintro ⟨defect, hdefect, rfl⟩
    cases hdefect with
    | starResult => rfl
    | notContinuation unfit =>
        unfold soleArgument
        split
        · exact absurd rfl (unfit _ _ _)
        · rfl

/-! ## Function types -/

/-- The slots before those that say what a function returns, and what it returns. A suspending
function returns what its continuation carries, and its last slot says nothing. -/
inductive Returns : Bool → List TypeExpr → List TypeExpr → TypeExpr → Prop
  | plain {before : List TypeExpr} {result : TypeExpr} :
      Returns false (before ++ [result]) before result
  | suspending {before : List TypeExpr} {continuation last result : TypeExpr}
      (carries : continuation.unwrapped.Carries result) :
      Returns true (before ++ [continuation, last]) before result

/-- The function type that slots stand for: its receiver, if it has one, is the first of them. -/
inductive FunctionOf (flags : Flags) (slots : List TypeExpr) : TypeExpr → Prop
  | function {receiver : Option TypeExpr} {parameters : List TypeExpr} {result : TypeExpr}
      (returns : Returns flags.isSuspendType slots (receiver.toList ++ parameters) result)
      (receives : receiver.isSome = flags.isExtensionFunctionType) :
      FunctionOf flags slots (.function receiver parameters result flags.isSuspendType false)

/-- The slots say what the function returns, and there is one for the receiver. -/
def FunctionSlots (flags : Flags) (slots : List TypeExpr) : Prop :=
  ∃ before result, Returns flags.isSuspendType slots before result ∧
    (flags.isExtensionFunctionType = true → before ≠ [])

/-- What is wrong with the slots of a function type, first of all with those that say what it
returns. -/
inductive FunctionDefect (flags : Flags) : List TypeExpr → DecodeError → Prop
  | loneArgument {slot : TypeExpr} (suspends : flags.isSuspendType = true) :
      FunctionDefect flags [slot] (.suspendFunction .loneArgument)
  | continuation {before : List TypeExpr} {continuation last : TypeExpr} {defect : SuspendDefect}
      (suspends : flags.isSuspendType = true)
      (unfit : ContinuationDefect continuation.unwrapped defect) :
      FunctionDefect flags (before ++ [continuation, last]) (.suspendFunction defect)
  | noReceiver {slots : List TypeExpr} {result : TypeExpr}
      (receives : flags.isExtensionFunctionType = true)
      (returns : Returns flags.isSuspendType slots [] result) :
      FunctionDefect flags slots .noReceiverSlot

theorem Returns.ne_nil {isSuspend : Bool} {slots before : List TypeExpr} {result : TypeExpr}
    (h : Returns isSuspend slots before result) : slots ≠ [] := by
  cases h <;> simp

theorem FunctionDefect.ne_nil {flags : Flags} {slots : List TypeExpr} {e : DecodeError}
    (h : FunctionDefect flags slots e) : slots ≠ [] := by
  cases h with
  | loneArgument => simp
  | continuation => simp
  | noReceiver _ returns => exact returns.ne_nil

section
variable {flags : Flags} {slots before : List TypeExpr} {last result : TypeExpr}

theorem returns_plain_iff : Returns false slots before result ↔ slots = before ++ [result] := by
  constructor
  · rintro ⟨⟩
    rfl
  · rintro rfl
    exact .plain

theorem returns_suspending_iff : Returns true slots before result ↔
    ∃ continuation last, slots = before ++ [continuation, last] ∧
      continuation.unwrapped.Carries result := by
  constructor
  · rintro (_ | ⟨carries⟩)
    exact ⟨_, _, rfl, carries⟩
  · rintro ⟨continuation, last, rfl, carries⟩
    exact .suspending carries

/-- The last slot and the one before it. -/
theorem append_pair_eq {front : List TypeExpr} {continuation last' : TypeExpr}
    (h : front ++ [continuation, last'] = slots ++ [last]) :
    slots = front ++ [continuation] ∧ last = last' := by
  have hpair : (front ++ [continuation]) ++ [last'] = slots ++ [last] := by
    rw [List.append_assoc]
    exact h
  obtain ⟨hslots, hlast⟩ := List.append_inj' hpair rfl
  exact ⟨hslots.symm, (List.singleton_inj.mp hlast).symm⟩

theorem returnSlot_concat (front : List TypeExpr) (continuation last : TypeExpr) :
    returnSlot true (front ++ [continuation]) last =
      (soleArgument continuation.unwrapped).map (front, ·) := by
  rw [returnSlot, if_pos rfl, List.getLast?_concat, List.dropLast_concat, ← continuationResult_eq]

theorem returnSlot_eq_ok_iff {isSuspend : Bool} :
    returnSlot isSuspend slots last = .ok (before, result) ↔
      Returns isSuspend (slots ++ [last]) before result := by
  cases isSuspend with
  | false =>
      rw [returns_plain_iff]
      constructor
      · intro h
        cases h
        rfl
      · intro h
        obtain ⟨rfl, hlast⟩ := List.append_inj' h rfl
        cases hlast
        rfl
  | true =>
      rw [returns_suspending_iff]
      constructor
      · intro h
        rcases List.eq_nil_or_concat' slots with rfl | ⟨front, continuation, rfl⟩
        · cases h
        rw [returnSlot_concat] at h
        cases hresult : soleArgument continuation.unwrapped with
        | error e =>
            rw [hresult] at h
            cases h
        | ok r =>
            rw [hresult] at h
            cases h
            exact ⟨continuation, last, List.append_assoc .., soleArgument_eq_ok_iff.mp hresult⟩
      · rintro ⟨continuation, last', hslots, hcarries⟩
        obtain ⟨rfl, rfl⟩ := append_pair_eq hslots.symm
        rw [returnSlot_concat, soleArgument_eq_ok_iff.mpr hcarries]
        rfl

theorem returnSlot_eq_error_iff {isSuspend : Bool} {e : DecodeError} :
    returnSlot isSuspend slots last = .error e ↔ isSuspend = true ∧
      (slots = [] ∧ e = .suspendFunction .loneArgument ∨
        ∃ front continuation defect, slots = front ++ [continuation] ∧
          ContinuationDefect continuation.unwrapped defect ∧ e = .suspendFunction defect) := by
  cases isSuspend with
  | false => exact ⟨nofun, nofun⟩
  | true =>
      rcases List.eq_nil_or_concat' slots with rfl | ⟨front, continuation, rfl⟩
      · constructor
        · intro h
          cases h
          exact ⟨rfl, Or.inl ⟨rfl, rfl⟩⟩
        · rintro ⟨-, ⟨-, rfl⟩ | ⟨front, continuation, -, hslots, -⟩⟩
          · rfl
          · simp at hslots
      · have hresult : (soleArgument continuation.unwrapped).map (front, ·) = .error e ↔
            soleArgument continuation.unwrapped = .error e := by
          cases soleArgument continuation.unwrapped <;> simp [Except.map]
        rw [returnSlot_concat, hresult, soleArgument_eq_error_iff]
        constructor
        · rintro ⟨defect, hdefect, rfl⟩
          exact ⟨rfl, Or.inr ⟨front, continuation, defect, rfl, hdefect, rfl⟩⟩
        · rintro ⟨-, ⟨hslots, -⟩ | ⟨front', continuation', defect, hslots, hdefect, rfl⟩⟩
          · simp at hslots
          · obtain ⟨-, hlast⟩ := List.append_inj' hslots rfl
            cases hlast
            exact ⟨defect, hdefect, rfl⟩

theorem functionOf_eq_ok_iff {type : TypeExpr} :
    functionOf flags before result = .ok type ↔ ∃ receiver parameters,
      before = receiver.toList ++ parameters ∧
        receiver.isSome = flags.isExtensionFunctionType ∧
        type = .function receiver parameters result flags.isSuspendType false := by
  unfold functionOf
  cases flags.isExtensionFunctionType with
  | false =>
      constructor
      · intro h
        cases h
        exact ⟨none, before, rfl, rfl, rfl⟩
      · rintro ⟨receiver, parameters, rfl, hreceiver, rfl⟩
        rw [Option.isSome_eq_false_iff, Option.isNone_iff_eq_none] at hreceiver
        subst hreceiver
        rfl
  | true =>
      constructor
      · intro h
        cases before with
        | nil => cases h
        | cons receiver parameters =>
            cases h
            exact ⟨some receiver, parameters, rfl, rfl, rfl⟩
      · rintro ⟨receiver, parameters, rfl, hreceiver, rfl⟩
        obtain ⟨receiver, rfl⟩ := Option.isSome_iff_exists.mp hreceiver
        rfl

theorem functionOf_eq_error_iff {e : DecodeError} :
    functionOf flags before result = .error e ↔
      flags.isExtensionFunctionType = true ∧ before = [] ∧ e = .noReceiverSlot := by
  unfold functionOf
  cases flags.isExtensionFunctionType with
  | false => exact ⟨nofun, nofun⟩
  | true =>
      cases before with
      | nil =>
          constructor
          · intro h
            cases h
            exact ⟨rfl, rfl, rfl⟩
          · rintro ⟨-, -, rfl⟩
            rfl
      | cons receiver parameters => exact ⟨nofun, nofun⟩

/-- **A function type is what its slots stand for.** -/
theorem functionType_eq_ok_iff {type : TypeExpr} :
    functionType flags slots last = .ok type ↔ FunctionOf flags (slots ++ [last]) type := by
  rw [functionType, Except.bind_eq_ok]
  constructor
  · rintro ⟨⟨before, result⟩, hreturn, hfunction⟩
    obtain ⟨receiver, parameters, rfl, hreceiver, rfl⟩ := functionOf_eq_ok_iff.mp hfunction
    exact .function (returnSlot_eq_ok_iff.mp hreturn) hreceiver
  · rintro ⟨returns, receives⟩
    exact ⟨_, returnSlot_eq_ok_iff.mpr returns,
      functionOf_eq_ok_iff.mpr ⟨_, _, rfl, receives, rfl⟩⟩

theorem functionType_eq_error_iff {e : DecodeError} :
    functionType flags slots last = .error e ↔ FunctionDefect flags (slots ++ [last]) e := by
  rw [functionType, Except.bind_eq_error]
  constructor
  · rintro (hreturn | ⟨⟨before, result⟩, hreturn, hfunction⟩)
    · obtain ⟨hsuspend, ⟨rfl, rfl⟩ | ⟨front, continuation, defect, rfl, hdefect, rfl⟩⟩ :=
        returnSlot_eq_error_iff.mp hreturn
      · exact .loneArgument hsuspend
      · rw [List.append_assoc]
        exact .continuation hsuspend hdefect
    · obtain ⟨hextension, rfl, rfl⟩ := functionOf_eq_error_iff.mp hfunction
      exact .noReceiver hextension (returnSlot_eq_ok_iff.mp hreturn)
  · intro h
    generalize hall : slots ++ [last] = all at h
    cases h with
    | loneArgument hsuspend =>
        obtain ⟨rfl, -⟩ := List.append_inj' (hall.trans (List.nil_append _).symm) rfl
        exact Or.inl (returnSlot_eq_error_iff.mpr ⟨hsuspend, Or.inl ⟨rfl, rfl⟩⟩)
    | continuation hsuspend hdefect =>
        obtain ⟨rfl, rfl⟩ := append_pair_eq hall.symm
        exact Or.inl (returnSlot_eq_error_iff.mpr
          ⟨hsuspend, Or.inr ⟨_, _, _, rfl, hdefect, rfl⟩⟩)
    | noReceiver hextension hreturns =>
        subst hall
        exact Or.inr ⟨_, returnSlot_eq_ok_iff.mpr hreturns,
          functionOf_eq_error_iff.mpr ⟨hextension, rfl, rfl⟩⟩

theorem exists_functionOf_iff :
    (∃ type, FunctionOf flags slots type) ↔ FunctionSlots flags slots := by
  constructor
  · rintro ⟨_, ⟨returns, receives⟩⟩
    refine ⟨_, _, returns, fun hextension hnil => ?_⟩
    rw [hextension, Option.isSome_iff_exists] at receives
    obtain ⟨receiver, rfl⟩ := receives
    cases hnil
  · rintro ⟨before, result, returns, hreceiver⟩
    by_cases hextension : flags.isExtensionFunctionType = true
    · obtain ⟨receiver, parameters, rfl⟩ := List.exists_cons_of_ne_nil (hreceiver hextension)
      exact ⟨_, @FunctionOf.function _ _ (some receiver) parameters _ returns hextension.symm⟩
    · have hnone : (none : Option TypeExpr).isSome = flags.isExtensionFunctionType := by
        simpa using hextension
      exact ⟨_, @FunctionOf.function _ _ none before _ returns hnone⟩

end

/-- The interface of functions stands for the function type of its slots. -/
theorem namedType_concat {c : ClassName} (hname : IsInterfaceName c.qualified)
    (flags : Flags) (front : List TypeArg) (last : TypeArg) :
    namedType c flags (front ++ [last]) =
      functionType flags (front.map TypeArg.toType) last.toType := by
  rw [namedType, isFunctionName_iff.mpr hname, List.getLast?_concat, List.dropLast_concat]

/-- **A function type has slots that are enough, or one of them is at fault.** -/
theorem decides_namedType {c : ClassName} (hname : IsInterfaceName c.qualified)
    {arguments : List TypeArg} (hne : arguments ≠ []) (flags : Flags) :
    Decides (FunctionSlots flags (arguments.map TypeArg.toType))
      (FunctionDefect flags (arguments.map TypeArg.toType)) (namedType c flags arguments) := by
  obtain ⟨front, last, rfl⟩ := (List.eq_nil_or_concat' arguments).resolve_left hne
  rw [namedType_concat hname, List.map_append, List.map_singleton]
  constructor
  · rw [← exists_functionOf_iff]
    exact exists_congr fun type => functionType_eq_ok_iff
  · exact fun e => functionType_eq_error_iff

end KotlinMeta
