import KotlinMeta.Proofs.TypeNode.FunctionTypes
import KotlinMeta.Proofs.TypeNode.Grammar

/-! # Classes that are taken for interfaces of functions

A class is taken for the interface of a function type by its qualified name. In the package
`kotlin` only the interfaces have these names. But a class nested in a class `kotlin` of no package
has such a qualified name, too, and is taken for the interface (`nested_taken_for_interface`). No
other class is: the main result is `TypeNode.resolve_applied_names`.
-/

set_option autoImplicit false

namespace KotlinMeta.TypeNode

/-! ## Resolution of a class -/

section
variable {context : TypeContext} {t : TypeNode} {name : String} {arguments : List ProjectionNode}
  (hform : t.form context.keepAliases = .applied name arguments)
include hform

/-- Any class that is called like an interface is resolved like each interface. -/
theorem resolve_eq_ofInterface (hne : arguments ≠ [])
    (hfunction : IsInterfaceName (ClassName.ofMetadata name).qualified) {arity : String}
    (harity : IsArity arity) :
    t.resolve context = (ofInterface t.flags arity arguments none).resolve context :=
  resolve_congr_interface (form_ofInterface _) hform rfl
    (isInterfaceName_ofMetadata_functionClass harity) hfunction hne

/-- A class called like an interface stands for a function type, if it has arguments and can be
resolved at all. No other class does. -/
theorem exists_function_iff :
    (∃ receiver parameters result isSuspend nullable,
      t.resolve context = .ok (.function receiver parameters result isSuspend nullable)) ↔
      arguments ≠ [] ∧ IsInterfaceName (ClassName.ofMetadata name).qualified ∧
        ∃ type, t.resolve context = .ok type := by
  constructor
  · rintro ⟨receiver, parameters, result, isSuspend, nullable, h⟩
    obtain ⟨c, args, hc, hargs⟩ : ∃ c args, referredClass name = .ok c ∧
        arguments.mapM (ProjectionNode.resolve context) = .ok args := by
      rw [resolve_eq, hform] at h
      obtain ⟨c, hc, h⟩ := Except.bind_eq_ok.mp h
      obtain ⟨args, hargs, -⟩ := Except.bind_eq_ok.mp h
      exact ⟨c, args, hc, hargs⟩
    obtain rfl := eq_of_referredClass hc
    have hnamed : ¬ (IsInterfaceName (ClassName.ofMetadata name).qualified → args = []) := by
      intro hplain
      rw [resolve_of_form_plain hform hc hargs hplain] at h
      cases h
    refine ⟨?_, ?_, _, h⟩
    · rintro rfl
      cases hargs
      exact hnamed fun _ => rfl
    · by_contra hplain
      exact hnamed fun hfunction => absurd hfunction hplain
  · rintro ⟨hne, hfunction, type, htype⟩
    rw [resolve_eq_ofInterface hform hne hfunction (isArity_toString 0)] at htype ⊢
    obtain ⟨slots, hslots⟩ := exists_slots_of_resolve htype
    obtain ⟨function, hof, rfl⟩ :=
      (resolve_ofInterface_iff (isArity_toString 0) hne hslots).mp htype
    cases hof with
    | function returns receives => exact ⟨_, _, _, _, _, htype⟩

/-- A class is refused for its name, or an argument of another class is refused for its own. -/
theorem resolve_eq_unbounded_iff {q : String} :
    t.resolve context = .error (.unboundedFunction q) ↔
      ((ClassName.ofMetadata name).qualified = unboundedFunctionName ∧
          q = unboundedFunctionName) ∨
        ((ClassName.ofMetadata name).qualified ≠ unboundedFunctionName ∧
          arguments.mapM (ProjectionNode.resolve context) = .error (.unboundedFunction q)) := by
  rw [resolve_eq, hform]
  by_cases hname : (ClassName.ofMetadata name).qualified = unboundedFunctionName
  · rw [Form.resolve_unbounded arguments hname]
    simp [hname, eq_comm]
  · have hclass : referredClass name = .ok (.ofMetadata name) := if_neg hname
    rw [Form.resolve_applied hclass, Except.bind_eq_error]
    constructor
    · rintro (harguments | ⟨args, hargs, h⟩)
      · exact Or.inr ⟨hname, harguments⟩
      · -- what is wrong with a function type is never its name
        rcases Except.bind_eq_error.mp h with h | ⟨type, -, h⟩
        · have hdecides := decides_namedType_of_mapM hargs (ClassName.ofMetadata name) t.flags
          obtain ⟨-, slots, -, hdefect⟩ := (hdecides.error_iff _).mp h
          cases hdefect
        · cases h
    · rintro (⟨hunbounded, -⟩ | ⟨-, harguments⟩)
      · exact absurd hunbounded hname
      · exact Or.inl harguments

end

/-- **Which classes are taken for the interfaces of functions.** A class stands for a function type,
or is refused for its name, if it has the name of such an interface and is in `kotlin`, or else is
nested in a class `kotlin` of no package; both are resolved alike. Any other class is a named type
with its arguments. -/
theorem resolve_applied_names {context : TypeContext} {t : TypeNode} {name : String}
    {arguments : List ProjectionNode} {c : ClassName}
    (hform : t.form context.keepAliases = .applied name arguments)
    (hc : ClassName.ofMetadata name = c) :
    ((∃ receiver parameters result isSuspend nullable,
      t.resolve context = .ok (.function receiver parameters result isSuspend nullable)) ↔
        arguments ≠ [] ∧
          (∃ arity, IsArity arity ∧ c.WrittenAs "kotlin" ("Function" ++ arity)) ∧
          ∃ type, t.resolve context = .ok type) ∧
      (∀ arity, IsArity arity → c.WrittenAs "kotlin" ("Function" ++ arity) → arguments ≠ [] →
        t.resolve context = (ofInterface t.flags arity arguments none).resolve context) ∧
      (∀ q, t.resolve context = .error (.unboundedFunction q) ↔
        c.WrittenAs "kotlin" "FunctionN" ∧ q = "kotlin.FunctionN" ∨
          ¬ c.WrittenAs "kotlin" "FunctionN" ∧
            arguments.mapM (ProjectionNode.resolve context) = .error (.unboundedFunction q)) ∧
      ∀ args, arguments.mapM (ProjectionNode.resolve context) = .ok args →
        ¬ c.WrittenAs "kotlin" "FunctionN" →
        (∀ arity, IsArity arity → c.WrittenAs "kotlin" ("Function" ++ arity) → arguments = []) →
        t.resolve context = .ok (.named c args t.flags.isNullableType) := by
  subst hc
  refine ⟨?_, ?_, ?_, ?_⟩
  · rw [exists_function_iff hform, isInterfaceName_ofMetadata_iff]
  · intro arity harity hwritten hne
    exact resolve_eq_ofInterface hform hne
      ((isInterfaceName_ofMetadata_iff name).mpr ⟨arity, harity, hwritten⟩) harity
  · intro q
    rw [resolve_eq_unbounded_iff hform, Ne, qualified_eq_unbounded_iff]
    rfl
  · intro args hargs hbounded hplain
    have hclass : referredClass name = .ok (.ofMetadata name) :=
      if_neg (mt (qualified_eq_unbounded_iff name).mp hbounded)
    refine resolve_of_form_plain hform hclass hargs fun hfunction => ?_
    obtain ⟨arity, harity, hwritten⟩ := (isInterfaceName_ofMetadata_iff name).mp hfunction
    obtain rfl := hplain arity harity hwritten
    cases hargs
    rfl

/-! ## Classes of other packages, and of none -/

/-- A class that takes a number and a text as arguments. -/
def onNumberAndText (name : String) : TypeNode :=
  (ofClass name).withArguments [ofClass "kotlin/Int", ofClass "kotlin/String"]

/-- In another package the name of the interface without fixed arity is like any other. -/
theorem resolve_applied_names_jvm :
    (onNumberAndText "kotlin/jvm/functions/FunctionN").resolve ⟨fun _ => none, false⟩ =
      .ok (.named ⟨"kotlin.jvm.functions", ["FunctionN"]⟩
        [.invariant (.ofClass ⟨"kotlin", ["Int"]⟩), .invariant (.ofClass ⟨"kotlin", ["String"]⟩)]
        false) := by
  have hform : (onNumberAndText "kotlin/jvm/functions/FunctionN").form false =
      .applied "kotlin/jvm/functions/FunctionN"
        (onNumberAndText "kotlin/jvm/functions/FunctionN").arguments := rfl
  have hname : ClassName.ofMetadata "kotlin/jvm/functions/FunctionN" =
      ⟨"kotlin.jvm.functions", ["FunctionN"]⟩ := by decide
  have hother : ∀ simple, ¬ ClassName.WrittenAs "kotlin" simple
      ⟨"kotlin.jvm.functions", ["FunctionN"]⟩ := by
    simp [ClassName.WrittenAs]
  obtain ⟨-, -, -, hnamed⟩ := @resolve_applied_names ⟨fun _ => none, false⟩ _ _ _ _ hform hname
  exact hnamed _ rfl (hother _) fun arity _ h => absurd h (hother _)

/-- **A nested class in the place of an interface.** `Function1` nested in a class `kotlin` becomes
a function type, and `FunctionN` nested there is refused. -/
theorem nested_taken_for_interface :
    (ClassName.ofMetadata "kotlin.Function1" = ⟨"", ["kotlin", "Function1"]⟩ ∧
      (onNumberAndText "kotlin.Function1").resolve ⟨fun _ => none, false⟩ =
        .ok (.function none [.ofClass ⟨"kotlin", ["Int"]⟩] (.ofClass ⟨"kotlin", ["String"]⟩) false
          false)) ∧
      ClassName.ofMetadata "kotlin.FunctionN" = ⟨"", ["kotlin", "FunctionN"]⟩ ∧
        (onNumberAndText "kotlin.FunctionN").resolve ⟨fun _ => none, false⟩ =
          .error (.unboundedFunction "kotlin.FunctionN") :=
  ⟨⟨by decide, rfl⟩, by decide, rfl⟩

end KotlinMeta.TypeNode
