import KotlinMeta.Decoding.TypeReference
import KotlinMeta.Proofs.ClassName.Spelling

/-! # The interfaces of function types

Each arity has an interface of its own. Any digits after the common start make one, also those of
an arity that no function has. `isInterfaceName_ofMetadata_iff` says which classes have the
qualified name of an interface.
-/

set_option autoImplicit false

namespace KotlinMeta

/-- An arity as it is written, with leading zeros or without. -/
structure IsArity (arity : String) : Prop where
  nonempty : arity.toList ≠ []
  digits : ∀ c ∈ arity.toList, c.isDigit = true

/-- The interface of function types of this arity. -/
def functionClass (arity : String) : ClassName := ⟨"kotlin", ["Function" ++ arity]⟩

theorem isArity_toString (n : Nat) : IsArity (toString n) := by
  rw [Nat.toString_eq_repr]
  constructor
  · rw [Nat.toList_repr]
    exact Nat.toDigits_ne_nil
  · intro c hc
    rw [Nat.toList_repr] at hc
    exact Nat.isDigit_of_mem_toDigits (by decide) (by decide) hc

/-- The qualified name of the interface of an arity. -/
def IsInterfaceName (qualified : String) : Prop :=
  ∃ arity, IsArity arity ∧ qualified = "kotlin.Function" ++ arity

theorem isFunctionName_iff {qualified : String} :
    isFunctionName qualified = true ↔ IsInterfaceName qualified := by
  have hstart : "kotlin.Function" = functionNameStart := rfl
  simp only [isFunctionName, IsInterfaceName, hstart, Bool.and_eq_true, List.all_eq_true,
    Bool.not_eq_true', List.isEmpty_eq_false_iff, List.isPrefixOf_iff_prefix]
  constructor
  · rintro ⟨⟨⟨arity, hsplit⟩, hne⟩, hdigits⟩
    rw [← hsplit, List.drop_left] at hne hdigits
    refine ⟨String.ofList arity, ⟨?_, ?_⟩, ?_⟩
    · rwa [String.toList_ofList]
    · rwa [String.toList_ofList]
    · rw [← String.toList_inj, String.toList_append, String.toList_ofList, hsplit]
  · rintro ⟨arity, h, rfl⟩
    rw [String.toList_append, List.drop_left]
    exact ⟨⟨List.prefix_append _ _, h.nonempty⟩, h.digits⟩

instance (qualified : String) : Decidable (IsInterfaceName qualified) :=
  decidable_of_iff _ isFunctionName_iff

/-- The interface without fixed arity is none of them. -/
theorem IsInterfaceName.ne_unbounded {qualified : String} (h : IsInterfaceName qualified) :
    qualified ≠ unboundedFunctionName := by
  have hunbounded : ¬ IsInterfaceName unboundedFunctionName := by decide
  rintro rfl
  exact hunbounded h

/-- The start is the package, and what follows is a simple name. -/
theorem functionNameStart_append (arity : String) :
    functionNameStart ++ arity = "kotlin" ++ "." ++ ("Function" ++ arity) := by
  rw [← String.append_assoc]
  rfl

theorem qualified_functionClass (arity : String) :
    (functionClass arity).qualified = functionNameStart ++ arity := by
  have hname : Text.join '.' ["Function" ++ arity] = "Function" ++ arity := String.ofList_toList
  rw [functionNameStart_append, functionClass, ClassName.qualified_of_package (by decide), hname]

section
variable {arity : String} (h : IsArity arity)
include h

/-- Neither the word nor the digits hold a character that is no digit and not in the word. -/
theorem IsArity.not_mem_functionWord {c : Char} (hdigit : c.isDigit = false)
    (hc : c ∉ "Function".toList) : c ∉ ("Function" ++ arity).toList := by
  rw [String.toList_append, List.mem_append, not_or]
  refine ⟨hc, fun hmem => ?_⟩
  rw [h.digits c hmem] at hdigit
  cases hdigit

theorem ofMetadata_functionClass :
    ClassName.ofMetadata ("kotlin/Function" ++ arity) = functionClass arity := by
  have hname : "kotlin/Function" ++ arity = "kotlin" ++ "/" ++ ("Function" ++ arity) := by
    rw [← String.append_assoc]
    rfl
  rw [hname, ClassName.ofMetadata_append _ (h.not_mem_functionWord (by decide) (by decide)),
    (Text.map_replace_eq_self_iff (by decide)).mpr (by decide),
    Text.split_of_not_mem (h.not_mem_functionWord (by decide) (by decide))]
  rfl

theorem isInterfaceName_functionClass : IsInterfaceName (functionClass arity).qualified :=
  ⟨arity, h, qualified_functionClass arity⟩

theorem isInterfaceName_ofMetadata_functionClass :
    IsInterfaceName (ClassName.ofMetadata ("kotlin/Function" ++ arity)).qualified := by
  rw [ofMetadata_functionClass h]
  exact isInterfaceName_functionClass h

theorem referredClass_functionClass :
    referredClass ("kotlin/Function" ++ arity) = .ok (functionClass arity) := by
  rw [referredClass, ofMetadata_functionClass h]
  exact if_neg (isInterfaceName_functionClass h).ne_unbounded

end

/-! ## Names in metadata -/

/-- The classes that are taken for the interface of an arity. -/
theorem isInterfaceName_ofMetadata_iff (name : String) :
    IsInterfaceName (ClassName.ofMetadata name).qualified ↔
      ∃ arity, IsArity arity ∧
        (ClassName.ofMetadata name).WrittenAs "kotlin" ("Function" ++ arity) := by
  refine exists_congr fun arity => and_congr_right fun h => ?_
  have hname : "kotlin.Function" ++ arity = "kotlin" ++ "." ++ ("Function" ++ arity) :=
    functionNameStart_append arity
  rw [hname]
  exact ClassName.qualified_ofMetadata_eq_iff name (by decide) (by decide)
    (h.not_mem_functionWord (by decide) (by decide))

/-- The classes that are taken for the interface without fixed arity. -/
theorem qualified_eq_unbounded_iff (name : String) :
    (ClassName.ofMetadata name).qualified = unboundedFunctionName ↔
      (ClassName.ofMetadata name).WrittenAs "kotlin" "FunctionN" := by
  have hname : unboundedFunctionName = "kotlin" ++ "." ++ "FunctionN" := rfl
  rw [hname]
  exact ClassName.qualified_ofMetadata_eq_iff name (by decide) (by decide) (by decide)

end KotlinMeta
