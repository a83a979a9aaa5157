import KotlinMeta.Proofs.TypeExpr.Reader

/-! # Types as they are written

A text does not tell where the package of a class ends, nor whether a name without arguments is that
of a class or of a type parameter. `TypeExpr.asWritten` takes every name for that of a class without
package, and that changes nothing in the text (`TypeExpr.display_asWritten`). `TypeExpr.Readable`
are the types whose text tells everything else.
-/

set_option autoImplicit false

namespace KotlinMeta

/-! ## Types as they are written -/

mutual

/-- The type with every name taken for that of a class without package. -/
def TypeExpr.asWritten : TypeExpr → TypeExpr
  | .named name arguments nullable =>
    .named ⟨"", [name.qualified]⟩ (TypeArg.listAsWritten arguments) nullable
  | .var v nullable => .named ⟨"", [v.name]⟩ [] nullable
  | .function receiver parameters returnType isSuspend nullable =>
    .function (TypeExpr.optionAsWritten receiver) (TypeExpr.listAsWritten parameters)
      returnType.asWritten isSuspend nullable
  | .wildcard bound direction nullable =>
    .wildcard (TypeExpr.optionAsWritten bound) direction nullable

def TypeExpr.optionAsWritten : Option TypeExpr → Option TypeExpr
  | none => none
  | some t => some t.asWritten

def TypeExpr.listAsWritten : List TypeExpr → List TypeExpr
  | [] => []
  | t :: rest => t.asWritten :: TypeExpr.listAsWritten rest

def TypeArg.listAsWritten : List TypeArg → List TypeArg
  | [] => []
  | a :: rest => a.asWritten :: TypeArg.listAsWritten rest

def TypeArg.asWritten : TypeArg → TypeArg
  | ⟨variance, t⟩ => ⟨variance, TypeExpr.optionAsWritten t⟩

end

/-! ## Lists of types -/

theorem TypeExpr.displays_eq_map (ts : List TypeExpr) :
    TypeExpr.displays ts = ts.map TypeExpr.display := by
  induction ts with
  | nil => rfl
  | cons t rest ih => rw [TypeExpr.displays, ih, List.map_cons]

theorem TypeArg.displays_eq_map (as : List TypeArg) :
    TypeArg.displays as = as.map TypeArg.display := by
  induction as with
  | nil => rfl
  | cons a rest ih => rw [TypeArg.displays, ih, List.map_cons]

theorem TypeExpr.optionAsWritten_eq_map (t : Option TypeExpr) :
    TypeExpr.optionAsWritten t = t.map TypeExpr.asWritten := by
  cases t <;> rfl

theorem TypeExpr.listAsWritten_eq_map (ts : List TypeExpr) :
    TypeExpr.listAsWritten ts = ts.map TypeExpr.asWritten := by
  induction ts with
  | nil => rfl
  | cons t rest ih => rw [TypeExpr.listAsWritten, ih, List.map_cons]

theorem TypeArg.listAsWritten_eq_map (as : List TypeArg) :
    TypeArg.listAsWritten as = as.map TypeArg.asWritten := by
  induction as with
  | nil => rfl
  | cons a rest ih => rw [TypeArg.listAsWritten, ih, List.map_cons]

/-! ## The text of a type as it is written -/

theorem ClassName.qualified_simple (name : String) :
    (⟨"", [name]⟩ : ClassName).qualified = name := by
  simp [ClassName.qualified, Text.join, Text.joined]

theorem TypeExpr.isFunction_asWritten (t : TypeExpr) : t.asWritten.isFunction = t.isFunction := by
  cases t <;> rfl

theorem TypeExpr.isNullable_asWritten (t : TypeExpr) : t.asWritten.isNullable = t.isNullable := by
  cases t <;> rfl

mutual

/-- A text tells no more of names than is kept. -/
theorem TypeExpr.display_asWritten : ∀ t : TypeExpr, t.asWritten.display = t.display
  | .named name arguments nullable => by
    have hempty : (TypeArg.listAsWritten arguments).isEmpty = arguments.isEmpty := by
      cases arguments <;> rfl
    rw [TypeExpr.asWritten, TypeExpr.display, TypeExpr.display, ClassName.qualified_simple, hempty,
      TypeArg.displays_asWritten arguments]
  | .var v nullable => by
    rw [TypeExpr.asWritten, TypeExpr.display, TypeExpr.display, ClassName.qualified_simple]
    simp
  | .function receiver parameters returnType isSuspend nullable => by
    rw [TypeExpr.asWritten, TypeExpr.display, TypeExpr.display,
      TypeExpr.receiverDisplay_asWritten receiver, TypeExpr.displays_asWritten parameters,
      returnType.display_asWritten]
  | .wildcard none direction nullable => by cases direction <;> rfl
  | .wildcard (some bound) direction nullable => by
    cases direction with
    | star => rfl
    | producer =>
        rw [TypeExpr.asWritten, TypeExpr.optionAsWritten, TypeExpr.display, TypeExpr.display,
          bound.display_asWritten]
    | consumer =>
        rw [TypeExpr.asWritten, TypeExpr.optionAsWritten, TypeExpr.display, TypeExpr.display,
          bound.display_asWritten]

theorem TypeExpr.receiverDisplay_asWritten : ∀ t : Option TypeExpr,
    TypeExpr.receiverDisplay (TypeExpr.optionAsWritten t) = TypeExpr.receiverDisplay t
  | none => rfl
  | some t => by
    rw [TypeExpr.optionAsWritten, TypeExpr.receiverDisplay, TypeExpr.receiverDisplay,
      t.isFunction_asWritten, t.display_asWritten]

theorem TypeExpr.displays_asWritten : ∀ ts : List TypeExpr,
    TypeExpr.displays (TypeExpr.listAsWritten ts) = TypeExpr.displays ts
  | [] => rfl
  | t :: rest => by
    rw [TypeExpr.listAsWritten, TypeExpr.displays, TypeExpr.displays, t.display_asWritten,
      TypeExpr.displays_asWritten rest]

theorem TypeArg.displays_asWritten : ∀ as : List TypeArg,
    TypeArg.displays (TypeArg.listAsWritten as) = TypeArg.displays as
  | [] => rfl
  | ⟨variance, none⟩ :: rest => by
    rw [TypeArg.listAsWritten, TypeArg.displays, TypeArg.displays, TypeArg.displays_asWritten rest]
    rfl
  | ⟨variance, some t⟩ :: rest => by
    rw [TypeArg.listAsWritten, TypeArg.asWritten, TypeExpr.optionAsWritten, TypeArg.displays,
      TypeArg.displays, TypeArg.display, TypeArg.display, t.display_asWritten,
      TypeArg.displays_asWritten rest]

end

/-! ## Types that can be read -/

mutual

/-- A type without wildcards whose names can be told from the rest of the text. -/
inductive TypeExpr.Readable : TypeExpr → Prop
  | named {name : ClassName} {arguments : List TypeArg} {nullable : Bool}
      (dotted : Notation.IsDotted name.qualified) (parts : ∀ a ∈ arguments, TypeArg.Readable a) :
      TypeExpr.Readable (.named name arguments nullable)
  | var {v : TypeVar} {nullable : Bool} (dotted : Notation.IsDotted v.name) :
      TypeExpr.Readable (.var v nullable)
  | function {receiver : Option TypeExpr} {parameters : List TypeExpr} {returnType : TypeExpr}
      {isSuspend nullable : Bool} (receives : ∀ t ∈ receiver, TypeExpr.Readable t)
      (takes : ∀ t ∈ parameters, TypeExpr.Readable t) (returns : TypeExpr.Readable returnType) :
      TypeExpr.Readable (.function receiver parameters returnType isSuspend nullable)

/-- An argument that lacks a type exactly if it is a star. -/
inductive TypeArg.Readable : TypeArg → Prop
  | star : TypeArg.Readable ⟨.star, none⟩
  | typed {variance : Variance} {type : TypeExpr} (projects : variance ≠ .star)
      (readable : TypeExpr.Readable type) : TypeArg.Readable ⟨variance, some type⟩

end

end KotlinMeta
