import KotlinMeta.TypeExpr.Basic

set_option autoImplicit false

/-! # Types in source notation

The text of a type as source code writes it: `Map<String, out T>?`, `(A).(B) -> C`, `in T`. A
wildcard has no place of its own in source code and is written like a projection.
-/

namespace KotlinMeta

/-- The keyword before a projected argument. -/
def Variance.keyword? : Variance → Option String
  | .contravariant => some "in"
  | .covariant => some "out"
  | .invariant | .star => none

/-- Texts with a comma and a space between them. -/
def commaSeparated (texts : List String) : String := ", ".intercalate texts

/-- A question mark for a nullable type. -/
def nullMark (nullable : Bool) : String := if nullable then "?" else ""

/-- A function type needs parentheses in front of the point that follows a receiver. -/
def TypeExpr.isFunction : TypeExpr → Bool
  | .function .. => true
  | _ => false

mutual

def TypeExpr.display : TypeExpr → String
  | .named name arguments nullable =>
    name.qualified
      ++ (if arguments.isEmpty then ""
          else "<" ++ commaSeparated (TypeArg.displays arguments) ++ ">")
      ++ nullMark nullable
  | .var v nullable => v.name ++ nullMark nullable
  | .function receiver parameters returnType isSuspend nullable =>
    (if nullable then "(" else "") ++ (if isSuspend then "suspend " else "")
      ++ TypeExpr.receiverDisplay receiver
      ++ "(" ++ commaSeparated (TypeExpr.displays parameters) ++ ") -> " ++ returnType.display
      ++ (if nullable then ")?" else "")
  | .wildcard (some bound) .producer nullable =>
    if nullable then "(out " ++ bound.display ++ ")?" else "out " ++ bound.display
  | .wildcard (some bound) .consumer nullable =>
    if nullable then "(in " ++ bound.display ++ ")?" else "in " ++ bound.display
  | .wildcard _ _ nullable => "*" ++ nullMark nullable

/-- The receiver of a function type with the point after it. -/
def TypeExpr.receiverDisplay : Option TypeExpr → String
  | none => ""
  | some t => if t.isFunction then "(" ++ t.display ++ ")." else t.display ++ "."

def TypeExpr.displays : List TypeExpr → List String
  | [] => []
  | t :: rest => t.display :: TypeExpr.displays rest

def TypeArg.displays : List TypeArg → List String
  | [] => []
  | a :: rest => a.display :: TypeArg.displays rest

def TypeArg.display : TypeArg → String
  | ⟨_, none⟩ => "*"
  | ⟨variance, some t⟩ =>
    match variance.keyword? with
    | some keyword => keyword ++ " " ++ t.display
    | none => t.display

end

/-- A type parameter as its declaration writes it. A single bound follows the name; several bounds
would need a clause of their own and are left out. -/
def TypeVar.display (v : TypeVar) : String :=
  (if v.reified then "reified " else "")
    ++ ((v.variance.bind Variance.keyword?).map (· ++ " ")).getD ""
    ++ v.name
    ++ match v.upperBounds with
      | [bound] => " : " ++ bound.display
      | _ => ""

end KotlinMeta
