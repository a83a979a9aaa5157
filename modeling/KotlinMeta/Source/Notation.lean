import KotlinMeta.Source.Basic
import KotlinMeta.Text.Quoted
import KotlinMeta.TypeExpr.Notation

set_option autoImplicit false

/-! # Expressions in source notation

The text of expressions and statements as source code writes them.
-/

namespace KotlinMeta.Source

mutual

def Expr.display : Expr → String
  | .name name => name
  | .self => "this"
  | .it => "it"
  | .string value => Text.quoted value
  | .array elements => "[" ++ commaSeparated (Expr.displays elements) ++ "]"
  | .member receiver name => receiver.display ++ "." ++ name
  | .call receiver function arguments trailingLambda =>
    Expr.receiverDisplay receiver ++ function
      ++ (if arguments.isEmpty && trailingLambda.isSome then ""
          else "(" ++ commaSeparated (Argument.displays arguments) ++ ")")
      ++ Lambda.optionDisplay trailingLambda
  | .construct type arguments =>
    type.display ++ "(" ++ commaSeparated (Argument.displays arguments) ++ ")"

def Expr.displays : List Expr → List String
  | [] => []
  | e :: rest => e.display :: Expr.displays rest

/-- The receiver of a call with the point after it. -/
def Expr.receiverDisplay : Option Expr → String
  | none => ""
  | some e => e.display ++ "."

def Argument.displays : List Argument → List String
  | [] => []
  | a :: rest => a.display :: Argument.displays rest

def Argument.display : Argument → String
  | ⟨none, value⟩ => value.display
  | ⟨some name, value⟩ => name ++ " = " ++ value.display

/-- A lambda after a call, with a blank before it. -/
def Lambda.optionDisplay : Option Lambda → String
  | none => ""
  | some ⟨body⟩ => " \x7b " ++ "; ".intercalate (Statement.displays body) ++ " \x7d"

def Statement.displays : List Statement → List String
  | [] => []
  | s :: rest => s.display :: Statement.displays rest

def Statement.display : Statement → String
  | .expr e => e.display
  | .return e => "return " ++ e.display

end

end KotlinMeta.Source
