import KotlinMeta.CopyBuilder.Error
import KotlinMeta.Decoding.Error

set_option autoImplicit false

/-! # Diagnostics

A failure of one element, which costs that element its generated file and nothing else.
-/

namespace KotlinMeta

inductive Severity where
  | warning
  | error
  deriving DecidableEq, Inhabited

def Severity.word : Severity → String
  | .warning => "warning"
  | .error => "error"

structure Diagnostic where
  severity : Severity
  /-- The qualified name of the element. -/
  element : String
  message : String
  kind : FailureKind
  deriving DecidableEq

namespace Diagnostic

def error (element message : String) (kind : FailureKind) : Diagnostic :=
  ⟨.error, element, message, kind⟩

/-- An element without metadata is none of our concern and only worth a warning. -/
def ofDecode (element : String) (e : DecodeError) : Diagnostic :=
  ⟨if e.kind = .gate then .warning else .error, element, e.message, e.kind⟩

def ofSynthesis (element : String) (e : SynthesisError) : Diagnostic :=
  .error element e.message e.kind

def isError (d : Diagnostic) : Bool := d.severity == .error

def display (d : Diagnostic) : String :=
  d.severity.word ++ "[" ++ d.kind.label ++ "] " ++ d.element ++ ": " ++ d.message

def toJson (d : Diagnostic) : Json :=
  .obj
    [("severity", .str d.severity.word), ("element", .str d.element), ("message", .str d.message),
     ("kind", d.kind.toJson)]

end Diagnostic

end KotlinMeta
