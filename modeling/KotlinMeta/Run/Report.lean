import KotlinMeta.CopyBuilder.Basic
import KotlinMeta.Decoding.Element
import KotlinMeta.Run.Diagnostic
import KotlinMeta.Settings.Basic

set_option autoImplicit false

/-! # Runs over many elements

A run decodes every element, generates its file and then writes the files in the order of the
elements. An element that fails leaves a diagnostic; only a file that cannot be written ends the
run. Where files go is up to a `Sink`, a function on a state of the caller's choice.
-/

namespace KotlinMeta

/-- The file that is generated for an element. -/
def Element.outcome (reader : PayloadReader) (settings : Settings) (e : Element) :
    Except Diagnostic Source.File :=
  match e.decode reader settings.decodeOptions with
  | .error cause => .error (.ofDecode e.name cause)
  | .ok c =>
    match CopyBuilder.synthesize settings.synthesisOptions c with
    | .error cause => .error (.ofSynthesis e.name cause)
    | .ok file => .ok file

/-- What became of the elements. -/
structure Report where
  /-- The qualified names of the builders, in the order of the elements. -/
  generated : List String
  diagnostics : List Diagnostic

namespace Report

def empty : Report := ⟨[], []⟩

def addGenerated (name : String) (r : Report) : Report :=
  { r with generated := name :: r.generated }

def addDiagnostic (d : Diagnostic) (r : Report) : Report :=
  { r with diagnostics := d :: r.diagnostics }

def hasErrors (r : Report) : Bool := r.diagnostics.any (·.isError)

def toJson (r : Report) : Json :=
  .obj
    [("generated", .strs r.generated), ("diagnostics", .arr (r.diagnostics.map Diagnostic.toJson))]

end Report

/-- Takes a file into a state, or refuses it with a cause. -/
abbrev Sink (σ ε : Type) := Source.File → σ → Except ε σ

/-- A file that a sink refused. -/
structure WriteFailure (ε : Type) where
  fileName : String
  element : String
  cause : ε

/-- The messages from the outermost to the innermost. -/
def WriteFailure.chain {ε : Type} (causes : ε → List String) (f : WriteFailure ε) : List String :=
  ("failed to write " ++ f.fileName ++ " for " ++ f.element) :: causes f.cause

/-- Writes the files of elements in order, up to the first that the sink refuses, and reports on all
elements. The state that results holds the files written before a refusal. -/
def deliver {σ ε : Type} (write : Sink σ ε) :
    List (Element × Except Diagnostic Source.File) → σ → σ × Except (WriteFailure ε) Report
  | [], state => (state, .ok .empty)
  | (e, .ok file) :: rest, state =>
    match write file state with
    | .error cause => (state, .error ⟨file.fileName, e.name, cause⟩)
    | .ok state =>
      let (state, report) := deliver write rest state
      (state, report.map (.addGenerated file.builder.name.qualified))
  | (_, .error d) :: rest, state =>
    let (state, report) := deliver write rest state
    (state, report.map (.addDiagnostic d))

/-- Starts a task for each element of a list and collects their results in the order of the list. -/
def mapInParallel {α β : Type} (f : α → β) (as : List α) : List β :=
  (as.map fun a => Task.spawn fun _ => f a).map Task.get

/-- What is generated for each of the elements, in their order. -/
def outcomes (reader : PayloadReader) (settings : Settings) (elements : List Element) :
    List (Except Diagnostic Source.File) :=
  if settings.parallel then mapInParallel (Element.outcome reader settings) elements
  else elements.map (Element.outcome reader settings)

/-- A run over elements. -/
def process {σ ε : Type} (reader : PayloadReader) (settings : Settings) (write : Sink σ ε)
    (elements : List Element) (state : σ) : σ × Except (WriteFailure ε) Report :=
  deliver write (elements.zip (outcomes reader settings elements)) state

end KotlinMeta
