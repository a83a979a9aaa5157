import KotlinMeta.CopyBuilder.Error
import KotlinMeta.Source.Basic

set_option autoImplicit false

/-! # The annotation on generated code

Generated declarations may carry one of two annotations that mark them as such, which differ by
their package only.
-/

namespace KotlinMeta

/-- An annotation that marks generated code. -/
inductive GeneratedMark where
  /-- In the package for annotation processing. -/
  | processing
  /-- In the package that held it before. -/
  | legacy
  deriving DecidableEq, Inhabited

namespace GeneratedMark

def qualified : GeneratedMark → String
  | .processing => "javax.annotation.processing.Generated"
  | .legacy => "javax.annotation.Generated"

/-- The annotation with this qualified name. -/
def ofName (name : String) : Except SynthesisError GeneratedMark :=
  if name = processing.qualified then .ok .processing
  else if name = legacy.qualified then .ok .legacy
  else .error (.unknownMark name)

def className (g : GeneratedMark) : ClassName := .bestGuess g.qualified

/-- The tool that generates the code. -/
def toolName : String := "kmir"

/-- Where the tool is found. -/
def toolAddress : String := "https://github.com/kmir-rs/kmir"

/-- The annotation as it stands on a declaration. -/
def use (g : GeneratedMark) : Source.AnnotationUse :=
  { type := g.className
    members :=
      [⟨"value", .array [.string toolName]⟩, ⟨"comments", .string toolAddress⟩] }

def toJson (g : GeneratedMark) : Json := .str g.qualified

def read (j : Json) : Option GeneratedMark := do
  match ofName (← Json.readString j) with
  | .ok g => some g
  | .error _ => none

end GeneratedMark

/-- How code is generated. -/
structure SynthesisOptions where
  /-- The annotation to put on the generated declarations. -/
  generated : Option GeneratedMark
  deriving DecidableEq

namespace SynthesisOptions

def toJson (o : SynthesisOptions) : Json :=
  .obj [("generated", Json.orNull GeneratedMark.toJson o.generated)]

def read (j : Json) : Option SynthesisOptions := do
  let ms ← Json.readRecord ["generated"] j
  return ⟨← Json.optional ms "generated" GeneratedMark.read⟩

end SynthesisOptions

end KotlinMeta
