import KotlinMeta.FailureKind
import KotlinMeta.Flags.Derived

set_option autoImplicit false

/-! # Failures of synthesis

One constructor for each cause. All of them are preconditions that the caller does not meet.
-/

namespace KotlinMeta

/-- Why nothing can be generated for a class. -/
inductive SynthesisError where
  /-- No constructor of the class is primary. -/
  | noPrimaryConstructor (className : String)
  /-- A parameter of the primary constructor has no property of its name. -/
  | noBackingProperty (className parameter : String)
  /-- The property behind a parameter cannot be read by a peer of the class. -/
  | hiddenProperty (className property : String) (visibility : Visibility)
  /-- The name of a generated annotation is not one of those known. -/
  | unknownMark (found : String)
  /-- A name is asked for under a tag that already has one. -/
  | tagInUse (tag : String)
  deriving DecidableEq

namespace SynthesisError

/-- The wording for a class that has no copy builder. -/
def cannotSynthesize (className : String) (reasons : List String) : String :=
  String.join ("cannot synthesize a copy builder for `" :: className :: "`: " :: reasons)

def message : SynthesisError → String
  | .noPrimaryConstructor className =>
    cannotSynthesize className ["it has no primary constructor"]
  | .noBackingProperty className parameter =>
    cannotSynthesize className
      ["constructor parameter `", parameter, "` is not backed by a property"]
  | .hiddenProperty className property visibility =>
    cannotSynthesize className
      ["property `", property, "` is ", visibility.keyword,
        ", constructor properties must be public or internal"]
  | .unknownMark found =>
    String.join
      ["invalid generated annotation `", found,
        "`, expected `javax.annotation.processing.Generated` or `javax.annotation.Generated`"]
  | .tagInUse tag => String.join ["name tag `", tag, "` is already allocated"]

def kind (_ : SynthesisError) : FailureKind := .preconditionViolation

end SynthesisError

end KotlinMeta
