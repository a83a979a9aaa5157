import KotlinMeta.Header.Basic
import KotlinMeta.FailureKind
import KotlinMeta.TypeExpr.Notation

set_option autoImplicit false

/-! # Failures of decoding

One constructor for each cause; `DecodeError.message` words it and `DecodeError.kind` gives its
family.
-/

namespace KotlinMeta

/-- The variance of a projection in a message. -/
def NodeVariance.keyword : NodeVariance → String
  | .contravariant => "in"
  | .covariant => "out"
  | .invariant => "invariant"

/-- What is wrong with the continuation of a suspending function type. -/
inductive SuspendDefect where
  /-- There is one argument, where a continuation and another are needed. -/
  | loneArgument
  /-- The continuation is applied to a star. -/
  | starResult
  /-- The continuation is no type with exactly one argument. -/
  | notContinuation (slot : TypeExpr)

/-- Why an element cannot be decoded. -/
inductive DecodeError where
  /-- A type refers to nothing. -/
  | noClassifier
  /-- An alias comes without the type behind it. -/
  | noExpansion (name : String)
  /-- A type argument has a type but no variance. -/
  | noProjectionVariance
  /-- A type argument has a variance but no type. -/
  | noProjectionType (variance : NodeVariance)
  /-- An extension function type has no argument left for its receiver. -/
  | noReceiverSlot
  | suspendFunction (defect : SuspendDefect)
  /-- A type parameter is not declared in any scope around the reference. -/
  | undeclaredParameter (id : UInt32)
  /-- The class of function types of unknown arity. -/
  | unboundedFunction (name : String)
  /-- More than one constructor of a class is marked as the primary one. -/
  | severalPrimaries (className : String) (count : Nat)
  /-- A value parameter has no type of any kind. -/
  | untypedParameter (name : String)
  | unsupportedKind (kind : MetadataKind)
  | unsupportedVersion (version : List UInt32)
  /-- The element carries no annotation. -/
  | noMetadata (element : String)
  | payload (cause : PayloadError)

/-- The wording for a node that lacks something it must have. -/
def unexpectedShape (position detail : String) : String :=
  String.join ["unexpected node shape in ", position, ": ", detail]

def SuspendDefect.message : SuspendDefect → String
  | .loneArgument => "expected a continuation and a result slot, found 1 argument(s)"
  | .starResult => "continuation argument is a star projection"
  | .notContinuation slot =>
    String.join ["continuation slot `", slot.display, "` is not a single-argument generic type"]

namespace DecodeError

def message : DecodeError → String
  | .noClassifier => unexpectedShape "type" "type node has no classifier"
  | .noExpansion name =>
    unexpectedShape (String.join ["type alias `", name, "`"])
      "alias reference carries no expanded type"
  | .noProjectionVariance =>
    unexpectedShape "type argument" "projection has a type but no variance"
  | .noProjectionType variance =>
    String.join ["star projection carries `", variance.keyword, "` variance but no type"]
  | .noReceiverSlot => unexpectedShape "extension function type" "no receiver slot"
  | .suspendFunction defect => String.join ["malformed suspend function type: ", defect.message]
  | .undeclaredParameter id =>
    String.join ["type parameter #", toString id.toNat, " is not declared in any enclosing scope"]
  | .unboundedFunction name =>
    String.join ["`", name, "` has no fixed arity and cannot be expressed as a function type"]
  | .severalPrimaries className count =>
    unexpectedShape (String.join ["class `", className, "`"])
      (String.join [toString count, " constructors are marked primary"])
  | .untypedParameter name =>
    unexpectedShape (String.join ["parameter `", name, "`"])
      "parameter has neither a type nor a vararg element type"
  | .unsupportedKind kind =>
    String.join
      ["metadata kind `", kind.description, "` is not supported, only classes can be decoded"]
  | .unsupportedVersion version => oldVersionMessage (Header.versionText version)
  | .noMetadata element => String.join ["`", element, "` has no kotlin.Metadata annotation"]
  | .payload cause => cause.message

def kind : DecodeError → FailureKind
  | .noClassifier | .noExpansion _ | .noProjectionVariance | .noReceiverSlot
  | .suspendFunction _ | .undeclaredParameter _ | .severalPrimaries .. | .untypedParameter _
  | .payload (.corrupt _) => .malformedInput
  | .noProjectionType _ | .unboundedFunction _ | .unsupportedKind _ | .unsupportedVersion _
  | .payload (.unsupportedVersion _) => .unsupportedConstruct
  | .noMetadata _ => .gate

end DecodeError

end KotlinMeta
