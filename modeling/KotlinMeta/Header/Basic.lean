import KotlinMeta.Node.Basic

set_option autoImplicit false

/-! # Headers

Every compiled class carries an annotation `kotlin.Metadata`, whose arguments form its header. The
header says which kind of metadata follows and in which version. The payload is a node tree for a
class, and of no interest for any other kind.
-/

namespace KotlinMeta

/-- The arguments of the annotation. -/
structure Header where
  kind : Int32
  metadataVersion : List UInt32
  bytecodeVersion : List UInt32
  data1 : List String
  data2 : List String
  extraString : Option String
  packageName : Option String
  extraInt : Int32

/-! ## Kinds of metadata -/

/-- What a piece of metadata describes. -/
inductive MetadataKind where
  | classFile
  | fileFacade
  | syntheticClass
  | multiFileClassFacade
  | multiFileClassPart
  | unknown (number : Int32)
  deriving DecidableEq

namespace MetadataKind

/-- The kind that a number stands for. -/
def ofNumber (n : Int32) : MetadataKind :=
  if n = 1 then .classFile
  else if n = 2 then .fileFacade
  else if n = 3 then .syntheticClass
  else if n = 4 then .multiFileClassFacade
  else if n = 5 then .multiFileClassPart
  else .unknown n

/-- The kind in words. -/
def description : MetadataKind → String
  | .classFile => "class"
  | .fileFacade => "file facade"
  | .syntheticClass => "synthetic class"
  | .multiFileClassFacade => "multi-file class facade"
  | .multiFileClassPart => "multi-file class part"
  | .unknown n => "unknown kind " ++ toString n.toInt

end MetadataKind

namespace Header

/-- A header without payload. -/
def of (kind : Int32) (metadataVersion : List UInt32) : Header :=
  { kind, metadataVersion, bytecodeVersion := [], data1 := [], data2 := [], extraString := none
    packageName := none, extraInt := 0 }

def metadataKind (h : Header) : MetadataKind := .ofNumber h.kind

/-- The node trees of this library describe metadata from version 1.1 on. Only the first two
components count, and a missing one is zero. -/
def isSupported (h : Header) : Bool :=
  let major := (h.metadataVersion[0]?).getD 0
  let minor := (h.metadataVersion[1]?).getD 0
  1 < major || (major == 1 && 1 ≤ minor)

/-- The components of a version with points between them. -/
def versionText (version : List UInt32) : String :=
  ".".intercalate (version.map fun n => toString n.toNat)

end Header

/-! ## Payload -/

/-- The payload of a header, once it has been read. -/
inductive Metadata where
  | classFile (node : ClassNode)
  | fileFacade
  | syntheticClass
  | multiFileClassFacade (parts : List String)
  | multiFileClassPart (facade : String)
  | unknown (number : Int32)

namespace Metadata

def kind : Metadata → MetadataKind
  | .classFile _ => .classFile
  | .fileFacade => .fileFacade
  | .syntheticClass => .syntheticClass
  | .multiFileClassFacade _ => .multiFileClassFacade
  | .multiFileClassPart _ => .multiFileClassPart
  | .unknown n => .unknown n

/-- The node tree, for a class. -/
def classNode? : Metadata → Option ClassNode
  | .classFile node => some node
  | _ => none

end Metadata

/-- Why a payload cannot be read. -/
inductive PayloadError where
  | unsupportedVersion (found : String)
  | corrupt (reason : String)
  deriving DecidableEq

/-- What is said of metadata older than the oldest supported version. -/
def oldVersionMessage (found : String) : String :=
  String.join ["metadata version ", found, " is older than the supported minimum 1.1"]

def PayloadError.message : PayloadError → String
  | .unsupportedVersion found => oldVersionMessage found
  | .corrupt reason => String.join ["corrupt metadata payload: ", reason]

/-- A reader of payloads, which knows their encoding. -/
abbrev PayloadReader := Header → Except PayloadError Metadata

end KotlinMeta
