import KotlinMeta.Decoding.Class

set_option autoImplicit false

/-! # Decoding elements

An element of a program may carry a metadata annotation. Only an element that does, in a supported
version and for a class, can be decoded.
-/

namespace KotlinMeta

/-- An element of a program. -/
structure Element where
  /-- The qualified name, for messages. -/
  name : String
  header : Option Header

/-- The class that metadata describe. -/
def Metadata.decode (options : DecodeOptions) (m : Metadata) : Except DecodeError ClassDecl :=
  match m with
  | .classFile node => node.decode options
  | m => .error (.unsupportedKind m.kind)

/-- The class that an element declares. -/
def Element.decode (reader : PayloadReader) (options : DecodeOptions) (e : Element) :
    Except DecodeError ClassDecl :=
  match e.header with
  | none => .error (.noMetadata e.name)
  | some header =>
    if header.isSupported then
      match reader header with
      | .ok metadata => metadata.decode options
      | .error cause => .error (.payload cause)
    else .error (.unsupportedVersion header.metadataVersion)

end KotlinMeta
