import KotlinMeta.Header.Basic
import KotlinMeta.Json.Text
import KotlinMeta.Node.Reader

set_option autoImplicit false

/-! # JSON forms of headers and payloads

A header as a JSON object, in which every field may be missing, or as an array of its fields in
order, and a payload reader for classes whose node tree is stored as JSON text in the header.
-/

namespace KotlinMeta

/-! ## Kinds -/

namespace MetadataKind

def toJson : MetadataKind → Json
  | .classFile => .str "class"
  | .fileFacade => .str "fileFacade"
  | .syntheticClass => .str "syntheticClass"
  | .multiFileClassFacade => .str "multiFileClassFacade"
  | .multiFileClassPart => .str "multiFileClassPart"
  | .unknown n => .obj [("unknown", .int n.toInt)]

def read : Json → Option MetadataKind
  | .obj [("unknown", j)] => (Json.readInt32 j).map unknown
  | j =>
    Json.readName
      [("class", classFile), ("fileFacade", fileFacade), ("syntheticClass", syntheticClass),
        ("multiFileClassFacade", multiFileClassFacade),
        ("multiFileClassPart", multiFileClassPart)] j

end MetadataKind

/-! ## Headers -/

namespace Header

def toJson (h : Header) : Json :=
  .obj
    [("kind", .int h.kind.toInt), ("metadataVersion", .arr (h.metadataVersion.map .word)),
     ("bytecodeVersion", .arr (h.bytecodeVersion.map .word)), ("data1", .strs h.data1),
     ("data2", .strs h.data2), ("extraString", .strOrNull h.extraString),
     ("packageName", .strOrNull h.packageName), ("extraInt", .int h.extraInt.toInt)]

def read (j : Json) : Option Header := do
  let ms ← Json.readRecord
    ["kind", "metadataVersion", "bytecodeVersion", "data1", "data2", "extraString",
      "packageName", "extraInt"] j
  return {
    kind := ← Json.defaulted ms "kind" 0 Json.readInt32
    metadataVersion := ← Json.defaulted ms "metadataVersion" [] (Json.readList Json.readWord)
    bytecodeVersion := ← Json.defaulted ms "bytecodeVersion" [] (Json.readList Json.readWord)
    data1 := ← Json.defaulted ms "data1" [] Json.readStrings
    data2 := ← Json.defaulted ms "data2" [] Json.readStrings
    extraString := ← Json.optional ms "extraString" Json.readString
    packageName := ← Json.optional ms "packageName" Json.readString
    extraInt := ← Json.defaulted ms "extraInt" 0 Json.readInt32 }

end Header

/-! ## Payloads stored as JSON -/

namespace Metadata

/-- Marks a payload that only names the version it was written in. -/
def versionMark : String := "version:"

/-- Reads the node tree of a class from JSON text. -/
def readClassText (text : String) : Except PayloadError Metadata :=
  let mark := versionMark.toList
  if mark.isPrefixOf text.toList then
    .error (.unsupportedVersion (String.ofList (text.toList.drop mark.length)))
  else
    match (Json.parse text).bind ClassNode.read with
    | some node => .ok (.classFile node)
    | none => .error (.corrupt "d1 is not a class")

/-- The payload reader for headers whose first datum is the JSON text of a class node. -/
def readJson : PayloadReader := fun h =>
  match h.metadataKind with
  | .classFile =>
    match h.data1 with
    | [] => .error (.corrupt "empty d1")
    | text :: _ => readClassText text
  | .fileFacade => .ok .fileFacade
  | .syntheticClass => .ok .syntheticClass
  | .multiFileClassFacade => .ok (.multiFileClassFacade h.data1)
  | .multiFileClassPart => .ok (.multiFileClassPart (h.extraString.getD ""))
  | .unknown n => .ok (.unknown n)

end Metadata

end KotlinMeta
