import KotlinMeta.Node.Build

set_option autoImplicit false

/-! # Reading nodes from JSON

The inverse of the written form, with leave to omit every field that has a default: flags (no
flag), lists (empty), the variance of a type parameter (invariant) and whatever is optional. Keys
that a node does not have are passed over. A node may also be an array of its fields in order.
-/

namespace KotlinMeta

def NodeVariance.read : Json → Option NodeVariance :=
  Json.readName [("invariant", invariant), ("in", contravariant), ("out", covariant)]

def Classifier.read : Json → Option Classifier
  | .obj [("class", j)] => (Json.readString j).map classNamed
  | .obj [("typeParameter", j)] => (Json.readWord j).map typeParameter
  | .obj [("typeAlias", j)] => (Json.readString j).map typeAlias
  | _ => none

namespace TypeNode

/-! ## Types

A type nests in itself below keys of its own object, so the fields that hold types are looked up
by functions that recurse over the members, or over the elements of an array with their keys. -/

def keys : List String :=
  ["flags", "classifier", "arguments", "abbreviatedType", "expandedType", "outerType",
    "flexibleTypeUpperBound"]

def projectionKeys : List String := ["variance", "type"]

def boundKeys : List String := ["type", "typeFlexibilityId"]

mutual

def read : Json → Option TypeNode
  | .obj members =>
    if Json.keysOnce keys members then do
      return {
        flags := ← Json.defaulted members "flags" Flags.none Flags.read
        classifier := ← Json.optional members "classifier" Classifier.read
        arguments := ← readArguments members
        abbreviatedType := ← readField "abbreviatedType" members
        expandedType := ← readField "expandedType" members
        outerType := ← readField "outerType" members
        flexibleUpperBound := ← readFlexible members }
    else none
  | .arr elements =>
    if elements.length ≤ keys.length then do
      return {
        flags := ← Json.defaulted (keys.zip elements) "flags" Flags.none Flags.read
        classifier := ← Json.optional (keys.zip elements) "classifier" Classifier.read
        arguments := ← argumentsAt keys elements
        abbreviatedType := ← fieldAt "abbreviatedType" keys elements
        expandedType := ← fieldAt "expandedType" keys elements
        outerType := ← fieldAt "outerType" keys elements
        flexibleUpperBound := ← flexibleAt keys elements }
    else none
  | _ => none

/-- The optional type under a key. -/
def readField (key : String) : List (String × Json) → Option (Option TypeNode)
  | [] => some none
  | (k, j) :: rest =>
    if k = key then
      match j with
      | .null => some none
      | j => (read j).map some
    else readField key rest

/-- The optional type that stands where the key does. -/
def fieldAt (key : String) : List String → List Json → Option (Option TypeNode)
  | k :: keys, j :: rest =>
    if k = key then
      match j with
      | .null => some none
      | j => (read j).map some
    else fieldAt key keys rest
  | _, _ => some none

/-- The list under the key `arguments`. -/
def readArguments : List (String × Json) → Option (List ProjectionNode)
  | [] => some []
  | (k, j) :: rest =>
    if k = "arguments" then
      match j with
      | .arr elements => readProjections elements
      | _ => none
    else readArguments rest

/-- The list that stands where the key `arguments` does. -/
def argumentsAt : List String → List Json → Option (List ProjectionNode)
  | k :: keys, j :: rest =>
    if k = "arguments" then
      match j with
      | .arr elements => readProjections elements
      | _ => none
    else argumentsAt keys rest
  | _, _ => some []

def readProjections : List Json → Option (List ProjectionNode)
  | [] => some []
  | j :: rest => do return (← readProjection j) :: (← readProjections rest)

def readProjection : Json → Option ProjectionNode
  | .obj members =>
    if Json.keysOnce projectionKeys members then do
      return {
        variance := ← Json.optional members "variance" NodeVariance.read
        type := ← readField "type" members }
    else none
  | .arr elements =>
    if elements.length ≤ projectionKeys.length then do
      return {
        variance := ← Json.optional (projectionKeys.zip elements) "variance" NodeVariance.read
        type := ← fieldAt "type" projectionKeys elements }
    else none
  | _ => none

/-- The optional bound under the key `flexibleTypeUpperBound`. -/
def readFlexible : List (String × Json) → Option (Option FlexibleBoundNode)
  | [] => some none
  | (k, j) :: rest =>
    if k = "flexibleTypeUpperBound" then
      match j with
      | .null => some none
      | j => (readBound j).map some
    else readFlexible rest

/-- The optional bound that stands where the key `flexibleTypeUpperBound` does. -/
def flexibleAt : List String → List Json → Option (Option FlexibleBoundNode)
  | k :: keys, j :: rest =>
    if k = "flexibleTypeUpperBound" then
      match j with
      | .null => some none
      | j => (readBound j).map some
    else flexibleAt keys rest
  | _, _ => some none

def readBound : Json → Option FlexibleBoundNode
  | .obj members =>
    if Json.keysOnce boundKeys members then do
      match ← readField "type" members with
      | none => none
      | some type =>
        let flexibilityId ← Json.optional members "typeFlexibilityId" Json.readString
        return { type, flexibilityId }
    else none
  | .arr elements =>
    if elements.length ≤ boundKeys.length then do
      match ← fieldAt "type" boundKeys elements with
      | none => none
      | some type =>
        let flexibilityId ←
          Json.optional (boundKeys.zip elements) "typeFlexibilityId" Json.readString
        return { type, flexibilityId }
    else none
  | _ => none

end

end TypeNode

/-! ## Declarations -/

def TypeParameterNode.read (j : Json) : Option TypeParameterNode := do
  let ms ← Json.readRecord ["flags", "name", "id", "variance", "upperBounds"] j
  return {
    flags := ← Json.defaulted ms "flags" Flags.none Flags.read
    name := ← Json.required ms "name" Json.readString
    id := ← Json.required ms "id" Json.readWord
    variance := ← Json.defaulted ms "variance" .invariant NodeVariance.read
    upperBounds := ← Json.defaulted ms "upperBounds" [] (Json.readList TypeNode.read) }

def ValueParameterNode.read (j : Json) : Option ValueParameterNode := do
  let ms ← Json.readRecord ["flags", "name", "type", "varargElementType"] j
  return {
    flags := ← Json.defaulted ms "flags" Flags.none Flags.read
    name := ← Json.required ms "name" Json.readString
    type := ← Json.optional ms "type" TypeNode.read
    varargElementType := ← Json.optional ms "varargElementType" TypeNode.read }

def ConstructorNode.read (j : Json) : Option ConstructorNode := do
  let ms ← Json.readRecord ["flags", "valueParameters"] j
  return {
    flags := ← Json.defaulted ms "flags" Flags.none Flags.read
    valueParameters :=
      ← Json.defaulted ms "valueParameters" [] (Json.readList ValueParameterNode.read) }

def FunctionNode.read (j : Json) : Option FunctionNode := do
  let ms ← Json.readRecord
    ["flags", "name", "typeParameters", "receiverParameterType", "valueParameters",
      "returnType"] j
  return {
    flags := ← Json.defaulted ms "flags" Flags.none Flags.read
    name := ← Json.required ms "name" Json.readString
    typeParameters :=
      ← Json.defaulted ms "typeParameters" [] (Json.readList TypeParameterNode.read)
    receiverType := ← Json.optional ms "receiverParameterType" TypeNode.read
    valueParameters :=
      ← Json.defaulted ms "valueParameters" [] (Json.readList ValueParameterNode.read)
    returnType := ← Json.required ms "returnType" TypeNode.read }

def PropertyNode.read (j : Json) : Option PropertyNode := do
  let ms ← Json.readRecord
    ["flags", "name", "getterFlags", "setterFlags", "typeParameters", "receiverParameterType",
      "returnType"] j
  return {
    flags := ← Json.defaulted ms "flags" Flags.none Flags.read
    name := ← Json.required ms "name" Json.readString
    getterFlags := ← Json.defaulted ms "getterFlags" Flags.none Flags.read
    setterFlags := ← Json.defaulted ms "setterFlags" Flags.none Flags.read
    typeParameters :=
      ← Json.defaulted ms "typeParameters" [] (Json.readList TypeParameterNode.read)
    receiverType := ← Json.optional ms "receiverParameterType" TypeNode.read
    returnType := ← Json.required ms "returnType" TypeNode.read }

def ClassNode.read (j : Json) : Option ClassNode := do
  let ms ← Json.readRecord
    ["flags", "name", "typeParameters", "supertypes", "constructors", "properties", "functions",
      "companionObject", "nestedClasses", "enumEntries", "sealedSubclasses"] j
  return {
    flags := ← Json.defaulted ms "flags" Flags.none Flags.read
    name := ← Json.required ms "name" Json.readString
    typeParameters :=
      ← Json.defaulted ms "typeParameters" [] (Json.readList TypeParameterNode.read)
    supertypes := ← Json.defaulted ms "supertypes" [] (Json.readList TypeNode.read)
    constructors := ← Json.defaulted ms "constructors" [] (Json.readList ConstructorNode.read)
    properties := ← Json.defaulted ms "properties" [] (Json.readList PropertyNode.read)
    functions := ← Json.defaulted ms "functions" [] (Json.readList FunctionNode.read)
    companionObject := ← Json.optional ms "companionObject" Json.readString
    nestedClasses := ← Json.defaulted ms "nestedClasses" [] Json.readStrings
    enumEntries := ← Json.defaulted ms "enumEntries" [] Json.readStrings
    sealedSubclasses := ← Json.defaulted ms "sealedSubclasses" [] Json.readStrings }

end KotlinMeta
