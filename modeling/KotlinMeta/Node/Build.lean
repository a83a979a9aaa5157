import KotlinMeta.Node.Basic

set_option autoImplicit false

/-! # Building nodes

Nodes with every field empty but those given, and types built up step by step.
-/

namespace KotlinMeta

/-! ## Types -/

namespace TypeNode

/-- A type node without content. -/
def empty : TypeNode :=
  { flags := Flags.none, classifier := none, arguments := [], abbreviatedType := none
    expandedType := none, outerType := none, flexibleUpperBound := none }

def ofClass (name : String) : TypeNode := { empty with classifier := some (.classNamed name) }

def ofParameter (id : UInt32) : TypeNode := { empty with classifier := some (.typeParameter id) }

/-- An alias and the type behind it. -/
def ofAlias (name : String) (expanded : TypeNode) : TypeNode :=
  { empty with classifier := some (.typeAlias name), expandedType := some expanded }

def nullable (t : TypeNode) : TypeNode := { t with flags := t.flags.withOwnBit 0 }

def suspending (t : TypeNode) : TypeNode := { t with flags := t.flags.withOwnBit 1 }

/-- A function type with a receiver. -/
def extension (t : TypeNode) : TypeNode := { t with flags := t.flags.withOwnBit 2 }

def withArgument (t : TypeNode) (argument : ProjectionNode) : TypeNode :=
  { t with arguments := t.arguments ++ [argument] }

end TypeNode

namespace ProjectionNode

def star : ProjectionNode := ⟨none, none⟩

def of (variance : NodeVariance) (type : TypeNode) : ProjectionNode := ⟨some variance, some type⟩

def invariant (type : TypeNode) : ProjectionNode := of .invariant type

end ProjectionNode

namespace TypeNode

/-- Adds each type as an invariant argument. -/
def withArguments (t : TypeNode) (types : List TypeNode) : TypeNode :=
  { t with arguments := t.arguments ++ types.map ProjectionNode.invariant }

def withAbbreviation (t written : TypeNode) : TypeNode := { t with abbreviatedType := some written }

def withOuterType (t outer : TypeNode) : TypeNode := { t with outerType := some outer }

def withFlexibleBound (t upper : TypeNode) : TypeNode :=
  { t with flexibleUpperBound := some ⟨upper, none⟩ }

end TypeNode

/-! ## Declarations -/

def TypeParameterNode.of (name : String) (id : UInt32) (variance : NodeVariance) :
    TypeParameterNode :=
  { flags := Flags.none, name, id, variance, upperBounds := [] }

def ValueParameterNode.of (name : String) (type : TypeNode) : ValueParameterNode :=
  { flags := Flags.none, name, type := some type, varargElementType := none }

/-- A parameter that takes any number of arguments of type `element`. -/
def ValueParameterNode.vararg (name : String) (array element : TypeNode) : ValueParameterNode :=
  { flags := Flags.none, name, type := some array, varargElementType := some element }

def FunctionNode.of (flags : Flags) (name : String) (returnType : TypeNode) : FunctionNode :=
  { flags, name, typeParameters := [], receiverType := none, valueParameters := [], returnType }

def PropertyNode.of (flags : Flags) (name : String) (type : TypeNode) : PropertyNode :=
  { flags, name, getterFlags := Flags.none, setterFlags := Flags.none, typeParameters := []
    receiverType := none, returnType := type }

def ClassNode.of (flags : Flags) (name : String) : ClassNode :=
  { flags, name, typeParameters := [], supertypes := [], constructors := [], properties := []
    functions := [], companionObject := none, nestedClasses := [], enumEntries := []
    sealedSubclasses := [] }

end KotlinMeta
