import KotlinMeta.Flags.Basic

set_option autoImplicit false

/-! # Metadata nodes

The tree of declarations that the metadata of a compiled class holds, before any name or number
in it is looked up. Class names are in the spelling of metadata, and type parameters are referred
to by numbers that are unique only within the declaration that introduces them.
-/

namespace KotlinMeta

/-- The variance of a type parameter at its declaration, or of a type argument. -/
inductive NodeVariance where
  | invariant
  | contravariant
  | covariant
  deriving DecidableEq, Inhabited

/-- What a type refers to. -/
inductive Classifier where
  | classNamed (name : String)
  | typeParameter (id : UInt32)
  | typeAlias (name : String)
  deriving DecidableEq

mutual

/-- A reference to a type. -/
structure TypeNode where
  flags : Flags
  /-- Absent only in malformed metadata. -/
  classifier : Option Classifier
  arguments : List ProjectionNode
  /-- The alias that the source wrote for a type whose classifier is the class behind it. -/
  abbreviatedType : Option TypeNode
  /-- The type behind an alias classifier. -/
  expandedType : Option TypeNode
  /-- The type around an inner class. -/
  outerType : Option TypeNode
  flexibleUpperBound : Option FlexibleBoundNode

/-- A type argument; a star has neither variance nor type. -/
structure ProjectionNode where
  variance : Option NodeVariance
  type : Option TypeNode

/-- The upper bound of a type whose nullability is unknown. -/
structure FlexibleBoundNode where
  type : TypeNode
  flexibilityId : Option String

end

/-- The declaration of a type parameter. -/
structure TypeParameterNode where
  flags : Flags
  name : String
  /-- Unique within the declaration that introduces the parameter. -/
  id : UInt32
  variance : NodeVariance
  upperBounds : List TypeNode

/-- A parameter of a constructor or function. -/
structure ValueParameterNode where
  flags : Flags
  name : String
  /-- For a variable number of arguments, the type of the array that holds them. -/
  type : Option TypeNode
  /-- Present only for a variable number of arguments. -/
  varargElementType : Option TypeNode

structure ConstructorNode where
  flags : Flags
  valueParameters : List ValueParameterNode

structure FunctionNode where
  flags : Flags
  name : String
  typeParameters : List TypeParameterNode
  receiverType : Option TypeNode
  valueParameters : List ValueParameterNode
  returnType : TypeNode

structure PropertyNode where
  flags : Flags
  name : String
  getterFlags : Flags
  setterFlags : Flags
  typeParameters : List TypeParameterNode
  receiverType : Option TypeNode
  returnType : TypeNode

/-- A class and its members. -/
structure ClassNode where
  flags : Flags
  name : String
  typeParameters : List TypeParameterNode
  /-- The superclass first, if there is one, then the interfaces. -/
  supertypes : List TypeNode
  constructors : List ConstructorNode
  properties : List PropertyNode
  functions : List FunctionNode
  companionObject : Option String
  nestedClasses : List String
  enumEntries : List String
  sealedSubclasses : List String

/-- Neither variance nor type is given. -/
def ProjectionNode.isStar (p : ProjectionNode) : Bool := p.variance.isNone && p.type.isNone

end KotlinMeta
