import KotlinMeta.Modifier
import KotlinMeta.TypeExpr.Basic

set_option autoImplicit false

/-! # Declarations

A class and its members with all names and types looked up.
-/

namespace KotlinMeta

/-! ## Parameters -/

/-- The written type of a value parameter. -/
inductive ParameterType where
  | single (type : TypeExpr)
  /-- Any number of arguments of the element type. -/
  | vararg (element : TypeExpr)

/-- A value parameter. -/
structure Parameter where
  flags : Flags
  name : String
  type : ParameterType

namespace Parameter

/-- The type of a parameter that takes one argument. -/
def singleType? (p : Parameter) : Option TypeExpr :=
  match p.type with
  | .single t => some t
  | .vararg _ => none

/-- The element type of a parameter that takes any number of arguments. -/
def elementType? (p : Parameter) : Option TypeExpr :=
  match p.type with
  | .single _ => none
  | .vararg t => some t

def isVararg (p : Parameter) : Bool := p.elementType?.isSome

/-- The type as it is written: for any number of arguments that of one of them. -/
def declaredType (p : Parameter) : TypeExpr :=
  match p.type with
  | .single t | .vararg t => t

def modifiers (p : Parameter) : List Modifier := p.flags.parameterModifiers p.isVararg

end Parameter

/-! ## Members -/

structure ConstructorDecl where
  flags : Flags
  parameters : List Parameter

def ConstructorDecl.isPrimary (c : ConstructorDecl) : Bool := c.flags.isPrimaryConstructor

def ConstructorDecl.modifiers (c : ConstructorDecl) : List Modifier :=
  [.visibility c.flags.visibility]

structure FunctionDecl where
  flags : Flags
  name : String
  typeParameters : List TypeVar
  receiverType : Option TypeExpr
  parameters : List Parameter
  returnType : TypeExpr

def FunctionDecl.modifiers (f : FunctionDecl) : List Modifier := f.flags.functionModifiers

structure PropertyDecl where
  flags : Flags
  name : String
  typeParameters : List TypeVar
  receiverType : Option TypeExpr
  type : TypeExpr
  getterFlags : Flags
  /-- Present only for a property that can be assigned. -/
  setterFlags : Option Flags

namespace PropertyDecl

def isMutable (p : PropertyDecl) : Bool := p.flags.isVar

def modifiers (p : PropertyDecl) : List Modifier := p.flags.propertyModifiers

def getterModifiers (p : PropertyDecl) : List Modifier := p.getterFlags.accessorModifiers p.flags

def setterModifiers (p : PropertyDecl) : Option (List Modifier) :=
  p.setterFlags.map (·.accessorModifiers p.flags)

end PropertyDecl

/-! ## Classes -/

/-- A class. -/
structure ClassDecl where
  flags : Flags
  name : ClassName
  kind : ClassKind
  typeParameters : List TypeVar
  /-- `kotlin.Any` for a class that names no supertype. -/
  superclass : TypeExpr
  superinterfaces : List TypeExpr
  constructors : List ConstructorDecl
  properties : List PropertyDecl
  functions : List FunctionDecl
  companionObjectName : Option String
  enumEntries : List String
  nestedClassNames : List String
  sealedSubclasses : List ClassName

namespace ClassDecl

def primaryConstructor? (c : ClassDecl) : Option ConstructorDecl :=
  c.constructors.find? (·.isPrimary)

/-- The first property with this name. -/
def property? (c : ClassDecl) (name : String) : Option PropertyDecl :=
  c.properties.find? (·.name == name)

/-- The first function with this name. -/
def function? (c : ClassDecl) (name : String) : Option FunctionDecl :=
  c.functions.find? (·.name == name)

def modifiers (c : ClassDecl) : List Modifier := c.flags.classModifiers

/-- The class applied to its own type parameters. -/
def asType (c : ClassDecl) : TypeExpr :=
  .named c.name (c.typeParameters.map fun v => .invariant (.ofVar v)) false

end ClassDecl

end KotlinMeta
