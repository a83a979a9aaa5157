import KotlinMeta.Decl.Basic
import KotlinMeta.Decoding.Scope

set_option autoImplicit false

/-! # Decoding classes

The type parameters of a class are declared before any of its members is looked at, since
supertypes, constructors, properties and functions refer to them. Each property and function then
opens a scope of its own. The first failure in the order type parameters, supertypes,
constructors, properties, functions is the failure of the class.
-/

namespace KotlinMeta

/-- How types are decoded. -/
structure DecodeOptions where
  /-- Types keep the alias they were written with. -/
  keepAliases : Bool
  deriving DecidableEq

namespace DecodeOptions

def toJson (o : DecodeOptions) : Json := .obj [("preferTypeAliases", .bool o.keepAliases)]

def read (j : Json) : Option DecodeOptions := do
  let ms ← Json.readRecord ["preferTypeAliases"] j
  return ⟨← Json.defaulted ms "preferTypeAliases" false Json.readBool⟩

end DecodeOptions

/-- A type read in a scope. -/
def TypeNode.decode (options : DecodeOptions) (s : Scope) (t : TypeNode) :
    Except DecodeError TypeExpr :=
  t.resolve (s.context options.keepAliases)

/-- A type that may be absent. -/
def TypeNode.decodeOption (options : DecodeOptions) (s : Scope) :
    Option TypeNode → Except DecodeError (Option TypeExpr)
  | none => .ok none
  | some t => do return some (← t.decode options s)

def ValueParameterNode.decode (options : DecodeOptions) (s : Scope) (p : ValueParameterNode) :
    Except DecodeError Parameter :=
  match p.varargElementType, p.type with
  | some element, _ => do return ⟨p.flags, p.name, .vararg (← element.decode options s)⟩
  | none, some type => do return ⟨p.flags, p.name, .single (← type.decode options s)⟩
  | none, none => .error (.untypedParameter p.name)

def ConstructorNode.decode (options : DecodeOptions) (s : Scope) (c : ConstructorNode) :
    Except DecodeError ConstructorDecl := do
  return ⟨c.flags, ← c.valueParameters.mapM (ValueParameterNode.decode options s)⟩

def FunctionNode.decode (options : DecodeOptions) (s : Scope) (f : FunctionNode) :
    Except DecodeError FunctionDecl := do
  let s ← s.extended options.keepAliases f.typeParameters
  let receiverType ← TypeNode.decodeOption options s f.receiverType
  let parameters ← f.valueParameters.mapM (ValueParameterNode.decode options s)
  let returnType ← f.returnType.decode options s
  return { flags := f.flags, name := f.name, typeParameters := s.declared, receiverType
           parameters, returnType }

def PropertyNode.decode (options : DecodeOptions) (s : Scope) (p : PropertyNode) :
    Except DecodeError PropertyDecl := do
  let s ← s.extended options.keepAliases p.typeParameters
  let receiverType ← TypeNode.decodeOption options s p.receiverType
  let type ← p.returnType.decode options s
  return { flags := p.flags, name := p.name, typeParameters := s.declared, receiverType, type
           getterFlags := p.getterFlags
           setterFlags := if p.flags.isVar then some p.setterFlags else none }

/-- The superclass and the superinterfaces that a list of supertypes names. -/
def superTypes : List TypeExpr → TypeExpr × List TypeExpr
  | [] => (.any, [])
  | superclass :: interfaces => (superclass, interfaces)

/-- A class has at most one primary constructor. -/
def checkPrimaries (className : String) (constructors : List ConstructorDecl) :
    Except DecodeError Unit :=
  let primaries := (constructors.filter (·.isPrimary)).length
  if 1 < primaries then .error (.severalPrimaries className primaries) else .ok ()

/-- Properties and functions are the children of the scope of the class: the properties come first
and the functions are numbered on. -/
def ClassNode.decode (options : DecodeOptions) (c : ClassNode) : Except DecodeError ClassDecl := do
  let s ← Scope.root.extended options.keepAliases c.typeParameters
  let supertypes ← c.supertypes.mapM (TypeNode.decode options s)
  let constructors ← c.constructors.mapM (ConstructorNode.decode options s)
  checkPrimaries c.name constructors
  let properties ← c.properties.zipIdx.mapM fun (p, i) => p.decode options (s.child i)
  let functions ← c.functions.zipIdx.mapM fun (f, i) =>
    f.decode options (s.child (c.properties.length + i))
  return {
    flags := c.flags
    name := .ofMetadata c.name
    kind := c.flags.classKind
    typeParameters := s.declared
    superclass := (superTypes supertypes).1
    superinterfaces := (superTypes supertypes).2
    constructors, properties, functions
    companionObjectName := c.companionObject
    enumEntries := c.enumEntries
    nestedClassNames := c.nestedClasses
    sealedSubclasses := c.sealedSubclasses.map ClassName.ofMetadata }

end KotlinMeta
