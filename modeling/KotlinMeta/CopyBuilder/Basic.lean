import KotlinMeta.CopyBuilder.Generated
import KotlinMeta.CopyBuilder.NameTable
import KotlinMeta.Decl.Basic

set_option autoImplicit false

/-! # Copy builders

For a class `Foo(val bar: String, val baz: Int)` the generated file holds a builder that starts
from an instance of the class, lets its properties be assigned, and copies the instance with the
values assigned,

    class FooDynamicBuilder internal constructor(source: Foo) {
        private val source: Foo = source
        var bar: String = source.bar
        var baz: Int = source.baz
        internal fun build(): Foo = source.copy(bar = bar, baz = baz)
    }

and a function that runs a block on such a builder:

    fun Foo.copyDynamic(copyBlock: FooDynamicBuilder.() -> Unit): Foo =
        FooDynamicBuilder(this).also { copyBlock(it) }.build()

The names of the properties are those of the constructor parameters; the name of the instance that
is copied gives way to them.
-/

namespace KotlinMeta.CopyBuilder

open Source

/-! ## Names -/

/-- The name of the builder of a class, a top-level class of the same package. -/
def builderName (c : ClassName) : ClassName := c.peer (c.simpleName ++ "DynamicBuilder")

def extensionName : String := "copyDynamic"
def blockName : String := "copyBlock"
def buildName : String := "build"
def sourceSuggestion : String := "source"
def fileComment : String := "Code generated by kmir. Do not edit."

/-- The name of the instance that is copied: free of the names of the properties. -/
def sourceName (propertyNames : List String) : Except SynthesisError String :=
  let names := NameTable.empty.allocateAll propertyNames
  (names.allocateTagged sourceSuggestion sourceSuggestion).1

/-! ## Properties behind the constructor -/

/-- The property behind a constructor parameter, which peers of the class must be able to read. -/
def backingProperty (c : ClassDecl) (p : Parameter) : Except SynthesisError PropertyDecl :=
  match c.property? p.name with
  | none => .error (.noBackingProperty c.name.qualified p.name)
  | some property =>
    match property.flags.visibility with
    | .publicAccess | .internalAccess => .ok property
    | hidden => .error (.hiddenProperty c.name.qualified property.name hidden)

/-- The properties behind the parameters of the primary constructor, in order. -/
def backingProperties (c : ClassDecl) : Except SynthesisError (List PropertyDecl) :=
  match c.primaryConstructor? with
  | none => .error (.noPrimaryConstructor c.name.qualified)
  | some constructor => constructor.parameters.mapM (backingProperty c)

/-! ## Type parameters without variance

The type parameters of a function cannot have a variance, and a builder both reads and writes. So
parameters that have one are replaced, and with them those whose bounds refer to replaced ones. -/

/-- Parameters of a class, each with its counterpart in the generated declarations. -/
abbrev Counterparts := List (TypeVar × TypeVar)

/-- The counterpart of a parameter of the class; any other parameter is its own. -/
def counterpart (pairs : Counterparts) (v : TypeVar) : TypeVar :=
  match pairs.find? fun pair => pair.1.key == v.key with
  | some (_, new) => new
  | none => v

/-- The counterpart of a parameter whose bounds refer to parameters with known counterparts. One
that has no variance and whose bounds stay alike keeps its declaration. -/
def withoutVariance (pairs : Counterparts) (v : TypeVar) : TypeVar :=
  let upperBounds := v.upperBounds.map (TypeExpr.mapVariables (counterpart pairs))
  if v.variance.isNone && TypeExpr.listAlike upperBounds v.upperBounds then v
  else { v with key := .copyOf v.key, variance := none, upperBounds }

/-- The parameters of a class with their counterparts, in order. -/
def counterparts (declared : List TypeVar) : Counterparts :=
  declared.foldl (fun pairs v => pairs ++ [(v, withoutVariance pairs v)]) []

/-! ## The generated file -/

/-- Public is the default and needs no modifier. -/
def visibilityModifiers : Visibility → List Modifier
  | .publicAccess => []
  | v => [.visibility v]

/-- The property of the builder for a property of the class. -/
def builderProperty (rebind : TypeExpr → TypeExpr) (source : String) (p : PropertyDecl) :
    PropertyDef :=
  { name := p.name
    type := rebind p.type
    mutable := true
    modifiers := visibilityModifiers p.flags.visibility
    initializer := some (.member (.name source) p.name) }

/-- The property that holds the instance to copy. -/
def sourceProperty (source : String) (sourceType : TypeExpr) : PropertyDef :=
  { name := source
    type := sourceType
    mutable := false
    modifiers := [.visibility .privateAccess]
    initializer := some (.name source) }

/-- The constructor of the builder, which takes the instance to copy. -/
def builderConstructor (source : String) (sourceType : TypeExpr) : FunctionDef :=
  { FunctionDef.of FunctionDef.constructorName with
    modifiers := [.visibility .internalAccess]
    parameters := [⟨source, sourceType, []⟩] }

/-- The function that makes the copy, with every property given by name. -/
def buildFunction (source : String) (sourceType : TypeExpr) (propertyNames : List String) :
    FunctionDef :=
  { FunctionDef.of buildName with
    modifiers := [.visibility .internalAccess]
    returnType := some sourceType
    body := [.return (.callOn (.name source) "copy"
      (propertyNames.map fun name => .named name (.name name)))] }

/-- The function that runs a block on a builder of its receiver and makes the copy. -/
def copyExtension (typeVariables : List TypeVar) (builderType sourceType : TypeExpr)
    (modifiers : List Modifier) (annotations : List AnnotationUse) : FunctionDef :=
  let configure : Lambda := ⟨[.expr (.invoke blockName [.positional .it])]⟩
  let builder : Expr := .construct builderType [.positional .self]
  { name := extensionName
    modifiers, annotations, typeVariables
    receiver := some sourceType
    parameters := [⟨blockName, .function (some builderType) [] .unit false false, []⟩]
    returnType := some sourceType
    body := [.return ((builder.callWithLambda "also" configure).callOn buildName [])] }

/-- The file with the copy builder of a class, from the properties behind its constructor and the
name of the instance that is copied. -/
def builderFile (options : SynthesisOptions) (c : ClassDecl) (backing : List PropertyDecl)
    (source : String) : File :=
  let pairs := counterparts c.typeParameters
  let typeVariables := pairs.map (·.2)
  let rebind := TypeExpr.mapVariables (counterpart pairs)
  let name := builderName c.name
  let sourceType := rebind c.asType
  let builderType := TypeExpr.named name sourceType.arguments false
  let modifiers := visibilityModifiers c.flags.visibility
  let annotations := options.generated.toList.map GeneratedMark.use
  { packageName := name.packageName
    fileName := name.simpleName
    comment := fileComment
    builder :=
      { name, modifiers, annotations, typeVariables
        primaryConstructor := some (builderConstructor source sourceType)
        properties :=
          sourceProperty source sourceType :: backing.map (builderProperty rebind source)
        functions := [buildFunction source sourceType (backing.map (·.name))] }
    extension := copyExtension typeVariables builderType sourceType modifiers annotations }

/-- The file with the copy builder of a class. -/
def synthesize (options : SynthesisOptions) (c : ClassDecl) : Except SynthesisError File := do
  let backing ← backingProperties c
  let source ← sourceName (backing.map (·.name))
  return builderFile options c backing source

end KotlinMeta.CopyBuilder
