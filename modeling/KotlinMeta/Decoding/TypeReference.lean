import KotlinMeta.Decoding.Error

set_option autoImplicit false

/-! # Looking up type references

`TypeNode.resolve` turns a type node into a type expression. It takes the first of these that
applies:

* a type of unknown nullability is a producer wildcard of its upper bound;
* a type with a type around it is a consumer wildcard of that outer type;
* a type parameter is looked up;
* a class that the source wrote as an alias is that alias, where aliases are kept;
* an alias is the type behind it, where aliases are not kept;
* a class or kept alias is a named type, or a function type if it is one of the interfaces
  `kotlin.Function0`, `kotlin.Function1`, … applied to arguments.

Whatever the case, a node marked nullable gives a type that is nullable at its outermost level.
-/

namespace KotlinMeta

/-! ## Function interfaces -/

/-- The interface of function types whose arity is known only when the program runs. -/
def unboundedFunctionName : String := "kotlin.FunctionN"

/-- What the qualified names of the interfaces of function types start with. -/
def functionNameStart : String := "kotlin.Function"

/-- The name of an interface of function types of one arity: the common start and digits. -/
def isFunctionName (qualified : String) : Bool :=
  let start := functionNameStart.toList
  let arity := qualified.toList.drop start.length
  start.isPrefixOf qualified.toList && !arity.isEmpty && arity.all Char.isDigit

/-- The only argument of a continuation. -/
def soleArgument : TypeExpr → Except DecodeError TypeExpr
  | .named _ [argument] _ =>
    match argument.type with
    | some result => .ok result
    | none => .error (.suspendFunction .starResult)
  | t => .error (.suspendFunction (.notContinuation t))

/-- What a suspending function returns: the only argument of its continuation, which may be
wrapped in a wildcard. -/
def continuationResult : TypeExpr → Except DecodeError TypeExpr
  | .wildcard (some bound) _ _ => soleArgument bound
  | t => soleArgument t

/-- What the slots of a function interface say about its result, with the slots that remain. The
last slot is the return type, unless the function suspends: then it says nothing, and the return
type is the result of the continuation before it. -/
def returnSlot (isSuspend : Bool) (slots : List TypeExpr) (last : TypeExpr) :
    Except DecodeError (List TypeExpr × TypeExpr) :=
  if isSuspend then
    match slots.getLast? with
    | none => .error (.suspendFunction .loneArgument)
    | some continuation => (continuationResult continuation).map (slots.dropLast, ·)
  else .ok (slots, last)

/-- The function type with these parameters, of which the first is the receiver of an extension
function. -/
def functionOf (flags : Flags) (parameters : List TypeExpr) (returnType : TypeExpr) :
    Except DecodeError TypeExpr :=
  if flags.isExtensionFunctionType then
    match parameters with
    | [] => .error .noReceiverSlot
    | receiver :: parameters =>
      .ok (.function (some receiver) parameters returnType flags.isSuspendType false)
  else .ok (.function none parameters returnType flags.isSuspendType false)

/-- The function type that the arguments of a function interface describe. -/
def functionType (flags : Flags) (slots : List TypeExpr) (last : TypeExpr) :
    Except DecodeError TypeExpr := do
  let (parameters, returnType) ← returnSlot flags.isSuspendType slots last
  functionOf flags parameters returnType

/-- The type that a class name and its arguments stand for. -/
def namedType (name : ClassName) (flags : Flags) (arguments : List TypeArg) :
    Except DecodeError TypeExpr :=
  match isFunctionName name.qualified, arguments.getLast? with
  | true, some last => functionType flags (arguments.dropLast.map TypeArg.toType) last.toType
  | _, _ => .ok (.named name arguments false)

/-- The class that a reference names; the interface without fixed arity cannot be referred to. -/
def referredClass (name : String) : Except DecodeError ClassName :=
  let c := ClassName.ofMetadata name
  if c.qualified = unboundedFunctionName then .error (.unboundedFunction c.qualified) else .ok c

/-- An argument of a given variance. `out Any` says no more than a star and becomes invariant. -/
def projectedArgument (variance : NodeVariance) (type : TypeExpr) : TypeArg :=
  match variance with
  | .contravariant => .contravariant type
  | .covariant => if type.isAny then .invariant type else .covariant type
  | .invariant => .invariant type

/-! ## Resolution -/

/-- Finds the declaration of a type parameter by its number. -/
abbrev ParameterLookup := UInt32 → Option TypeVar

/-- What type references are looked up in. -/
structure TypeContext where
  lookup : ParameterLookup
  /-- Types keep the alias they were written with. -/
  keepAliases : Bool

mutual

/-- The type that a node refers to. -/
def TypeNode.resolve (context : TypeContext) : TypeNode → Except DecodeError TypeExpr
  | ⟨flags, classifier, arguments, abbreviated, expanded, outer, flexible⟩ =>
    let nullable := flags.isNullableType
    match flexible with
    | some ⟨upper, _⟩ => do
      return (TypeExpr.producerOf (← upper.resolve context)).withNullable nullable
    | none =>
      match outer with
      | some outer => do
        return (TypeExpr.consumerOf (← outer.resolve context)).withNullable nullable
      | none =>
        match classifier with
        | none => .error .noClassifier
        | some (.typeParameter id) =>
          match context.lookup id with
          | some v => .ok (.var v nullable)
          | none => .error (.undeclaredParameter id)
        | some (.classNamed name) =>
          match abbreviated, context.keepAliases with
          | some written, true => do
            let t ← written.resolve context
            return t.withNullable (nullable || t.isNullable)
          | _, _ => do
            let name ← referredClass name
            let arguments ← ProjectionNode.resolveAll context arguments
            return (← namedType name flags arguments).withNullable nullable
        | some (.typeAlias name) =>
          if context.keepAliases then do
            let name ← referredClass name
            let arguments ← ProjectionNode.resolveAll context arguments
            return (← namedType name flags arguments).withNullable nullable
          else
            match expanded with
            | none => .error (.noExpansion name)
            | some expanded => do
              let t ← expanded.resolve context
              return t.withNullable (nullable || t.isNullable)

/-- The arguments that projections stand for, in order. -/
def ProjectionNode.resolveAll (context : TypeContext) :
    List ProjectionNode → Except DecodeError (List TypeArg)
  | [] => .ok []
  | p :: rest => do
    let argument ← p.resolve context
    return argument :: (← ProjectionNode.resolveAll context rest)

/-- The argument that a projection stands for. -/
def ProjectionNode.resolve (context : TypeContext) : ProjectionNode → Except DecodeError TypeArg
  | ⟨none, none⟩ => .ok .star
  | ⟨none, some _⟩ => .error .noProjectionVariance
  | ⟨some variance, none⟩ => .error (.noProjectionType variance)
  | ⟨some variance, some type⟩ => do
    return projectedArgument variance (← type.resolve context)

end

end KotlinMeta
