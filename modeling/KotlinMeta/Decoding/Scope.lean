import KotlinMeta.Decoding.TypeReference

set_option autoImplicit false

/-! # Scopes of type parameters

The numbers of type parameters are unique only within the declaration that introduces them. A class
opens the root scope; every member opens a child scope of its own, whose declarations hide those of
the class with the same number. A scope holds its declarations in order; the last one with a number
is the one that the number stands for.
-/

namespace KotlinMeta

/-- A scope and the scopes around it. -/
structure Scope where
  /-- Which child to take from each scope around this one, nearest first. -/
  path : List Nat
  /-- The declarations of this scope, in order. -/
  declared : List TypeVar
  /-- The declarations of the scopes around it, nearest first. -/
  outer : List (List TypeVar)

namespace Scope

/-- The scope with nothing around it and nothing declared. -/
def root : Scope := ⟨[], [], []⟩

/-- An empty scope inside this one, as its child number `ordinal`. -/
def child (s : Scope) (ordinal : Nat) : Scope := ⟨ordinal :: s.path, [], s.declared :: s.outer⟩

/-- The number of scopes around this one. -/
def depth (s : Scope) : Nat := s.path.length

/-- The key of the next declaration. -/
def nextKey (s : Scope) : VarKey := .declared s.path s.declared.length

def declare (s : Scope) (v : TypeVar) : Scope := { s with declared := s.declared ++ [v] }

/-- The last declaration with this number in one scope. -/
def latest? (declared : List TypeVar) (id : UInt32) : Option TypeVar :=
  declared.reverse.find? fun v => v.id == id

/-- The declaration that a number stands for: the latest in the innermost scope that has one. -/
def lookup (s : Scope) : ParameterLookup := fun id =>
  (s.declared :: s.outer).findSome? fun declared => latest? declared id

/-- The context of a type reference in this scope. -/
def context (keepAliases : Bool) (s : Scope) : TypeContext := ⟨s.lookup, keepAliases⟩

end Scope

/-- The type parameter that a node declares. Of the two variances only `in` is kept, since `out` is
implied at a declaration. -/
def TypeParameterNode.resolve (context : TypeContext) (key : VarKey) (p : TypeParameterNode) :
    Except DecodeError TypeVar := do
  let upperBounds ← p.upperBounds.mapM (TypeNode.resolve context)
  let variance :=
    match p.variance with
    | .contravariant => some Variance.contravariant
    | .covariant | .invariant => none
  return { key, name := p.name, id := p.id, variance, upperBounds, reified := p.flags.isReified }

/-- Declares type parameters in order. The bounds of each see the scopes around and the parameters
before it. The scope that results holds what was declared before a failure, too. -/
def Scope.declareAll (keepAliases : Bool) (s : Scope) :
    List TypeParameterNode → Scope × Option DecodeError
  | [] => (s, none)
  | p :: rest =>
    match p.resolve (s.context keepAliases) s.nextKey with
    | .ok v => declareAll keepAliases (s.declare v) rest
    | .error e => (s, some e)

/-- The scope with all these type parameters declared. -/
def Scope.extended (keepAliases : Bool) (s : Scope) (parameters : List TypeParameterNode) :
    Except DecodeError Scope :=
  match s.declareAll keepAliases parameters with
  | (s, none) => .ok s
  | (_, some e) => .error e

end KotlinMeta
