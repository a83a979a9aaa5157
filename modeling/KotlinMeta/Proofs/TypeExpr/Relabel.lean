import KotlinMeta.Proofs.TypeExpr.MapVariables

/-! # Relabelling the type parameters of a type

A type parameter has two labels, the place of its declaration and the number that its node gave it.
`TypeExpr.relabel` changes the labels of every parameter in a type, also of those in the bounds of
parameters, and nothing else. The text of a type shows neither label.
-/

set_option autoImplicit false

namespace KotlinMeta

/-- New labels for type parameters: a scope for each scope and a number for each number. -/
structure Relabelling where
  path : List Nat → List Nat
  id : UInt32 → UInt32

namespace Relabelling

/-- The place in the new scope. -/
def key (r : Relabelling) : VarKey → VarKey
  | .declared path position => .declared (r.path path) position
  | .copyOf declaration => .copyOf (r.key declaration)

/-- Places stay as they are. -/
def ofId (id : UInt32 → UInt32) : Relabelling := ⟨fun path => path, id⟩

/-- Numbers stay as they are. -/
def ofPath (path : List Nat → List Nat) : Relabelling := ⟨path, fun id => id⟩

@[simp]
theorem key_ofId (id : UInt32 → UInt32) (k : VarKey) : (ofId id).key k = k := by
  induction k with
  | declared path position => rfl
  | copyOf declaration ih => rw [key, ih]

end Relabelling

/-! ## Types with new labels -/

mutual

/-- The type with new labels on every type parameter in it. -/
def TypeExpr.relabel (r : Relabelling) : TypeExpr → TypeExpr
  | .named name arguments nullable => .named name (TypeArg.listRelabel r arguments) nullable
  | .var v nullable => .var (v.relabel r) nullable
  | .function receiver parameters returnType isSuspend nullable =>
    .function (TypeExpr.optionRelabel r receiver) (TypeExpr.listRelabel r parameters)
      (returnType.relabel r) isSuspend nullable
  | .wildcard bound direction nullable =>
    .wildcard (TypeExpr.optionRelabel r bound) direction nullable

def TypeExpr.optionRelabel (r : Relabelling) : Option TypeExpr → Option TypeExpr
  | none => none
  | some t => some (t.relabel r)

def TypeExpr.listRelabel (r : Relabelling) : List TypeExpr → List TypeExpr
  | [] => []
  | t :: rest => t.relabel r :: TypeExpr.listRelabel r rest

def TypeArg.listRelabel (r : Relabelling) : List TypeArg → List TypeArg
  | [] => []
  | ⟨variance, t⟩ :: rest =>
    ⟨variance, TypeExpr.optionRelabel r t⟩ :: TypeArg.listRelabel r rest

/-- The type parameter with new labels, its bounds included. -/
def TypeVar.relabel (r : Relabelling) : TypeVar → TypeVar
  | ⟨key, name, id, variance, upperBounds, reified⟩ =>
    ⟨r.key key, name, r.id id, variance, TypeExpr.listRelabel r upperBounds, reified⟩

end

section
variable (r : Relabelling)

@[simp]
theorem TypeVar.key_relabel (v : TypeVar) : (v.relabel r).key = r.key v.key := by
  cases v
  rfl

@[simp]
theorem TypeVar.name_relabel (v : TypeVar) : (v.relabel r).name = v.name := by
  cases v
  rfl

@[simp]
theorem TypeVar.id_relabel (v : TypeVar) : (v.relabel r).id = r.id v.id := by
  cases v
  rfl

mutual

/-- To relabel a type is to relabel each parameter that it refers to. -/
theorem TypeExpr.relabel_eq_mapVariables :
    ∀ t : TypeExpr, t.relabel r = t.mapVariables (TypeVar.relabel r)
  | .named name arguments nullable => by
    rw [TypeExpr.relabel, TypeExpr.mapVariables, TypeArg.listRelabel_eq_mapList arguments]
  | .var v nullable => by rw [TypeExpr.relabel, TypeExpr.mapVariables]
  | .function receiver parameters returnType isSuspend nullable => by
    rw [TypeExpr.relabel, TypeExpr.mapVariables, TypeExpr.optionRelabel_eq_mapOption receiver,
      TypeExpr.listRelabel_eq_mapList parameters, returnType.relabel_eq_mapVariables]
  | .wildcard bound direction nullable => by
    rw [TypeExpr.relabel, TypeExpr.mapVariables, TypeExpr.optionRelabel_eq_mapOption bound]

theorem TypeExpr.optionRelabel_eq_mapOption :
    ∀ t : Option TypeExpr, TypeExpr.optionRelabel r t = TypeExpr.mapOption (TypeVar.relabel r) t
  | none => rfl
  | some t => by
    rw [TypeExpr.optionRelabel, TypeExpr.mapOption, t.relabel_eq_mapVariables]

theorem TypeExpr.listRelabel_eq_mapList :
    ∀ ts : List TypeExpr, TypeExpr.listRelabel r ts = TypeExpr.mapList (TypeVar.relabel r) ts
  | [] => rfl
  | t :: rest => by
    rw [TypeExpr.listRelabel, TypeExpr.mapList, t.relabel_eq_mapVariables,
      TypeExpr.listRelabel_eq_mapList rest]

theorem TypeArg.listRelabel_eq_mapList :
    ∀ as : List TypeArg, TypeArg.listRelabel r as = TypeArg.mapList (TypeVar.relabel r) as
  | [] => rfl
  | ⟨variance, t⟩ :: rest => by
    rw [TypeArg.listRelabel, TypeArg.mapList, TypeExpr.optionRelabel_eq_mapOption t,
      TypeArg.listRelabel_eq_mapList rest]

end

theorem TypeExpr.listRelabel_eq_map (ts : List TypeExpr) :
    TypeExpr.listRelabel r ts = ts.map (TypeExpr.relabel r) := by
  induction ts with
  | nil => rfl
  | cons t rest ih => rw [TypeExpr.listRelabel, ih, List.map_cons]

end

end KotlinMeta
