import Mathlib.Logic.Function.Basic
import KotlinMeta.Proofs.Decoding.Places
import KotlinMeta.Proofs.TypeExpr.Relabel
import KotlinMeta.Proofs.TypeNode.Renumber

/-! # Numbers of type parameters are names only

A number links a reference to a declaration and says nothing else. `Scope.lookup_relabel` says that
scopes with new labels find the same declarations with new labels, and each function of the decoder
follows it: the scope that results, the member that results and the failure are the old ones with
new labels. The main result `ClassNode.decode_renumber` says it of a class.
-/

set_option autoImplicit false

namespace KotlinMeta

/-! ## New numbers in declarations of nodes -/

section
variable (number : UInt32 → UInt32)

def TypeParameterNode.renumber (p : TypeParameterNode) : TypeParameterNode :=
  { p with id := number p.id, upperBounds := p.upperBounds.map (TypeNode.renumber number) }

def ValueParameterNode.renumber (p : ValueParameterNode) : ValueParameterNode :=
  { p with
    type := p.type.map (TypeNode.renumber number)
    varargElementType := p.varargElementType.map (TypeNode.renumber number) }

def ConstructorNode.renumber (c : ConstructorNode) : ConstructorNode :=
  { c with valueParameters := c.valueParameters.map (ValueParameterNode.renumber number) }

def FunctionNode.renumber (f : FunctionNode) : FunctionNode :=
  { f with
    typeParameters := f.typeParameters.map (TypeParameterNode.renumber number)
    receiverType := f.receiverType.map (TypeNode.renumber number)
    valueParameters := f.valueParameters.map (ValueParameterNode.renumber number)
    returnType := f.returnType.renumber number }

def PropertyNode.renumber (p : PropertyNode) : PropertyNode :=
  { p with
    typeParameters := p.typeParameters.map (TypeParameterNode.renumber number)
    receiverType := p.receiverType.map (TypeNode.renumber number)
    returnType := p.returnType.renumber number }

/-- The class with a new number for each number, in declarations and in references. -/
def ClassNode.renumber (c : ClassNode) : ClassNode :=
  { c with
    typeParameters := c.typeParameters.map (TypeParameterNode.renumber number)
    supertypes := c.supertypes.map (TypeNode.renumber number)
    constructors := c.constructors.map (ConstructorNode.renumber number)
    properties := c.properties.map (PropertyNode.renumber number)
    functions := c.functions.map (FunctionNode.renumber number) }

end

/-! ## Failures with new variables -/

namespace DecodeError

theorem kind_rebind (number : UInt32 → UInt32) (f : TypeVar → TypeVar) (e : DecodeError) :
    (e.rebind number f).kind = e.kind := by
  cases e with
  | suspendFunction defect => cases defect <;> rfl
  | _ => rfl

/-- Variables of the same names and the same numbers leave the message of a failure as it is. -/
theorem message_rebind {number : UInt32 → UInt32} {f : TypeVar → TypeVar}
    (hname : ∀ v, (f v).name = v.name) (e : DecodeError)
    (hnumber : ∀ k, e = .undeclaredParameter k → number k = k) :
    (e.rebind number f).message = e.message := by
  cases e with
  | undeclaredParameter k => rw [rebind, hnumber k rfl]
  | suspendFunction defect =>
      cases defect with
      | notContinuation slot =>
          have hslot : (slot.mapVariables f).display = slot.display :=
            slot.display_mapVariables hname
          simp only [rebind, message, SuspendDefect.message, hslot]
      | _ => rfl
  | _ => rfl

end DecodeError

/-! ## New labels in declarations -/

section
variable (r : Relabelling)

def ParameterType.relabel : ParameterType → ParameterType
  | .single type => .single (type.relabel r)
  | .vararg element => .vararg (element.relabel r)

def Parameter.relabel (p : Parameter) : Parameter := { p with type := p.type.relabel r }

def ConstructorDecl.relabel (c : ConstructorDecl) : ConstructorDecl :=
  { c with parameters := c.parameters.map (Parameter.relabel r) }

def FunctionDecl.relabel (f : FunctionDecl) : FunctionDecl :=
  { f with
    typeParameters := f.typeParameters.map (TypeVar.relabel r)
    receiverType := f.receiverType.map (TypeExpr.relabel r)
    parameters := f.parameters.map (Parameter.relabel r)
    returnType := f.returnType.relabel r }

def PropertyDecl.relabel (p : PropertyDecl) : PropertyDecl :=
  { p with
    typeParameters := p.typeParameters.map (TypeVar.relabel r)
    receiverType := p.receiverType.map (TypeExpr.relabel r)
    type := p.type.relabel r }

/-- The class with new labels on every type parameter in it. -/
def ClassDecl.relabel (d : ClassDecl) : ClassDecl :=
  { d with
    typeParameters := d.typeParameters.map (TypeVar.relabel r)
    superclass := d.superclass.relabel r
    superinterfaces := d.superinterfaces.map (TypeExpr.relabel r)
    constructors := d.constructors.map (ConstructorDecl.relabel r)
    properties := d.properties.map (PropertyDecl.relabel r)
    functions := d.functions.map (FunctionDecl.relabel r) }

/-- The failure with new labels. -/
def DecodeError.relabel (e : DecodeError) : DecodeError := e.rebind r.id (TypeVar.relabel r)

def Scope.relabel (s : Scope) : Scope where
  path := r.path s.path
  declared := s.declared.map (TypeVar.relabel r)
  outer := s.outer.map (List.map (TypeVar.relabel r))

/-- A failure keeps its family, and also its message unless that names a number. -/
theorem DecodeError.message_relabel (e : DecodeError) :
    (e.relabel r).kind = e.kind ∧
      ((e.relabel r).message = e.message ∨ ∃ k, e = .undeclaredParameter k) := by
  refine ⟨e.kind_rebind r.id _, ?_⟩
  by_cases h : ∃ k, e = .undeclaredParameter k
  · exact Or.inr h
  · refine Or.inl (e.message_rebind (TypeVar.name_relabel r) fun k hk => ?_)
    exact absurd ⟨k, hk⟩ h

end

/-! ## Scopes -/

namespace Scope

variable {r : Relabelling}

/-- **A scope with new labels finds what the scope finds, with new labels.** -/
theorem lookup_relabel (hid : Function.Injective r.id) (s : Scope) (k : UInt32) :
    (s.relabel r).lookup (r.id k) = (s.lookup k).map (TypeVar.relabel r) := by
  refine lookup_map rfl fun v _ => ?_
  rw [TypeVar.id_relabel, hid.eq_iff]

theorem nextKey_relabel (r : Relabelling) (s : Scope) :
    (s.relabel r).nextKey = r.key s.nextKey := by
  rw [nextKey, nextKey, Relabelling.key, relabel, List.length_map]

theorem declare_relabel (r : Relabelling) (s : Scope) (v : TypeVar) :
    (s.relabel r).declare (v.relabel r) = (s.declare v).relabel r := by
  rw [declare, declare, relabel, relabel, List.map_append, List.map_singleton]

end Scope

/-! ## Decoding -/

section
variable {r : Relabelling} (hid : Function.Injective r.id)
include hid

/-- A type of which only the labels are new. -/
theorem TypeNode.resolve_relabel (keepAliases : Bool) (s : Scope) (t : TypeNode) :
    (t.renumber r.id).resolve ((s.relabel r).context keepAliases) =
      mapResult (DecodeError.relabel r) (TypeExpr.relabel r)
        (t.resolve (s.context keepAliases)) := by
  rw [funext (TypeExpr.relabel_eq_mapVariables r)]
  exact t.resolve_renumber keepAliases (s.lookup_relabel hid)

theorem TypeParameterNode.resolve_relabel (keepAliases : Bool) (s : Scope)
    (p : TypeParameterNode) :
    (p.renumber r.id).resolve ((s.relabel r).context keepAliases) (s.relabel r).nextKey =
      mapResult (DecodeError.relabel r) (TypeVar.relabel r)
        (p.resolve (s.context keepAliases) s.nextKey) := by
  refine bind_eq_mapResult (mapM_eq_mapResult fun t _ => t.resolve_relabel hid keepAliases s)
    fun bounds => ?_
  rw [Scope.nextKey_relabel, ← TypeExpr.listRelabel_eq_map]
  rfl

/-- Declaring type parameters with new numbers gives the scope with new labels. -/
theorem Scope.extended_relabel (keepAliases : Bool) (s : Scope) (ps : List TypeParameterNode) :
    (s.relabel r).extended keepAliases (ps.map (TypeParameterNode.renumber r.id)) =
      mapResult (DecodeError.relabel r) (Scope.relabel r) (s.extended keepAliases ps) := by
  induction ps generalizing s with
  | nil => rfl
  | cons p rest ih =>
      rw [List.map_cons, extended_cons, extended_cons]
      refine bind_eq_mapResult (p.resolve_relabel hid keepAliases s) fun v => ?_
      rw [Scope.declare_relabel]
      exact ih (s.declare v)

variable (options : DecodeOptions) (s : Scope)

theorem TypeNode.decodeOption_relabel (t : Option TypeNode) :
    TypeNode.decodeOption options (s.relabel r) (t.map (TypeNode.renumber r.id)) =
      mapResult (DecodeError.relabel r) (Option.map (TypeExpr.relabel r))
        (TypeNode.decodeOption options s t) := by
  cases t with
  | none => rfl
  | some t =>
      exact bind_eq_mapResult (t.resolve_relabel hid options.keepAliases s) fun _ => rfl

theorem ValueParameterNode.decode_relabel (p : ValueParameterNode) :
    (p.renumber r.id).decode options (s.relabel r) =
      mapResult (DecodeError.relabel r) (Parameter.relabel r) (p.decode options s) := by
  obtain ⟨flags, name, type, element⟩ := p
  cases element with
  | some element =>
      exact bind_eq_mapResult (element.resolve_relabel hid options.keepAliases s) fun _ => rfl
  | none =>
      cases type with
      | some type =>
          exact bind_eq_mapResult (type.resolve_relabel hid options.keepAliases s) fun _ => rfl
      | none => rfl

theorem ConstructorNode.decode_relabel (c : ConstructorNode) :
    (c.renumber r.id).decode options (s.relabel r) =
      mapResult (DecodeError.relabel r) (ConstructorDecl.relabel r) (c.decode options s) :=
  bind_eq_mapResult (mapM_eq_mapResult fun p _ => p.decode_relabel hid options s) fun _ => rfl

theorem FunctionNode.decode_relabel (f : FunctionNode) :
    (f.renumber r.id).decode options (s.relabel r) =
      mapResult (DecodeError.relabel r) (FunctionDecl.relabel r) (f.decode options s) := by
  refine bind_eq_mapResult (s.extended_relabel hid options.keepAliases f.typeParameters)
    fun s' => ?_
  refine bind_eq_mapResult (TypeNode.decodeOption_relabel hid options s' f.receiverType)
    fun receiverType => ?_
  refine bind_eq_mapResult (mapM_eq_mapResult fun p _ => p.decode_relabel hid options s')
    fun parameters => ?_
  exact bind_eq_mapResult (f.returnType.resolve_relabel hid options.keepAliases s') fun _ => rfl

theorem PropertyNode.decode_relabel (p : PropertyNode) :
    (p.renumber r.id).decode options (s.relabel r) =
      mapResult (DecodeError.relabel r) (PropertyDecl.relabel r) (p.decode options s) := by
  refine bind_eq_mapResult (s.extended_relabel hid options.keepAliases p.typeParameters)
    fun s' => ?_
  refine bind_eq_mapResult (TypeNode.decodeOption_relabel hid options s' p.receiverType)
    fun receiverType => ?_
  exact bind_eq_mapResult (p.returnType.resolve_relabel hid options.keepAliases s') fun _ => rfl

end

theorem checkPrimaries_relabel (r : Relabelling) (className : String)
    (constructors : List ConstructorDecl) :
    checkPrimaries className (constructors.map (ConstructorDecl.relabel r)) =
      mapResult (DecodeError.relabel r) (fun u => u) (checkPrimaries className constructors) := by
  have hprimary : (ConstructorDecl.isPrimary ∘ ConstructorDecl.relabel r) =
      ConstructorDecl.isPrimary := rfl
  rw [checkPrimaries, checkPrimaries, List.filter_map, hprimary, List.length_map]
  split <;> rfl

theorem superTypes_relabel (r : Relabelling) (types : List TypeExpr) :
    superTypes (types.map (TypeExpr.relabel r)) =
      Prod.map (TypeExpr.relabel r) (List.map (TypeExpr.relabel r)) (superTypes types) := by
  cases types <;> rfl

/-- **Only the identity of numbers matters.** A class in which each number has a new one of its own
decodes to the old declaration, with the new number on every type parameter, every place as it was
and nothing else changed. If it fails, the failure is the old one: with the new number where it
names a number, and otherwise in the same words. -/
theorem ClassNode.decode_renumber (options : DecodeOptions) (c : ClassNode)
    {number : UInt32 → UInt32} (hnumber : Function.Injective number) :
    (c.renumber number).decode options =
        mapResult (DecodeError.relabel (.ofId number)) (ClassDecl.relabel (.ofId number))
          (c.decode options) ∧
      (∀ v : TypeVar, (v.relabel (.ofId number)).key = v.key) ∧
      ∀ e : DecodeError, (e.relabel (.ofId number)).kind = e.kind ∧
        ((e.relabel (.ofId number)).message = e.message ∨
          ∃ k, e = .undeclaredParameter k ∧
            e.relabel (.ofId number) = .undeclaredParameter (number k)) := by
  have hid : Function.Injective (Relabelling.ofId number).id := hnumber
  refine ⟨?_, fun v => ?_, fun e => ?_⟩
  · refine bind_eq_mapResult
      (Scope.root.extended_relabel hid options.keepAliases c.typeParameters) fun s => ?_
    refine bind_eq_mapResult
      (mapM_eq_mapResult fun t _ => t.resolve_relabel hid options.keepAliases s)
      fun supertypes => ?_
    refine bind_eq_mapResult (mapM_eq_mapResult fun k _ => k.decode_relabel hid options s)
      fun constructors => ?_
    refine bind_eq_mapResult (checkPrimaries_relabel _ c.name constructors) fun _ => ?_
    -- a member keeps its place among the members, and its scope is the child of the new scope
    refine bind_eq_mapResult
      (mapM_zipIdx_eq_mapResult fun p i => p.decode_relabel hid options (s.child i))
      fun properties => ?_
    have hlength : (c.renumber number).properties.length = c.properties.length :=
      List.length_map _
    rw [hlength]
    refine bind_eq_mapResult
      (mapM_zipIdx_eq_mapResult fun f i => f.decode_relabel hid options (s.child _))
      fun functions => ?_
    rw [superTypes_relabel]
    rfl
  · rw [TypeVar.key_relabel, Relabelling.key_ofId]
  · obtain ⟨hkind, hmessage | ⟨k, rfl⟩⟩ := e.message_relabel (.ofId number)
    · exact ⟨hkind, Or.inl hmessage⟩
    · exact ⟨hkind, Or.inr ⟨k, rfl, rfl⟩⟩

/-- The function of the class hides the number of the class before and after. -/
theorem decode_renumber_shadowingClass :
    Function.Injective (fun k : UInt32 => k + 7) ∧
      ∃ d, shadowingClass.decode ⟨false⟩ = .ok d ∧
        (shadowingClass.renumber (· + 7)).decode ⟨false⟩ = .ok (d.relabel (.ofId (· + 7))) ∧
        d.functions.map (fun f => f.returnType.variables.map fun v => (v.key, v.id)) =
          [[(.declared [0] 0, 0)]] ∧
        (d.relabel (.ofId (· + 7))).functions.map
          (fun f => f.returnType.variables.map fun v => (v.key, v.id)) =
          [[(.declared [0] 0, 7)]] := by
  have hinjective : Function.Injective (fun k : UInt32 => k + 7) :=
    fun _ _ h => (UInt32.add_left_inj 7).mp h
  obtain ⟨d, hd, hbefore, hafter⟩ : ∃ d, shadowingClass.decode ⟨false⟩ = .ok d ∧
      d.functions.map (fun f => f.returnType.variables.map fun v => (v.key, v.id)) =
        [[(.declared [0] 0, 0)]] ∧
      (d.relabel (.ofId (· + 7))).functions.map
        (fun f => f.returnType.variables.map fun v => (v.key, v.id)) =
        [[(.declared [0] 0, 7)]] := ⟨_, rfl, rfl, rfl⟩
  have hrenumber := (shadowingClass.decode_renumber ⟨false⟩ hinjective).1
  rw [hd] at hrenumber
  exact ⟨hinjective, d, hd, hrenumber, hbefore, hafter⟩

end KotlinMeta
