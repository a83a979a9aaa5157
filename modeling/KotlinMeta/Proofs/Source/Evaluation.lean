import KotlinMeta.Source.Basic

/-! # What generated source does

An evaluator for the expressions of `Source`, with the meaning they have in Kotlin. A generated file
works on three kinds of things: an instance of the class that is copied, which never changes
(`Value.record`), builders, whose properties live in a `Store` and can be assigned, and the block
that the caller passes (`Value.block`), a sequence of assignments to a builder.

* A bare name is a parameter of the function around it, or else a member of `this`. In the
  initializer of a property there is no `this`, so that it is a parameter of the constructor.
* A construction binds the parameters of the constructor, runs the initializers in order and adds
  a builder to the store.
* `also` runs its lambda on the receiver and gives the receiver back.
* `copy` on an instance replaces the properties that are given by name.
* Another call on a builder runs the function of that name.

What Kotlin would refuse, such as a name without meaning or an assignment to a `val`, is a `Fault`.
The bodies of functions are no parts of the expressions that call them, so that calls are nested up
to a given depth.
-/

set_option autoImplicit false

namespace KotlinMeta.Source

variable {α : Type}

/-! ## Values -/

/-- A value. The properties of the class that is copied hold values of the type `α`. -/
inductive Value (α : Type) where
  | unit
  | text (value : String)
  | array (elements : List (Value α))
  /-- The value of a property of the class. -/
  | plain (value : α)
  /-- An instance of the class: its properties by name. -/
  | record (fields : List (String × α))
  /-- A block: the assignments it makes to a builder, in order. -/
  | block (assignments : List (String × α))
  /-- A builder, by its place in the store. -/
  | builder (place : Nat)

/-- The builders in the order of their construction, each with its properties by name. -/
abbrev Store (α : Type) := List (List (String × Value α))

/-- Why an expression has no value. -/
inductive Fault where
  | unknownName (name : String)
  | unknownMember (name : String)
  | unknownFunction (name : String)
  | unknownClass
  /-- There is no `this`. -/
  | noReceiver
  /-- There is no lambda around `it`. -/
  | noLambda
  | wrongArguments
  /-- The property is a `val`. -/
  | notAssignable (name : String)
  | notInitialized (name : String)
  /-- A lambda returns from the function around it. -/
  | returnFromLambda
  /-- Calls are nested too deeply. -/
  | tooDeep
  deriving DecidableEq

/-- A computation that reads and changes the store. -/
abbrev Run (α β : Type) := StateT (Store α) (Except Fault) β

def orFault {β : Type} (fault : Fault) : Option β → Run α β
  | some b => pure b
  | none => throw fault

/-- A member of a value. -/
def Value.member (v : Value α) (name : String) : Run α (Value α) :=
  match v with
  | .record fields => orFault (.unknownMember name) ((fields.lookup name).map .plain)
  | .builder place => do
    let store ← get
    orFault (.unknownMember name) (store[place]?.bind (·.lookup name))
  | _ => throw (.unknownMember name)

/-! ## Names in a function -/

/-- What names mean in the body of a function or in an initializer. -/
structure Frame (α : Type) where
  parameters : List (String × Value α)
  /-- What `this` means. -/
  self : Option (Value α)
  /-- What `it` means. -/
  it : Option (Value α)

/-- The value of a bare name. -/
def Frame.read (f : Frame α) (name : String) : Run α (Value α) :=
  match f.parameters.lookup name, f.self with
  | some v, _ => pure v
  | none, some self => self.member name
  | none, none => throw (.unknownName name)

/-- An evaluated argument of a call, by position or by name. -/
abbrev ArgumentValue (α : Type) := Option String × Value α

/-- The parameters of a function, each with the argument at its position. -/
def bindParameters : List ParameterDef → List (ArgumentValue α) → Run α (List (String × Value α))
  | [], [] => pure []
  | p :: ps, (none, v) :: arguments => do return (p.name, v) :: (← bindParameters ps arguments)
  | _, _ => throw .wrongArguments

/-! ## Instances and builders -/

/-- An argument of `copy`: the property to replace and its new value. -/
def replacement (fields : List (String × α)) : ArgumentValue α → Except Fault (String × α)
  | (some name, .plain a) =>
    if (fields.lookup name).isSome then .ok (name, a) else .error (.unknownMember name)
  | _ => .error .wrongArguments

/-- The properties of an instance with exactly those replaced that `copy` is given. -/
def copyRecord (fields : List (String × α)) (arguments : List (ArgumentValue α)) :
    Except Fault (List (String × α)) := do
  let values ← arguments.mapM (replacement fields)
  -- naming a property twice is refused
  if (values.map Prod.fst).Nodup then
    return fields.map fun p => (p.1, (values.lookup p.1).getD p.2)
  else throw .wrongArguments

/-- Assigns a property of a builder of this class. -/
def ClassDef.assign (c : ClassDef) (place : Nat) (name : String) (a : α) : Run α Unit := do
  let p ← orFault (.unknownMember name) (c.property? name)
  if p.mutable then
    let store ← get
    let properties ← orFault (.unknownMember name) store[place]?
    set (store.set place
      (properties.map fun p => if p.1 = name then (name, .plain a) else p))
  else throw (.notAssignable name)

/-- Makes assignments to a builder of this class, in order. -/
def ClassDef.assignAll (c : ClassDef) (place : Nat) : List (String × α) → Run α Unit
  | [] => pure ()
  | (name, a) :: rest => do
    c.assign place name a
    c.assignAll place rest

/-- Calls a block that is a parameter of the function around the call. -/
def ClassDef.callBlock (c : ClassDef) (frame : Frame α) (function : String)
    (arguments : List (ArgumentValue α)) : Run α (Value α) :=
  match frame.parameters.lookup function, arguments with
  | some (.block assignments), [(none, .builder place)] => do
    c.assignAll place assignments
    return .unit
  | _, _ => throw (.unknownFunction function)

/-! ## Expressions -/

/-- The name of the function that runs a lambda on its receiver and gives the receiver back. -/
def alsoName : String := "also"

/-- The name of the function that copies an instance. -/
def copyName : String := "copy"

/-- What happens at a call whose body stands elsewhere. -/
structure Calls (α : Type) where
  construct : TypeExpr → List (ArgumentValue α) → Run α (Value α)
  member : Value α → String → List (ArgumentValue α) → Run α (Value α)

mutual

def Expr.eval (c : ClassDef) (calls : Calls α) (frame : Frame α) : Expr → Run α (Value α)
  | .name name => frame.read name
  | .self => orFault .noReceiver frame.self
  | .it => orFault .noLambda frame.it
  | .string value => pure (.text value)
  | .array elements => do return .array (← Expr.evalAll c calls frame elements)
  | .member receiver name => do
    let v ← receiver.eval c calls frame
    v.member name
  -- without a receiver only the block can be called
  | .call none function arguments none => do
    let arguments ← Argument.evalAll c calls frame arguments
    c.callBlock frame function arguments
  | .call (some receiver) function arguments none => do
    let v ← receiver.eval c calls frame
    let arguments ← Argument.evalAll c calls frame arguments
    calls.member v function arguments
  | .call (some receiver) function [] (some ⟨body⟩) =>
    if function = alsoName then do
      let v ← receiver.eval c calls frame
      match ← Statement.evalAll c calls { frame with it := some v } body with
      | none => return v
      | some _ => throw .returnFromLambda
    else throw (.unknownFunction function)
  | .call _ function _ (some _) => throw (.unknownFunction function)
  | .construct type arguments => do
    let arguments ← Argument.evalAll c calls frame arguments
    calls.construct type arguments

def Expr.evalAll (c : ClassDef) (calls : Calls α) (frame : Frame α) :
    List Expr → Run α (List (Value α))
  | [] => pure []
  | e :: rest => do
    let v ← e.eval c calls frame
    return v :: (← Expr.evalAll c calls frame rest)

def Argument.evalAll (c : ClassDef) (calls : Calls α) (frame : Frame α) :
    List Argument → Run α (List (ArgumentValue α))
  | [] => pure []
  | ⟨name, e⟩ :: rest => do
    let v ← e.eval c calls frame
    return (name, v) :: (← Argument.evalAll c calls frame rest)

/-- Runs statements and gives what they return, if they do. -/
def Statement.evalAll (c : ClassDef) (calls : Calls α) (frame : Frame α) :
    List Statement → Run α (Option (Value α))
  | [] => pure none
  | .expr e :: rest => do
    let _ ← e.eval c calls frame
    Statement.evalAll c calls frame rest
  | .return e :: _ => do return some (← e.eval c calls frame)

end

/-! ## Calls -/

/-- Runs the body of a function; without a `return` its value is the unit. -/
def ClassDef.runFunction (c : ClassDef) (calls : Calls α) (f : FunctionDef)
    (self : Option (Value α)) (arguments : List (ArgumentValue α)) : Run α (Value α) := do
  let parameters ← bindParameters f.parameters arguments
  let result ← Statement.evalAll c calls ⟨parameters, self, none⟩ f.body
  return result.getD .unit

/-- Runs the initializers of properties, in order. -/
def ClassDef.runInitializers (c : ClassDef) (calls : Calls α)
    (parameters : List (String × Value α)) :
    List PropertyDef → Run α (List (String × Value α))
  | [] => pure []
  | p :: rest => do
    let e ← orFault (.notInitialized p.name) p.initializer
    -- the builder is not there yet, so that no initializer sees a property
    let v ← e.eval c calls ⟨parameters, none, none⟩
    return (p.name, v) :: (← c.runInitializers calls parameters rest)

/-- Constructs a builder. -/
def ClassDef.construct (c : ClassDef) (calls : Calls α) (type : TypeExpr)
    (arguments : List (ArgumentValue α)) : Run α (Value α) := do
  let constructor ← orFault .unknownClass c.primaryConstructor
  if type.className? = some c.name then
    let parameters ← bindParameters constructor.parameters arguments
    let properties ← c.runInitializers calls parameters c.properties
    let store ← get
    set (store ++ [properties])
    return .builder store.length
  else throw .unknownClass

/-- Calls a member function. -/
def ClassDef.callMember (c : ClassDef) (calls : Calls α) (receiver : Value α) (function : String)
    (arguments : List (ArgumentValue α)) : Run α (Value α) :=
  match receiver with
  | .record fields =>
    if function = copyName then do return .record (← copyRecord fields arguments)
    else throw (.unknownFunction function)
  | .builder _ => do
    let f ← orFault (.unknownFunction function) (c.function? function)
    c.runFunction calls f (some receiver) arguments
  | _ => throw (.unknownFunction function)

/-- Calls nested up to a depth. -/
def Calls.upTo (c : ClassDef) : Nat → Calls α
  | 0 => ⟨fun _ _ => throw .tooDeep, fun _ _ _ => throw .tooDeep⟩
  | depth + 1 => ⟨c.construct (Calls.upTo c depth), c.callMember (Calls.upTo c depth)⟩

/-- Calls the extension of a file on an instance, with a block that makes the given assignments.
The store is empty before the call. -/
def File.callExtension (file : File) (depth : Nat) (source assignments : List (String × α)) :
    Except Fault (Value α × Store α) :=
  let self := file.extension.receiver.map fun _ => .record source
  (file.builder.runFunction (Calls.upTo file.builder depth) file.extension self
    [(none, .block assignments)]).run []

/-! ## Runs of the operations -/

theorem Calls.construct_upTo_succ (c : ClassDef) (depth : Nat) :
    (Calls.upTo (α := α) c (depth + 1)).construct = c.construct (Calls.upTo c depth) := rfl

theorem Calls.member_upTo_succ (c : ClassDef) (depth : Nat) :
    (Calls.upTo (α := α) c (depth + 1)).member = c.callMember (Calls.upTo c depth) := rfl

theorem run_bind {β γ : Type} {m : Run α β} {f : β → Run α γ} {s t : Store α} {b : β}
    (h : m.run s = .ok (b, t)) : (m >>= f).run s = (f b).run t := by
  rw [StateT.run_bind, h]
  rfl

theorem run_orFault {β : Type} (fault : Fault) (b : β) (s : Store α) :
    (orFault fault (some b) : Run α β).run s = .ok (b, s) := rfl

theorem run_get (s : Store α) : (get : Run α (Store α)).run s = .ok (s, s) := rfl

theorem Value.run_member_record {fields : List (String × α)} {name : String} {a : α} (s : Store α)
    (h : fields.lookup name = some a) :
    ((Value.record fields).member name).run s = .ok (.plain a, s) := by
  rw [Value.member, h]
  rfl

theorem Value.run_member_builder {place : Nat} {name : String} {s : Store α}
    {properties : List (String × Value α)} {v : Value α} (hplace : s[place]? = some properties)
    (hname : properties.lookup name = some v) :
    ((Value.builder place : Value α).member name).run s = .ok (v, s) := by
  rw [Value.member, run_bind (run_get s), hplace, Option.bind_some, hname, run_orFault]

theorem Frame.run_read_parameter {f : Frame α} {name : String} {v : Value α} (s : Store α)
    (h : f.parameters.lookup name = some v) : (f.read name).run s = .ok (v, s) := by
  rw [Frame.read, h]
  rfl

theorem Frame.read_of_self {f : Frame α} {name : String} {self : Value α}
    (hname : f.parameters.lookup name = none) (hself : f.self = some self) :
    f.read name = self.member name := by
  rw [Frame.read, hname, hself]

/-- An assignment to a `var` of a builder changes this property and no other. -/
theorem ClassDef.run_assign {c : ClassDef} {place : Nat} {name : String} {p : PropertyDef}
    {s : Store α} {properties : List (String × Value α)} (a : α) (hp : c.property? name = some p)
    (hmutable : p.mutable = true) (hplace : s[place]? = some properties) :
    (c.assign place name a).run s = .ok ((), s.set place
      (properties.map fun p => if p.1 = name then (name, .plain a) else p)) := by
  rw [ClassDef.assign, hp, run_bind (run_orFault _ p s), if_pos hmutable, run_bind (run_get s),
    hplace, run_bind (run_orFault _ properties s)]
  rfl

theorem ClassDef.run_callBlock {c : ClassDef} {frame : Frame α} {function : String} {place : Nat}
    {assignments : List (String × α)} {s t : Store α}
    (hname : frame.parameters.lookup function = some (.block assignments))
    (h : (c.assignAll place assignments).run s = .ok ((), t)) :
    (c.callBlock frame function [(none, .builder place)]).run s = .ok (.unit, t) := by
  simp only [ClassDef.callBlock, hname]
  rw [run_bind h]
  rfl

/-! ## Runs of expressions -/

section Expressions

variable {c : ClassDef} {calls : Calls α} {frame : Frame α} {s t u w : Store α}

/-- A call on a receiver runs the receiver, then the arguments, then the function. -/
theorem Expr.run_callOn {receiver : Expr} {function : String} {arguments : List Argument}
    {v result : Value α} {values : List (ArgumentValue α)}
    (hreceiver : (receiver.eval c calls frame).run s = .ok (v, t))
    (harguments : (Argument.evalAll c calls frame arguments).run t = .ok (values, u))
    (hcall : (calls.member v function values).run u = .ok (result, w)) :
    ((receiver.callOn function arguments).eval c calls frame).run s = .ok (result, w) := by
  rw [Expr.callOn, Expr.eval, run_bind hreceiver, run_bind harguments]
  exact hcall

/-- The value of `also` is its receiver, in the store that the lambda leaves. -/
theorem Expr.run_also {receiver : Expr} {body : List Statement} {v : Value α}
    (hreceiver : (receiver.eval c calls frame).run s = .ok (v, t))
    (hbody : (Statement.evalAll c calls { frame with it := some v } body).run t = .ok (none, u)) :
    ((receiver.callWithLambda alsoName ⟨body⟩).eval c calls frame).run s = .ok (v, u) := by
  rw [Expr.callWithLambda, Expr.eval, if_pos rfl, run_bind hreceiver, run_bind hbody]
  rfl

theorem Statement.run_expr {e : Expr} {v : Value α}
    (h : (e.eval c calls frame).run s = .ok (v, t)) :
    (Statement.evalAll c calls frame [.expr e]).run s = .ok (none, t) := by
  rw [Statement.evalAll, run_bind h]
  rfl

theorem Statement.run_return {e : Expr} {v : Value α}
    (h : (e.eval c calls frame).run s = .ok (v, t)) :
    (Statement.evalAll c calls frame [.return e]).run s = .ok (some v, t) := by
  rw [Statement.evalAll, run_bind h]
  rfl

/-- The value of a call is what the body of the function returns. -/
theorem ClassDef.run_runFunction {f : FunctionDef} {self : Option (Value α)} {v : Value α}
    {arguments : List (ArgumentValue α)} {parameters : List (String × Value α)}
    (hparameters : (bindParameters f.parameters arguments).run s = .ok (parameters, t))
    (hbody : (Statement.evalAll c calls ⟨parameters, self, none⟩ f.body).run t
      = .ok (some v, u)) :
    (c.runFunction calls f self arguments).run s = .ok (v, u) := by
  rw [ClassDef.runFunction, run_bind hparameters, run_bind hbody]
  rfl

end Expressions

end KotlinMeta.Source
