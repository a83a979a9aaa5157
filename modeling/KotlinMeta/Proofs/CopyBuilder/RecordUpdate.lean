import Mathlib.Data.List.Basic
import Mathlib.Logic.Function.Basic
import KotlinMeta.Proofs.CopyBuilder.Backing
import KotlinMeta.Proofs.CopyBuilder.Names
import KotlinMeta.Proofs.Sequence
import KotlinMeta.Proofs.Source.Evaluation

/-! # Copying is record update

The generated extension, run on an instance with a block of assignments, gives the instance with
every assigned property at the value assigned last and all others as they were
(`copyDynamic_updates`). The proof follows the run:

* the constructor makes a builder that holds the instance under its own name and the value of each
  property (`runInitializers_builder`);
* each assignment of the block changes one property of that builder (`assign_builder`), and the
  instance is not among them because its name is free;
* `build` reads every property back and copies the instance with them (`build_builder`).
-/

set_option autoImplicit false

namespace KotlinMeta.CopyBuilder

open Source

variable {α : Type}

/-! ## Instances and assignments -/

/-- An instance whose properties have these names and values. -/
def recordOf (names : List String) (value : String → α) : List (String × α) :=
  names.map fun n => (n, value n)

/-- The values of properties after assignments, in order. -/
def assigned (value : String → α) (assignments : List (String × α)) : String → α :=
  assignments.foldl (fun value p => Function.update value p.1 p.2) value

theorem assigned_of_not_mem {value : String → α} {assignments : List (String × α)} {n : String}
    (h : n ∉ assignments.map Prod.fst) : assigned value assignments n = value n := by
  induction assignments generalizing value with
  | nil => rfl
  | cons p rest ih =>
      obtain ⟨hp, hrest⟩ : n ≠ p.1 ∧ n ∉ rest.map Prod.fst := by simpa using h
      calc assigned value (p :: rest) n
          = assigned (Function.update value p.1 p.2) rest n := rfl
        _ = Function.update value p.1 p.2 n := ih hrest
        _ = value n := Function.update_of_ne hp _ _

/-- The last assignment of a property decides. -/
theorem assigned_of_last {value : String → α} (before : List (String × α)) (n : String) (a : α)
    {after : List (String × α)} (h : n ∉ after.map Prod.fst) :
    assigned value (before ++ (n, a) :: after) n = a := by
  have hsplit : assigned value (before ++ (n, a) :: after)
      = assigned (Function.update (assigned value before) n a) after := by
    simp only [assigned, List.foldl_append, List.foldl_cons]
  rw [hsplit, assigned_of_not_mem h, Function.update_self]

theorem lookup_recordOf {names : List String} (value : String → α) {n : String} (h : n ∈ names) :
    (recordOf names value).lookup n = some (value n) := by
  induction names with
  | nil => cases h
  | cons m rest ih =>
      by_cases hm : n = m
      · subst hm
        simp [recordOf]
      · have hrest : n ∈ rest := by simpa [hm] using h
        rw [recordOf, List.map_cons, List.lookup_cons, beq_false_of_ne hm]
        exact ih hrest

/-! ## What is generated -/

/-- The members that every builder has. -/
structure HasMembers (b : ClassDef) (source : String) (sourceType : TypeExpr)
    (rebind : TypeExpr → TypeExpr) (backing : List PropertyDecl) : Prop where
  primaryConstructor : b.primaryConstructor = some (builderConstructor source sourceType)
  properties :
    b.properties = sourceProperty source sourceType :: backing.map (builderProperty rebind source)
  build : b.function? buildName = some (buildFunction source sourceType (backing.map (·.name)))

theorem hasMembers_builderFile (options : SynthesisOptions) (c : ClassDecl)
    (backing : List PropertyDecl) (source : String) :
    HasMembers (builderFile options c backing source).builder source
      (TypeExpr.mapVariables (counterpart (counterparts c.typeParameters)) c.asType)
      (TypeExpr.mapVariables (counterpart (counterparts c.typeParameters))) backing :=
  ⟨rfl, rfl, rfl⟩

/-! ## The builder in the store -/

/-- The properties of a builder: the instance that is copied and the values so far. -/
def builderState (source : String) (fields : List (String × α)) (names : List String)
    (value : String → α) : List (String × Value α) :=
  (source, .record fields) :: names.map fun n => (n, .plain (value n))

theorem lookup_builderState_source (source : String) (fields : List (String × α))
    (names : List String) (value : String → α) :
    (builderState source fields names value).lookup source = some (.record fields) := by
  simp [builderState]

theorem lookup_builderState {source n : String} (fields : List (String × α)) {names : List String}
    (value : String → α) (hsource : source ∉ names) (hn : n ∈ names) :
    (builderState source fields names value).lookup n = some (.plain (value n)) := by
  have hne : n ≠ source := by
    rintro rfl
    exact hsource hn
  rw [builderState, List.lookup_cons, beq_false_of_ne hne]
  exact lookup_recordOf (fun n => Value.plain (value n)) hn

/-! ## Construction -/

/-- The initializers of the assignable properties read the instance. -/
theorem runInitializers_properties (c : ClassDef) (calls : Calls α) (rebind : TypeExpr → TypeExpr)
    (source : String) (names : List String) (value : String → α) (s : Store α)
    (backing : List PropertyDecl) (hnames : ∀ p ∈ backing, p.name ∈ names) :
    (c.runInitializers calls [(source, .record (recordOf names value))]
      (backing.map (builderProperty rebind source))).run s
      = .ok (backing.map fun p => (p.name, .plain (value p.name)), s) := by
  -- no initializer changes the store, so that each runs in the store of the first
  induction backing with
  | nil => rfl
  | cons p rest ih =>
      have hsource : (Frame.read ⟨[(source, .record (recordOf names value))], none, none⟩
          source).run s = .ok (.record (recordOf names value), s) :=
        Frame.run_read_parameter s (by simp)
      have hmember := Value.run_member_record s
        (lookup_recordOf value (hnames p (List.mem_cons_self ..)))
      have hvalue : ((Expr.member (.name source) p.name).eval c calls
          ⟨[(source, .record (recordOf names value))], none, none⟩).run s
            = .ok (.plain (value p.name), s) := by
        rw [Expr.eval, Expr.eval, run_bind hsource]
        exact hmember
      have hrest := ih fun q hq => hnames q (List.mem_cons_of_mem p hq)
      rw [List.map_cons, ClassDef.runInitializers, run_bind (b := _) (t := s) rfl, run_bind hvalue,
        run_bind hrest]
      rfl

/-- The constructor makes a builder that holds the instance and its values. -/
theorem runInitializers_builder (c : ClassDef) (calls : Calls α) (rebind : TypeExpr → TypeExpr)
    (source : String) (sourceType : TypeExpr) (value : String → α) (s : Store α)
    (backing : List PropertyDecl) :
    (c.runInitializers calls [(source, .record (recordOf (backing.map (·.name)) value))]
      (sourceProperty source sourceType :: backing.map (builderProperty rebind source))).run s
      = .ok (builderState source (recordOf (backing.map (·.name)) value) (backing.map (·.name))
          value, s) := by
  set names := backing.map (·.name) with hnames
  have hsource : ((Expr.name source).eval c calls
      ⟨[(source, .record (recordOf names value))], none, none⟩).run s
        = .ok (.record (recordOf names value), s) := by
    rw [Expr.eval]
    exact Frame.run_read_parameter s (by simp)
  have hrest := runInitializers_properties c calls rebind source names value s backing
    fun p hp => List.mem_map_of_mem hp
  rw [ClassDef.runInitializers, run_bind (b := _) (t := s) rfl, run_bind hsource, run_bind hrest,
    builderState, hnames, List.map_map]
  rfl

/-! ## The block -/

/-- What a block can assign are the properties that stand for parameters, each under its name. -/
theorem property?_of_mutable {source : String} {sourceType : TypeExpr}
    {rebind : TypeExpr → TypeExpr} {backing : List PropertyDecl} {c : ClassDef} {n : String}
    (hsource : source ∉ backing.map (·.name))
    (hc : c.properties
      = sourceProperty source sourceType :: backing.map (builderProperty rebind source))
    (hn : ∃ p ∈ c.properties, p.name = n ∧ p.mutable = true) :
    n ≠ source ∧ ∃ p, c.property? n = some p ∧ p.mutable = true := by
  obtain ⟨p, hp, rfl, hmutable⟩ := hn
  rw [hc] at hp
  rcases List.mem_cons.mp hp with rfl | hp
  -- the instance itself is held by a `val`
  · cases hmutable
  · obtain ⟨q, hq, rfl⟩ := List.mem_map.mp hp
    have hne : (builderProperty rebind source q).name ≠ source := by
      intro heq
      exact hsource (heq ▸ List.mem_map_of_mem hq)
    refine ⟨hne, ?_⟩
    -- the first property of this name may be another one, but it can be assigned as well
    have hsome : (c.property? (builderProperty rebind source q).name).isSome := by
      rw [ClassDef.property?, List.find?_isSome]
      exact ⟨_, hc ▸ List.mem_cons_of_mem _ hp, by simp⟩
    obtain ⟨r, hr⟩ := Option.isSome_iff_exists.mp hsome
    refine ⟨r, hr, ?_⟩
    have hrname : r.name = (builderProperty rebind source q).name := by
      simpa using List.find?_some hr
    have hrmem := List.mem_of_find?_eq_some hr
    rw [hc] at hrmem
    rcases List.mem_cons.mp hrmem with rfl | hrmem
    · exact absurd hrname.symm hne
    · obtain ⟨q', -, rfl⟩ := List.mem_map.mp hrmem
      rfl

/-- **One assignment** changes the value of one property; the instance stays. -/
theorem assign_builder {c : ClassDef} {source n : String} {p : PropertyDef} (a : α)
    (fields : List (String × α)) (names : List String) (value : String → α) (hne : n ≠ source)
    (hp : c.property? n = some p) (hmutable : p.mutable = true) :
    (c.assign 0 n a).run [builderState source fields names value]
      = .ok ((), [builderState source fields names (Function.update value n a)]) := by
  rw [ClassDef.run_assign a hp hmutable rfl]
  refine congrArg (fun properties => Except.ok ((), [properties])) ?_
  rw [builderState, builderState, List.map_cons, if_neg hne.symm, List.map_map]
  refine congrArg _ (List.map_congr_left fun m _ => ?_)
  by_cases hm : m = n
  · subst hm
    simp
  · simp [hm]

/-- **A block** leaves every property at the value assigned last. -/
theorem assignAll_builder {c : ClassDef} {source : String} (fields : List (String × α))
    (names : List String) (assignments : List (String × α)) (value : String → α)
    (hmutable : ∀ p ∈ assignments, p.1 ≠ source ∧
      ∃ property, c.property? p.1 = some property ∧ property.mutable = true) :
    (c.assignAll 0 assignments).run [builderState source fields names value]
      = .ok ((), [builderState source fields names (assigned value assignments)]) := by
  -- each step leaves a builder of the same form, with the values updated
  induction assignments generalizing value with
  | nil => rfl
  | cons p rest ih =>
      obtain ⟨n, a⟩ := p
      obtain ⟨hne, property, hp, hvar⟩ := hmutable (n, a) (List.mem_cons_self ..)
      rw [ClassDef.assignAll, run_bind (assign_builder a fields names value hne hp hvar),
        ih (Function.update value n a) fun q hq => hmutable q (List.mem_cons_of_mem _ hq)]
      rfl

/-! ## Building -/

/-- A named argument for every property, with the value that the property has. -/
theorem evalAll_copyArguments (c : ClassDef) (calls : Calls α) (source : String)
    (fields : List (String × α)) (names : List String) (value : String → α)
    (hsource : source ∉ names) (ns : List String) (hns : ∀ n ∈ ns, n ∈ names) :
    (Argument.evalAll c calls ⟨[], some (.builder 0), none⟩
      (ns.map fun n => .named n (.name n))).run [builderState source fields names value]
      = .ok (ns.map fun n => (some n, .plain (value n)),
          [builderState source fields names value]) := by
  induction ns with
  | nil => rfl
  | cons n rest ih =>
      have hlookup := lookup_builderState fields value hsource (hns n (List.mem_cons_self ..))
      have hname : ((Expr.name n).eval c calls ⟨[], some (.builder 0), none⟩).run
          [builderState source fields names value]
            = .ok (.plain (value n), [builderState source fields names value]) := by
        rw [Expr.eval, Frame.read_of_self rfl rfl]
        exact Value.run_member_builder rfl hlookup
      rw [List.map_cons, Argument.named, Argument.evalAll, run_bind hname,
        run_bind (ih fun m hm => hns m (List.mem_cons_of_mem n hm))]
      rfl

/-- Copying an instance with all properties given leaves nothing of the old values. -/
theorem copyRecord_all {names : List String} (old value : String → α) (hnodup : names.Nodup) :
    copyRecord (recordOf names old) (names.map fun n => (some n, .plain (value n)))
      = .ok (recordOf names value) := by
  have hvalues : (names.map fun n => ((some n, .plain (value n)) : ArgumentValue α)).mapM
      (replacement (recordOf names old)) = .ok (recordOf names value) := by
    rw [mapM_eq_ok_iff, List.forall₂_map_left_iff]
    show List.Forall₂ _ names (names.map fun n => (n, value n))
    rw [List.forall₂_map_right_iff, List.forall₂_same]
    intro n hn
    have hsome : ((recordOf names old).lookup n).isSome = true := by
      rw [lookup_recordOf old hn, Option.isSome_some]
    rw [replacement]
    exact if_pos hsome
  have hkeys : (recordOf names value).map Prod.fst = names := by
    simp [recordOf, Function.comp_def]
  rw [copyRecord, hvalues]
  show (if ((recordOf names value).map Prod.fst).Nodup then _ else _ : Except Fault _) = _
  rw [hkeys, if_pos hnodup]
  refine congrArg Except.ok ?_
  rw [recordOf, recordOf, List.map_map]
  refine List.map_congr_left fun n hn => ?_
  rw [Function.comp_apply, ← recordOf]
  show (n, ((recordOf names value).lookup n).getD (old n)) = (n, value n)
  rw [lookup_recordOf value hn, Option.getD_some]

/-! ## The extension -/

section Extension

variable {b : ClassDef} {source : String} {sourceType : TypeExpr} {rebind : TypeExpr → TypeExpr}
  {backing : List PropertyDecl}

theorem HasMembers.run_construct (hb : HasMembers b source sourceType rebind backing)
    (calls : Calls α) (value : String → α) (arguments : List TypeArg) :
    (b.construct calls (.named b.name arguments false)
      [(none, .record (recordOf (backing.map (·.name)) value))]).run []
      = .ok (.builder 0, [builderState source (recordOf (backing.map (·.name)) value)
          (backing.map (·.name)) value]) := by
  have hparameters : (bindParameters (builderConstructor source sourceType).parameters
      [(none, .record (recordOf (backing.map (·.name)) value))]).run []
        = .ok ([(source, .record (recordOf (backing.map (·.name)) value))], []) := rfl
  have hname : (TypeExpr.named b.name arguments false).className? = some b.name := rfl
  rw [ClassDef.construct, hb.primaryConstructor, run_bind (run_orFault _ _ _), if_pos hname,
    run_bind hparameters, hb.properties, run_bind (runInitializers_builder b calls _ _ _ _ _ _)]
  rfl

/-- `build` copies the instance with the values that the properties have. -/
theorem HasMembers.run_build (hb : HasMembers b source sourceType rebind backing)
    (old value : String → α) (depth : Nat) (hsource : source ∉ backing.map (·.name))
    (hnodup : (backing.map (·.name)).Nodup) :
    (b.callMember (Calls.upTo b (depth + 1)) (.builder 0) buildName []).run
      [builderState source (recordOf (backing.map (·.name)) old) (backing.map (·.name)) value]
      = .ok (.record (recordOf (backing.map (·.name)) value),
          [builderState source (recordOf (backing.map (·.name)) old)
            (backing.map (·.name)) value]) := by
  set names := backing.map (·.name) with hnames
  set store := [builderState source (recordOf names old) names value] with hstore
  -- in `build` a bare name is a property of the builder: there are no parameters
  have hread : ((Expr.name source).eval b (Calls.upTo b (depth + 1))
      ⟨[], some (.builder 0), none⟩).run store = .ok (.record (recordOf names old), store) := by
    rw [Expr.eval, Frame.read_of_self rfl rfl]
    exact Value.run_member_builder rfl (lookup_builderState_source ..)
  have harguments := evalAll_copyArguments b (Calls.upTo b (depth + 1)) source
    (recordOf names old) names value hsource names fun n hn => hn
  have hcopy : ((Calls.upTo b (depth + 1)).member (.record (recordOf names old)) copyName
      (names.map fun n => (some n, .plain (value n)))).run store
        = .ok (.record (recordOf names value), store) := by
    rw [Calls.member_upTo_succ, ClassDef.callMember, if_pos rfl, copyRecord_all old value hnodup]
    rfl
  rw [ClassDef.callMember, hb.build, run_bind (run_orFault _ _ _)]
  exact ClassDef.run_runFunction (t := _) rfl
    (Statement.run_return (Expr.run_callOn hread harguments hcopy))

/-- The extension constructs a builder, runs the block on it and builds. -/
theorem HasMembers.run_extension (hb : HasMembers b source sourceType rebind backing)
    (typeVariables : List TypeVar) (arguments : List TypeArg) (extensionType : TypeExpr)
    (modifiers : List Modifier) (annotations : List AnnotationUse) (depth : Nat)
    (value : String → α) (assignments : List (String × α))
    (hsource : source ∉ backing.map (·.name)) (hnodup : (backing.map (·.name)).Nodup)
    (hmutable : ∀ p ∈ assignments, ∃ property ∈ b.properties,
      property.name = p.1 ∧ property.mutable = true) :
    (b.runFunction (Calls.upTo b (depth + 2))
      (copyExtension typeVariables (.named b.name arguments false) extensionType modifiers
        annotations)
      (some (.record (recordOf (backing.map (·.name)) value))) [(none, .block assignments)]).run []
      = .ok (.record (recordOf (backing.map (·.name)) (assigned value assignments)),
          [builderState source (recordOf (backing.map (·.name)) value) (backing.map (·.name))
            (assigned value assignments)]) := by
  set names := backing.map (·.name) with hnames
  set calls : Calls α := Calls.upTo b (depth + 2) with hcalls
  set parameters : List (String × Value α) := [(blockName, .block assignments)] with hparameters
  set frame : Frame α := ⟨parameters, some (.record (recordOf names value)), none⟩ with hframe
  set before := [builderState source (recordOf names value) names value] with hbefore
  set after := [builderState source (recordOf names value) names (assigned value assignments)]
    with hafter
  have hconstruct : ((Expr.construct (.named b.name arguments false) [.positional .self]).eval b
      calls frame).run [] = .ok (.builder 0, before) := by
    have hself : (Argument.evalAll b calls frame [.positional .self]).run []
        = .ok ([(none, .record (recordOf names value))], []) := rfl
    rw [Expr.eval, run_bind hself, hcalls, Calls.construct_upTo_succ]
    exact hb.run_construct _ value arguments
  have hassign : (b.assignAll 0 assignments).run before = .ok ((), after) :=
    assignAll_builder (recordOf names value) names assignments value fun p hp =>
      property?_of_mutable hsource hb.properties (hmutable p hp)
  have hblock : ((Expr.invoke blockName [.positional .it]).eval b calls
      { frame with it := some (.builder 0) }).run before = .ok (.unit, after) := by
    have hit : (Argument.evalAll b calls { frame with it := some (.builder 0) }
        [.positional .it]).run before = .ok ([(none, .builder 0)], before) := rfl
    rw [Expr.invoke, Expr.eval, run_bind hit]
    exact ClassDef.run_callBlock List.lookup_cons_self hassign
  -- `also` gives the builder back whatever the block does, and `build` reads the new values
  have halso := Expr.run_also hconstruct (Statement.run_expr hblock)
  have hbuild : (calls.member (.builder 0) buildName []).run after
      = .ok (.record (recordOf names (assigned value assignments)), after) := by
    rw [hcalls, Calls.member_upTo_succ]
    exact hb.run_build value (assigned value assignments) depth hsource hnodup
  exact ClassDef.run_runFunction (t := []) rfl
    (Statement.run_return (Expr.run_callOn halso rfl hbuild))

end Extension

/-! ## The main statement -/

/-- **Copying is record update.** The extension, called on an instance with a block that assigns
properties of the builder, gives the instance with every assigned property at its last value and all
others unchanged. The properties that can be assigned are those of the constructor, and after the
block the builder still holds the instance it started from. -/
theorem copyDynamic_updates {options : SynthesisOptions} {c : ClassDecl} {file : File}
    {constructor : ConstructorDecl} (h : synthesize options c = .ok file)
    (hconstructor : c.primaryConstructor? = some constructor)
    (hnodup : (constructor.parameters.map (·.name)).Nodup) (value : String → α)
    (assignments : List (String × α))
    (hmutable : ∀ p ∈ assignments, ∃ property ∈ file.builder.properties,
      property.name = p.1 ∧ property.mutable = true)
    (depth : Nat) (hdepth : 2 ≤ depth) :
    ∃ (updated : String → α) (captured : PropertyDef) (values : List (String × Value α)),
      file.callExtension depth (recordOf (constructor.parameters.map (·.name)) value) assignments
        = .ok (.record (recordOf (constructor.parameters.map (·.name)) updated), [values]) ∧
      (∀ n, n ∉ assignments.map Prod.fst → updated n = value n) ∧
      (∀ before n a after, assignments = before ++ (n, a) :: after → n ∉ after.map Prod.fst →
        updated n = a) ∧
      (assignments = [] → updated = value) ∧
      (file.builder.properties.filter (·.mutable)).map (·.name)
        = constructor.parameters.map (·.name) ∧
      file.builder.properties.head? = some captured ∧ captured.mutable = false ∧
      values.lookup captured.name
        = some (.record (recordOf (constructor.parameters.map (·.name)) value)) := by
  obtain ⟨backing, source, hbacking, hsource, rfl⟩ := synthesize_eq_ok h
  obtain ⟨constructor', hconstructor', hnames⟩ := backingProperties_names hbacking
  rw [hconstructor] at hconstructor'
  cases hconstructor'
  -- the extension calls `build`, and `build` calls `copy`: two calls, one inside the other
  obtain ⟨depth, rfl⟩ := Nat.exists_eq_add_of_le' hdepth
  rw [← hnames] at hnodup ⊢
  have hmembers := hasMembers_builderFile options c backing source
  have hrun : (builderFile options c backing source).callExtension (depth + 2)
      (recordOf (backing.map (·.name)) value) assignments
        = .ok (.record (recordOf (backing.map (·.name)) (assigned value assignments)),
            [builderState source (recordOf (backing.map (·.name)) value) (backing.map (·.name))
              (assigned value assignments)]) :=
    hmembers.run_extension _ _ _ _ _ depth value assignments (sourceName_not_mem hsource) hnodup
      hmutable
  refine ⟨assigned value assignments, _, _, hrun, fun n hn => assigned_of_not_mem hn, ?_, ?_, ?_,
    rfl, rfl, lookup_builderState_source ..⟩
  · rintro before n a after rfl hn
    exact assigned_of_last before n a hn
  · rintro rfl
    rfl
  · rw [hmembers.properties, List.filter_cons_of_neg (by simp [sourceProperty]),
      List.filter_eq_self.mpr, List.map_map]
    · rfl
    · intro p hp
      obtain ⟨q, -, rfl⟩ := List.mem_map.mp hp
      rfl

/-- A class with a property of the very name that the instance would have. -/
def taggedClass : ClassDecl :=
  let property (name : String) : PropertyDecl :=
    { flags := Flags.none, name, typeParameters := [], receiverType := none, type := .any
      getterFlags := Flags.none, setterFlags := none }
  { flags := Flags.none, name := ⟨"sample", ["Tagged"]⟩, kind := .plain, typeParameters := []
    superclass := .any, superinterfaces := []
    constructors := [⟨Flags.none.withOwnBit 0,
      [⟨Flags.none, "source", .single .any⟩, ⟨Flags.none, "count", .single .any⟩]⟩]
    properties := [property "count", property "source"], functions := []
    companionObjectName := none, enumEntries := [], nestedClassNames := []
    sealedSubclasses := [] }

theorem copyDynamic_updates_taggedClass : ∃ file values,
    synthesize ⟨none⟩ taggedClass = .ok file ∧
    file.callExtension 2 (recordOf ["source", "count"] fun _ => 0)
        [("count", 5), ("source", 7), ("count", 6)]
      = .ok (.record [("source", 7), ("count", 6)], [values]) := by
  have hbacking : backingProperties taggedClass = .ok taggedClass.properties.reverse := rfl
  obtain ⟨k, hname, -⟩ := sourceName_eq ["source", "count"]
  have h : synthesize ⟨none⟩ taggedClass
      = .ok (builderFile ⟨none⟩ taggedClass taggedClass.properties.reverse
        (NameTable.underscored sourceSuggestion k)) :=
    Except.bind_eq_ok.mpr ⟨_, hbacking, Except.bind_eq_ok.mpr ⟨_, hname, rfl⟩⟩
  have hmutable : ∀ p ∈ [("count", 5), ("source", 7), ("count", 6)],
      ∃ property ∈ (builderFile ⟨none⟩ taggedClass taggedClass.properties.reverse
        (NameTable.underscored sourceSuggestion k)).builder.properties,
        property.name = p.1 ∧ property.mutable = true := by
    intro p hp
    simp only [List.mem_cons, List.not_mem_nil, or_false] at hp
    rcases hp with rfl | rfl | rfl
    · exact ⟨_, .tail _ (.tail _ (.head _)), rfl, rfl⟩
    · exact ⟨_, .tail _ (.head _), rfl, rfl⟩
    · exact ⟨_, .tail _ (.tail _ (.head _)), rfl, rfl⟩
  obtain ⟨updated, captured, values, hrun, -, hlast, -⟩ :=
    copyDynamic_updates h rfl (by decide) (fun _ => 0) _ hmutable 2 (Nat.le_refl 2)
  have hsource : updated "source" = 7 :=
    hlast [("count", 5)] "source" 7 [("count", 6)] rfl (by decide)
  have hcount : updated "count" = 6 :=
    hlast [("count", 5), ("source", 7)] "count" 6 [] rfl (by decide)
  have hrecord : recordOf ["source", "count"] updated = [("source", 7), ("count", 6)] := by
    rw [recordOf, List.map_cons, List.map_cons, List.map_nil, hsource, hcount]
  exact ⟨_, values, h, hrecord ▸ hrun⟩

end KotlinMeta.CopyBuilder
