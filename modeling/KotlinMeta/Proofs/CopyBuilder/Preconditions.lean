import KotlinMeta.Proofs.CopyBuilder.Names

/-! # When there is a copy builder

A class needs a primary constructor, and each parameter of it a property that peers of the class
can read. `Defect` names the first thing in a class that is wrong, and `synthesize_preconditions`
says that nothing else makes synthesis fail and what a builder is made of when it succeeds. The
options do not matter for any of this: they add annotations to the file.
-/

set_option autoImplicit false

namespace KotlinMeta.CopyBuilder

open Source

/-! ## Preconditions -/

/-- The first property with the name of the parameter can be read. -/
def Backed (c : ClassDecl) (p : Parameter) : Prop :=
  ∃ q, IsFirst p.name c.properties q ∧ q.isReadable = true

/-- What is wrong with the property behind a parameter. -/
inductive Unbacked (c : ClassDecl) (p : Parameter) : SynthesisError → Prop
  | missing (unnamed : ∀ q ∈ c.properties, q.name ≠ p.name) :
      Unbacked c p (.noBackingProperty c.name.qualified p.name)
  | hidden {q : PropertyDecl} (first : IsFirst p.name c.properties q)
      (unreadable : q.isReadable = false) :
      Unbacked c p (.hiddenProperty c.name.qualified p.name q.flags.visibility)

/-- The first thing that is wrong with a class. -/
inductive Defect (c : ClassDecl) : SynthesisError → Prop
  | noPrimary (secondary : ∀ k ∈ c.constructors, k.isPrimary = false) :
      Defect c (.noPrimaryConstructor c.name.qualified)
  | parameter {constructor : ConstructorDecl} {before after : List Parameter} {p : Parameter}
      {e : SynthesisError} (primary : c.primaryConstructor? = some constructor)
      (split : constructor.parameters = before ++ p :: after) (first : ∀ q ∈ before, Backed c q)
      (unbacked : Unbacked c p e) : Defect c e

/-- A primary constructor all of whose parameters have a property that can be read. -/
def Copyable (c : ClassDecl) : Prop :=
  ∃ constructor, c.primaryConstructor? = some constructor ∧
    ∀ p ∈ constructor.parameters, Backed c p

theorem primaryConstructor?_eq_none_iff {c : ClassDecl} :
    c.primaryConstructor? = none ↔ ∀ k ∈ c.constructors, k.isPrimary = false := by
  simp [ClassDecl.primaryConstructor?]

theorem decides_backingProperty (c : ClassDecl) (p : Parameter) :
    Decides (Backed c p) (Unbacked c p) (backingProperty c p) := by
  cases hfind : c.property? p.name with
  | none =>
      have hunnamed := property?_eq_none_iff.mp hfind
      have hnone : ∀ q, ¬ IsFirst p.name c.properties q := fun q hq =>
        hunnamed q hq.mem hq.name_eq
      rw [backingProperty, hfind]
      refine (Decides.error _).congr ⟨False.elim, ?_⟩ fun e => ?_
      · rintro ⟨q, hq, -⟩
        exact hnone q hq
      · constructor
        · rintro rfl
          exact .missing hunnamed
        · intro h
          cases h with
          | missing => rfl
          | hidden first => exact absurd first (hnone _)
  | some q =>
      have hfirst := property?_eq_some_iff.mp hfind
      rw [backingProperty_of_isFirst hfirst]
      by_cases hq : q.isReadable = true
      · rw [if_pos hq]
        refine (Decides.ok _).congr ⟨fun _ => ⟨q, hfirst, hq⟩, fun _ => trivial⟩ fun e => ?_
        refine ⟨False.elim, fun h => ?_⟩
        cases h with
        | missing unnamed => exact unnamed q hfirst.mem hfirst.name_eq
        | hidden first unreadable =>
            rw [← hfirst.unique first, hq] at unreadable
            cases unreadable
      · rw [if_neg hq, hfirst.name_eq]
        refine (Decides.error _).congr ⟨False.elim, ?_⟩ fun e => ?_
        · rintro ⟨q', hfirst', hq'⟩
          rw [hfirst.unique hfirst'] at hq
          exact hq hq'
        · constructor
          · rintro rfl
            exact .hidden hfirst (by simpa using hq)
          · intro h
            cases h with
            | missing unnamed => exact absurd hfirst.name_eq (unnamed q hfirst.mem)
            | hidden first => rw [hfirst.unique first]

theorem decides_backingProperties (c : ClassDecl) :
    Decides (Copyable c) (Defect c) (backingProperties c) := by
  rw [backingProperties]
  cases hprimary : c.primaryConstructor? with
  | none =>
      refine (Decides.error _).congr ⟨False.elim, ?_⟩ fun e => ?_
      · rintro ⟨constructor, h, -⟩
        rw [hprimary] at h
        cases h
      · constructor
        · rintro rfl
          exact .noPrimary (primaryConstructor?_eq_none_iff.mp hprimary)
        · intro h
          cases h with
          | noPrimary => rfl
          | parameter primary =>
              rw [hprimary] at primary
              cases primary
  | some constructor =>
      have hall : Decides (∀ p ∈ constructor.parameters, Backed c p)
          (fun e => ∃ before p after, constructor.parameters = before ++ p :: after ∧
            (∀ q ∈ before, Backed c q) ∧ Unbacked c p e)
          (constructor.parameters.mapM (backingProperty c)) :=
        .mapM fun p _ => decides_backingProperty c p
      refine hall.congr ?_ fun e => ?_
      · simp [Copyable, hprimary]
      · constructor
        · rintro ⟨before, p, after, split, first, unbacked⟩
          exact .parameter hprimary split first unbacked
        · intro h
          cases h with
          | noPrimary secondary =>
              rw [primaryConstructor?_eq_none_iff.mpr secondary] at hprimary
              cases hprimary
          | parameter primary split first unbacked =>
              rw [hprimary] at primary
              cases primary
              exact ⟨_, _, _, split, first, unbacked⟩

/-- The name of the instance is always found, so that only the properties decide. -/
theorem decides_synthesize (options : SynthesisOptions) (c : ClassDecl) :
    Decides (Copyable c) (Defect c) (synthesize options c) := by
  have hfile : ∀ backing : List PropertyDecl,
      Decides True (fun _ => False)
        (sourceName (backing.map (·.name)) >>= fun source =>
          .ok (builderFile options c backing source)) := by
    intro backing
    obtain ⟨k, hk, -⟩ := sourceName_eq (backing.map (·.name))
    rw [hk]
    exact .ok _
  refine ((decides_backingProperties c).bind fun backing _ => hfile backing).congr ?_ fun e => ?_
  · exact and_iff_left trivial
  · simp

/-! ## What a builder is made of -/

/-- A file whose builder takes the instance `source`, has one property that can be assigned for each
parameter and copies the instance with all of them. -/
structure CopiesAll (parameters : List Parameter) (source : String) (file : File) : Prop where
  allocated : sourceName (parameters.map (·.name)) = .ok source
  takes : (file.builder.primaryConstructor.map fun f => f.parameters.map (·.name)) = some [source]
  properties : ∃ captured mirrored, file.builder.properties = captured :: mirrored ∧
    captured.name = source ∧ captured.mutable = false ∧
    captured.initializer = some (.name source) ∧
    List.Forall₂ (fun p q => q.name = p.name ∧ q.mutable = true ∧
      q.initializer = some (.member (.name source) p.name)) parameters mirrored
  build : ∃ f, file.builder.functions = [f] ∧ f.name = buildName ∧
    f.body = [.return (.callOn (.name source) "copy"
      (parameters.map fun p => .named p.name (.name p.name)))]

theorem copiesAll_of_synthesize {options : SynthesisOptions} {c : ClassDecl} {file : File}
    (h : synthesize options c = .ok file) :
    ∃ constructor source, c.primaryConstructor? = some constructor ∧
      CopiesAll constructor.parameters source file := by
  obtain ⟨backing, source, hbacking, hsource, rfl⟩ := synthesize_eq_ok h
  obtain ⟨constructor, hconstructor, hall⟩ := backingProperties_eq_ok hbacking
  have hnames : backing.map (·.name) = constructor.parameters.map (·.name) := by
    obtain ⟨constructor', hconstructor', hnames⟩ := backingProperties_names hbacking
    rw [hconstructor] at hconstructor'
    cases hconstructor'
    exact hnames
  refine ⟨constructor, source, hconstructor, hnames ▸ hsource, rfl, ?_, ?_⟩
  · refine ⟨_, _, rfl, rfl, rfl, rfl, ?_⟩
    rw [List.forall₂_map_right_iff]
    refine hall.imp fun p q hq => ⟨hq.2, rfl, ?_⟩
    rw [← hq.2]
    rfl
  · refine ⟨_, rfl, rfl, ?_⟩
    have hcopied : (backing.map (·.name)).map (fun name => Argument.named name (.name name)) =
        constructor.parameters.map fun p => .named p.name (.name p.name) := by
      rw [hnames, List.map_map]
      rfl
    rw [← hcopied]
    rfl

/-! ## Options -/

/-- The file with these annotations on its two declarations. -/
def annotated (annotations : List AnnotationUse) (file : File) : File :=
  { file with
    builder := { file.builder with annotations }
    extension := { file.extension with annotations } }

/-- The annotations that the options ask for. -/
def annotationsOf (options : SynthesisOptions) : List AnnotationUse :=
  options.generated.toList.map GeneratedMark.use

/-- With other options there are other annotations, or the same failure. -/
theorem synthesize_annotated (options options' : SynthesisOptions) (c : ClassDecl) :
    synthesize options' c =
      (synthesize options c).map (annotated (annotationsOf options')) := by
  have hfile : ∀ backing source, builderFile options' c backing source =
      annotated (annotationsOf options') (builderFile options c backing source) :=
    fun _ _ => rfl
  rw [synthesize, synthesize]
  cases backingProperties c with
  | error e => rfl
  | ok backing =>
      obtain ⟨k, hk, -⟩ := sourceName_eq (backing.map (·.name))
      show (sourceName (backing.map (·.name)) >>= _) =
        Except.map _ (sourceName (backing.map (·.name)) >>= _)
      rw [hk]
      exact congrArg Except.ok (hfile backing _)

/-! ## The main statement -/

/-- **Synthesis fails on its preconditions only**, with the first one that is not met: there is no
primary constructor, or a parameter has no property, or its first property cannot be read. It fails
with nothing else. Otherwise the builder has a property and copies a value for each parameter, in
order. The options decide on the annotations, which the builder and the extension share, and on
nothing else. -/
theorem synthesize_preconditions (options : SynthesisOptions) (c : ClassDecl) :
    ((∃ name, synthesize options c = .error (.noPrimaryConstructor name)) ↔
        ∀ k ∈ c.constructors, k.isPrimary = false) ∧
      (∀ e, synthesize options c = .error e ↔ Defect c e) ∧
      ((∃ file, synthesize options c = .ok file) ↔ Copyable c) ∧
      (∀ tag, synthesize options c ≠ .error (.tagInUse tag)) ∧
      (∀ found, synthesize options c ≠ .error (.unknownMark found)) ∧
      (∀ file, synthesize options c = .ok file → ∃ constructor source,
        c.primaryConstructor? = some constructor ∧ CopiesAll constructor.parameters source file ∧
          file.builder.annotations = annotationsOf options ∧
          file.extension.annotations = annotationsOf options) ∧
      ∀ options', synthesize options' c =
        (synthesize options c).map (annotated (annotationsOf options')) := by
  obtain ⟨hok, herror⟩ := decides_synthesize options c
  refine ⟨?_, herror, hok, ?_, ?_, ?_, fun options' => synthesize_annotated options options' c⟩
  · constructor
    · rintro ⟨name, h⟩
      cases (herror _).mp h with
      | noPrimary secondary => exact secondary
      | parameter _ _ _ unbacked => cases unbacked
    · intro secondary
      exact ⟨_, (herror _).mpr (.noPrimary secondary)⟩
  · intro tag h
    cases (herror _).mp h with
    | parameter _ _ _ unbacked => cases unbacked
  · intro found h
    cases (herror _).mp h with
    | parameter _ _ _ unbacked => cases unbacked
  · intro file h
    obtain ⟨constructor, source, hconstructor, hcopies⟩ := copiesAll_of_synthesize h
    obtain ⟨backing, source', -, -, rfl⟩ := synthesize_eq_ok h
    exact ⟨constructor, source, hconstructor, hcopies, rfl, rfl⟩

/-- A class with a parameter that has no property, after one whose first property is private. -/
def faultyRecord : ClassDecl :=
  { plainRecord ["first", "hidden", "missing"] with
    properties := (plainRecord ["first"]).properties ++
      (plainRecord ["hidden"]).properties.map (fun p => { p with flags := ⟨4⟩ }) ++
      (plainRecord ["hidden"]).properties }

/-- The private property is to blame. With the two parameters before it public, the annotation that
is asked for is on the builder and on the extension. -/
theorem synthesize_preconditions_faultyRecord :
    synthesize ⟨none⟩ faultyRecord =
        .error (.hiddenProperty "sample.Plain" "hidden" .privateAccess) ∧
      ∃ file, synthesize ⟨some .legacy⟩ (plainRecord ["first", "hidden"]) = .ok file ∧
        file.builder.annotations = [GeneratedMark.legacy.use] ∧
        file.extension.annotations = [GeneratedMark.legacy.use] := by
  obtain ⟨-, herror, -⟩ := synthesize_preconditions ⟨none⟩ faultyRecord
  obtain ⟨-, -, hok, -, -, hfile, -⟩ :=
    synthesize_preconditions ⟨some .legacy⟩ (plainRecord ["first", "hidden"])
  constructor
  · have hfirst : ∀ q ∈ [(⟨Flags.none, "first", .single .any⟩ : Parameter)],
        Backed faultyRecord q := by
      intro q hq
      rw [List.mem_singleton.mp hq]
      exact (decides_backingProperty _ _).ok_iff.mp ⟨_, rfl⟩
    have hprivate : IsFirst "hidden" faultyRecord.properties _ :=
      ⟨(plainRecord ["first"]).properties, _, rfl, rfl, by decide⟩
    have hhidden : Unbacked faultyRecord ⟨Flags.none, "hidden", .single .any⟩ _ :=
      .hidden hprivate rfl
    have hname : faultyRecord.name.qualified = "sample.Plain" := by decide
    rw [hname] at hhidden
    exact (herror _).mpr (.parameter rfl rfl hfirst hhidden)
  · have hcopyable : Copyable (plainRecord ["first", "hidden"]) := by
      refine ⟨_, rfl, fun p hp => ?_⟩
      rcases List.mem_pair.mp hp with rfl | rfl
      · exact (decides_backingProperty _ _).ok_iff.mp ⟨_, rfl⟩
      · exact (decides_backingProperty _ _).ok_iff.mp ⟨_, rfl⟩
    obtain ⟨file, h⟩ := hok.mpr hcopyable
    obtain ⟨constructor, source, -, -, hbuilder, hextension⟩ := hfile file h
    exact ⟨file, h, hbuilder, hextension⟩

end KotlinMeta.CopyBuilder
