import KotlinMeta.Proofs.CopyBuilder.Backing
import KotlinMeta.Proofs.Identifier
import KotlinMeta.Proofs.NameTable.Fresh

/-! # The names of a copy builder

The instance that is copied is called `source`, followed by as many underscores as it takes to
differ from the properties. Its name is found in every case (`sourceName_eq`), and it differs from
every property, also from one whose name is no identifier or is a keyword. So the properties of a
builder have different names where the parameters of the constructor have (`synthesize_names`).
-/

set_option autoImplicit false

namespace KotlinMeta

/-! ## The name of the instance that is copied -/

namespace CopyBuilder

open Source

theorem isWord_source : Identifier.IsWord sourceSuggestion := by
  have htext : sourceSuggestion.toList = ['s', 'o', 'u', 'r', 'c', 'e'] := by decide +kernel
  have hlower : ∀ d ∈ ['s', 'o', 'u', 'r', 'c', 'e'], 0x61 ≤ d.toNat ∧ d.toNat ≤ 0x7A := by
    simp
  constructor <;> rw [htext]
  · exact ⟨'s', rfl, Or.inl (Identifier.isAlphabetic_of_lower (hlower 's' (.head _)))⟩
  · exact fun d hd => Or.inl (Identifier.isAlphabetic_of_lower (hlower d hd))

theorem ofText_source (k : Nat) :
    Identifier.ofText (NameTable.underscored sourceSuggestion k)
      = NameTable.underscored sourceSuggestion k :=
  (isWord_source.append_underscores (NameTable.toList_underscored sourceSuggestion k)).ofText_eq

/-- **The name of the instance is found and is free of the names of the properties.** -/
theorem sourceName_eq (propertyNames : List String) :
    ∃ k, sourceName propertyNames = .ok (NameTable.underscored sourceSuggestion k) ∧
      NameTable.underscored sourceSuggestion k ∉ propertyNames := by
  set names := NameTable.empty.allocateAll propertyNames with hnames
  obtain ⟨k, hk, hfree, -⟩ := names.allocate_first_free sourceSuggestion
  rw [show Identifier.ofText sourceSuggestion = sourceSuggestion from ofText_source 0] at hk hfree
  refine ⟨k, ?_, ?_⟩
  · have htags : names.get? sourceSuggestion = none := by
      rw [NameTable.get?, hnames, NameTable.tags_allocateAll]
      rfl
    rw [sourceName, ← hnames, NameTable.allocateTagged, htags]
    simp only [Option.isSome_none, Bool.false_eq_true, if_false]
    exact congrArg Except.ok hk
  · -- a property of this name would have made the table hold it
    intro hmem
    have htaken := NameTable.isTaken_allocateAll NameTable.empty hmem
    rw [ofText_source, ← hnames, hfree] at htaken
    cases htaken

theorem sourceName_not_mem {propertyNames : List String} {source : String}
    (h : sourceName propertyNames = .ok source) : source ∉ propertyNames := by
  obtain ⟨k, hk, hfree⟩ := sourceName_eq propertyNames
  rw [hk] at h
  cases h
  exact hfree

/-- Whatever underscores follow it, `source` is no keyword. -/
theorem isKeyword_source (k : Nat) :
    Identifier.isKeyword (NameTable.underscored sourceSuggestion k) = false := by
  cases k with
  | zero => decide +kernel
  | succ k => exact NameTable.isKeyword_underscored_succ sourceSuggestion k

/-! ## The names of the properties -/

/-- The instance comes first and the properties behind the constructor follow under their own
names. -/
theorem names_builderFile (options : SynthesisOptions) (c : ClassDecl)
    (backing : List PropertyDecl) (source : String) :
    (builderFile options c backing source).builder.properties.map (·.name) =
      source :: backing.map (·.name) := by
  have hproperties : ∀ rebind : TypeExpr → TypeExpr,
      (backing.map (builderProperty rebind source)).map (·.name) = backing.map (·.name) := by
    intro rebind
    rw [List.map_map]
    rfl
  exact congrArg (source :: ·) (hproperties _)

/-- **The name of the instance collides with no property.** It is `source` with underscores after
it, and no keyword, whatever the properties are called: they keep names that are no identifiers,
that are keywords, that become the same identifier or that occur twice. So the properties of the
builder have different names if and only if the parameters of the constructor have. -/
theorem synthesize_names {options : SynthesisOptions} {c : ClassDecl} {file : File}
    (h : synthesize options c = .ok file) :
    ∃ (source : String) (k : Nat) (backing : List PropertyDecl) (constructor : ConstructorDecl),
      backingProperties c = .ok backing ∧ c.primaryConstructor? = some constructor ∧
      backing.map (·.name) = constructor.parameters.map (·.name) ∧
      (file.builder.primaryConstructor.map fun f => f.parameters.map (·.name)) = some [source] ∧
      (file.builder.properties.head?.map (·.initializer)) = some (some (.name source)) ∧
      file.builder.properties.map (·.name) = source :: backing.map (·.name) ∧
      source = NameTable.underscored "source" k ∧
      Identifier.isKeyword source = false ∧
      (∀ p ∈ backing, p.name ≠ source) ∧
      ((file.builder.properties.map (·.name)).Nodup ↔
        (constructor.parameters.map (·.name)).Nodup) := by
  obtain ⟨backing, source, hbacking, hsource, rfl⟩ := synthesize_eq_ok h
  obtain ⟨constructor, hconstructor, hnames⟩ := backingProperties_names hbacking
  have hfree : source ∉ backing.map (·.name) := sourceName_not_mem hsource
  obtain ⟨k, hk, -⟩ := sourceName_eq (backing.map (·.name))
  rw [hk] at hsource
  cases hsource
  have hproperties := names_builderFile options c backing (NameTable.underscored sourceSuggestion k)
  refine ⟨NameTable.underscored sourceSuggestion k, k, backing, constructor, hbacking, hconstructor,
    hnames, rfl, rfl, hproperties, rfl, isKeyword_source k, ?_, ?_⟩
  · intro p hp hname
    exact hfree (hname ▸ List.mem_map_of_mem (f := fun p => p.name) hp)
  · rw [hproperties, List.nodup_cons, hnames]
    rw [hnames] at hfree
    exact and_iff_right hfree

/-- A class with a parameter and a property for each of these names. -/
def plainRecord (names : List String) : ClassDecl :=
  { flags := Flags.none, name := ⟨"sample", ["Plain"]⟩, kind := .plain, typeParameters := []
    superclass := .any, superinterfaces := []
    constructors := [⟨Flags.none.withOwnBit 0, names.map fun name =>
      ⟨Flags.none, name, .single .any⟩⟩]
    properties := names.map fun name =>
      { flags := Flags.none, name, typeParameters := [], receiverType := none, type := .any
        getterFlags := Flags.none, setterFlags := none }
    functions := [], companionObjectName := none, enumEntries := [], nestedClassNames := []
    sealedSubclasses := [] }

/-- `source!` takes `source_`, the identifier made from it, so that two underscores are needed. -/
theorem synthesize_names_plainRecord : ∃ file,
    synthesize ⟨none⟩ (plainRecord ["source!", "val", "source", "1"]) = .ok file ∧
      file.builder.properties.map (·.name) = ["source__", "source!", "val", "source", "1"] ∧
      (file.builder.properties.map (·.name)).Nodup := by
  have hsource : sourceName ["source!", "val", "source", "1"] = .ok "source__" := by
    decide +kernel
  have hfile : synthesize ⟨none⟩ (plainRecord ["source!", "val", "source", "1"]) =
      .ok (builderFile ⟨none⟩ (plainRecord ["source!", "val", "source", "1"])
        (plainRecord ["source!", "val", "source", "1"]).properties "source__") :=
    Except.bind_eq_ok.mpr ⟨_, rfl, Except.bind_eq_ok.mpr ⟨_, hsource, rfl⟩⟩
  obtain ⟨source, k, backing, constructor, hbacking, hconstructor, -, -, -, -, -, -, -, hnodup⟩ :=
    synthesize_names hfile
  refine ⟨_, hfile, rfl, hnodup.mpr ?_⟩
  cases hconstructor
  decide

end CopyBuilder

end KotlinMeta
