import KotlinMeta.ClassName
import KotlinMeta.Proofs.Text.Segments

/-! # Class names and their spelling in metadata

`ClassName.metadata` writes a class name as metadata do. A class name whose parts hold none of the
separators is read back from this spelling, and no other class name is read from metadata
(`ClassName.read_metadata_iff`). A name in metadata is written back unless its package holds a point
or is empty, and its qualified name differs from it in the separators only
(`ClassName.metadata_spelling`). A qualified name says less, since it does not tell where the
package ends (`ClassName.qualified_eq_iff`).
-/

set_option autoImplicit false

namespace KotlinMeta.ClassName

/-! ## Spelling -/

/-- The name as metadata write it. -/
def metadata (c : ClassName) : String :=
  let names := Text.join '.' c.simpleNames
  if c.packageName = "" then names
  else
    String.ofList (c.packageName.toList.map fun ch => if ch = '.' then '/' else ch) ++ "/" ++ names

/-- Some metadata name the class. -/
def Recoverable (c : ClassName) : Prop := ∃ name, ofMetadata name = c

theorem metadata_of_no_package (simpleNames : List String) :
    metadata ⟨"", simpleNames⟩ = Text.join '.' simpleNames := by
  rw [metadata, if_pos rfl]

theorem metadata_of_package {package : String} (h : package ≠ "") (simpleNames : List String) :
    metadata ⟨package, simpleNames⟩ =
      (package.map fun ch => if ch = '.' then '/' else ch) ++ "/" ++
        Text.join '.' simpleNames := by
  rw [metadata, if_neg h, ← String.toList_map, String.ofList_toList]

theorem toList_append_slash (package classes : String) :
    (package ++ "/" ++ classes).toList = package.toList ++ '/' :: classes.toList := by
  rw [String.toList_append, String.toList_append, List.append_assoc]
  rfl

/-- A name has no slash, or a last one. -/
theorem slash_cases (name : String) :
    '/' ∉ name.toList ∨
      ∃ package classes, name = package ++ "/" ++ classes ∧ '/' ∉ classes.toList := by
  cases hsplit : Text.splitLast '/' name.toList with
  | none => exact Or.inl (Text.splitLast_eq_none_iff.mp hsplit)
  | some parts =>
      obtain ⟨package, classes⟩ := parts
      obtain ⟨hlist, hclasses⟩ := Text.eq_of_splitLast hsplit
      refine Or.inr ⟨String.ofList package, String.ofList classes, ?_, ?_⟩
      · rw [← String.toList_inj, toList_append_slash, String.toList_ofList, String.toList_ofList,
          hlist]
      · rwa [String.toList_ofList]

/-- The last slash is in one place only. -/
theorem slash_inj {package classes package' classes' : String} (h : '/' ∉ classes.toList)
    (h' : '/' ∉ classes'.toList) (heq : package ++ "/" ++ classes = package' ++ "/" ++ classes') :
    package = package' ∧ classes = classes' := by
  have hsplit := Text.splitLast_append package.toList h
  rw [← toList_append_slash, heq, toList_append_slash, Text.splitLast_append _ h'] at hsplit
  obtain ⟨hpackage, hclasses⟩ := Prod.mk.inj (Option.some_inj.mp hsplit)
  exact ⟨String.toList_inj.mp hpackage.symm, String.toList_inj.mp hclasses.symm⟩

theorem ofMetadata_of_not_mem {name : String} (h : '/' ∉ name.toList) :
    ofMetadata name = ⟨"", Text.split '.' name⟩ := by
  rw [ofMetadata, Text.splitLast_eq_none_iff.mpr h]

theorem ofMetadata_append (package : String) {classes : String} (h : '/' ∉ classes.toList) :
    ofMetadata (package ++ "/" ++ classes) =
      ⟨package.map fun c => if c = '/' then '.' else c, Text.split '.' classes⟩ := by
  rw [ofMetadata, toList_append_slash, Text.splitLast_append _ h]
  show (⟨String.ofList (package.toList.map fun c => if c = '/' then '.' else c), _⟩ : ClassName) = _
  rw [← String.toList_map, String.ofList_toList]
  rfl

/-! ## Names that can be read -/

/-- The parts of the name hold none of the separators, except for the points in the package. -/
structure Separable (c : ClassName) : Prop where
  package : '/' ∉ c.packageName.toList
  nonempty : c.simpleNames ≠ []
  names : ∀ n ∈ c.simpleNames, '.' ∉ n.toList ∧ '/' ∉ n.toList

theorem separable_ofMetadata (name : String) : (ofMetadata name).Separable := by
  have hpieces : ∀ classes : String, '/' ∉ classes.toList →
      ∀ n ∈ Text.split '.' classes, '.' ∉ n.toList ∧ '/' ∉ n.toList := fun classes hclasses n hn =>
    ⟨Text.not_mem_of_mem_split hn, fun h => hclasses (Text.mem_of_mem_split (by decide) hn h)⟩
  rcases slash_cases name with hname | ⟨package, classes, rfl, hclasses⟩
  · rw [ofMetadata_of_not_mem hname]
    exact ⟨by simp, Text.split_ne_nil '.' name, hpieces name hname⟩
  · rw [ofMetadata_append package hclasses]
    refine ⟨?_, Text.split_ne_nil '.' classes, hpieces classes hclasses⟩
    -- the slashes of the package have become points
    show '/' ∉ (package.map _).toList
    exact Text.not_mem_map_replace (by decide) package

theorem simpleNames_ofMetadata_ne_nil (name : String) : (ofMetadata name).simpleNames ≠ [] :=
  (separable_ofMetadata name).nonempty

/-- Points in metadata part simple names and are in none of them. -/
theorem not_mem_simpleNames_ofMetadata (name : String) :
    ∀ n ∈ (ofMetadata name).simpleNames, '.' ∉ n.toList :=
  fun n hn => ((separable_ofMetadata name).names n hn).1

theorem Separable.read_metadata {c : ClassName} (h : c.Separable) : ofMetadata c.metadata = c := by
  obtain ⟨package, simpleNames⟩ := c
  have hslash : '/' ∉ (Text.join '.' simpleNames).toList := by
    rw [Text.mem_join_iff (by decide)]
    rintro ⟨n, hn, hmem⟩
    exact (h.names n hn).2 hmem
  have hnames : Text.split '.' (Text.join '.' simpleNames) = simpleNames :=
    Text.split_join h.nonempty fun n hn => (h.names n hn).1
  by_cases hpackage : package = ""
  · rw [hpackage, metadata_of_no_package, ofMetadata_of_not_mem hslash, hnames]
  · rw [metadata_of_package hpackage, ofMetadata_append _ hslash, hnames, Text.map_replace_back,
      (Text.map_replace_eq_self_iff (by decide)).mpr h.package]

/-- **The class names that are read back from their spelling** are those whose parts hold no
separators. -/
theorem read_metadata_iff (c : ClassName) : ofMetadata c.metadata = c ↔ c.Separable :=
  ⟨fun h => h ▸ separable_ofMetadata c.metadata, Separable.read_metadata⟩

/-- A class name that can be read from metadata is read from its own spelling. -/
theorem Recoverable.read_metadata {c : ClassName} (h : c.Recoverable) :
    ofMetadata c.metadata = c := by
  obtain ⟨name, rfl⟩ := h
  exact (separable_ofMetadata name).read_metadata

/-! ## Qualified names -/

theorem qualified_of_no_package (simpleNames : List String) :
    qualified ⟨"", simpleNames⟩ = Text.join '.' simpleNames := by
  rw [qualified, if_pos rfl]

theorem qualified_of_package {package : String} (h : package ≠ "") (simpleNames : List String) :
    qualified ⟨package, simpleNames⟩ = package ++ "." ++ Text.join '.' simpleNames := by
  rw [qualified, if_neg h]

/-- The class has this simple name and is in the package, or it is nested in a class of no package
that is called like the package. -/
def WrittenAs (package simple : String) (c : ClassName) : Prop :=
  c = ⟨package, [simple]⟩ ∨ c = ⟨"", [package, simple]⟩

/-- **A qualified name does not tell a package from a class.** Two names with a point between them
are the qualified name of a class in a package or of a class nested in another, and of none else. -/
theorem qualified_eq_iff {c : ClassName} (hne : c.simpleNames ≠ [])
    (hfree : ∀ n ∈ c.simpleNames, '.' ∉ n.toList) {package simple : String} (hnamed : package ≠ "")
    (hpackage : '.' ∉ package.toList) (hsimple : '.' ∉ simple.toList) :
    c.qualified = package ++ "." ++ simple ↔ c.WrittenAs package simple := by
  have hone : Text.join '.' [simple] = simple := String.ofList_toList
  have htwo : Text.join '.' [package, simple] = package ++ "." ++ simple := by
    rw [← String.toList_inj]
    simp [Text.join, Text.joined]
  obtain ⟨packageName, simpleNames⟩ := c
  constructor
  · intro h
    rw [qualified] at h
    split at h
    · rename_i hempty
      rw [← htwo, Text.join_inj hne hfree (by simp) (by simp [hpackage, hsimple])] at h
      exact Or.inr (congrArg₂ ClassName.mk hempty h)
    · rename_i hpresent
      -- the first point is the one after the package
      have hlist : package.toList ++ '.' :: simple.toList =
          packageName.toList ++ '.' :: (Text.join '.' simpleNames).toList := by
        rw [← String.toList_inj] at h
        simpa using h.symm
      rw [List.append_cons_inj_of_notMem hpackage hsimple] at hlist
      obtain ⟨hfirst, -, hrest⟩ := hlist
      rw [String.toList_inj] at hfirst hrest
      rw [← hone, eq_comm, Text.join_inj hne hfree (by simp) (by simp [hsimple])] at hrest
      exact Or.inl (congrArg₂ ClassName.mk hfirst.symm hrest)
  · rintro (heq | heq)
    · rw [heq, qualified_of_package hnamed, hone]
    · rw [heq, qualified_of_no_package, htwo]

/-- The classes that metadata name with such a qualified name. -/
theorem qualified_ofMetadata_eq_iff (name : String) {package simple : String}
    (hnamed : package ≠ "") (hpackage : '.' ∉ package.toList) (hsimple : '.' ∉ simple.toList) :
    (ofMetadata name).qualified = package ++ "." ++ simple ↔
      (ofMetadata name).WrittenAs package simple :=
  qualified_eq_iff (simpleNames_ofMetadata_ne_nil name) (not_mem_simpleNames_ofMetadata name) hnamed
    hpackage hsimple

/-! ## Names in metadata -/

/-- The only slash is the first character of the name. -/
def SlashInFront (name : String) : Prop :=
  ∃ classes, name = "/" ++ classes ∧ '/' ∉ classes.toList

/-- A point comes before the last slash of the name. -/
def PointInPackage (name : String) : Prop :=
  ∃ package classes, name = package ++ "/" ++ classes ∧ '/' ∉ classes.toList ∧
    '.' ∈ package.toList

section
variable {package classes : String} (h : '/' ∉ classes.toList)
include h

theorem slashInFront_iff : SlashInFront (package ++ "/" ++ classes) ↔ package = "" := by
  constructor
  · rintro ⟨classes', heq, h'⟩
    have hslash : package ++ "/" ++ classes = "" ++ "/" ++ classes' := by simpa using heq
    exact (slash_inj h h' hslash).1
  · rintro rfl
    exact ⟨classes, by simp, h⟩

theorem pointInPackage_iff :
    PointInPackage (package ++ "/" ++ classes) ↔ '.' ∈ package.toList := by
  constructor
  · rintro ⟨package', classes', heq, h', hpoint⟩
    rwa [(slash_inj h h' heq).1]
  · intro hpoint
    exact ⟨package, classes, rfl, h, hpoint⟩

end

theorem mem_of_slashInFront {name : String} (h : SlashInFront name) : '/' ∈ name.toList := by
  obtain ⟨classes, rfl, -⟩ := h
  simp

theorem mem_of_pointInPackage {name : String} (h : PointInPackage name) : '/' ∈ name.toList := by
  obtain ⟨package, classes, rfl, -⟩ := h
  simp

/-- Without the slash in front, a text is another one. -/
theorem ne_append_of_ne_empty {front : String} (h : front ≠ "") (classes : String) :
    classes ≠ front ++ classes := by
  intro heq
  have hlength := congrArg String.length heq
  have hfront : front.length ≠ 0 := by simpa using h
  rw [String.length_append] at hlength
  omega

/-- **The qualified name has points for the slashes**, unless the package is empty and the slash
after it is dropped. -/
theorem qualified_ofMetadata_iff (name : String) :
    (ofMetadata name).qualified = name.map (fun c => if c = '/' then '.' else c) ↔
      ¬ SlashInFront name := by
  rcases slash_cases name with hname | ⟨package, classes, rfl, hclasses⟩
  · have hfront : ¬ SlashInFront name := fun h => hname (mem_of_slashInFront h)
    rw [ofMetadata_of_not_mem hname, qualified_of_no_package, Text.join_split,
      (Text.map_replace_eq_self_iff (by decide)).mpr hname]
    exact iff_of_true rfl hfront
  · have hslash : "/".map (fun c => if c = '/' then '.' else c) = "." := by decide +kernel
    rw [slashInFront_iff hclasses, ofMetadata_append package hclasses, Text.map_append,
      Text.map_append, hslash, (Text.map_replace_eq_self_iff (by decide)).mpr hclasses]
    by_cases hpackage : package = ""
    · rw [hpackage, Text.map_empty, qualified_of_no_package, Text.join_split, String.empty_append]
      exact iff_of_false (ne_append_of_ne_empty (by decide) classes) (not_not_intro rfl)
    · rw [qualified_of_package (mt String.map_eq_empty.mp hpackage), Text.join_split]
      exact iff_of_true rfl hpackage

/-- **A name in metadata is the spelling of its class**, unless its package is empty and the slash
after it is dropped, or a point of its package is read as a slash. -/
theorem metadata_ofMetadata_iff (name : String) :
    (ofMetadata name).metadata = name ↔ ¬ SlashInFront name ∧ ¬ PointInPackage name := by
  rcases slash_cases name with hname | ⟨package, classes, rfl, hclasses⟩
  · have hfront : ¬ SlashInFront name := fun h => hname (mem_of_slashInFront h)
    have hpoint : ¬ PointInPackage name := fun h => hname (mem_of_pointInPackage h)
    rw [ofMetadata_of_not_mem hname, metadata_of_no_package, Text.join_split]
    exact iff_of_true rfl ⟨hfront, hpoint⟩
  · rw [slashInFront_iff hclasses, pointInPackage_iff hclasses, ofMetadata_append package hclasses]
    by_cases hpackage : package = ""
    · rw [hpackage, Text.map_empty, metadata_of_no_package, Text.join_split, String.empty_append]
      exact iff_of_false (ne_append_of_ne_empty (by decide) classes) fun h => h.1 rfl
    · rw [metadata_of_package (mt String.map_eq_empty.mp hpackage), Text.join_split,
        Text.map_replace_back, String.append_left_inj, String.append_left_inj,
        Text.map_replace_eq_self_iff (by decide), and_iff_right hpackage]

/-- **Names of classes can be written to metadata and read, and read and written.** The first holds
exactly of the class names whose parts hold no separators. The second holds of all names in
metadata but those with an empty package in front of a slash and those with a point in the package;
among the others, different names belong to different classes. A qualified name has points where the
name in metadata has slashes. -/
theorem metadata_spelling :
    (∀ c : ClassName, ofMetadata c.metadata = c ↔ c.Separable) ∧
    (∀ name, (ofMetadata name).qualified = name.map (fun c => if c = '/' then '.' else c) ↔
      ¬ SlashInFront name) ∧
    (∀ name, (ofMetadata name).metadata = name ↔ ¬ SlashInFront name ∧ ¬ PointInPackage name) ∧
    ∀ name name', ¬ SlashInFront name → ¬ PointInPackage name → ¬ SlashInFront name' →
      ¬ PointInPackage name' → ofMetadata name = ofMetadata name' → name = name' := by
  refine ⟨read_metadata_iff, qualified_ofMetadata_iff, metadata_ofMetadata_iff, ?_⟩
  intro name name' hfront hpoint hfront' hpoint' heq
  calc name
      = (ofMetadata name).metadata := ((metadata_ofMetadata_iff name).mpr ⟨hfront, hpoint⟩).symm
    _ = (ofMetadata name').metadata := congrArg metadata heq
    _ = name' := (metadata_ofMetadata_iff name').mpr ⟨hfront', hpoint'⟩

/-- Empty segments and empty simple names are kept, and no other name is read as this class. -/
theorem metadata_spelling_emptySegments :
    ofMetadata "io//Map..Entry" = ⟨"io.", ["Map", "", "Entry"]⟩ ∧
    metadata ⟨"io.", ["Map", "", "Entry"]⟩ = "io//Map..Entry" ∧
    qualified ⟨"io.", ["Map", "", "Entry"]⟩ = "io..Map..Entry" ∧
    ∀ name, ¬ SlashInFront name → ¬ PointInPackage name →
      ofMetadata name = ⟨"io.", ["Map", "", "Entry"]⟩ → name = "io//Map..Entry" := by
  have hname : "io//Map..Entry" = "io/" ++ "/" ++ "Map..Entry" := by decide +kernel
  have hread : ofMetadata "io//Map..Entry" = ⟨"io.", ["Map", "", "Entry"]⟩ := by decide +kernel
  have hfront : ¬ SlashInFront "io//Map..Entry" := by
    rw [hname, slashInFront_iff (by decide)]
    decide
  have hpoint : ¬ PointInPackage "io//Map..Entry" := by
    rw [hname, pointInPackage_iff (by decide)]
    decide
  obtain ⟨-, hqualified, hwritten, hinj⟩ := metadata_spelling
  refine ⟨hread, ?_, ?_, fun name h h' heq => hinj _ _ h h' hfront hpoint (heq.trans hread.symm)⟩
  · rw [← hread]
    exact (hwritten _).mpr ⟨hfront, hpoint⟩
  · rw [← hread, (hqualified _).mpr hfront]
    decide +kernel

end KotlinMeta.ClassName
