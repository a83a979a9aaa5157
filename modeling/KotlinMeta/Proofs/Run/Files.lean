import KotlinMeta.Proofs.ClassName.Spelling
import KotlinMeta.Proofs.CopyBuilder.Backing
import KotlinMeta.Proofs.Decoding.Parts
import KotlinMeta.Proofs.Entries
import KotlinMeta.Proofs.Run.Process

/-! # Where the files of a run end up

The path of a file depends on the `ClassName.place` of its class only: the segments of the package
that are not empty, and the innermost simple name. Two classes that differ in it get two paths
(`ClassName.filePath_builderName`), and what stands at a path after a run is the last file that was
put there (`FileTree.lookup_putAll`). So no file of a run replaces another as long as the places
differ (`process_keeps_files`). Nested classes with the same innermost name share a place, and the
later file is the one that stays (`item_files_share_a_path`).
-/

set_option autoImplicit false

namespace KotlinMeta

open CopyBuilder (builderName synthesize_eq_ok)

/-! ## Files in a tree -/

namespace FileTree

theorem lookup_replaced (tree : FileTree) (p text path : String) :
    List.lookup path (tree.map fun e => if e.1 == p then (p, text) else e) =
      if path = p then (tree.lookup p).map fun _ => text else tree.lookup path := by
  induction tree with
  | nil => simp
  | cons e rest ih =>
      obtain ⟨q, t⟩ := e
      rw [List.map_cons]
      by_cases hq : q = p
      · rw [if_pos (by simpa using hq), lookup_cons, lookup_cons, lookup_cons, hq, if_pos rfl, ih]
        by_cases hpath : path = p
        · simp [hpath]
        · simp [hpath]
      · rw [if_neg (by simpa using hq), lookup_cons, lookup_cons, lookup_cons,
          if_neg (Ne.symm hq), ih]
        by_cases hpath : path = p
        · simp [hpath, Ne.symm hq]
        · rw [if_neg hpath, if_neg hpath]

theorem any_eq_isSome_lookup (tree : FileTree) (p : String) :
    tree.any (·.1 == p) = (tree.lookup p).isSome := by
  induction tree with
  | nil => rfl
  | cons e rest ih =>
      obtain ⟨q, t⟩ := e
      rw [List.any_cons, lookup_cons, ih]
      by_cases hq : q = p
      · simp [hq]
      · rw [if_neg (Ne.symm hq), beq_false_of_ne hq, Bool.false_or]

/-- A file put at a path stands there, and all others stay. -/
theorem lookup_put (tree : FileTree) (p text path : String) :
    (tree.put p text).lookup path = if path = p then some text else tree.lookup path := by
  rw [put, any_eq_isSome_lookup]
  cases hold : tree.lookup p with
  | some old =>
      rw [if_pos Option.isSome_some, lookup_replaced, hold]
      rfl
  | none =>
      rw [if_neg (by simp), List.lookup_append, lookup_cons]
      by_cases hpath : path = p
      · simp [hpath, hold]
      · simp [hpath]

/-- Puts files one after another. -/
def putAll (tree : FileTree) (files : List (String × String)) : FileTree :=
  files.foldl (fun tree file => tree.put file.1 file.2) tree

/-- **What stands at a path is the last file that was put there.** -/
theorem lookup_putAll (tree : FileTree) (files : List (String × String)) (path : String) :
    (tree.putAll files).lookup path = (files.reverse.lookup path).or (tree.lookup path) := by
  induction files generalizing tree with
  | nil => rfl
  | cons file rest ih =>
      obtain ⟨p, text⟩ := file
      show ((tree.put p text).putAll rest).lookup path = _
      rw [ih, lookup_put, List.reverse_cons, List.lookup_append, lookup_cons, Option.or_assoc]
      by_cases hpath : path = p
      · simp [hpath]
      · simp [hpath]

end FileTree

/-! ## Paths of classes -/

theorem pathText_eq_join (segments : List String) : pathText segments = Text.join '/' segments := by
  have hjoined : ∀ ss : List (List Char), ['/'].intercalate ss = Text.joined '/' ss := by
    intro ss
    induction ss with
    | nil => rfl
    | cons s rest ih =>
        cases rest with
        | nil => simp [Text.joined]
        | cons t rest =>
            rw [List.intercalate_cons_cons, ih, Text.joined, List.append_assoc]
            rfl
  rw [← String.toList_inj, pathText, String.toList_intercalate, Text.join]
  exact (hjoined _).trans String.toList_ofList.symm

/-- Texts without slashes can be read off the path that they make up. -/
theorem pathText_inj {xs ys : List String} (hxs : ∀ x ∈ xs, '/' ∉ x.toList)
    (hys : ∀ y ∈ ys, '/' ∉ y.toList) (hx : xs ≠ []) (hy : ys ≠ []) :
    pathText xs = pathText ys ↔ xs = ys := by
  rw [pathText_eq_join, pathText_eq_join]
  exact Text.join_inj hx hxs hy hys

namespace ClassName

/-- The segments of the package that are not empty. -/
def packageSegments (c : ClassName) : List String :=
  (Text.split '.' c.packageName).filter (· ≠ "")

/-- The path of a file that is named for a class. -/
def filePath (c : ClassName) : String :=
  pathText (c.packageSegments ++ [c.simpleName ++ ".json"])

/-- What the path of the file with the builder of a class depends on. -/
def place (c : ClassName) : List String × String := (c.packageSegments, c.simpleName)

theorem Recoverable.not_mem_packageSegments {c : ClassName} (h : c.Recoverable) :
    ∀ s ∈ c.packageSegments, '/' ∉ s.toList := by
  obtain ⟨name, rfl⟩ := h
  intro s hs hmem
  have hpiece := (List.mem_filter.mp hs).1
  exact (separable_ofMetadata name).package (Text.mem_of_mem_split (by decide) hpiece hmem)

theorem Recoverable.not_mem_simpleName {c : ClassName} (h : c.Recoverable) :
    '/' ∉ c.simpleName.toList := by
  obtain ⟨name, rfl⟩ := h
  have hne := simpleNames_ofMetadata_ne_nil name
  rw [simpleName, List.getLastD_eq_getLast?, List.getLast?_eq_some_getLast hne]
  exact ((separable_ofMetadata name).names _ (List.getLast_mem hne)).2

/-- Nor does the name of the file with the builder hold a slash. -/
theorem Recoverable.not_mem_builderEntry {c : ClassName} (h : c.Recoverable) :
    '/' ∉ (c.simpleName ++ "DynamicBuilder" ++ ".json").toList := by
  have hend : '/' ∉ ("DynamicBuilder" ++ ".json").toList := by decide +kernel
  rw [String.append_assoc, String.toList_append, List.mem_append]
  exact not_or.mpr ⟨h.not_mem_simpleName, hend⟩

/-- **Two builders get the same path exactly if their classes have the same place.** -/
theorem filePath_builderName {c c' : ClassName} (h : c.Recoverable) (h' : c'.Recoverable) :
    (builderName c).filePath = (builderName c').filePath ↔ c.place = c'.place := by
  have hsegments : ∀ d : ClassName, d.Recoverable →
      ∀ s ∈ d.packageSegments ++ [d.simpleName ++ "DynamicBuilder" ++ ".json"],
        '/' ∉ s.toList := by
    intro d hd s hs
    rcases List.mem_append.mp hs with hs | hs
    · exact hd.not_mem_packageSegments s hs
    · rw [List.mem_singleton.mp hs]
      exact hd.not_mem_builderEntry
  show pathText (c.packageSegments ++ [c.simpleName ++ "DynamicBuilder" ++ ".json"]) =
    pathText (c'.packageSegments ++ [c'.simpleName ++ "DynamicBuilder" ++ ".json"]) ↔ _
  rw [pathText_inj (hsegments c h) (hsegments c' h') (by simp) (by simp)]
  constructor
  · intro heq
    obtain ⟨hpackage, hname⟩ := List.append_inj' heq rfl
    have hname : c.simpleName = c'.simpleName := by simpa using hname
    rw [place, place, hpackage, hname]
  · intro heq
    obtain ⟨hpackage, hname⟩ := Prod.mk.inj heq
    rw [hpackage, hname]

end ClassName

/-! ## Runs -/

/-- The path of a file in the tree. -/
def Source.File.path (f : Source.File) : String := pathText f.pathSegments

/-- A file as it is put in the tree. -/
def Source.File.entry (f : Source.File) : String × String := (f.path, f.toJson.pretty)

theorem Sink.directory_eq_ok {root : String} {file : Source.File} {tree next : FileTree}
    (h : Sink.directory root file tree = .ok next) :
    next = tree.put file.path file.toJson.pretty := by
  unfold Sink.directory at h
  split at h
  · cases h
  · split at h
    · cases h
    · cases h
      rfl

/-- A sink that takes all files has put them in the tree one after another. -/
theorem Sink.takeAll_directory {root : String} {files : List Source.File} {tree final : FileTree}
    (h : (Sink.directory root).takeAll files tree = .ok final) :
    final = tree.putAll (files.map Source.File.entry) := by
  induction files generalizing tree with
  | nil =>
      cases h
      rfl
  | cons file rest ih =>
      obtain ⟨next, hnext, h⟩ := Except.bind_eq_ok.mp h
      rw [ih h, Sink.directory_eq_ok hnext]
      rfl

section
variable {reader : PayloadReader} {settings : Settings}

theorem Element.recoverable_of_decode {options : DecodeOptions} {e : Element} {c : ClassDecl}
    (h : e.decode reader options = .ok c) : c.name.Recoverable := by
  unfold Element.decode at h
  split at h
  · cases h
  · split at h
    · split at h
      · rename_i metadata _
        cases metadata with
        | classFile node => exact ⟨node.name, (ClassNode.name_of_decode h).symm⟩
        | fileFacade => cases h
        | syntheticClass => cases h
        | multiFileClassFacade parts => cases h
        | multiFileClassPart facade => cases h
        | unknown number => cases h
      · cases h
    · cases h

/-- The file of an element is named for the builder of its class. -/
theorem Element.path_of_outcome {e : Element} {file : Source.File}
    (h : e.outcome reader settings = .ok file) :
    ∃ c, e.decode reader settings.decodeOptions = .ok c ∧
      file.path = (builderName c.name).filePath := by
  unfold Element.outcome at h
  cases hdecode : e.decode reader settings.decodeOptions with
  | error cause =>
      simp only [hdecode] at h
      cases h
  | ok c =>
      simp only [hdecode] at h
      split at h
      · cases h
      · rename_i file' hsynthesize
        cases h
        obtain ⟨backing, source, -, -, rfl⟩ := synthesize_eq_ok hsynthesize
        exact ⟨c, rfl, rfl⟩

/-- The files of elements whose classes have different places go to different paths. -/
theorem nodup_paths {elements : List Element}
    (hplaces : elements.Pairwise fun e e' => ∀ c c',
      e.decode reader settings.decodeOptions = .ok c →
        e'.decode reader settings.decodeOptions = .ok c' → c.name.place ≠ c'.name.place) :
    ((filesIn (elements.map (Element.outcome reader settings))).map Source.File.path).Nodup := by
  rw [filesIn, List.filterMap_map, List.Nodup, List.pairwise_map]
  refine hplaces.filterMap _ fun e e' hdiffer file hfile file' hfile' heq => ?_
  have houtcome : ∀ (e : Element) file, (e.outcome reader settings).toOption = some file →
      e.outcome reader settings = .ok file := by
    intro e file h
    cases hresult : e.outcome reader settings with
    | ok file' =>
        rw [hresult] at h
        cases h
        rfl
    | error d =>
        rw [hresult] at h
        cases h
  obtain ⟨c, hc, hpath⟩ := Element.path_of_outcome (houtcome e file hfile)
  obtain ⟨c', hc', hpath'⟩ := Element.path_of_outcome (houtcome e' file' hfile')
  rw [hpath, hpath', ClassName.filePath_builderName (Element.recoverable_of_decode hc)
    (Element.recoverable_of_decode hc')] at heq
  exact hdiffer c c' hc hc' heq

end

/-- **Where classes have different places, no file replaces another.** Then each builder in the
report has a file of its own, which holds what was generated for its element. The path of a file
says no more and no less than the place of the class. -/
theorem process_keeps_files :
    (∀ name name' : String, (builderName (.ofMetadata name)).filePath =
        (builderName (.ofMetadata name')).filePath ↔
      (ClassName.ofMetadata name).place = (ClassName.ofMetadata name').place) ∧
    ∀ (reader : PayloadReader) (settings : Settings) (root : String) (elements : List Element)
      (tree final : FileTree) (report : Report),
      (elements.Pairwise fun e e' => ∀ c c',
        e.decode reader settings.decodeOptions = .ok c →
          e'.decode reader settings.decodeOptions = .ok c' → c.name.place ≠ c'.name.place) →
      process reader settings (Sink.directory root) elements tree = (final, .ok report) →
      let files := filesIn (elements.map (Element.outcome reader settings))
      (files.map Source.File.path).Nodup ∧
        report.generated = files.map (·.builder.name.qualified) ∧
        ∀ file ∈ files, final.lookup file.path = some file.toJson.pretty := by
  refine ⟨fun name name' => ClassName.filePath_builderName ⟨name, rfl⟩ ⟨name', rfl⟩, ?_⟩
  intro reader settings root elements tree final report hplaces hrun files
  have hpaths : (files.map Source.File.path).Nodup := nodup_paths hplaces
  obtain ⟨htake, rfl⟩ := process_eq_ok_iff.mp hrun
  refine ⟨hpaths, rfl, fun file hfile => ?_⟩
  have hkeys : ((files.map Source.File.entry).reverse.map Prod.fst).Nodup := by
    rw [List.map_reverse, List.nodup_reverse, List.map_map]
    exact hpaths
  have hentry : file.entry ∈ (files.map Source.File.entry).reverse :=
    List.mem_reverse.mpr (List.mem_map_of_mem hfile)
  rw [Sink.takeAll_directory htake, FileTree.lookup_putAll,
    (lookup_eq_some_iff_mem hkeys).mpr hentry]
  rfl

/-- Reads headers that hold the name of a class with one property. -/
def namedReader : PayloadReader := fun header =>
  match header.data1 with
  | [name] => .ok (.classFile { tokenClass with name })
  | _ => .error (.corrupt "no name")

def namedElement (name : String) : Element :=
  ⟨name, some { Header.of 1 [1, 9, 0] with data1 := [name] }⟩

/-- The classes `Order.Item` and `Item` of a package have different names and the same place: a run
over both reports two builders and leaves one file, which is not that of `Order.Item`. -/
theorem item_files_share_a_path :
    ∃ c c' file file' final report,
      (namedElement "io/acme/Order.Item").decode namedReader ⟨false⟩ = .ok c ∧
      (namedElement "io/acme/Item").decode namedReader ⟨false⟩ = .ok c' ∧
      c.name = ⟨"io.acme", ["Order", "Item"]⟩ ∧ c'.name = ⟨"io.acme", ["Item"]⟩ ∧
      (namedElement "io/acme/Order.Item").outcome namedReader .default = .ok file ∧
      (namedElement "io/acme/Item").outcome namedReader .default = .ok file' ∧
      process namedReader .default (Sink.directory "/out")
        [namedElement "io/acme/Order.Item", namedElement "io/acme/Item"] [] =
          (final, .ok report) ∧
      report.generated = ["io.acme.ItemDynamicBuilder", "io.acme.ItemDynamicBuilder"] ∧
      file.path = file'.path ∧ final.map Prod.fst = ["io/acme/ItemDynamicBuilder.json"] ∧
      final.lookup file.path ≠ some file.toJson.pretty :=
  ⟨_, _, _, _, _, _, rfl, rfl, by decide +kernel, by decide +kernel, rfl, rfl, rfl,
    by decide +kernel, by decide +kernel, by decide +kernel, by decide +kernel⟩

/-- A nested class, the class around it, and one with its innermost name in another package. -/
def orderElements : List Element :=
  [namedElement "io/acme/Order.Item", namedElement "io/acme/Order", namedElement "io/Item"]

theorem process_keeps_files_orders :
    ∃ final report,
      process namedReader .default (Sink.directory "/out") orderElements [] =
          (final, .ok report) ∧
      report.generated =
        ["io.acme.ItemDynamicBuilder", "io.acme.OrderDynamicBuilder", "io.ItemDynamicBuilder"] ∧
      ∀ file ∈ filesIn (orderElements.map (Element.outcome namedReader .default)),
        final.lookup file.path = some file.toJson.pretty := by
  obtain ⟨final, report, hrun⟩ : ∃ final report,
      process namedReader .default (Sink.directory "/out") orderElements [] =
        (final, .ok report) := ⟨_, _, rfl⟩
  have hplaces : orderElements.Pairwise fun e e' =>
      ∀ c c', e.decode namedReader Settings.default.decodeOptions = .ok c →
        e'.decode namedReader Settings.default.decodeOptions = .ok c' →
          c.name.place ≠ c'.name.place := by
    simp only [orderElements, List.pairwise_cons, List.mem_cons, List.not_mem_nil, or_false,
      forall_eq_or_imp, forall_eq, false_imp_iff, implies_true, List.Pairwise.nil, and_true]
    refine ⟨⟨?_, ?_⟩, ?_⟩ <;>
      · intro c c' hc hc'
        cases hc
        cases hc'
        decide +kernel
  obtain ⟨-, hgenerated, hfiles⟩ :=
    process_keeps_files.2 namedReader .default "/out" _ [] final report hplaces hrun
  exact ⟨final, report, hrun, hgenerated.trans (by decide +kernel), hfiles⟩

end KotlinMeta
