import KotlinMeta.Proofs.Run.Files

/-! # Files stay below the root

A path that is made longer by ordinary names has its old steps and one new step for each of them
(`Path.components_extend`). The names on the way to a generated file are ordinary, whatever the
metadata call the class (`GeneratedFor.isEntry`): slashes do not come through, points part the
package and end up in no directory. So each file lies below the root; and as its own name has a point
in it, no other file needs a directory in its place (`paths_below_root`).
-/

set_option autoImplicit false

namespace KotlinMeta

open CopyBuilder (synthesize_eq_ok)

/-! ## Longer paths -/

namespace Path

/-- The name of one file or directory, which is none of the names with a meaning of their own. -/
structure IsEntry (name : String) : Prop where
  ne_empty : name ≠ ""
  no_slash : '/' ∉ name.toList
  ne_current : name ≠ "."
  ne_parent : name ≠ ".."

theorem step?_empty : step? "" = none := if_pos (Or.inl rfl)

theorem IsEntry.step?_eq {name : String} (h : IsEntry name) : step? name = some (.entry name) := by
  have hskip : ¬ (name = "" ∨ name = ".") := not_or.mpr ⟨h.ne_empty, h.ne_current⟩
  rw [step?, if_neg hskip, if_neg h.ne_parent]

theorem entry_injective : Function.Injective Component.entry := fun _ _ h => by cases h; rfl

/-- A path starts where it did if its first character and its first name stay. -/
theorem start_congr {path longer : String}
    (hfirst : longer.toList.head? = path.toList.head?)
    (hname : (Text.split '/' longer).head? = (Text.split '/' path).head?) :
    start longer = start path := by
  rw [start, start, hfirst, hname]

theorem needsSlash_eq_false {path : String} (h : needsSlash path = false) :
    path = "" ∨ ∃ before, path = before ++ "/" := by
  rw [needsSlash] at h
  split at h
  · rename_i c hlast
    obtain ⟨before, hlist⟩ := List.getLast?_eq_some_iff.mp hlast
    have hc : c = '/' := by simpa using h
    refine Or.inr ⟨String.ofList before, ?_⟩
    rw [← String.toList_inj, String.toList_append, String.toList_ofList, hlist, hc]
    rfl
  · rename_i hlast
    exact Or.inl (String.toList_eq_nil_iff.mp (List.getLast?_eq_none_iff.mp hlast))

/-- A name behind the names of a path is one more step. It does not matter whether the path ends in a
slash, which makes an empty name. -/
theorem components_concat {path longer name : String} {names : List String} (h : IsEntry name)
    (hfirst : longer.toList.head? = path.toList.head?) (hnames : names ≠ [])
    (hpath : Text.split '/' path = names ∨ Text.split '/' path = names ++ [""])
    (hlonger : Text.split '/' longer = names ++ [name]) :
    components longer = components path ++ [.entry name] := by
  have hhead : (Text.split '/' path).head? = names.head? := by
    rcases hpath with hpath | hpath <;> rw [hpath]
    exact List.head?_append_of_ne_nil names hnames
  have hsteps : (Text.split '/' path).filterMap step? = names.filterMap step? := by
    rcases hpath with hpath | hpath <;> rw [hpath]
    rw [List.filterMap_append, List.filterMap_cons_none step?_empty, List.filterMap_nil,
      List.append_nil]
  have hstart : start longer = start path := by
    refine start_congr hfirst ?_
    rw [hlonger, hhead]
    exact List.head?_append_of_ne_nil names hnames
  rw [components, components, hstart, hsteps, hlonger, List.filterMap_append,
    List.filterMap_cons_some h.step?_eq, List.filterMap_nil, List.append_assoc]

/-- **An ordinary name adds one step to a path.** -/
theorem components_push {name : String} (h : IsEntry name) (path : String) :
    components (push path name) = components path ++ [.entry name] := by
  have hname : Text.split '/' name = [name] := Text.split_of_not_mem h.no_slash
  have hrelative : name.toList.head? ≠ some '/' :=
    fun hhead => h.no_slash (List.mem_of_mem_head? hhead)
  rw [push, if_neg hrelative]
  by_cases hslash : needsSlash path = true
  · rw [if_pos hslash]
    have hne : path ≠ "" := by
      rintro rfl
      cases hslash
    refine components_concat h ?_ (Text.split_ne_nil '/' path) (Or.inl rfl) ?_
    · rw [String.append_assoc, String.toList_append]
      exact List.head?_append_of_ne_nil _ (mt String.toList_eq_nil_iff.mp hne)
    · rw [Text.split_append path name (by simp), hname]
  · rw [if_neg hslash]
    rcases needsSlash_eq_false (by simpa using hslash) with rfl | ⟨before, rfl⟩
    · -- the path is the name alone
      have hstart : start name = [] := by
        rw [start, if_neg hrelative, hname]
        exact if_neg (by simpa using h.ne_current)
      rw [String.empty_append, components, hstart, hname, List.filterMap_cons_some h.step?_eq]
      rfl
    · -- the slash is there already, and an empty name after it
      have hempty : Text.split '/' "" = [""] := rfl
      refine components_concat h ?_ (Text.split_ne_nil '/' before) (Or.inr ?_) ?_
      · have hlist : (before ++ "/" ++ name).toList = (before ++ "/").toList ++ name.toList :=
          String.toList_append
        rw [hlist]
        exact List.head?_append_of_ne_nil _ (by simp)
      · rw [Text.split_append before "" (by simp), hempty]
      · rw [Text.split_append before name (by simp), hname]

theorem components_extend {names : List String} (h : ∀ n ∈ names, IsEntry n) (path : String) :
    components (extend path names) = components path ++ names.map .entry := by
  induction names generalizing path with
  | nil => simp [extend]
  | cons name rest ih =>
      obtain ⟨hname, hrest⟩ := List.forall_mem_cons.mp h
      show components (extend (push path name) rest) = _
      rw [ih hrest, components_push hname, List.append_assoc]
      rfl

example : components (extend "./out//" ["io", "acme"]) =
    [.current, .entry "out", .entry "io", .entry "acme"] := by decide +kernel

/-- A path of ordinary names only has these as its steps. -/
theorem components_pathText {names : List String} (h : ∀ n ∈ names, IsEntry n) (hne : names ≠ []) :
    components (pathText names) = names.map .entry := by
  have hnames : Text.split '/' (pathText names) = names := by
    rw [pathText_eq_join]
    exact Text.split_join hne fun n hn => (h n hn).no_slash
  obtain ⟨first, rest, rfl⟩ := List.exists_cons_of_ne_nil hne
  have hfirst := h first List.mem_cons_self
  have hrelative : (pathText (first :: rest)).toList.head? ≠ some '/' := by
    intro hhead
    obtain ⟨after, hlist⟩ := List.head?_eq_some_iff.mp hhead
    -- in front of the slash there would be an empty name
    rw [Text.split_append "" (String.ofList after) (by simpa using hlist)] at hnames
    exact hfirst.ne_empty (List.head_eq_of_cons_eq hnames).symm
  have hstart : start (pathText (first :: rest)) = [] := by
    rw [start, if_neg hrelative, hnames]
    exact if_neg (by simpa using hfirst.ne_current)
  have hsteps : ∀ names : List String, (∀ n ∈ names, IsEntry n) →
      names.filterMap step? = names.map .entry := by
    intro names hentries
    rw [← List.filterMap_eq_map]
    exact List.filterMap_congr fun n hn => (hentries n hn).step?_eq
  rw [components, hstart, hnames, hsteps _ h]
  rfl

end Path

/-! ## Files of metadata -/

namespace Source.File

/-- The file is generated for a class that metadata call by this name. -/
def GeneratedFor (f : File) (name : String) : Prop :=
  ∃ (node : ClassNode) (options : DecodeOptions) (marks : SynthesisOptions) (c : ClassDecl),
    node.name = name ∧ node.decode options = .ok c ∧ CopyBuilder.synthesize marks c = .ok f

/-- Directories hold no points: these part the segments of the package. -/
theorem not_mem_directories {f : File} {segment : String} (h : segment ∈ f.directories) :
    '.' ∉ segment.toList :=
  Text.not_mem_of_mem_split (List.mem_filter.mp h).1

/-- No directory has the name of a file. -/
theorem entryName_not_mem_directories (f f' : File) : f.entryName ∉ f'.directories := by
  intro hmem
  have hpoint : '.' ∈ f.entryName.toList := by
    rw [entryName, String.toList_append]
    exact List.mem_append_right _ (by decide)
  exact not_mem_directories hmem hpoint

namespace GeneratedFor

variable {f : File} {name : String} (h : f.GeneratedFor name)
include h

theorem names_eq :
    f.directories = (ClassName.ofMetadata name).packageSegments ∧
      f.fileName = (ClassName.ofMetadata name).simpleName ++ "DynamicBuilder" := by
  obtain ⟨node, options, marks, c, rfl, hdecode, hsynthesize⟩ := h
  obtain ⟨backing, source, -, -, rfl⟩ := synthesize_eq_ok hsynthesize
  rw [← ClassNode.name_of_decode hdecode]
  exact ⟨rfl, rfl⟩

theorem isEntry_of_mem_directories {segment : String} (hsegment : segment ∈ f.directories) :
    Path.IsEntry segment := by
  have hrecoverable : (ClassName.ofMetadata name).Recoverable := ⟨name, rfl⟩
  have hpoint := not_mem_directories hsegment
  have hne : segment ≠ "" := by simpa using (List.mem_filter.mp hsegment).2
  rw [h.names_eq.1] at hsegment
  refine ⟨hne, hrecoverable.not_mem_packageSegments segment hsegment, ?_, ?_⟩
  · rintro rfl
    exact hpoint (by decide)
  · rintro rfl
    exact hpoint (by decide)

theorem isEntry_entryName : Path.IsEntry f.entryName := by
  have hrecoverable : (ClassName.ofMetadata name).Recoverable := ⟨name, rfl⟩
  have hsuffix : 'j' ∈ f.entryName.toList := by
    rw [entryName, String.toList_append]
    exact List.mem_append_right _ (by decide)
  have hne : ∀ text : String, 'j' ∉ text.toList → f.entryName ≠ text := by
    rintro text htext rfl
    exact htext hsuffix
  refine ⟨hne "" (by decide), ?_, hne "." (by decide), hne ".." (by decide)⟩
  rw [entryName, h.names_eq.2]
  exact hrecoverable.not_mem_builderEntry

/-- **All names on the way to the file are ordinary.** -/
theorem isEntry : ∀ segment ∈ f.pathSegments, Path.IsEntry segment := by
  intro segment hsegment
  rcases List.mem_append.mp hsegment with hsegment | hsegment
  · exact h.isEntry_of_mem_directories hsegment
  · rw [List.mem_singleton.mp hsegment]
    exact h.isEntry_entryName

theorem components_pathIn (root : String) :
    Path.components (f.pathIn root) = Path.components root ++ f.pathSegments.map .entry :=
  Path.components_extend h.isEntry root

/-- The directories of a file do not lead to a file. -/
theorem components_extend_ne {name' : String} {f' : File} (h' : f'.GeneratedFor name')
    (root : String) {directories : List String} (hbegins : directories <+: f'.directories) :
    Path.components (Path.extend root directories) ≠ Path.components (f.pathIn root) := by
  have hentries : ∀ n ∈ directories, Path.IsEntry n :=
    fun n hn => h'.isEntry_of_mem_directories (hbegins.subset hn)
  rw [Path.components_extend hentries, h.components_pathIn, Ne, List.append_cancel_left_eq,
    (List.map_injective_iff.mpr Path.entry_injective).eq_iff]
  rintro rfl
  exact entryName_not_mem_directories f f' (hbegins.subset (by simp [pathSegments]))

theorem components_pathIn_eq_iff {name' : String} {f' : File} (h' : f'.GeneratedFor name')
    (root : String) :
    Path.components (f.pathIn root) = Path.components (f'.pathIn root) ↔
      f.fileName = f'.fileName ∧ f.directories = f'.directories := by
  rw [h.components_pathIn, h'.components_pathIn, List.append_cancel_left_eq,
    (List.map_injective_iff.mpr Path.entry_injective).eq_iff, pathSegments, pathSegments,
    List.append_singleton_inj, entryName, entryName, String.append_left_inj, and_comm]

/-- The path of a file is in front of no other. -/
theorem eq_of_components_prefix {name' : String} {f' : File} (h' : f'.GeneratedFor name')
    (root : String)
    (hbegins : Path.components (f.pathIn root) <+: Path.components (f'.pathIn root)) :
    Path.components (f.pathIn root) = Path.components (f'.pathIn root) := by
  rw [h.components_pathIn, h'.components_pathIn, List.prefix_append_right_inj,
    List.prefix_map_iff_of_injective Path.entry_injective] at hbegins
  rcases List.prefix_concat_iff.mp hbegins with heq | hdirectories
  · rw [h.components_pathIn, h'.components_pathIn, heq, pathSegments]
  · exact absurd (hdirectories.subset (by simp [pathSegments])) (entryName_not_mem_directories f f')

end GeneratedFor

end Source.File

/-- **Files stay below the root, and no file is where another needs a directory.** Whatever metadata
call a class, its file is found from the root through the segments of the package that are not empty
and a name of its own, all of them ordinary; this is also the path at which a sink puts it. Two files
have the same path exactly if they agree in both, and then only is the path of one a part of the path
of the other; so no directory of a file has the path of a file. -/
theorem paths_below_root (root : String) {name : String} {f : Source.File}
    (h : f.GeneratedFor name) :
    let steps := (ClassName.ofMetadata name).packageSegments ++ [f.fileName ++ ".json"]
    (∀ step ∈ steps, Path.IsEntry step) ∧
    Path.components (f.pathIn root) = Path.components root ++ steps.map .entry ∧
    Path.components f.path = steps.map .entry ∧
    ∀ {name' : String} {f' : Source.File}, f'.GeneratedFor name' →
      (Path.components (f.pathIn root) = Path.components (f'.pathIn root) ↔
        f.fileName = f'.fileName ∧
          (ClassName.ofMetadata name).packageSegments =
            (ClassName.ofMetadata name').packageSegments) ∧
      (Path.components (f.pathIn root) <+: Path.components (f'.pathIn root) →
        Path.components (f.pathIn root) = Path.components (f'.pathIn root)) ∧
      ∀ directories, directories <+: f'.directories →
        Path.components (Path.extend root directories) ≠ Path.components (f.pathIn root) := by
  intro steps
  have hsteps : f.pathSegments = steps := by
    rw [Source.File.pathSegments, h.names_eq.1]
    rfl
  rw [← hsteps, ← h.names_eq.1]
  refine ⟨h.isEntry, h.components_pathIn root, Path.components_pathText h.isEntry ?_, ?_⟩
  · simp [Source.File.pathSegments]
  · intro name' f' h'
    rw [← h'.names_eq.1]
    exact ⟨h.components_pathIn_eq_iff h' root, h.eq_of_components_prefix h' root,
      fun _ hbegins => h.components_extend_ne h' root hbegins⟩

/-- The file of the class is generated for this name. -/
theorem generatedFor_named (name : String) {c : ClassDecl} {f : Source.File}
    (hdecode : ClassNode.decode ⟨false⟩ { tokenClass with name } = .ok c)
    (hsynthesize : CopyBuilder.synthesize ⟨none⟩ c = .ok f) : f.GeneratedFor name :=
  ⟨{ tokenClass with name }, ⟨false⟩, ⟨none⟩, c, rfl, hdecode, hsynthesize⟩

/-- Points for the directory above do not lead out of the root, and a package that is called like the
file of another class has two directories. -/
theorem paths_below_root_order : ∃ f f' : Source.File,
    f.GeneratedFor "../Order" ∧ f'.GeneratedFor "OrderDynamicBuilder.json/Item" ∧
    f.pathIn "/out" = "/out/OrderDynamicBuilder.json" ∧
    f'.pathIn "/out" = "/out/OrderDynamicBuilder/json/ItemDynamicBuilder.json" ∧
    Path.components (f.pathIn "/out") =
      [.root, .entry "out", .entry "OrderDynamicBuilder.json"] ∧
    Path.components (f.pathIn "/out") ≠ Path.components (f'.pathIn "/out") ∧
    Path.components (Path.extend "/out" ["OrderDynamicBuilder"]) ≠
      Path.components (f.pathIn "/out") := by
  obtain ⟨f, h, hname⟩ : ∃ f : Source.File, f.GeneratedFor "../Order" ∧
      f.fileName = "OrderDynamicBuilder" :=
    ⟨_, generatedFor_named "../Order" rfl rfl, rfl⟩
  obtain ⟨f', h', hname'⟩ : ∃ f : Source.File, f.GeneratedFor "OrderDynamicBuilder.json/Item" ∧
      f.fileName = "ItemDynamicBuilder" :=
    ⟨_, generatedFor_named "OrderDynamicBuilder.json/Item" rfl rfl, rfl⟩
  have hsegments : (ClassName.ofMetadata "../Order").packageSegments = [] := by decide +kernel
  have hsegments' : (ClassName.ofMetadata "OrderDynamicBuilder.json/Item").packageSegments =
      ["OrderDynamicBuilder", "json"] := by
    decide +kernel
  have hdirectories : f.directories = [] := h.names_eq.1.trans hsegments
  have hdirectories' : f'.directories = ["OrderDynamicBuilder", "json"] :=
    h'.names_eq.1.trans hsegments'
  have hroot : Path.components "/out" = [.root, .entry "out"] := by decide +kernel
  obtain ⟨-, hsteps, -, hother⟩ := paths_below_root "/out" h
  obtain ⟨hsame, -, hapart⟩ := hother h'
  refine ⟨f, f', h, h', ?_, ?_, ?_, ?_, hapart _ ?_⟩
  · rw [Source.File.pathIn, Source.File.pathSegments, hdirectories, Source.File.entryName, hname]
    decide +kernel
  · rw [Source.File.pathIn, Source.File.pathSegments, hdirectories', Source.File.entryName, hname']
    decide +kernel
  · rw [hsteps, hroot, hsegments, hname]
    rfl
  · rw [Ne, hsame, hname, hname']
    exact fun heq => absurd heq.1 (by decide)
  · rw [hdirectories']
    exact ⟨["json"], rfl⟩

end KotlinMeta
