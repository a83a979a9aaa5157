import KotlinMeta.Proofs.Entries
import KotlinMeta.Proofs.Text.Words
import KotlinMeta.Settings.Options

/-! # Options in any order

`StandsFor` and `Names` tell which texts stand for truth values and annotations. An option settles
one setting and leaves the others as they are, so that a map of options says for each setting what
its entry says, wherever that entry stands: `applyOption_cases` says it of one option, and
`FirstInvalid.applyOptions_eq` and `applyOptions_eq_ok_iff` of a map. The main result
`applyOptions_exact` compares two maps as well: they give the same settings if they have the same
options of this tool.
-/

set_option autoImplicit false

namespace KotlinMeta.Settings

/-! ## Texts for values -/

/-- The words for a truth value. -/
def wordsFor : Bool → List String
  | true => ["true", "1", "yes", "on"]
  | false => ["false", "0", "no", "off"]

/-- The text is a word for the truth value, in any case and with white space around it. -/
def StandsFor (text : String) (b : Bool) : Prop := ∃ word ∈ wordsFor b, Text.Spells text word

/-- The text is the qualified name of the annotation. -/
def Names (text : String) : GeneratedMark → Prop
  | .processing => text = "javax.annotation.processing.Generated"
  | .legacy => text = "javax.annotation.Generated"

theorem standsFor_iff {text : String} {b : Bool} :
    StandsFor text b ↔ Text.normalWord text ∈ wordsFor b := by
  have hnone : ∀ b, ∀ word ∈ wordsFor b, word.toList.any Text.isBlank = false := by decide
  have hletters : ∀ b, ∀ word ∈ wordsFor b, ∀ c ∈ word.toList, Text.isBlank c = false :=
    fun b word hword => by simpa using hnone b word hword
  constructor
  · rintro ⟨word, hword, hspells⟩
    rwa [(Text.normalWord_eq_iff (hletters b word hword)).mpr hspells]
  · intro h
    exact ⟨_, h, (Text.normalWord_eq_iff (hletters b _ h)).mp rfl⟩

theorem truthOf_eq_some_iff {text : String} {b : Bool} :
    truthOf text = some b ↔ StandsFor text b := by
  have hapart : ∀ word ∈ wordsFor true, word ∉ wordsFor false := by decide
  have htrue : ["true", "1", "yes", "on"] = wordsFor true := rfl
  have hfalse : ["false", "0", "no", "off"] = wordsFor false := rfl
  rw [standsFor_iff, truthOf, htrue, hfalse]
  by_cases hyes : Text.normalWord text ∈ wordsFor true
  · have hno := hapart _ hyes
    cases b <;> simp [hyes, hno]
  · by_cases hno : Text.normalWord text ∈ wordsFor false <;> cases b <;> simp [hyes, hno]

theorem StandsFor.unique {text : String} {b b' : Bool} (h : StandsFor text b)
    (h' : StandsFor text b') : b = b' :=
  Option.some_inj.mp ((truthOf_eq_some_iff.mpr h).symm.trans (truthOf_eq_some_iff.mpr h'))

/-- The annotation with this qualified name, if there is one. -/
def markOf (name : String) : Option GeneratedMark := (GeneratedMark.ofName name).toOption

theorem markOf_eq_some_iff {name : String} {mark : GeneratedMark} :
    markOf name = some mark ↔ Names name mark := by
  have hdistinct : GeneratedMark.legacy.qualified ≠ GeneratedMark.processing.qualified := by decide
  have hnames : Names name mark ↔ name = mark.qualified := by cases mark <;> rfl
  rw [hnames, markOf, GeneratedMark.ofName]
  by_cases hprocessing : name = GeneratedMark.processing.qualified
  · cases mark <;> simp [hprocessing, Except.toOption, hdistinct.symm]
  · by_cases hlegacy : name = GeneratedMark.legacy.qualified
    · cases mark <;> simp [hlegacy, Except.toOption, hdistinct]
    · cases mark <;> simp [hprocessing, hlegacy, Except.toOption]

theorem Names.unique {name : String} {mark mark' : GeneratedMark} (h : Names name mark)
    (h' : Names name mark') : mark = mark' :=
  Option.some_inj.mp ((markOf_eq_some_iff.mpr h).symm.trans (markOf_eq_some_iff.mpr h'))

/-! ## Options of this tool -/

/-- The key is one of those that are kept for this tool. -/
def IsOwn (key : String) : Prop := "kmir.".toList <+: key.toList

instance (key : String) : Decidable (IsOwn key) :=
  inferInstanceAs (Decidable ("kmir.".toList <+: key.toList))

theorem isPrefixOf_optionStart_iff {key : String} :
    optionStart.toList.isPrefixOf key.toList = true ↔ IsOwn key :=
  List.isPrefixOf_iff_prefix

/-- A known option with a value that it can have. -/
def Valid (key value : String) : Prop :=
  (key = "kmir.generated" ∧ ∃ mark, Names value mark) ∨
    (key = "kmir.preferTypeAliases" ∨ key = "kmir.parallel") ∧ ∃ b, StandsFor value b

/-- What is reported of an option that is unknown or has a value that it cannot have. -/
def fault (key value : String) : SettingsError :=
  if key = "kmir.generated" then .badMark (.unknownMark value)
  else if key = "kmir.preferTypeAliases" ∨ key = "kmir.parallel" then .badTruth key value
  else .unknownOption key

/-! ## What options say of settings -/

theorem valid_generated_iff {value : String} :
    Valid "kmir.generated" value ↔ ∃ mark, Names value mark := by
  simp [Valid]

theorem valid_keepAliases_iff {value : String} :
    Valid "kmir.preferTypeAliases" value ↔ ∃ b, StandsFor value b := by
  simp [Valid]

theorem valid_parallel_iff {value : String} :
    Valid "kmir.parallel" value ↔ ∃ b, StandsFor value b := by
  simp [Valid]

/-- The texts that are given for the settings. -/
structure Given where
  generated : Option String
  keepAliases : Option String
  parallel : Option String

/-- The texts that a map of options gives. -/
def Given.ofOptions (options : List (String × String)) : Given where
  generated := options.lookup "kmir.generated"
  keepAliases := options.lookup "kmir.preferTypeAliases"
  parallel := options.lookup "kmir.parallel"

section
variable {α : Type}

/-- A setting has the value that the given text stands for. Where no text is given it stays as it
was. -/
def Settled (text : Option String) (means : String → α → Prop) (old new : α) : Prop :=
  match text with
  | none => new = old
  | some value => means value new

/-- A key that is new settles a setting alone, and any other key leaves it to the rest. -/
theorem exists_settled_iff {key value k : String} {rest : List (String × String)}
    {means : String → α → Prop} {old new : α} (hnew : key ∉ rest.map Prod.fst) :
    (∃ mid, Settled ([(key, value)].lookup k) means old mid ∧
      Settled (rest.lookup k) means mid new) ↔
      Settled (((key, value) :: rest).lookup k) means old new := by
  rcases lookup_cons_cases value hnew k with ⟨hone, hrest, hboth⟩ | ⟨hone, hboth⟩
  · simp [hone, hrest, hboth, Settled]
  · simp [hone, hboth, Settled]

end

/-- The second settings are the first with what the given texts say. -/
structure Overlaid (given : Given) (s t : Settings) : Prop where
  generated : Settled given.generated (fun text mark => ∃ m, Names text m ∧ mark = some m)
    s.generated t.generated
  keepAliases : Settled given.keepAliases StandsFor s.keepAliases t.keepAliases
  parallel : Settled given.parallel StandsFor s.parallel t.parallel

theorem Settled.unique {α : Type} {text : Option String} {means : String → α → Prop}
    (hmeans : ∀ text a a', means text a → means text a' → a = a') {old new new' : α}
    (h : Settled text means old new) (h' : Settled text means old new') : new = new' := by
  cases text with
  | none => exact h.trans h'.symm
  | some value => exact hmeans value new new' h h'

theorem Overlaid.unique {given : Given} {s t t' : Settings} (h : Overlaid given s t)
    (h' : Overlaid given s t') : t = t' := by
  obtain ⟨generated, keepAliases, parallel⟩ := t
  obtain ⟨generated', keepAliases', parallel'⟩ := t'
  have htruth : ∀ text b b', StandsFor text b → StandsFor text b' → b = b' :=
    fun _ _ _ => StandsFor.unique
  rw [mk.injEq]
  refine ⟨h.generated.unique ?_ h'.generated, h.keepAliases.unique htruth h'.keepAliases,
    h.parallel.unique htruth h'.parallel⟩
  rintro text _ _ ⟨m, hm, rfl⟩ ⟨m', hm', rfl⟩
  rw [hm.unique hm']

/-- To overlay a new option and then the rest is to overlay all of them. -/
theorem Overlaid.cons {key value : String} {rest : List (String × String)} {s t u : Settings}
    (hnew : key ∉ rest.map Prod.fst) (h : Overlaid (.ofOptions [(key, value)]) s t)
    (hrest : Overlaid (.ofOptions rest) t u) :
    Overlaid (.ofOptions ((key, value) :: rest)) s u where
  generated := (exists_settled_iff hnew).mp ⟨_, h.generated, hrest.generated⟩
  keepAliases := (exists_settled_iff hnew).mp ⟨_, h.keepAliases, hrest.keepAliases⟩
  parallel := (exists_settled_iff hnew).mp ⟨_, h.parallel, hrest.parallel⟩

/-! ## One option -/

section
variable (s : Settings) (value : String)

theorem applyOption_generated :
    s.applyOption "kmir.generated" value =
      match markOf value with
      | some mark => .ok { s with generated := some mark }
      | none => .error (fault "kmir.generated" value) := by
  rw [applyOption, if_pos rfl, markOf, fault, if_pos rfl]
  cases h : GeneratedMark.ofName value with
  | ok mark => rfl
  | error cause =>
      have hcause : cause = .unknownMark value := by
        rw [GeneratedMark.ofName] at h
        split at h
        · cases h
        · split at h <;> cases h
          rfl
      rw [hcause]
      rfl

theorem applyOption_keepAliases :
    s.applyOption "kmir.preferTypeAliases" value =
      match truthOf value with
      | some b => .ok { s with keepAliases := b }
      | none => .error (fault "kmir.preferTypeAliases" value) := by
  have hmark : "kmir.preferTypeAliases" ≠ "kmir.generated" := by decide
  rw [applyOption, if_neg hmark, if_pos rfl, optionTruth, fault, if_neg hmark, if_pos (Or.inl rfl)]
  cases truthOf value <;> rfl

theorem applyOption_parallel :
    s.applyOption "kmir.parallel" value =
      match truthOf value with
      | some b => .ok { s with parallel := b }
      | none => .error (fault "kmir.parallel" value) := by
  have hmark : "kmir.parallel" ≠ "kmir.generated" := by decide
  have haliases : "kmir.parallel" ≠ "kmir.preferTypeAliases" := by decide
  rw [applyOption, if_neg hmark, if_neg haliases, if_pos rfl, optionTruth, fault, if_neg hmark,
    if_pos (Or.inr rfl)]
  cases truthOf value <;> rfl

theorem applyOption_of_unknown {key : String} (hmark : key ≠ "kmir.generated")
    (haliases : key ≠ "kmir.preferTypeAliases") (hparallel : key ≠ "kmir.parallel") :
    s.applyOption key value = if IsOwn key then .error (fault key value) else .ok s := by
  rw [applyOption, if_neg hmark, if_neg haliases, if_neg hparallel, fault, if_neg hmark,
    if_neg (not_or_intro haliases hparallel)]
  exact if_congr isPrefixOf_optionStart_iff rfl rfl

end

/-- **One option.** It is at fault, or it settles what it says. -/
theorem applyOption_cases (s : Settings) (key value : String) :
    (IsOwn key ∧ ¬ Valid key value ∧ s.applyOption key value = .error (fault key value)) ∨
      ∃ t, s.applyOption key value = .ok t ∧ (IsOwn key → Valid key value) ∧
        Overlaid (.ofOptions [(key, value)]) s t := by
  by_cases hmark : key = "kmir.generated"
  · subst hmark
    rw [applyOption_generated, valid_generated_iff]
    cases h : markOf value with
    | none => exact Or.inl ⟨by decide, by simp [← markOf_eq_some_iff, h], rfl⟩
    | some mark =>
        have hmark := markOf_eq_some_iff.mp h
        refine Or.inr ⟨_, rfl, fun _ => ⟨mark, hmark⟩, ?_⟩
        constructor <;> simp [Given.ofOptions, Settled, hmark]
  by_cases haliases : key = "kmir.preferTypeAliases"
  · subst haliases
    rw [applyOption_keepAliases, valid_keepAliases_iff]
    cases h : truthOf value with
    | none => exact Or.inl ⟨by decide, by simp [← truthOf_eq_some_iff, h], rfl⟩
    | some b =>
        have htruth := truthOf_eq_some_iff.mp h
        refine Or.inr ⟨_, rfl, fun _ => ⟨b, htruth⟩, ?_⟩
        constructor <;> simp [Given.ofOptions, Settled, htruth]
  by_cases hparallel : key = "kmir.parallel"
  · subst hparallel
    rw [applyOption_parallel, valid_parallel_iff]
    cases h : truthOf value with
    | none => exact Or.inl ⟨by decide, by simp [← truthOf_eq_some_iff, h], rfl⟩
    | some b =>
        have htruth := truthOf_eq_some_iff.mp h
        refine Or.inr ⟨_, rfl, fun _ => ⟨b, htruth⟩, ?_⟩
        constructor <;> simp [Given.ofOptions, Settled, htruth]
  -- no setting has this key
  rw [applyOption_of_unknown s value hmark haliases hparallel]
  by_cases hown : IsOwn key
  · exact Or.inl ⟨hown, by simp [Valid, hmark, haliases, hparallel], if_pos hown⟩
  · refine Or.inr ⟨s, if_neg hown, fun h => absurd h hown, ?_⟩
    constructor <;> simp [Given.ofOptions, Settled, lookup_cons, Ne.symm hmark, Ne.symm haliases,
      Ne.symm hparallel]

/-! ## Maps of options -/

/-- No option of this tool is unknown or has a value that it cannot have. -/
def AllValid (options : List (String × String)) : Prop :=
  ∀ o ∈ options, IsOwn o.1 → Valid o.1 o.2

theorem allValid_nil : AllValid [] := List.forall_mem_nil _

theorem allValid_cons_iff {o : String × String} {options : List (String × String)} :
    AllValid (o :: options) ↔ (IsOwn o.1 → Valid o.1 o.2) ∧ AllValid options :=
  List.forall_mem_cons

/-- The option is the first that is unknown or has a value that it cannot have. -/
structure FirstInvalid (options : List (String × String)) (key value : String) : Prop where
  own : IsOwn key
  invalid : ¬ Valid key value
  first : ∃ before after, options = before ++ (key, value) :: after ∧ AllValid before

theorem FirstInvalid.not_allValid {options : List (String × String)} {key value : String}
    (h : FirstInvalid options key value) : ¬ AllValid options := by
  obtain ⟨before, after, rfl, -⟩ := h.first
  intro hall
  exact h.invalid (hall (key, value) (by simp) h.own)

theorem FirstInvalid.cons {options : List (String × String)} {key value : String}
    (h : FirstInvalid options key value) {o : String × String} (ho : IsOwn o.1 → Valid o.1 o.2) :
    FirstInvalid (o :: options) key value := by
  obtain ⟨before, after, hsplit, hbefore⟩ := h.first
  refine ⟨h.own, h.invalid, o :: before, after, congrArg (o :: ·) hsplit, ?_⟩
  exact allValid_cons_iff.mpr ⟨ho, hbefore⟩

theorem allValid_or_firstInvalid (options : List (String × String)) :
    AllValid options ∨ ∃ key value, FirstInvalid options key value := by
  induction options with
  | nil => exact Or.inl allValid_nil
  | cons o rest ih =>
      by_cases ho : IsOwn o.1 → Valid o.1 o.2
      · rcases ih with hall | ⟨key, value, hfirst⟩
        · exact Or.inl (allValid_cons_iff.mpr ⟨ho, hall⟩)
        · exact Or.inr ⟨key, value, hfirst.cons ho⟩
      · rw [Classical.not_imp] at ho
        exact Or.inr ⟨o.1, o.2, ho.1, ho.2, [], rest, rfl, allValid_nil⟩

/-- **The first option at fault is reported.** -/
theorem FirstInvalid.applyOptions_eq {options : List (String × String)} {key value : String}
    (h : FirstInvalid options key value) (s : Settings) :
    (s.applyOptions options).2 = some (fault key value) := by
  obtain ⟨hown, hinvalid, before, after, rfl, hbefore⟩ := h
  induction before generalizing s with
  | nil =>
      rw [List.nil_append, applyOptions]
      rcases s.applyOption_cases key value with ⟨-, -, happly⟩ | ⟨t, -, hvalid, -⟩
      · rw [happly]
      · exact absurd (hvalid hown) hinvalid
  | cons o before ih =>
      obtain ⟨ho, hbefore⟩ := allValid_cons_iff.mp hbefore
      rw [List.cons_append, applyOptions]
      rcases s.applyOption_cases o.1 o.2 with ⟨hown', hinvalid', -⟩ | ⟨t, happly, -⟩
      · exact absurd (ho hown') hinvalid'
      · rw [happly]
        exact ih t hbefore

/-- **Options without a fault settle what they say.** -/
theorem exists_applyOptions_of_allValid (s : Settings) {options : List (String × String)}
    (hkeys : (options.map Prod.fst).Nodup) (hall : AllValid options) :
    ∃ t, s.applyOptions options = (t, none) ∧ Overlaid (.ofOptions options) s t := by
  induction options generalizing s with
  | nil => exact ⟨s, rfl, rfl, rfl, rfl⟩
  | cons o rest ih =>
      obtain ⟨key, value⟩ := o
      obtain ⟨hnew, hrest⟩ := List.nodup_cons.mp hkeys
      obtain ⟨ho, hall⟩ := allValid_cons_iff.mp hall
      rcases s.applyOption_cases key value with ⟨hown, hinvalid, -⟩ | ⟨t, happly, -, ht⟩
      · exact absurd (ho hown) hinvalid
      · obtain ⟨u, hrun, hu⟩ := ih t hrest hall
        rw [applyOptions, happly]
        exact ⟨u, hrun, ht.cons hnew hu⟩

theorem applyOptions_eq_ok_iff (s : Settings) {options : List (String × String)}
    (hkeys : (options.map Prod.fst).Nodup) {t : Settings} :
    s.applyOptions options = (t, none) ↔ AllValid options ∧ Overlaid (.ofOptions options) s t := by
  rcases allValid_or_firstInvalid options with hall | ⟨key, value, hfirst⟩
  · obtain ⟨u, hrun, hu⟩ := exists_applyOptions_of_allValid s hkeys hall
    rw [hrun, and_iff_right hall]
    constructor
    · intro h
      cases h
      exact hu
    · intro h
      rw [hu.unique h]
  · have hreport := hfirst.applyOptions_eq s
    constructor
    · intro h
      rw [h] at hreport
      cases hreport
    · intro h
      exact absurd h.1 hfirst.not_allValid

/-! ## Maps with the same options of this tool -/

/-- The options of this tool. -/
def ownOptions (options : List (String × String)) : List (String × String) :=
  options.filter fun o => IsOwn o.1

theorem mem_ownOptions {options : List (String × String)} {o : String × String} :
    o ∈ ownOptions options ↔ o ∈ options ∧ IsOwn o.1 := by
  simp [ownOptions]

section
variable {options options' : List (String × String)}
  (hsame : (ownOptions options').Perm (ownOptions options))
include hsame

theorem allValid_congr (h : AllValid options) : AllValid options' := by
  intro o ho hown
  have hmem : o ∈ ownOptions options := hsame.mem_iff.mp (mem_ownOptions.mpr ⟨ho, hown⟩)
  exact h o (mem_ownOptions.mp hmem).1 hown

theorem lookup_congr_of_own (hkeys : (options.map Prod.fst).Nodup)
    (hkeys' : (options'.map Prod.fst).Nodup) {key : String} (hown : IsOwn key) :
    options'.lookup key = options.lookup key := by
  refine Option.ext fun value => ?_
  rw [lookup_eq_some_iff_mem hkeys, lookup_eq_some_iff_mem hkeys']
  have hmem := hsame.mem_iff (a := (key, value))
  simpa [mem_ownOptions, hown] using hmem

theorem ofOptions_congr (hkeys : (options.map Prod.fst).Nodup)
    (hkeys' : (options'.map Prod.fst).Nodup) :
    Given.ofOptions options' = Given.ofOptions options := by
  have hlookup : ∀ key, IsOwn key → options'.lookup key = options.lookup key :=
    fun key hown => lookup_congr_of_own hsame hkeys hkeys' hown
  rw [Given.ofOptions, Given.ofOptions, hlookup _ (by decide), hlookup _ (by decide),
    hlookup _ (by decide)]

end

/-- **Options can be given in any order, and options for other tools do not matter.** A map of
options is applied exactly if each option of this tool is known and has a value that it can have.
Then each setting has the value of its option, or stays as it was if it has none; and any map that
has the same options of this tool gives the same settings. Otherwise the first option at fault is
reported. -/
theorem applyOptions_exact (s : Settings) {options : List (String × String)}
    (hkeys : (options.map Prod.fst).Nodup) :
    ((s.applyOptions options).2 = none ↔ AllValid options) ∧
    ((s.applyOptions options).2 = none →
      Overlaid (.ofOptions options) s (s.applyOptions options).1) ∧
    (∀ options', (options'.map Prod.fst).Nodup →
      (ownOptions options').Perm (ownOptions options) → (s.applyOptions options).2 = none →
        s.applyOptions options' = s.applyOptions options) ∧
    ∀ e, (s.applyOptions options).2 = some e ↔
      ∃ key value, FirstInvalid options key value ∧ e = fault key value := by
  have hok : (s.applyOptions options).2 = none ↔ AllValid options := by
    rcases allValid_or_firstInvalid options with hall | ⟨key, value, hfirst⟩
    · obtain ⟨t, hrun, -⟩ := exists_applyOptions_of_allValid s hkeys hall
      simp [hrun, hall]
    · simp [hfirst.applyOptions_eq s, hfirst.not_allValid]
  have hrun (h : (s.applyOptions options).2 = none) :
      s.applyOptions options = ((s.applyOptions options).1, none) := by
    rw [← h]
  refine ⟨hok, fun h => ?_, fun options' hkeys' hsame h => ?_, fun e => ?_⟩
  · exact ((applyOptions_eq_ok_iff s hkeys).mp (hrun h)).2
  · rw [hrun h, applyOptions_eq_ok_iff s hkeys', ofOptions_congr hsame hkeys hkeys']
    refine ⟨allValid_congr hsame (hok.mp h), ?_⟩
    exact ((applyOptions_eq_ok_iff s hkeys).mp (hrun h)).2
  · constructor
    · intro h
      rcases allValid_or_firstInvalid options with hall | ⟨key, value, hfirst⟩
      · rw [hok.mpr hall] at h
        cases h
      · rw [hfirst.applyOptions_eq s] at h
        exact ⟨key, value, hfirst, (Option.some_inj.mp h).symm⟩
    · rintro ⟨key, value, hfirst, rfl⟩
      exact hfirst.applyOptions_eq s

/-- A map with words for both truth values and with options of another tool, and in another order
without these; and one with a key that only looks like one of this tool's, in front of two options
at fault. -/
theorem applyOptions_exact_mixedOptions :
    let options := [("kmir.parallel", " YES "), ("kapt.kotlin.generated", "/tmp/out"),
      ("kmir.preferTypeAliases", "Off"), ("kmir.generated", "javax.annotation.Generated"),
      ("kmir", "?")]
    let options' := [("kmir.generated", "javax.annotation.Generated"), ("kmir.parallel", " YES "),
      ("kmir.preferTypeAliases", "Off")]
    let faulty := [("Kmir.parallel", "?"), ("kmir.", "true"), ("kmir.parallel", "sometimes")]
    let s : Settings := ⟨none, true, false⟩
    (options.map Prod.fst).Nodup ∧ (options'.map Prod.fst).Nodup ∧ (faulty.map Prod.fst).Nodup ∧
      s.applyOptions options' = (⟨some .legacy, false, true⟩, none) ∧
      s.applyOptions options = s.applyOptions options' ∧
      (s.applyOptions faulty).2 = some (.unknownOption "kmir.") := by
  intro options options' faulty s
  have hkeys : (options.map Prod.fst).Nodup := by decide
  have hkeys' : (options'.map Prod.fst).Nodup := by decide
  have hfaulty : (faulty.map Prod.fst).Nodup := by decide
  have hrun : s.applyOptions options' = (⟨some .legacy, false, true⟩, none) := by decide +kernel
  have hsame : (ownOptions options).Perm (ownOptions options') := by decide +kernel
  obtain ⟨-, -, hcongr, -⟩ := applyOptions_exact s hkeys'
  obtain ⟨-, -, -, hreport⟩ := applyOptions_exact s hfaulty
  refine ⟨hkeys, hkeys', hfaulty, hrun, hcongr options hkeys hsame (by rw [hrun]), ?_⟩
  refine (hreport _).mpr ⟨"kmir.", "true", ⟨by decide, by simp [Valid], ?_⟩, by decide⟩
  refine ⟨[("Kmir.parallel", "?")], [("kmir.parallel", "sometimes")], rfl, ?_⟩
  have hforeign : ¬ IsOwn "Kmir.parallel" := by decide
  exact allValid_cons_iff.mpr ⟨fun hown => absurd hown hforeign, allValid_nil⟩

end KotlinMeta.Settings
