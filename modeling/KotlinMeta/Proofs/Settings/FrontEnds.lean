import KotlinMeta.Proofs.Json.Text
import KotlinMeta.Proofs.Sequence
import KotlinMeta.Proofs.Settings.Options
import KotlinMeta.Settings.Text

/-! # Options and JSON give the same settings

The same texts can be given for the settings as options and as members of a JSON object. An object
is read member by member into a draft, and options are applied one by one to settings that are
there, but both end at the settings that `Overlaid` describes: `applyOptions_eq_ok_iff` says it of
options and `ofMembers_eq_ok_iff` of members. In an object a truth value can stand for a word, and
an array of the values in order can stand for an object (`parse_of_arr`). The main result is
`frontEnds_agree`.
-/

set_option autoImplicit false

namespace KotlinMeta.Settings

/-! ## The same texts as options and as members -/

/-- The texts as options. -/
def Given.options (given : Given) : List (String × String) :=
  given.generated.toList.map ("kmir.generated", ·) ++
    given.keepAliases.toList.map ("kmir.preferTypeAliases", ·) ++
    given.parallel.toList.map ("kmir.parallel", ·)

/-- The texts as members of an object. -/
def Given.members (given : Given) : List (String × Json) :=
  given.generated.toList.map (fun text => ("generated", .str text)) ++
    given.keepAliases.toList.map (fun text => ("preferTypeAliases", .str text)) ++
    given.parallel.toList.map (fun text => ("parallel", .str text))

/-- The members say what the texts say, in any order and among members for others. -/
structure Given.SaidBy (given : Given) (members : List (String × Json)) : Prop where
  distinct : (members.map Prod.fst).Nodup
  generated : members.lookup "generated" = given.generated.map .str
  keepAliases : members.lookup "preferTypeAliases" = given.keepAliases.map .str
  parallel : members.lookup "parallel" = given.parallel.map .str

/-- The second member is the first, or has a truth value for a word that stands for it. -/
def Reworded (m m' : String × Json) : Prop :=
  m' = m ∨ ∃ key word b, (key = "preferTypeAliases" ∨ key = "parallel") ∧
    StandsFor word b ∧ m = (key, .str word) ∧ m' = (key, .bool b)

theorem Given.nodup_options (given : Given) : (given.options.map Prod.fst).Nodup := by
  obtain ⟨generated, keepAliases, parallel⟩ := given
  cases generated <;> cases keepAliases <;> cases parallel <;> simp [options]

theorem Given.ofOptions_options (given : Given) : ofOptions given.options = given := by
  obtain ⟨generated, keepAliases, parallel⟩ := given
  cases generated <;> cases keepAliases <;> cases parallel <;>
    simp [options, ofOptions, lookup_cons]

theorem Given.saidBy_members (given : Given) : given.SaidBy given.members := by
  obtain ⟨generated, keepAliases, parallel⟩ := given
  constructor <;> cases generated <;> cases keepAliases <;> cases parallel <;>
    simp [members, lookup_cons]

theorem Given.isPlain_members (given : Given) : ∀ m ∈ given.members, Json.IsPlain m.2 := by
  simp only [members, List.forall_mem_append, List.forall_mem_map]
  exact ⟨⟨fun _ _ => .str _, fun _ _ => .str _⟩, fun _ _ => .str _⟩

/-! ## Members of an object -/

section
variable {α : Type}

/-- A setting is met where it has a member, which must be the first one and have a value that can be
read. -/
def Met (value : Option Json) (read : Json → Except (Option ValueFault) α) (old new : Option α) :
    Prop :=
  match value with
  | none => new = old
  | some j => old = none ∧ ∃ a, read j = .ok a ∧ new = some a

/-- A key that is new decides over its setting alone, and any other key leaves it to the rest. -/
theorem exists_met_iff {key k : String} {j : Json} {rest : List (String × Json)}
    {read : Json → Except (Option ValueFault) α} {old new : Option α}
    (hnew : key ∉ rest.map Prod.fst) :
    (∃ mid, Met ([(key, j)].lookup k) read old mid ∧ Met (rest.lookup k) read mid new) ↔
      Met (((key, j) :: rest).lookup k) read old new := by
  rcases lookup_cons_cases j hnew k with ⟨hone, hrest, hboth⟩ | ⟨hone, hboth⟩
  · simp [hone, hrest, hboth, Met]
  · simp [hone, hboth, Met]

theorem once_eq_ok_iff {d : Draft} {old : Option α} {x : Except (Option ValueFault) α}
    {put : α → Draft} :
    (if old.isSome then .error none else do return put (← x)) = Except.ok d ↔
      old = none ∧ ∃ a, x = .ok a ∧ put a = d := by
  cases old with
  | none =>
      rw [if_neg (by simp), Except.bind_eq_ok]
      simp [pure, Except.pure]
  | some a => simp

end

/-- The second draft is the first with what the members say. -/
structure Draft.Takes (members : List (String × Json)) (d d' : Draft) : Prop where
  generated : Met (members.lookup "generated") readMark d.generated d'.generated
  keepAliases : Met (members.lookup "preferTypeAliases") readTruth d.keepAliases d'.keepAliases
  parallel : Met (members.lookup "parallel") readTruth d.parallel d'.parallel

theorem Draft.eq_of_parts {d d' : Draft} (hmark : d'.generated = d.generated)
    (haliases : d'.keepAliases = d.keepAliases) (hparallel : d'.parallel = d.parallel) :
    d' = d := by
  cases d
  cases d'
  exact (mk.injEq ..).mpr ⟨hmark, haliases, hparallel⟩

/-- A single member is looked up for each setting. -/
theorem Draft.takes_single_iff {d d' : Draft} {key : String} {j : Json} :
    d.Takes [(key, j)] d' ↔
      Met (if "generated" = key then some j else none) readMark d.generated d'.generated ∧
      Met (if "preferTypeAliases" = key then some j else none) readTruth d.keepAliases
        d'.keepAliases ∧
      Met (if "parallel" = key then some j else none) readTruth d.parallel d'.parallel := by
  have hone : ∀ k, [(key, j)].lookup k = if k = key then some j else none := by
    intro k
    rw [lookup_cons]
    rfl
  rw [← hone, ← hone, ← hone]
  exact ⟨fun ⟨hmark, haliases, hparallel⟩ => ⟨hmark, haliases, hparallel⟩,
    fun ⟨hmark, haliases, hparallel⟩ => ⟨hmark, haliases, hparallel⟩⟩

/-- **One member** is refused, or is taken for what it says. -/
theorem Draft.take_eq_ok_iff {d d' : Draft} {key : String} {j : Json} :
    d.take (key, j) = .ok d' ↔ d.Takes [(key, j)] d' := by
  rw [takes_single_iff]
  by_cases hmark : key = "generated"
  · subst hmark
    rw [take, once_eq_ok_iff, if_pos rfl, if_neg (by decide), if_neg (by decide)]
    constructor
    · rintro ⟨hold, a, ha, rfl⟩
      exact ⟨⟨hold, a, ha, rfl⟩, rfl, rfl⟩
    · rintro ⟨⟨hold, a, ha, hnew⟩, haliases, hparallel⟩
      exact ⟨hold, a, ha, by rw [← hnew, ← haliases, ← hparallel]⟩
  by_cases haliases : key = "preferTypeAliases"
  · subst haliases
    rw [take, once_eq_ok_iff, if_neg (by decide), if_pos rfl, if_neg (by decide)]
    constructor
    · rintro ⟨hold, a, ha, rfl⟩
      exact ⟨rfl, ⟨hold, a, ha, rfl⟩, rfl⟩
    · rintro ⟨hgenerated, ⟨hold, a, ha, hnew⟩, hparallel⟩
      exact ⟨hold, a, ha, by rw [← hnew, ← hgenerated, ← hparallel]⟩
  by_cases hparallel : key = "parallel"
  · subst hparallel
    rw [take, once_eq_ok_iff, if_neg (by decide), if_neg (by decide), if_pos rfl]
    constructor
    · rintro ⟨hold, a, ha, rfl⟩
      exact ⟨rfl, rfl, hold, a, ha, rfl⟩
    · rintro ⟨hgenerated, haliases, hold, a, ha, hnew⟩
      exact ⟨hold, a, ha, by rw [← hnew, ← hgenerated, ← haliases]⟩
  -- no setting has this key
  have htake : d.take (key, j) = .ok d := by
    simp [take, hmark, haliases, hparallel]
  rw [htake, if_neg (Ne.symm hmark), if_neg (Ne.symm haliases), if_neg (Ne.symm hparallel),
    Except.ok.injEq]
  exact ⟨fun h => h ▸ ⟨rfl, rfl, rfl⟩, fun h => (Draft.eq_of_parts h.1 h.2.1 h.2.2).symm⟩

/-- To take a new member and then the rest is to take all of them. -/
theorem Draft.exists_takes_iff {key : String} {j : Json} {rest : List (String × Json)}
    {d d' : Draft} (hnew : key ∉ rest.map Prod.fst) :
    (∃ mid, d.Takes [(key, j)] mid ∧ mid.Takes rest d') ↔ d.Takes ((key, j) :: rest) d' := by
  constructor
  · rintro ⟨mid, hone, hrest⟩
    constructor
    · exact (exists_met_iff hnew).mp ⟨_, hone.generated, hrest.generated⟩
    · exact (exists_met_iff hnew).mp ⟨_, hone.keepAliases, hrest.keepAliases⟩
    · exact (exists_met_iff hnew).mp ⟨_, hone.parallel, hrest.parallel⟩
  · intro h
    obtain ⟨generated, hgenerated, hgenerated'⟩ := (exists_met_iff hnew).mpr h.generated
    obtain ⟨aliases, haliases, haliases'⟩ := (exists_met_iff hnew).mpr h.keepAliases
    obtain ⟨parallel, hparallel, hparallel'⟩ := (exists_met_iff hnew).mpr h.parallel
    exact ⟨⟨generated, aliases, parallel⟩, ⟨hgenerated, haliases, hparallel⟩,
      ⟨hgenerated', haliases', hparallel'⟩⟩

/-- **All members of an object** are taken for what they say, in whatever order they stand. -/
theorem Draft.foldlM_take_eq_ok_iff {members : List (String × Json)}
    (hkeys : (members.map Prod.fst).Nodup) {d d' : Draft} :
    members.foldlM take d = .ok d' ↔ d.Takes members d' := by
  induction members generalizing d with
  | nil =>
      rw [List.foldlM_nil]
      constructor
      · intro h
        cases h
        exact ⟨rfl, rfl, rfl⟩
      · rintro ⟨hgenerated, haliases, hparallel⟩
        rw [eq_of_parts hgenerated haliases hparallel]
        rfl
  | cons m rest ih =>
      obtain ⟨key, j⟩ := m
      obtain ⟨hnew, hrest⟩ := List.nodup_cons.mp hkeys
      rw [List.foldlM_cons, Except.bind_eq_ok, ← exists_takes_iff hnew]
      simp only [take_eq_ok_iff, ih hrest]

/-! ## What members say of settings -/

section
variable {α : Type} {read : Json → Except (Option ValueFault) α} {means : String → α → Prop}

/-- Where a text is read as it is among options, a setting that was not met before gets the value
that the text has as an option, and without a text it gets the default. -/
theorem exists_met_iff_settled (hread : ∀ text a, read (.str text) = .ok a ↔ means text a)
    (text : Option String) (absent a : α) :
    (∃ new, Met (text.map .str) read none new ∧ new.getD absent = a) ↔
      Settled text means absent a := by
  cases text with
  | none => simp [Met, Settled, eq_comm]
  | some text => simp [Met, Settled, hread]

end

theorem readMark_eq_ok_iff (name : String) (mark : Option GeneratedMark) :
    readMark (.str name) = .ok mark ↔ ∃ m, Names name m ∧ mark = some m := by
  simp only [← markOf_eq_some_iff]
  rw [readMark, markOf]
  cases GeneratedMark.ofName name <;> simp [Except.toOption, eq_comm]

theorem readTruth_eq_ok_iff (word : String) (b : Bool) :
    readTruth (.str word) = .ok b ↔ StandsFor word b := by
  rw [← truthOf_eq_some_iff, readTruth]
  cases truthOf word <;> simp

/-- **The members of an object settle what their texts say.** -/
theorem Given.SaidBy.ofMembers_eq_ok_iff {given : Given} {members : List (String × Json)}
    (h : given.SaidBy members) {t : Settings} :
    ofMembers members = .ok t ↔ Overlaid given default t := by
  have hrun : ofMembers members = .ok t ↔
      ∃ d, Draft.Takes members ⟨none, none, none⟩ d ∧ d.settings = t := by
    rw [ofMembers, Except.map_eq_ok]
    simp only [Draft.foldlM_take_eq_ok_iff h.distinct]
  have hmark := exists_met_iff_settled readMark_eq_ok_iff given.generated none t.generated
  have haliases :=
    exists_met_iff_settled readTruth_eq_ok_iff given.keepAliases false t.keepAliases
  have hparallel := exists_met_iff_settled readTruth_eq_ok_iff given.parallel false t.parallel
  rw [← h.generated] at hmark
  rw [← h.keepAliases] at haliases
  rw [← h.parallel] at hparallel
  rw [hrun]
  constructor
  · rintro ⟨d, htakes, rfl⟩
    exact ⟨hmark.mp ⟨_, htakes.generated, rfl⟩, haliases.mp ⟨_, htakes.keepAliases, rfl⟩,
      hparallel.mp ⟨_, htakes.parallel, rfl⟩⟩
  · rintro ⟨hgenerated, hkeep, hpar⟩
    obtain ⟨generated, hmet, hg⟩ := hmark.mpr hgenerated
    obtain ⟨aliases, hmet', ha⟩ := haliases.mpr hkeep
    obtain ⟨parallel, hmet'', hp⟩ := hparallel.mpr hpar
    refine ⟨⟨generated, aliases, parallel⟩, ⟨hmet, hmet', hmet''⟩, ?_⟩
    rw [Draft.settings, hg, ha, hp]

/-- The text of an object gives what its members give. -/
theorem parse_of_obj {text : String} {members : List (String × Json)}
    (h : Json.parse text = some (.obj members)) :
    parse text = (ofMembers members).mapError .badText := by
  rw [parse, Json.recordPrefix_of_obj h]
  dsimp only
  cases ofMembers members <;> rfl

theorem parse_eq_ok_iff {text : String} {members : List (String × Json)}
    (h : Json.parse text = some (.obj members)) {t : Settings} :
    parse text = .ok t ↔ ofMembers members = .ok t := by
  rw [parse_of_obj h]
  cases ofMembers members <;> simp [Except.mapError]

/-- **An array of the values in order** gives what the object with them as members gives. -/
theorem parse_of_arr {text : String} {elements : List Json}
    (h : Json.parse text = some (.arr elements)) (hle : elements.length ≤ keys.length) :
    parse text = (ofMembers (keys.zip elements)).mapError .badText := by
  rw [parse, Json.recordPrefix_of_arr h, decide_eq_true hle]
  dsimp only
  cases ofMembers (keys.zip elements) <;> rfl

example : parse "[null, \"Yes\"]" = .ok ⟨none, true, false⟩ := by decide +kernel

/-- An array with more values than there are settings gives none. -/
theorem parse_of_arr_of_lt {text : String} {elements : List Json}
    (h : Json.parse text = some (.arr elements)) (hlt : keys.length < elements.length) :
    ∃ fault, parse text = .error (.badText fault) := by
  rw [parse, Json.recordPrefix_of_arr h, decide_eq_false (Nat.not_le.mpr hlt)]
  dsimp only
  cases ofMembers (keys.zip elements) with
  | error fault => exact ⟨fault, rfl⟩
  | ok _ => exact ⟨none, rfl⟩

/-! ## Truth values for words -/

theorem Draft.take_reworded {m m' : String × Json} (h : Reworded m m') (d : Draft) :
    d.take m' = d.take m := by
  rcases h with rfl | ⟨key, word, b, hkey, hword, rfl, rfl⟩
  · rfl
  · have hread : readTruth (.str word) = readTruth (.bool b) := by
      simp only [readTruth, truthOf_eq_some_iff.mpr hword]
    rcases hkey with rfl | rfl
    · rw [take, take, hread]
    · rw [take, take, hread]

/-- **A truth value says what the words for it say**, also where another member is at fault. -/
theorem ofMembers_reworded {members members' : List (String × Json)}
    (h : List.Forall₂ Reworded members members') : ofMembers members' = ofMembers members := by
  have hrun (d : Draft) : members'.foldlM Draft.take d = members.foldlM Draft.take d := by
    induction h generalizing d with
    | nil => rfl
    | cons hm _ ih =>
        rw [List.foldlM_cons, List.foldlM_cons, Draft.take_reworded hm]
        exact bind_congr ih
  rw [ofMembers, ofMembers, hrun]

theorem parse_reworded {text text' : String} {members members' : List (String × Json)}
    (h : List.Forall₂ Reworded members members') (htext : Json.parse text = some (.obj members))
    (htext' : Json.parse text' = some (.obj members')) : parse text' = parse text := by
  rw [parse_of_obj htext, parse_of_obj htext', ofMembers_reworded h]

/-! ## Options -/

theorem ofOptions_eq_ok_iff {options : List (String × String)}
    (hkeys : (options.map Prod.fst).Nodup) {t : Settings} :
    ofOptions options = .ok t ↔ AllValid options ∧ Overlaid (.ofOptions options) default t := by
  rw [← applyOptions_eq_ok_iff default hkeys, ofOptions]
  rcases default.applyOptions options with ⟨s, _ | e⟩ <;> simp

/-- A text that settles something can be read. -/
theorem Settled.exists_of_eq_some {α : Type} {text : Option String} {means : String → α → Prop}
    {old new : α} (h : Settled text means old new) {value : String} (hvalue : text = some value) :
    ∃ a, means value a := by
  subst hvalue
  exact ⟨new, h⟩

/-- What settles something is valid among options. -/
theorem Overlaid.allValid {given : Given} {s t : Settings} (h : Overlaid given s t) :
    AllValid given.options := by
  rintro ⟨key, value⟩ ho -
  simp only [Given.options, List.mem_append, List.mem_map, Option.mem_toList,
    Prod.mk.injEq, exists_eq_right_right] at ho
  rcases ho with (⟨hvalue, rfl⟩ | ⟨hvalue, rfl⟩) | ⟨hvalue, rfl⟩
  · obtain ⟨-, mark, hmark, -⟩ := h.generated.exists_of_eq_some hvalue
    exact valid_generated_iff.mpr ⟨mark, hmark⟩
  · exact valid_keepAliases_iff.mpr (h.keepAliases.exists_of_eq_some hvalue)
  · exact valid_parallel_iff.mpr (h.parallel.exists_of_eq_some hvalue)

/-- **Options settle what their texts say**, in whatever order they stand. -/
theorem Given.ofOptions_eq_ok_iff {given : Given} {options : List (String × String)}
    (h : options.Perm given.options) {t : Settings} :
    Settings.ofOptions options = .ok t ↔ Overlaid given default t := by
  have hkeys : (options.map Prod.fst).Nodup :=
    (h.map Prod.fst).nodup_iff.mpr given.nodup_options
  have hsame : (ownOptions options).Perm (ownOptions given.options) := h.filter _
  rw [Settings.ofOptions_eq_ok_iff hkeys, ofOptions_congr hsame given.nodup_options hkeys,
    given.ofOptions_options]
  exact and_iff_right_of_imp fun hover => allValid_congr hsame hover.allValid

/-! ## Both -/

/-- **Options and JSON give the same settings.** Whatever texts are given for whichever settings,
the options with these texts give settings exactly if the object with the same texts does, and both
give the same ones. That holds of every order of the options, and of every text that denotes an
object whose members say the same. A truth value in the place of a word for it changes nothing. -/
theorem frontEnds_agree (given : Given) :
    (∀ t, ofOptions given.options = .ok t ↔ parse (Json.line (.obj given.members)) = .ok t) ∧
    (∀ options members text, options.Perm given.options → given.SaidBy members →
      Json.parse text = some (.obj members) →
        ∀ t, ofOptions options = .ok t ↔ parse text = .ok t) ∧
    ∀ members members' text text', List.Forall₂ Reworded members members' →
      Json.parse text = some (.obj members) → Json.parse text' = some (.obj members') →
        parse text' = parse text := by
  have hany (options : List (String × String)) (members : List (String × Json)) (text : String)
      (hoptions : options.Perm given.options) (hmembers : given.SaidBy members)
      (htext : Json.parse text = some (.obj members)) (t : Settings) :
      ofOptions options = .ok t ↔ parse text = .ok t := by
    rw [given.ofOptions_eq_ok_iff hoptions, parse_eq_ok_iff htext, hmembers.ofMembers_eq_ok_iff]
  refine ⟨?_, hany, fun _ _ _ _ => parse_reworded⟩
  exact hany _ _ _ (.refl _) given.saidBy_members (Json.parse_line given.isPlain_members)

/-- Options in another order, an object with a member for something else, and the object with truth
values for the words. -/
theorem frontEnds_agree_wordsAndValues :
    let options := [("kmir.parallel", "OFF"), ("kmir.generated", "javax.annotation.Generated"),
      ("kmir.preferTypeAliases", " Yes ")]
    let members := [("parallel", .str "OFF"), ("note", .bool true),
      ("preferTypeAliases", .str " Yes "), ("generated", .str "javax.annotation.Generated")]
    let members' := [("parallel", .bool false), ("note", .bool true),
      ("preferTypeAliases", .bool true), ("generated", .str "javax.annotation.Generated")]
    ofOptions options = .ok ⟨some .legacy, true, false⟩ ∧
      parse (Json.line (.obj members)) = .ok ⟨some .legacy, true, false⟩ ∧
      parse (Json.line (.obj members')) = parse (Json.line (.obj members)) := by
  intro options members members'
  let given : Given := ⟨some "javax.annotation.Generated", some " Yes ", some "OFF"⟩
  have hoptions : options.Perm given.options := by decide
  have hmembers : given.SaidBy members := by
    constructor <;> simp [members, given, lookup_cons]
  have htext : Json.parse (Json.line (.obj members)) = some (.obj members) := by
    refine Json.parse_line ?_
    simp only [members, List.forall_mem_cons]
    exact ⟨.str _, .bool _, .str _, .str _, List.forall_mem_nil _⟩
  have htext' : Json.parse (Json.line (.obj members')) = some (.obj members') := by
    refine Json.parse_line ?_
    simp only [members', List.forall_mem_cons]
    exact ⟨.bool _, .bool _, .bool _, .str _, List.forall_mem_nil _⟩
  have hreworded : List.Forall₂ Reworded members members' := by
    refine .cons (Or.inr ⟨_, _, _, Or.inr rfl, ?_, rfl, rfl⟩) (.cons (Or.inl rfl)
      (.cons (Or.inr ⟨_, _, _, Or.inl rfl, ?_, rfl, rfl⟩) (.cons (Or.inl rfl) .nil)))
    · exact truthOf_eq_some_iff.mp (by decide +kernel)
    · exact truthOf_eq_some_iff.mp (by decide +kernel)
  have hok : ofOptions options = .ok ⟨some .legacy, true, false⟩ := by decide +kernel
  obtain ⟨-, hagree, hchange⟩ := frontEnds_agree given
  exact ⟨hok, (hagree options members _ hoptions hmembers htext _).mp hok,
    hchange members members' _ _ hreworded htext htext'⟩

end KotlinMeta.Settings
