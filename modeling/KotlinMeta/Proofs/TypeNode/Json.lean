import KotlinMeta.Node.Reader
import KotlinMeta.Node.Writer
import KotlinMeta.Proofs.Json.Record

/-! # JSON forms of type nodes

`TypeNode.JsonForm` says which JSON values stand for a type node: in every object of the tree, the
fields with their default may be missing and unknown members may be there. The main results are
`TypeNode.roundTrips`, `ProjectionNode.roundTrips` and `FlexibleBoundNode.roundTrips`. An array of
the fields in order is read as the object of them, see `TypeNode.read_arr`.
-/

set_option autoImplicit false

namespace KotlinMeta

open Json (Exactly RoundTrips)

/-! ## Leaves -/

theorem Flags.roundTrips : RoundTrips (Exactly toJson) toJson read := by
  refine Json.roundTrips_exactly fun f => ?_
  have hbits := Json.roundTrips_word.read_eq f.bits _ rfl
  show (Json.readWord (Json.word f.bits)).map mk = some f
  rw [hbits]
  rfl

theorem NodeVariance.roundTrips : RoundTrips (Exactly toJson) toJson read :=
  Json.roundTrips_exactly fun v => by cases v <;> rfl

theorem Classifier.roundTrips : RoundTrips (Exactly toJson) toJson read := by
  refine Json.roundTrips_exactly fun c => ?_
  cases c with
  | classNamed name => rfl
  | typeAlias name => rfl
  | typeParameter id =>
      have hid := Json.roundTrips_word.read_eq id _ rfl
      show (Json.readWord (Json.word id)).map typeParameter = _
      rw [hid]
      rfl

/-! ## Forms -/

mutual

/-- The JSON values that stand for a type. -/
def TypeNode.JsonForm : TypeNode → Json → Prop
  | ⟨flags, classifier, arguments, abbreviated, expanded, outer, flexible⟩ =>
    Json.RecordForm
      [.defaulted "flags" (Exactly Flags.toJson) Flags.none flags,
       .optional "classifier" (Exactly Classifier.toJson) classifier,
       ⟨"arguments", Json.ArrayForm (ProjectionNode.ElementForms arguments), arguments = []⟩,
       ⟨"abbreviatedType", TypeNode.OptionForm abbreviated, abbreviated = none⟩,
       ⟨"expandedType", TypeNode.OptionForm expanded, expanded = none⟩,
       ⟨"outerType", TypeNode.OptionForm outer, outer = none⟩,
       ⟨"flexibleTypeUpperBound", FlexibleBoundNode.OptionForm flexible, flexible = none⟩]

def TypeNode.OptionForm : Option TypeNode → Json → Prop
  | none => (· = .null)
  | some t => t.JsonForm

def ProjectionNode.ElementForms : List ProjectionNode → List Json → Prop
  | [] => (· = [])
  | p :: rest =>
    fun js => ∃ j js', js = j :: js' ∧ p.JsonForm j ∧ ProjectionNode.ElementForms rest js'

/-- The JSON values that stand for a type argument. -/
def ProjectionNode.JsonForm : ProjectionNode → Json → Prop
  | ⟨variance, type⟩ =>
    Json.RecordForm
      [.optional "variance" (Exactly NodeVariance.toJson) variance,
       ⟨"type", TypeNode.OptionForm type, type = none⟩]

/-- The JSON values that stand for a flexible bound. -/
def FlexibleBoundNode.JsonForm : FlexibleBoundNode → Json → Prop
  | ⟨type, flexibilityId⟩ =>
    Json.RecordForm
      [⟨"type", type.JsonForm, False⟩,
       .optional "typeFlexibilityId" (Exactly Json.str) flexibilityId]

def FlexibleBoundNode.OptionForm : Option FlexibleBoundNode → Json → Prop
  | none => (· = .null)
  | some b => b.JsonForm

end

/-! ## Readers

The readers of types recurse over the members of an object or over the elements of an array; a field
is nevertheless read as in any other record. -/

namespace TypeNode

theorem readField_eq (key : String) (members : List (String × Json)) :
    readField key members = Json.optional members key read := by
  refine Json.defaulted_of_scan (readField key) rfl (fun other j rest => ?_) members
  conv_lhs => unfold readField
  cases j <;> rfl

theorem readFlexible_eq (members : List (String × Json)) :
    readFlexible members = Json.optional members "flexibleTypeUpperBound" readBound := by
  refine Json.defaulted_of_scan readFlexible rfl (fun other j rest => ?_) members
  conv_lhs => unfold readFlexible
  cases j <;> rfl

theorem fieldAt_eq (key : String) (keys : List String) (elements : List Json) :
    fieldAt key keys elements = Json.optional (keys.zip elements) key read := by
  refine Json.defaulted_of_walk (fieldAt key) (fun elements => ?_) (fun keys => ?_)
    (fun other keys j rest => ?_) keys elements
  · cases elements <;> rfl
  · cases keys <;> rfl
  · conv_lhs => unfold fieldAt
    cases j <;> rfl

theorem flexibleAt_eq (keys : List String) (elements : List Json) :
    flexibleAt keys elements =
      Json.optional (keys.zip elements) "flexibleTypeUpperBound" readBound := by
  refine Json.defaulted_of_walk flexibleAt (fun elements => ?_) (fun keys => ?_)
    (fun other keys j rest => ?_) keys elements
  · cases elements <;> rfl
  · cases keys <;> rfl
  · conv_lhs => unfold flexibleAt
    cases j <;> rfl

theorem readProjections_eq (js : List Json) : readProjections js = js.mapM readProjection := by
  induction js with
  | nil => rfl
  | cons j rest ih => rw [readProjections, ih, List.mapM_cons]

theorem readArguments_eq (members : List (String × Json)) :
    readArguments members =
      Json.defaulted members "arguments" [] (Json.readList readProjection) := by
  refine Json.defaulted_of_scan readArguments rfl (fun other j rest => ?_) members
  conv_lhs => unfold readArguments
  cases j with
  | arr elements => simp only [readProjections_eq, Json.readList]
  | _ => rfl

theorem argumentsAt_eq (keys : List String) (elements : List Json) :
    argumentsAt keys elements =
      Json.defaulted (keys.zip elements) "arguments" [] (Json.readList readProjection) := by
  refine Json.defaulted_of_walk argumentsAt (fun elements => ?_) (fun keys => ?_)
    (fun other keys j rest => ?_) keys elements
  · cases elements <;> rfl
  · cases keys <;> rfl
  · conv_lhs => unfold argumentsAt
    cases j with
    | arr elements => simp only [readProjections_eq, Json.readList]
    | _ => rfl

theorem read_of_members {j : Json} {members : List (String × Json)}
    (h : Json.readRecord keys j = some members) :
    read j = do
      return {
        flags := ← Json.defaulted members "flags" Flags.none Flags.read
        classifier := ← Json.optional members "classifier" Classifier.read
        arguments := ← Json.defaulted members "arguments" [] (Json.readList readProjection)
        abbreviatedType := ← Json.optional members "abbreviatedType" read
        expandedType := ← Json.optional members "expandedType" read
        outerType := ← Json.optional members "outerType" read
        flexibleUpperBound := ← Json.optional members "flexibleTypeUpperBound" readBound } := by
  obtain ⟨rfl, honce⟩ | ⟨elements, rfl, hle, rfl⟩ := Json.readRecord_eq_some.mp h
  · rw [read, if_pos honce, readArguments_eq, readField_eq, readField_eq, readField_eq,
      readFlexible_eq]
  · rw [read, if_pos hle, argumentsAt_eq, fieldAt_eq, fieldAt_eq, fieldAt_eq, flexibleAt_eq]

theorem readProjection_of_members {j : Json} {members : List (String × Json)}
    (h : Json.readRecord projectionKeys j = some members) :
    readProjection j = do
      return {
        variance := ← Json.optional members "variance" NodeVariance.read
        type := ← Json.optional members "type" read } := by
  obtain ⟨rfl, honce⟩ | ⟨elements, rfl, hle, rfl⟩ := Json.readRecord_eq_some.mp h
  · rw [readProjection, if_pos honce, readField_eq]
  · rw [readProjection, if_pos hle, fieldAt_eq]

/-- A reader that has no use for the absence of a type reads the type as a required one. -/
theorem optional_bind_eq_required {α : Type} (members : List (String × Json)) (key : String)
    (next : Option TypeNode → Option α) (hnone : next none = none) :
    (Json.optional members key read).bind next =
      (Json.required members key read).bind fun t => next (some t) := by
  unfold Json.optional Json.defaulted Json.required
  cases Json.member? members key with
  | none => exact hnone
  | some j =>
      cases j with
      | null => exact hnone
      | _ =>
          simp only [Json.readNullable, Option.bind_some]
          cases read _ <;> rfl

theorem readBound_of_members {j : Json} {members : List (String × Json)}
    (h : Json.readRecord boundKeys j = some members) :
    readBound j = do
      return {
        type := ← Json.required members "type" read
        flexibilityId := ← Json.optional members "typeFlexibilityId" Json.readString } := by
  obtain ⟨rfl, honce⟩ | ⟨elements, rfl, hle, rfl⟩ := Json.readRecord_eq_some.mp h
  · rw [readBound, if_pos honce, readField_eq]
    exact optional_bind_eq_required members "type" _ rfl
  · rw [readBound, if_pos hle, fieldAt_eq]
    exact optional_bind_eq_required (boundKeys.zip elements) "type" _ rfl

/-! An array of the fields in order is read as the object of them. -/

theorem read_arr {elements : List Json} (h : elements.length ≤ keys.length) :
    read (.arr elements) = read (.obj (keys.zip elements)) :=
  Json.read_arr_of_members (by decide) (fun _ _ => read_of_members) h

theorem readProjection_arr {elements : List Json} (h : elements.length ≤ projectionKeys.length) :
    readProjection (.arr elements) = readProjection (.obj (projectionKeys.zip elements)) :=
  Json.read_arr_of_members (by decide) (fun _ _ => readProjection_of_members) h

theorem readBound_arr {elements : List Json} (h : elements.length ≤ boundKeys.length) :
    readBound (.arr elements) = readBound (.obj (boundKeys.zip elements)) :=
  Json.read_arr_of_members (by decide) (fun _ _ => readBound_of_members) h

end TypeNode

/-! ## What is written is a form, and every form is read as its node

Both by recursion over the node, with the lists and options that it holds. -/

mutual

theorem TypeNode.jsonForm_toJson : ∀ t : TypeNode, t.JsonForm t.toJson
  | ⟨_, _, arguments, abbreviated, expanded, outer, flexible⟩ =>
    ⟨_, rfl, .field rfl <| .field (by cases ‹Option Classifier› <;> rfl) <|
      .field ⟨_, rfl, ProjectionNode.elementForms_listJson arguments⟩ <|
      .field (TypeNode.optionForm_optionJson abbreviated) <|
      .field (TypeNode.optionForm_optionJson expanded) <|
      .field (TypeNode.optionForm_optionJson outer) <|
      .field (FlexibleBoundNode.optionForm_optionJson flexible) .nil⟩

theorem TypeNode.optionForm_optionJson :
    ∀ t : Option TypeNode, TypeNode.OptionForm t (TypeNode.optionJson t)
  | none => rfl
  | some t => t.jsonForm_toJson

theorem ProjectionNode.elementForms_listJson :
    ∀ ps : List ProjectionNode, ProjectionNode.ElementForms ps (ProjectionNode.listJson ps)
  | [] => rfl
  | p :: rest =>
    ⟨_, _, rfl, p.jsonForm_toJson, ProjectionNode.elementForms_listJson rest⟩

theorem ProjectionNode.jsonForm_toJson : ∀ p : ProjectionNode, p.JsonForm p.toJson
  | ⟨variance, type⟩ =>
    ⟨_, rfl, .field (by cases variance <;> rfl) <|
      .field (TypeNode.optionForm_optionJson type) .nil⟩

theorem FlexibleBoundNode.jsonForm_toJson : ∀ b : FlexibleBoundNode, b.JsonForm b.toJson
  | ⟨type, flexibilityId⟩ =>
    ⟨_, rfl, .field type.jsonForm_toJson <| .field (by cases flexibilityId <;> rfl) .nil⟩

theorem FlexibleBoundNode.optionForm_optionJson :
    ∀ b : Option FlexibleBoundNode,
      FlexibleBoundNode.OptionForm b (FlexibleBoundNode.optionJson b)
  | none => rfl
  | some b => b.jsonForm_toJson

end

mutual

theorem TypeNode.read_of_jsonForm :
    ∀ (t : TypeNode) (j : Json), t.JsonForm j → TypeNode.read j = some t
  | ⟨flags, classifier, arguments, abbreviated, expanded, outer, flexible⟩, j, h => by
    obtain ⟨members, hmembers, hfields⟩ :=
      Json.RecordForm.exists_members h TypeNode.keys rfl (by decide)
    simp only [List.forall_mem_cons] at hfields
    obtain ⟨hflags, hclassifier, harguments, habbreviated, hexpanded, houter, hflexible, -⟩ :=
      hfields
    rw [TypeNode.read_of_members hmembers,
      Json.defaulted_eq_some hflags (Flags.roundTrips.read_eq flags),
      Json.optional_eq_some hclassifier ((Classifier.roundTrips.option rfl).read_eq classifier),
      Json.defaulted_eq_some harguments (ProjectionNode.readList_of_elementForms arguments),
      Json.optional_eq_some habbreviated (TypeNode.readNullable_of_optionForm abbreviated),
      Json.optional_eq_some hexpanded (TypeNode.readNullable_of_optionForm expanded),
      Json.optional_eq_some houter (TypeNode.readNullable_of_optionForm outer),
      Json.optional_eq_some hflexible (FlexibleBoundNode.readNullable_of_optionForm flexible)]
    rfl

theorem TypeNode.readNullable_of_optionForm :
    ∀ (t : Option TypeNode) (j : Json), TypeNode.OptionForm t j →
      Json.readNullable TypeNode.read j = some t
  | none, j, h => by rw [h]; rfl
  | some t, j, h => Json.readNullable_eq_some rfl (TypeNode.read_of_jsonForm t j h)

theorem ProjectionNode.readList_of_elementForms :
    ∀ (ps : List ProjectionNode) (j : Json), Json.ArrayForm (ProjectionNode.ElementForms ps) j →
      Json.readList TypeNode.readProjection j = some ps
  | [], j, h => by
    obtain ⟨js, rfl, rfl⟩ := h
    rfl
  | p :: rest, j, h => by
    obtain ⟨js, rfl, j, js', rfl, hp, hrest⟩ := h
    have ihp := ProjectionNode.read_of_jsonForm p j hp
    have ihrest := ProjectionNode.readList_of_elementForms rest (.arr js') ⟨js', rfl, hrest⟩
    simp only [Json.readList] at ihrest ⊢
    simp [List.mapM_cons, ihp, ihrest]

theorem ProjectionNode.read_of_jsonForm :
    ∀ (p : ProjectionNode) (j : Json), p.JsonForm j → TypeNode.readProjection j = some p
  | ⟨variance, type⟩, j, h => by
    obtain ⟨members, hmembers, hfields⟩ :=
      Json.RecordForm.exists_members h TypeNode.projectionKeys rfl (by decide)
    simp only [List.forall_mem_cons] at hfields
    obtain ⟨hvariance, htype, -⟩ := hfields
    rw [TypeNode.readProjection_of_members hmembers,
      Json.optional_eq_some hvariance ((NodeVariance.roundTrips.option rfl).read_eq variance),
      Json.optional_eq_some htype (TypeNode.readNullable_of_optionForm type)]
    rfl

theorem FlexibleBoundNode.read_of_jsonForm :
    ∀ (b : FlexibleBoundNode) (j : Json), b.JsonForm j → TypeNode.readBound j = some b
  | ⟨type, flexibilityId⟩, j, h => by
    obtain ⟨members, hmembers, hfields⟩ :=
      Json.RecordForm.exists_members h TypeNode.boundKeys rfl (by decide)
    simp only [List.forall_mem_cons] at hfields
    obtain ⟨htype, hid, -⟩ := hfields
    rw [TypeNode.readBound_of_members hmembers,
      Json.required_eq_some htype (TypeNode.read_of_jsonForm type),
      Json.optional_eq_some hid ((Json.roundTrips_str.option rfl).read_eq flexibilityId)]
    rfl

theorem FlexibleBoundNode.readNullable_of_optionForm :
    ∀ (b : Option FlexibleBoundNode) (j : Json), FlexibleBoundNode.OptionForm b j →
      Json.readNullable TypeNode.readBound j = some b
  | none, j, h => by rw [h]; rfl
  | some b, j, h => Json.readNullable_eq_some rfl (FlexibleBoundNode.read_of_jsonForm b j h)

end

theorem TypeNode.roundTrips : RoundTrips TypeNode.JsonForm TypeNode.toJson TypeNode.read :=
  ⟨TypeNode.jsonForm_toJson, TypeNode.read_of_jsonForm⟩

theorem ProjectionNode.roundTrips :
    RoundTrips ProjectionNode.JsonForm ProjectionNode.toJson TypeNode.readProjection :=
  ⟨ProjectionNode.jsonForm_toJson, ProjectionNode.read_of_jsonForm⟩

theorem FlexibleBoundNode.roundTrips :
    RoundTrips FlexibleBoundNode.JsonForm FlexibleBoundNode.toJson TypeNode.readBound :=
  ⟨FlexibleBoundNode.jsonForm_toJson, FlexibleBoundNode.read_of_jsonForm⟩

end KotlinMeta
