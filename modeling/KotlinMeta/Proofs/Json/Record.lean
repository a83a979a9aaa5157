import KotlinMeta.Json.Reader
import Mathlib.Data.List.Forall2

/-! # JSON forms of records

A value can have more than one JSON form: an object may leave out a field whose value is the
default, and may have members that its reader does not know. `RecordForm` says which objects are
forms of a record, given the forms of its fields. `RecordForm.exists_members` is the main result: a
reader that looks up a field in such an object finds a form of its value, or nothing in place of a
default.
-/

set_option autoImplicit false

namespace KotlinMeta.Json

variable {α : Type} {form : α → Json → Prop} {write : α → Json} {read : Json → Option α}

/-! ## Forms and readers -/

/-- What is written for a value is one of its forms, and every form of it is read as that value. -/
structure RoundTrips (form : α → Json → Prop) (write : α → Json) (read : Json → Option α) :
    Prop where
  written (a : α) : form a (write a)
  read_eq (a : α) (j : Json) : form a j → read j = some a

/-- The one form of a value is the one that is written. -/
def Exactly (write : α → Json) (a : α) (j : Json) : Prop := j = write a

theorem roundTrips_exactly (h : ∀ a, read (write a) = some a) :
    RoundTrips (Exactly write) write read where
  written _ := rfl
  read_eq a j hj := by
    rw [hj]
    exact h a

/-- The forms of an optional value; its absence is written as `null`. -/
def OptionForm (form : α → Json → Prop) : Option α → Json → Prop
  | none => (· = null)
  | some a => form a

/-- A value that is not `null`, as one that may be. -/
theorem readNullable_eq_some {j : Json} {a : α} (hnull : read null = none)
    (h : read j = some a) : readNullable read j = some (some a) := by
  cases j with
  | null => rw [hnull] at h; cases h
  | _ => simp [readNullable, h]

theorem RoundTrips.option (h : RoundTrips form write read) (hnull : read null = none) :
    RoundTrips (OptionForm form) (orNull write) (readNullable read) where
  written
    | none => rfl
    | some a => h.written a
  read_eq
    | none, j, hj => by rw [hj]; rfl
    | some a, j, hj => readNullable_eq_some hnull (h.read_eq a j hj)

/-- Arrays whose elements have a property. -/
def ArrayForm (elements : List Json → Prop) (j : Json) : Prop := ∃ js, j = arr js ∧ elements js

/-- The forms of a list: an array of forms of its elements. -/
def ListForm (form : α → Json → Prop) (as : List α) : Json → Prop :=
  ArrayForm (List.Forall₂ form as)

theorem RoundTrips.list (h : RoundTrips form write read) :
    RoundTrips (ListForm form) (fun as => arr (as.map write)) (readList read) where
  written as := by
    refine ⟨_, rfl, ?_⟩
    rw [List.forall₂_map_right_iff, List.forall₂_same]
    intro a _
    exact h.written a
  read_eq as j := by
    rintro ⟨js, rfl, hjs⟩
    show js.mapM read = some as
    induction hjs with
    | nil => rfl
    | cons hj _ ih => simp [List.mapM_cons, h.read_eq _ _ hj, ih]

/-! ## Leaves -/

theorem roundTrips_str : RoundTrips (Exactly str) str readString :=
  roundTrips_exactly fun _ => rfl

theorem roundTrips_word : RoundTrips (Exactly word) word readWord := by
  refine roundTrips_exactly fun w => ?_
  have hw : w.toNat < 4294967296 := w.toNat_lt
  have hrange : (0 : Int) ≤ w.toNat ∧ (w.toNat : Int) < 0x100000000 := by omega
  simp [word, readWord, hrange]

/-- An integer with sign, as it is written. -/
def signed (n : Int32) : Json := int n.toInt

theorem roundTrips_signed : RoundTrips (Exactly signed) signed readInt32 := by
  refine roundTrips_exactly fun n => ?_
  have hlow := n.le_toInt
  have hhigh := n.toInt_lt
  have hrange : -0x80000000 ≤ n.toInt ∧ n.toInt < 0x80000000 := by omega
  simp [signed, readInt32, hrange]

theorem roundTrips_strs : RoundTrips (ListForm (Exactly str)) strs readStrings :=
  roundTrips_str.list

/-! ## Records -/

/-- A field of a record: its key, the forms of its value, and whether the field may be left out. -/
structure Field where
  key : String
  form : Json → Prop
  isDefault : Prop

namespace Field

/-- A field that must be there. -/
def required (key : String) (form : α → Json → Prop) (a : α) : Field := ⟨key, form a, False⟩

/-- A field that may be left out when its value is the default. -/
def defaulted (key : String) (form : α → Json → Prop) (absent a : α) : Field :=
  ⟨key, form a, a = absent⟩

/-- A field that may be left out in the absence of a value. -/
def optional (key : String) (form : α → Json → Prop) (a : Option α) : Field :=
  defaulted key (OptionForm form) none a

/-- What the members say of the field is right: under its key is a form of its value, or nothing in
place of the default. -/
def Found (f : Field) (members : List (String × Json)) : Prop :=
  match member? members f.key with
  | none => f.isDefault
  | some j => f.form j

end Field

/-- Members that hold fields in order. A field with the default may be left out, and a member whose
key is none of `known` may stand anywhere. -/
inductive Holds (known : List String) : List Field → List (String × Json) → Prop
  | nil : Holds known [] []
  | field {f : Field} {fields : List Field} {j : Json} {members : List (String × Json)} :
    f.form j → Holds known fields members → Holds known (f :: fields) ((f.key, j) :: members)
  | default {f : Field} {fields : List Field} {members : List (String × Json)} :
    f.isDefault → Holds known fields members → Holds known (f :: fields) members
  | unknown {fields : List Field} {key : String} {j : Json} {members : List (String × Json)} :
    key ∉ known → Holds known fields members → Holds known fields ((key, j) :: members)

/-- The keys of fields. -/
def keys (fields : List Field) : List String := fields.map (·.key)

theorem mem_keys {fields : List Field} {f : Field} (h : f ∈ fields) : f.key ∈ keys fields :=
  List.mem_map_of_mem h

theorem nodup_keys_cons {f : Field} {fields : List Field} :
    (keys (f :: fields)).Nodup ↔ f.key ∉ keys fields ∧ (keys fields).Nodup :=
  List.nodup_cons

/-- The forms of a record: objects with its fields, except for some that have the default, and with
any members that the record does not know. -/
def RecordForm (fields : List Field) (j : Json) : Prop :=
  ∃ members, j = obj members ∧ Holds (keys fields) fields members

/-! ## Looking up a field -/

theorem member?_cons_self (members : List (String × Json)) (key : String) (j : Json) :
    member? ((key, j) :: members) key = some j := by
  simp [member?]

theorem member?_cons_of_ne (members : List (String × Json)) {key other : String} (j : Json)
    (h : key ≠ other) : member? ((other, j) :: members) key = member? members key := by
  have hbeq : (key == other) = false := beq_eq_false_iff_ne.mpr h
  simp [member?, List.lookup_cons, hbeq]

/-- A scan that stops at the first member with a key reads the field under that key. -/
theorem defaulted_of_scan (scan : List (String × Json) → Option α) {key : String} {absent : α}
    (hnil : scan [] = some absent)
    (hcons : ∀ other j rest,
      scan ((other, j) :: rest) = if other = key then read j else scan rest)
    (members : List (String × Json)) : scan members = defaulted members key absent read := by
  unfold defaulted
  induction members with
  | nil => exact hnil
  | cons m rest ih =>
      obtain ⟨other, j⟩ := m
      rw [hcons]
      by_cases h : other = key
      · subst h
        rw [if_pos rfl, member?_cons_self]
      · rw [if_neg h, ih, member?_cons_of_ne rest j (Ne.symm h)]

/-- A member with another key changes nothing for a field. -/
theorem Field.Found.cons_of_ne {f : Field} {members : List (String × Json)}
    (h : f.Found members) {other : String} (j : Json) (hne : f.key ≠ other) :
    f.Found ((other, j) :: members) := by
  rw [Field.Found, member?_cons_of_ne members j hne]
  exact h

section Holds

variable {known : List String} {fields : List Field} {members : List (String × Json)}

/-- A member with a known key is that of a field. -/
theorem Holds.key_mem (h : Holds known fields members) {m : String × Json} (hm : m ∈ members)
    (hknown : m.1 ∈ known) : m.1 ∈ keys fields := by
  induction h with
  | nil => cases hm
  | field _ _ ih =>
      rcases List.mem_cons.mp hm with rfl | hm
      · exact List.mem_cons_self
      · exact List.mem_cons_of_mem _ (ih hm)
  | default _ _ ih => exact List.mem_cons_of_mem _ (ih hm)
  | unknown hkey _ ih =>
      rcases List.mem_cons.mp hm with rfl | hm
      · exact absurd hknown hkey
      · exact ih hm

theorem Holds.filter_eq_nil (h : Holds known fields members) {key : String} (hknown : key ∈ known)
    (hkey : key ∉ keys fields) : members.filter (fun m => m.1 == key) = [] := by
  rw [List.filter_eq_nil_iff]
  intro m hm heq
  have hm1 : m.1 = key := by simpa using heq
  exact hkey (hm1 ▸ h.key_mem hm (hm1 ▸ hknown))

theorem Holds.member?_eq_none (h : Holds known fields members) {key : String}
    (hknown : key ∈ known) (hkey : key ∉ keys fields) : member? members key = none := by
  rw [member?, List.lookup_eq_none_iff]
  intro m hm
  have hm1 : key ≠ m.1 := by
    rintro rfl
    exact hkey (h.key_mem hm hknown)
  simpa using hm1

theorem Holds.filter_length_le (h : Holds known fields members) (hnodup : (keys fields).Nodup)
    {key : String} (hknown : key ∈ known) :
    (members.filter fun m => m.1 == key).length ≤ 1 := by
  induction h with
  | nil => simp
  | @field f fields j members _ hrest ih =>
      obtain ⟨hf, hnodup⟩ := nodup_keys_cons.mp hnodup
      by_cases heq : f.key = key
      · have hnone := hrest.filter_eq_nil hknown (heq ▸ hf)
        simp [heq, hnone]
      · simpa [heq] using ih hnodup
  | default _ _ ih => exact ih (nodup_keys_cons.mp hnodup).2
  | @unknown fields other j members hother _ ih =>
      have hne : other ≠ key := by
        rintro rfl
        exact hother hknown
      simpa [hne] using ih hnodup

theorem Holds.found (h : Holds known fields members) (hnodup : (keys fields).Nodup)
    (hknown : keys fields ⊆ known) : ∀ f ∈ fields, f.Found members := by
  induction h with
  | nil => simp
  | @field f fields j members hform _ ih =>
      obtain ⟨hf, hnodup⟩ := nodup_keys_cons.mp hnodup
      obtain ⟨-, hknown⟩ := List.cons_subset.mp hknown
      intro g hg
      rcases List.mem_cons.mp hg with rfl | hg
      · rw [Field.Found, member?_cons_self]
        exact hform
      · refine (ih hnodup hknown g hg).cons_of_ne j ?_
        intro heq
        exact hf (heq ▸ mem_keys hg)
  | @default f fields members hdefault hrest ih =>
      obtain ⟨hf, hnodup⟩ := nodup_keys_cons.mp hnodup
      obtain ⟨hfKnown, hknown⟩ := List.cons_subset.mp hknown
      intro g hg
      rcases List.mem_cons.mp hg with rfl | hg
      · rw [Field.Found, hrest.member?_eq_none hfKnown hf]
        exact hdefault
      · exact ih hnodup hknown g hg
  | @unknown fields other j members hother _ ih =>
      intro g hg
      refine (ih hnodup hknown g hg).cons_of_ne j ?_
      intro heq
      exact hother (heq ▸ hknown (mem_keys hg))

end Holds

theorem readRecord_eq_some {known : List String} {j : Json} {members : List (String × Json)} :
    readRecord known j = some members ↔
      (j = obj members ∧ keysOnce known members = true) ∨
        ∃ elements, j = arr elements ∧ elements.length ≤ known.length ∧
          members = known.zip elements := by
  cases j with
  | obj ms =>
      simp only [readRecord, Option.ite_none_right_eq_some, Option.some.injEq, obj.injEq,
        reduceCtorEq, false_and, exists_false, or_false]
      constructor
      · rintro ⟨honce, rfl⟩
        exact ⟨rfl, honce⟩
      · rintro ⟨rfl, honce⟩
        exact ⟨honce, rfl⟩
  | arr js =>
      simp only [readRecord, Option.ite_none_right_eq_some, Option.some.injEq, arr.injEq,
        reduceCtorEq, false_and, false_or]
      constructor
      · rintro ⟨hle, rfl⟩
        exact ⟨js, rfl, hle, rfl⟩
      · rintro ⟨_, rfl, hle, rfl⟩
        exact ⟨hle, rfl⟩
  | _ => simp [readRecord]

/-! ## Fields in order -/

theorem filter_zip_eq_nil {keys : List String} {key : String} (h : key ∉ keys)
    (elements : List Json) : (keys.zip elements).filter (fun m => m.1 == key) = [] := by
  rw [List.filter_eq_nil_iff]
  intro m hm heq
  have hm1 : m.1 = key := by simpa using heq
  exact h (hm1 ▸ (List.of_mem_zip hm).1)

theorem filter_zip_length_le {keys : List String} (hnodup : keys.Nodup) (key : String)
    (elements : List Json) :
    ((keys.zip elements).filter fun m => m.1 == key).length ≤ 1 := by
  induction keys generalizing elements with
  | nil => simp
  | cons other keys ih =>
      obtain ⟨hother, hnodup⟩ := List.nodup_cons.mp hnodup
      cases elements with
      | nil => simp
      | cons j rest =>
          rw [List.zip_cons_cons]
          by_cases heq : other = key
          · have hnone := filter_zip_eq_nil (heq ▸ hother) rest
            simp [heq, hnone]
          · simpa [heq] using ih hnodup rest

/-- **An array of the fields in order** says what the object of them does. -/
theorem readRecord_arr {known : List String} (hnodup : known.Nodup) {elements : List Json}
    (hle : elements.length ≤ known.length) :
    readRecord known (arr elements) = readRecord known (obj (known.zip elements)) := by
  have honce : keysOnce known (known.zip elements) = true := by
    unfold keysOnce
    rw [List.all_eq_true]
    intro key _
    simpa using filter_zip_length_le hnodup key elements
  rw [readRecord, if_pos honce, readRecord, if_pos hle]

/-- A reader that looks only at the members of a record reads an array as it reads the object. -/
theorem read_arr_of_members {known : List String} (hnodup : known.Nodup)
    {fields : List (String × Json) → Option α}
    (h : ∀ j members, readRecord known j = some members → read j = fields members)
    {elements : List Json} (hle : elements.length ≤ known.length) :
    read (arr elements) = read (obj (known.zip elements)) := by
  have harr : readRecord known (arr elements) = some (known.zip elements) := if_pos hle
  have hobj := harr
  rw [readRecord_arr hnodup hle] at hobj
  rw [h _ _ harr, h _ _ hobj]

/-- A walk over keys and elements that stops at the first key of that name reads the field of the
array. -/
theorem defaulted_of_walk (walk : List String → List Json → Option α) {key : String} {absent : α}
    (hkeys : ∀ elements, walk [] elements = some absent)
    (hend : ∀ keys, walk keys [] = some absent)
    (hcons : ∀ other keys j rest,
      walk (other :: keys) (j :: rest) = if other = key then read j else walk keys rest)
    (keys : List String) (elements : List Json) :
    walk keys elements = defaulted (keys.zip elements) key absent read := by
  induction keys generalizing elements with
  | nil => exact hkeys elements
  | cons other keys ih =>
      cases elements with
      | nil => exact hend _
      | cons j rest =>
          rw [hcons, List.zip_cons_cons]
          unfold defaulted
          by_cases h : other = key
          · subst h
            rw [if_pos rfl, member?_cons_self]
          · rw [if_neg h, ih, member?_cons_of_ne _ j (Ne.symm h)]
            rfl

/-- A form of a record is an object in which the record's reader finds every field. -/
theorem RecordForm.exists_members {fields : List Field} {j : Json} (h : RecordForm fields j)
    (known : List String) (hknown : keys fields = known) (hnodup : known.Nodup) :
    ∃ members, readRecord known j = some members ∧ ∀ f ∈ fields, f.Found members := by
  subst hknown
  obtain ⟨members, rfl, hholds⟩ := h
  refine ⟨members, ?_, hholds.found hnodup (List.Subset.refl _)⟩
  have honce : keysOnce (keys fields) members = true := by
    unfold keysOnce
    rw [List.all_eq_true]
    intro key hkey
    simpa using hholds.filter_length_le hnodup hkey
  exact readRecord_eq_some.mpr (Or.inl ⟨rfl, honce⟩)

/-! ## Reading a field -/

section Found

variable {members : List (String × Json)} {key : String} {forms : Json → Prop}

theorem required_eq_some {a : α} (h : Field.Found ⟨key, forms, False⟩ members)
    (hread : ∀ j, forms j → read j = some a) : required members key read = some a := by
  unfold Field.Found at h
  unfold required
  cases hm : member? members key with
  | none => simp [hm] at h
  | some j =>
      simp only [hm] at h
      exact hread j h

theorem defaulted_eq_some {absent a : α} (h : Field.Found ⟨key, forms, a = absent⟩ members)
    (hread : ∀ j, forms j → read j = some a) : defaulted members key absent read = some a := by
  unfold Field.Found at h
  unfold defaulted
  cases hm : member? members key with
  | none =>
      simp only [hm] at h
      rw [h]
  | some j =>
      simp only [hm] at h
      exact hread j h

theorem optional_eq_some {a : Option α} (h : Field.Found ⟨key, forms, a = none⟩ members)
    (hread : ∀ j, forms j → readNullable read j = some a) : optional members key read = some a :=
  defaulted_eq_some h hread

theorem RoundTrips.required (h : RoundTrips form write read) {a : α}
    (hfound : (Field.required key form a).Found members) :
    Json.required members key read = some a :=
  required_eq_some hfound (h.read_eq a)

theorem RoundTrips.defaulted (h : RoundTrips form write read) {absent a : α}
    (hfound : (Field.defaulted key form absent a).Found members) :
    Json.defaulted members key absent read = some a :=
  defaulted_eq_some hfound (h.read_eq a)

theorem RoundTrips.optional {write : Option α → Json}
    (h : RoundTrips (OptionForm form) write (readNullable read)) {a : Option α}
    (hfound : (Field.optional key form a).Found members) :
    Json.optional members key read = some a :=
  optional_eq_some hfound (h.read_eq a)

end Found

end KotlinMeta.Json
