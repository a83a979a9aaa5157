import Mathlib.Data.List.Basic
import KotlinMeta.Text.Segments

/-! # Texts in pieces

A text is cut at a separator and joined by it. Nothing is lost when a text is cut and joined again
(`join_split`), nor when pieces without the separator are joined and cut again (`split_join`); and
where two texts meet at a separator, so do their pieces (`split_append`).
-/

set_option autoImplicit false

namespace KotlinMeta.Text

/-! ## Cutting and joining -/

theorem split_ne_nil (sep : Char) (text : String) : split sep text ≠ [] := by
  rw [split, Ne, List.map_eq_nil_iff]
  exact segments_ne_nil sep _

theorem split_of_not_mem {sep : Char} {text : String} (h : sep ∉ text.toList) :
    split sep text = [text] := by
  rw [split, segments_of_not_mem h, List.map_singleton, String.ofList_toList]

/-- A text is cut and joined again. -/
theorem join_split (sep : Char) (text : String) : join sep (split sep text) = text := by
  have hid : String.toList ∘ String.ofList = id := funext fun cs => String.toList_ofList
  rw [join, split, List.map_map, hid, List.map_id, joined_segments, String.ofList_toList]

/-- Pieces without the separator are joined by it and cut again. -/
theorem split_join {sep : Char} {names : List String} (hne : names ≠ [])
    (hfree : ∀ n ∈ names, sep ∉ n.toList) : split sep (join sep names) = names := by
  have hpieces : ∀ s ∈ names.map String.toList, sep ∉ s := List.forall_mem_map.mpr hfree
  rw [split, join, String.toList_ofList, segments_joined (by simpa using hne) hpieces,
    List.map_map]
  calc names.map (String.ofList ∘ String.toList)
      = names.map id := List.map_congr_left fun n _ => String.ofList_toList
    _ = names := List.map_id names

theorem join_inj {sep : Char} {names names' : List String} (hne : names ≠ [])
    (hfree : ∀ n ∈ names, sep ∉ n.toList) (hne' : names' ≠ [])
    (hfree' : ∀ n ∈ names', sep ∉ n.toList) :
    join sep names = join sep names' ↔ names = names' := by
  constructor
  · intro h
    rw [← split_join hne hfree, h, split_join hne' hfree']
  · intro h
    rw [h]

/-! ## Pieces of two texts -/

/-- A separator between two texts is between their pieces. -/
theorem split_append {sep : Char} {text : String} (front back : String)
    (h : text.toList = front.toList ++ sep :: back.toList) :
    split sep text = split sep front ++ split sep back := by
  rw [split, h, segments_append, List.map_append, split, split]

theorem joined_append {sep : Char} {ss ts : List (List Char)} (hss : ss ≠ []) (hts : ts ≠ []) :
    joined sep (ss ++ ts) = joined sep ss ++ sep :: joined sep ts := by
  induction ss with
  | nil => exact absurd rfl hss
  | cons s rest ih =>
      cases rest with
      | nil =>
          cases ts with
          | nil => exact absurd rfl hts
          | cons t ts => rfl
      | cons s' rest =>
          have htail := ih (by simp)
          rw [List.cons_append] at htail
          rw [List.cons_append, List.cons_append, joined, joined, htail, List.append_assoc]
          rfl

theorem toList_join_append (sep : Char) {front back : List String} (hfront : front ≠ [])
    (hback : back ≠ []) :
    (join sep (front ++ back)).toList =
      (join sep front).toList ++ sep :: (join sep back).toList := by
  simp only [join, String.toList_ofList, List.map_append]
  exact joined_append (by simpa using hfront) (by simpa using hback)

/-! ## Characters of the pieces -/

/-- No piece holds the separator. -/
theorem not_mem_of_mem_split {sep : Char} {text n : String} (hn : n ∈ split sep text) :
    sep ∉ n.toList := by
  obtain ⟨piece, hpiece, rfl⟩ := List.mem_map.mp hn
  rw [String.toList_ofList]
  exact not_mem_of_mem_segments hpiece

theorem mem_joined_iff {sep c : Char} (hc : c ≠ sep) {ss : List (List Char)} :
    c ∈ joined sep ss ↔ ∃ s ∈ ss, c ∈ s := by
  induction ss with
  | nil => simp [joined]
  | cons s rest ih =>
      cases rest with
      | nil => simp [joined]
      | cons t rest =>
          rw [joined, List.mem_append, List.mem_cons, ih, or_iff_right hc]
          simp

/-- Joining brings in no character but the separator. -/
theorem mem_join_iff {sep c : Char} (hc : c ≠ sep) {names : List String} :
    c ∈ (join sep names).toList ↔ ∃ n ∈ names, c ∈ n.toList := by
  rw [join, String.toList_ofList, mem_joined_iff hc]
  simp

/-- Cutting makes no new characters. -/
theorem mem_of_mem_split {sep c : Char} (hc : c ≠ sep) {text n : String} (hn : n ∈ split sep text)
    (hcn : c ∈ n.toList) : c ∈ text.toList := by
  rw [← join_split sep text, mem_join_iff hc]
  exact ⟨n, hn, hcn⟩

/-! ## One character for another -/

theorem map_empty (f : Char → Char) : "".map f = "" := String.map_eq_empty.mpr rfl

theorem map_append (f : Char → Char) (text more : String) :
    (text ++ more).map f = text.map f ++ more.map f := by
  rw [← String.toList_inj]
  simp

theorem map_replace_eq_self_iff {a b : Char} (hne : a ≠ b) {text : String} :
    text.map (fun c => if c = a then b else c) = text ↔ a ∉ text.toList := by
  have hid : text.toList = text.toList.map id := (List.map_id _).symm
  rw [← String.toList_inj, String.toList_map, hid, List.map_map, List.map_inj_left, List.map_id]
  constructor
  · intro h ha
    exact hne (by simpa using (h a ha).symm)
  · intro h c hc
    have hca : c ≠ a := fun heq => h (heq ▸ hc)
    exact if_neg hca

theorem not_mem_map_replace {a b : Char} (hne : a ≠ b) (text : String) :
    a ∉ (text.map fun c => if c = a then b else c).toList := by
  rw [String.toList_map, List.mem_map]
  rintro ⟨c, -, hc⟩
  by_cases hca : c = a
  · rw [if_pos hca] at hc
    exact hne hc.symm
  · rw [if_neg hca] at hc
    exact hca hc

/-- Replacing back leaves the first character out for good. -/
theorem map_replace_back (a b : Char) (text : String) :
    (text.map fun c => if c = a then b else c).map (fun c => if c = b then a else c) =
      text.map fun c => if c = b then a else c := by
  rw [String.map_map, ← String.toList_inj, String.toList_map, String.toList_map]
  refine List.map_congr_left fun c _ => ?_
  by_cases ha : c = a
  · simp [ha]
  · simp [ha]

/-! ## The last separator -/

theorem splitLast_eq_none_iff {sep : Char} {cs : List Char} :
    splitLast sep cs = none ↔ sep ∉ cs := by
  induction cs with
  | nil => simp [splitLast]
  | cons c cs ih =>
      rw [splitLast, List.mem_cons, not_or, ← ih]
      cases splitLast sep cs with
      | some parts => simp
      | none => simp [eq_comm]

theorem splitLast_append {sep : Char} (before : List Char) {after : List Char} (h : sep ∉ after) :
    splitLast sep (before ++ sep :: after) = some (before, after) := by
  induction before with
  | nil =>
      rw [List.nil_append, splitLast, splitLast_eq_none_iff.mpr h]
      exact if_pos rfl
  | cons c before ih => rw [List.cons_append, splitLast, ih]

theorem eq_of_splitLast {sep : Char} {cs before after : List Char}
    (h : splitLast sep cs = some (before, after)) : cs = before ++ sep :: after ∧ sep ∉ after := by
  induction cs generalizing before with
  | nil => cases h
  | cons c cs ih =>
      rw [splitLast] at h
      split at h
      · rename_i heq
        cases h
        obtain ⟨hlist, hafter⟩ := ih heq
        exact ⟨congrArg (c :: ·) hlist, hafter⟩
      · rename_i hnone
        split at h
        · rename_i hc
          cases h
          exact ⟨congrArg (· :: after) hc, splitLast_eq_none_iff.mp hnone⟩
        · cases h

end KotlinMeta.Text
