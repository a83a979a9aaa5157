import KotlinMeta.Identifier

/-! # Words

A word can be written where a name is expected, unless it is a keyword: letters, numerals and
underscores, with no numeral in front. `Identifier.ofText` makes a word of every text
(`isWord_ofText`) and leaves words as they are (`IsWord.ofText_eq`).
-/

set_option autoImplicit false

namespace KotlinMeta.Identifier

/-- A text that starts with a letter or an underscore and goes on with letters, numerals and
underscores. -/
structure IsWord (text : String) : Prop where
  start : ∃ c ∈ text.toList.head?, Text.isAlphabetic c = true ∨ c = '_'
  parts : ∀ c ∈ text.toList, Text.isAlphabetic c = true ∨ Text.isNumeral c = true ∨ c = '_'

/-! ## Characters of words -/

theorem canStart_iff {c : Char} : canStart c = true ↔ Text.isAlphabetic c = true ∨ c = '_' := by
  rw [canStart, Bool.or_eq_true, beq_iff_eq]

theorem canContinue_iff {c : Char} :
    canContinue c = true ↔
      Text.isAlphabetic c = true ∨ Text.isNumeral c = true ∨ c = '_' := by
  rw [canContinue, Bool.or_eq_true, Bool.or_eq_true, beq_iff_eq, or_assoc]

theorem canContinue_of_canStart {c : Char} (h : canStart c = true) : canContinue c = true := by
  rw [canContinue_iff]
  exact (canStart_iff.mp h).imp_right Or.inr

theorem canContinue_underscore : canContinue '_' = true :=
  canContinue_of_canStart (canStart_iff.mpr (Or.inr rfl))

theorem isAlphabetic_of_lower {c : Char} (h : 0x61 ≤ c.toNat ∧ c.toNat ≤ 0x7A) :
    Text.isAlphabetic c = true :=
  Text.inRanges_iff.mpr ⟨(0x61, 0x7A), .tail _ (.head _), h⟩

theorem isWord_iff {text : String} :
    IsWord text ↔ ∃ c cs, text.toList = c :: cs ∧ canStart c = true ∧
      ∀ d ∈ cs, canContinue d = true := by
  constructor
  · rintro ⟨⟨c, hhead, hstart⟩, hparts⟩
    obtain ⟨cs, hlist⟩ := List.head?_eq_some_iff.mp hhead
    refine ⟨c, cs, hlist, canStart_iff.mpr hstart, fun d hd => canContinue_iff.mpr (hparts d ?_)⟩
    rw [hlist]
    exact List.mem_cons_of_mem c hd
  · rintro ⟨c, cs, hlist, hstart, hparts⟩
    refine ⟨⟨c, by simp [hlist], canStart_iff.mp hstart⟩, fun d hd => canContinue_iff.mp ?_⟩
    rw [hlist] at hd
    rcases List.mem_cons.mp hd with rfl | hd
    · exact canContinue_of_canStart hstart
    · exact hparts d hd

/-! ## Words from texts -/

/-- What takes the place of a character inside a word. -/
theorem canContinue_replaced (c : Char) : canContinue (if canContinue c then c else '_') = true := by
  by_cases h : canContinue c = true
  · rwa [if_pos h]
  · rw [if_neg h]
    exact canContinue_underscore

/-- **Every text has a word made from it.** -/
theorem isWord_ofText (text : String) : IsWord (ofText text) := by
  rw [isWord_iff, ofText]
  cases htext : text.toList with
  | nil => exact ⟨'_', [], by simp, canStart_iff.mpr (Or.inr rfl), by simp⟩
  | cons c cs =>
      have hbody : ∀ ds : List Char,
          ∀ d ∈ ds.map fun c => if canContinue c then c else '_', canContinue d = true := by
        intro ds
        refine List.forall_mem_map.mpr fun d _ => canContinue_replaced d
      simp only [String.toList_ofList]
      by_cases hstart : canStart c = true
      · refine ⟨c, cs.map fun c => if canContinue c then c else '_', ?_, hstart, hbody cs⟩
        rw [if_pos hstart, List.map_cons, if_pos (canContinue_of_canStart hstart)]
      · rw [if_neg hstart]
        exact ⟨'_', _, rfl, canStart_iff.mpr (Or.inr rfl), hbody (c :: cs)⟩

/-- Words are made of themselves. -/
theorem IsWord.ofText_eq {text : String} (h : IsWord text) : ofText text = text := by
  obtain ⟨c, cs, htext, hstart, hparts⟩ := isWord_iff.mp h
  have hall : ∀ d ∈ c :: cs, canContinue d = true :=
    List.forall_mem_cons.mpr ⟨canContinue_of_canStart hstart, hparts⟩
  have hkept : ((c :: cs).map fun c => if canContinue c then c else '_') = c :: cs :=
    calc ((c :: cs).map fun c => if canContinue c then c else '_')
        = (c :: cs).map id := List.map_congr_left fun d hd => if_pos (hall d hd)
      _ = c :: cs := List.map_id (c :: cs)
  simp only [ofText, htext]
  rw [if_pos hstart, hkept, ← htext, String.ofList_toList]

/-- Underscores at its end leave a text a word. -/
theorem IsWord.append_underscores {text text' : String} (h : IsWord text) {k : Nat}
    (htext : text'.toList = text.toList ++ List.replicate k '_') : IsWord text' := by
  obtain ⟨c, cs, hlist, hstart, hparts⟩ := isWord_iff.mp h
  refine isWord_iff.mpr ⟨c, cs ++ List.replicate k '_', ?_, hstart, fun d hd => ?_⟩
  · rw [htext, hlist, List.cons_append]
  · rcases List.mem_append.mp hd with hd | hd
    · exact hparts d hd
    · rw [List.eq_of_mem_replicate hd]
      exact canContinue_underscore

end KotlinMeta.Identifier
