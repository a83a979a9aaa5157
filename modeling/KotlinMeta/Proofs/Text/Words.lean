import Mathlib.Data.List.TakeWhile
import KotlinMeta.Text.Blank

/-! # Words in any case

A text spells a word if it is the word with white space at its ends and with capitals in the place
of small letters (`Text.Spells`). The normal form of a text is the word that it spells
(`Text.normalWord_eq_iff`), since no white space is a letter and none is changed to one.
-/

set_option autoImplicit false

namespace KotlinMeta.Text

/-- The text is the word, with capitals for any of its letters and with white space at its ends. -/
def Spells (text word : String) : Prop :=
  ∃ before letters after, text.toList = before ++ letters ++ after ∧
    (∀ c ∈ before, isBlank c = true) ∧ (∀ c ∈ after, isBlank c = true) ∧
    letters.map Char.toLower = word.toList

/-! ## White space at the ends -/

section
variable {before letters after : List Char}

/-- Trimming takes away all white space at the two ends, up to letters that are none. -/
theorem trim_append (hbefore : ∀ c ∈ before, isBlank c = true)
    (hafter : ∀ c ∈ after, isBlank c = true) (hletters : ∀ c ∈ letters, isBlank c = false) :
    trim (before ++ letters ++ after) = letters := by
  have hkeep : ∀ {cs : List Char}, (∀ c ∈ cs, isBlank c = false) → cs.dropWhile isBlank = cs := by
    intro cs hcs
    cases cs with
    | nil => rfl
    | cons c cs => exact List.dropWhile_cons_of_neg (by simp [hcs c List.mem_cons_self])
  cases letters with
  | nil =>
      have hall : ∀ c ∈ before ++ [] ++ after, isBlank c = true := by
        rw [List.append_nil, List.forall_mem_append]
        exact ⟨hbefore, hafter⟩
      rw [trim, List.dropWhile_eq_nil_iff.mpr hall]
      rfl
  | cons c cs =>
      have hfront : (c :: cs ++ after).dropWhile isBlank = c :: cs ++ after :=
        List.dropWhile_cons_of_neg (by simp [hletters c List.mem_cons_self])
      have hback : ∀ d ∈ (c :: cs).reverse, isBlank d = false := fun d hd =>
        hletters d (List.mem_reverse.mp hd)
      rw [trim, List.append_assoc, List.dropWhile_append_of_pos hbefore, hfront,
        List.reverse_append, List.dropWhile_append_of_pos (by simpa using hafter), hkeep hback,
        List.reverse_reverse]

end

/-- What trimming takes away is white space. -/
theorem exists_eq_trim (cs : List Char) :
    ∃ before after, cs = before ++ trim cs ++ after ∧ (∀ c ∈ before, isBlank c = true) ∧
      ∀ c ∈ after, isBlank c = true := by
  have hsplit := List.takeWhile_append_dropWhile (p := isBlank) (l := cs)
  have hsplit' :=
    List.takeWhile_append_dropWhile (p := isBlank) (l := (cs.dropWhile isBlank).reverse)
  refine ⟨cs.takeWhile isBlank, ((cs.dropWhile isBlank).reverse.takeWhile isBlank).reverse, ?_,
    fun c hc => List.mem_takeWhile_imp hc,
    fun c hc => List.mem_takeWhile_imp (List.mem_reverse.mp hc)⟩
  rw [trim, List.append_assoc, ← List.reverse_append, hsplit', List.reverse_reverse, hsplit]

/-! ## Case -/

/-- No white space is a capital. -/
theorem toLower_of_isBlank {c : Char} (h : isBlank c = true) : c.toLower = c := by
  obtain ⟨r, hr, hlow, hhigh⟩ := inRanges_iff.mp h
  have hnot : ¬ (0x41 ≤ c.toNat ∧ c.toNat ≤ 0x5A) := by
    simp only [blankRanges, List.mem_cons, List.not_mem_nil, or_false] at hr
    rcases hr with rfl | rfl | rfl | rfl | rfl | rfl | rfl | rfl | rfl | rfl <;> omega
  exact dif_neg hnot

/-- **The normal form of a text is the word that it spells.** -/
theorem normalWord_eq_iff {text word : String} (hword : ∀ c ∈ word.toList, isBlank c = false) :
    normalWord text = word ↔ Spells text word := by
  rw [normalWord, ← String.toList_inj, String.toList_ofList]
  constructor
  · intro h
    obtain ⟨before, after, hsplit, hbefore, hafter⟩ := exists_eq_trim text.toList
    exact ⟨before, trim text.toList, after, hsplit, hbefore, hafter, h⟩
  · rintro ⟨before, letters, after, hsplit, hbefore, hafter, hletters⟩
    have hnone : ∀ c ∈ letters, isBlank c = false := by
      intro c hc
      by_contra hblank
      rw [Bool.not_eq_false] at hblank
      have hmem : c ∈ word.toList := by
        rw [← hletters, ← toLower_of_isBlank hblank]
        exact List.mem_map_of_mem hc
      rw [hword c hmem] at hblank
      cases hblank
    rw [hsplit, trim_append hbefore hafter hnone, hletters]

end KotlinMeta.Text
