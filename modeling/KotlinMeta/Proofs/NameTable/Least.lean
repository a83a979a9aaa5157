import Mathlib.Order.Bounds.Defs
import KotlinMeta.Proofs.Identifier
import KotlinMeta.Proofs.NameTable.Fresh

/-! # The least free name

`Search` is the search for a free name without a budget. It ends, since only finitely many names
have been given out, and it ends at the candidate with the fewest underscores that is free
(`allocate_least`). The candidates start at the word that is made of the suggestion, and this is the
suggestion itself exactly if that is a word.
-/

set_option autoImplicit false

namespace KotlinMeta.NameTable

/-! ## The search without a budget -/

/-- Underscores are appended to a name until it is free. -/
inductive Search (t : NameTable) : String → String → Prop where
  | free {name : String} (h : t.isTaken name = false) : Search t name name
  | taken {name found : String} (h : t.isTaken name = true) (rest : Search t (name ++ "_") found) :
      Search t name found

variable {t : NameTable} {name : String}

/-- The search ends at the first candidate that is free. -/
theorem search_underscored {k : Nat} (hbefore : ∀ j < k, t.isTaken (underscored name j) = true)
    (hfree : t.isTaken (underscored name k) = false) : t.Search name (underscored name k) := by
  -- on the number of candidates that are passed over, the first of which is the name itself
  induction k generalizing name with
  | zero => exact .free hfree
  | succ k ih =>
      rw [← underscored_succ_left] at hfree ⊢
      refine .taken (hbefore 0 (Nat.succ_pos k)) (ih (fun j hj => ?_) hfree)
      rw [underscored_succ_left]
      exact hbefore (j + 1) (Nat.succ_lt_succ hj)

theorem Search.unique {found other : String} (h : t.Search name found)
    (h' : t.Search name other) : found = other := by
  induction h with
  | free hfree =>
      cases h' with
      | free => rfl
      | taken htaken => simp [hfree] at htaken
  | taken htaken _ ih =>
      cases h' with
      | free hfree => simp [htaken] at hfree
      | taken _ rest => exact ih rest

/-! ## Names that are given out -/

/-- **The least free name is given out.** Whatever was given out before, the search from the word of
a suggestion ends, and it ends at the word with the fewest underscores that make it neither a
keyword nor a name given out. The word starts with a letter or an underscore and goes on with
letters, numerals and underscores; the texts of this form are the ones that are left as they are.
So a suggestion of this form is given out itself if it is free. -/
theorem allocate_least (t : NameTable) (suggestion : String) :
    let word := Identifier.ofText suggestion
    let name := (t.allocate suggestion).1
    (∃ k, name = underscored word k ∧
      IsLeast {j | Identifier.isKeyword (underscored word j) = false ∧
        underscored word j ∉ t.allocated} k) ∧
    (∀ found, t.Search word found ↔ found = name) ∧
    Identifier.IsWord word ∧
    (∀ text, Identifier.ofText text = text ↔ Identifier.IsWord text) ∧
    Identifier.ofText word = word ∧
    (Identifier.IsWord suggestion → Identifier.isKeyword suggestion = false →
      suggestion ∉ t.allocated → name = suggestion) := by
  intro word name
  obtain ⟨k, hname, hfree, hbefore⟩ := t.allocate_first_free suggestion
  have hword : Identifier.IsWord word := Identifier.isWord_ofText suggestion
  have hsearch : t.Search word name := by
    show t.Search word (t.allocate suggestion).1
    rw [hname]
    exact search_underscored hbefore hfree
  refine ⟨⟨k, hname, isTaken_eq_false_iff.mp hfree, fun j hj => ?_⟩, fun found => ?_, hword,
    fun text => ?_, hword.ofText_eq, fun hsuggestion hkeyword hnew => ?_⟩
  · by_contra hlt
    have htaken := hbefore j (Nat.lt_of_not_le hlt)
    rw [isTaken_eq_false_iff.mpr hj] at htaken
    cases htaken
  · constructor
    · exact fun h => h.unique hsearch
    · rintro rfl
      exact hsearch
  · constructor
    · intro h
      rw [← h]
      exact Identifier.isWord_ofText text
    · exact Identifier.IsWord.ofText_eq
  · have hsame : word = suggestion := hsuggestion.ofText_eq
    rw [hsame] at hsearch
    exact hsearch.unique (.free (isTaken_eq_false_iff.mpr ⟨hkeyword, hnew⟩))

/-- Names in the way of the first candidate and of the second. -/
def namesInTheWay : NameTable := ⟨["fun_", "source_", "source"], [("captured", "source_")]⟩

theorem allocate_least_namesInTheWay :
    namesInTheWay.Search "fun" "fun__" ∧ (namesInTheWay.allocate "source").1 = "source__" ∧
      Identifier.IsWord "größe1" ∧ (namesInTheWay.allocate "größe1").1 = "größe1" := by
  obtain ⟨-, hsearch, -⟩ := allocate_least namesInTheWay "fun"
  obtain ⟨-, -, -, hwords, -, hkept⟩ := allocate_least namesInTheWay "größe1"
  have hfun : Identifier.ofText "fun" = "fun" := by decide +kernel
  have hword : Identifier.IsWord "größe1" := (hwords "größe1").mp (by decide +kernel)
  rw [hfun] at hsearch
  exact ⟨(hsearch "fun__").mpr (by decide +kernel), by decide +kernel, hword,
    hkept hword (by decide +kernel) (by decide +kernel)⟩

end KotlinMeta.NameTable
