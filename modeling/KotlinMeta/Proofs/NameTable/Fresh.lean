import Mathlib.Data.List.Nodup
import Mathlib.Data.List.Perm.Subperm
import KotlinMeta.CopyBuilder.NameTable

/-! # Names given out are free

The search `NameTable.firstFree` tries a name followed by no underscore, by one, by two and so on
(`underscored`). Its budget is one more than the number of names given out, and this suffices: only
the first candidate can be a keyword, and the others are pairwise distinct.

* `allocate_first_free`: the name that is given out is the first candidate that was free.
* `isTaken_allocateAll`: after names were given out for some suggestions, the identifier of each
  suggestion is taken.
-/

set_option autoImplicit false

namespace KotlinMeta.NameTable

theorem isTaken_eq_false_iff {t : NameTable} {name : String} :
    t.isTaken name = false ↔ Identifier.isKeyword name = false ∧ name ∉ t.allocated := by
  rw [isTaken, Bool.or_eq_false_iff, List.contains_eq_mem, decide_eq_false_iff_not]

/-! ## The candidates -/

/-- The name followed by `k` underscores. -/
def underscored (name : String) : Nat → String
  | 0 => name
  | k + 1 => underscored name k ++ "_"

theorem underscored_succ_left (name : String) (k : Nat) :
    underscored (name ++ "_") k = underscored name (k + 1) := by
  induction k with
  | zero => rfl
  | succ k ih =>
      rw [underscored, ih]
      rfl

theorem toList_underscored (name : String) (k : Nat) :
    (underscored name k).toList = name.toList ++ List.replicate k '_' := by
  induction k with
  | zero => simp [underscored]
  | succ k ih =>
      rw [underscored, String.toList_append, ih, List.append_assoc, List.replicate_succ']
      rfl

theorem underscored_inj {name : String} {j k : Nat}
    (h : underscored name j = underscored name k) : j = k := by
  have hl := congrArg (fun s => s.toList.length) h
  simpa [toList_underscored] using hl

/-- No keyword ends in an underscore, so that only the first candidate can be one. -/
theorem isKeyword_underscored_succ (name : String) (k : Nat) :
    Identifier.isKeyword (underscored name (k + 1)) = false := by
  have hlast : (underscored name (k + 1)).toList.getLast? = some '_' := by
    simp [toList_underscored, List.replicate_succ']
  have hkeywords : ∀ w ∈ Identifier.keywords, w.toList.getLast? ≠ some '_' := by
    decide +kernel
  rw [Identifier.isKeyword, List.contains_eq_mem, decide_eq_false_iff_not]
  intro hmem
  exact hkeywords _ hmem hlast

/-! ## The search -/

/-- The search ends at a candidate all of whose predecessors are taken, and which is itself free
unless the budget is used up. -/
theorem firstFree_spec (t : NameTable) (fuel : Nat) (name : String) :
    ∃ k ≤ fuel, t.firstFree fuel name = underscored name k ∧
      (∀ j < k, t.isTaken (underscored name j) = true) ∧
      (k < fuel → t.isTaken (underscored name k) = false) := by
  -- on the budget, for every name: each further candidate is the name of the remaining search
  induction fuel generalizing name with
  | zero =>
      exact ⟨0, Nat.le_refl 0, rfl, fun j hj => absurd hj (Nat.not_lt_zero j),
        fun h => absurd h (Nat.lt_irrefl 0)⟩
  | succ fuel ih =>
      by_cases hname : t.isTaken name = true
      · obtain ⟨k, hk, heq, hbefore, hfree⟩ := ih (name ++ "_")
        refine ⟨k + 1, by omega, ?_, ?_, ?_⟩
        · rw [firstFree, if_pos hname, heq, underscored_succ_left]
        · intro j hj
          cases j with
          | zero => exact hname
          | succ j => rw [← underscored_succ_left]; exact hbefore j (by omega)
        · intro hlt
          rw [← underscored_succ_left]
          exact hfree (by omega)
      · have hfree : t.isTaken name = false := by simpa using hname
        refine ⟨0, by omega, ?_, fun j hj => absurd hj (by omega), fun _ => hfree⟩
        rw [firstFree, if_neg hname, underscored]

/-- Candidates that are all taken, the first of them left aside, are at most as many as the names
given out. -/
theorem le_length_of_taken (t : NameTable) (name : String) (n : Nat)
    (h : ∀ j < n, t.isTaken (underscored name (j + 1)) = true) : n ≤ t.allocated.length := by
  -- none of them is a keyword, so that they are taken only because they were given out
  have hmem : ∀ j < n, underscored name (j + 1) ∈ t.allocated := by
    intro j hj
    have htaken := h j hj
    rw [isTaken, isKeyword_underscored_succ, Bool.false_or] at htaken
    simpa using htaken
  have hnodup : ((List.range n).map fun j => underscored name (j + 1)).Nodup := by
    refine List.Nodup.map ?_ List.nodup_range
    intro i j hij
    have := underscored_inj hij
    omega
  have hsubset : ((List.range n).map fun j => underscored name (j + 1)) ⊆ t.allocated := by
    intro s hs
    obtain ⟨j, hj, rfl⟩ := List.mem_map.mp hs
    exact hmem j (List.mem_range.mp hj)
  have hle := (hnodup.subperm hsubset).length_le
  rwa [List.length_map, List.length_range] at hle

/-- **The budget of the search suffices**: the name it ends at is free. -/
theorem isTaken_firstFree (t : NameTable) (name : String) :
    t.isTaken (t.firstFree (t.allocated.length + 1) name) = false := by
  obtain ⟨k, hk, heq, hbefore, hfree⟩ := firstFree_spec t (t.allocated.length + 1) name
  rw [heq]
  rcases Nat.lt_or_eq_of_le hk with hlt | rfl
  · exact hfree hlt
  · -- the last candidate was not tried; were it taken, too many names would be
    by_contra hcon
    have htaken : ∀ j < t.allocated.length + 1, t.isTaken (underscored name (j + 1)) = true := by
      intro j hj
      rcases Nat.lt_or_eq_of_le (Nat.succ_le_of_lt hj) with hlt | heq
      · exact hbefore (j + 1) hlt
      · rw [show j + 1 = t.allocated.length + 1 from heq]
        simpa using hcon
    have := le_length_of_taken t name _ htaken
    omega

/-! ## Giving out names -/

/-- The name given out is the first free candidate for the identifier of the suggestion. -/
theorem allocate_first_free (t : NameTable) (suggestion : String) :
    ∃ k, (t.allocate suggestion).1 = underscored (Identifier.ofText suggestion) k ∧
      t.isTaken (underscored (Identifier.ofText suggestion) k) = false ∧
      ∀ j < k, t.isTaken (underscored (Identifier.ofText suggestion) j) = true := by
  obtain ⟨k, -, hname, hbefore, -⟩ :=
    firstFree_spec t (t.allocated.length + 1) (Identifier.ofText suggestion)
  refine ⟨k, hname, ?_, hbefore⟩
  rw [← hname]
  exact isTaken_firstFree t (Identifier.ofText suggestion)

theorem isTaken_allocate {t : NameTable} {name : String} (suggestion : String)
    (h : t.isTaken name = true) : (t.allocate suggestion).2.isTaken name = true := by
  simp only [isTaken, allocate, List.contains_cons, Bool.or_eq_true] at h ⊢
  exact h.imp_right Or.inr

/-- Once a name was given out for a suggestion, its identifier is not given out again. -/
theorem isTaken_ofText_allocate (t : NameTable) (suggestion : String) :
    (t.allocate suggestion).2.isTaken (Identifier.ofText suggestion) = true := by
  obtain ⟨k, hname, -, hbefore⟩ := t.allocate_first_free suggestion
  -- either the identifier itself is given out now, or it was passed over because it is taken
  cases k with
  | zero =>
      have hmem : Identifier.ofText suggestion ∈ (t.allocate suggestion).2.allocated := by
        show _ ∈ (t.allocate suggestion).1 :: t.allocated
        rw [hname]
        exact List.mem_cons_self
      simp [isTaken, hmem]
  | succ k => exact isTaken_allocate suggestion (hbefore 0 (Nat.succ_pos k))

theorem isTaken_allocateAll_of_isTaken {t : NameTable} {name : String} (suggestions : List String)
    (h : t.isTaken name = true) : (t.allocateAll suggestions).isTaken name = true := by
  induction suggestions generalizing t with
  | nil => exact h
  | cons s rest ih => exact ih (isTaken_allocate s h)

theorem isTaken_allocateAll (t : NameTable) {suggestions : List String} {s : String}
    (h : s ∈ suggestions) : (t.allocateAll suggestions).isTaken (Identifier.ofText s) = true := by
  induction suggestions generalizing t with
  | nil => cases h
  | cons s' rest ih =>
      rcases List.mem_cons.mp h with rfl | h
      · exact isTaken_allocateAll_of_isTaken rest (isTaken_ofText_allocate t s)
      · exact ih (t.allocate s').2 h

theorem tags_allocateAll (t : NameTable) (suggestions : List String) :
    (t.allocateAll suggestions).tags = t.tags := by
  induction suggestions generalizing t with
  | nil => rfl
  | cons s rest ih => exact ih (t.allocate s).2

end KotlinMeta.NameTable
