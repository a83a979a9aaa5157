import Mathlib.Data.List.Nodup

/-! # Lists of entries

Tables, trees and records are lists of entries with a key each. An entry is found by its key as long
as the keys differ.
-/

set_option autoImplicit false

namespace KotlinMeta

variable {α β : Type} [DecidableEq α]

theorem lookup_cons (key k : α) (value : β) (rest : List (α × β)) :
    List.lookup k ((key, value) :: rest) = if k = key then some value else rest.lookup k := by
  rw [List.lookup_cons]
  by_cases h : k = key
  · simp [h]
  · rw [beq_false_of_ne h, if_neg h]

theorem lookup_eq_none_of_not_mem {entries : List (α × β)} {k : α}
    (h : k ∉ entries.map Prod.fst) : entries.lookup k = none := by
  rw [List.lookup_eq_none_iff]
  intro entry hentry
  have hne : k ≠ entry.1 := by
    rintro rfl
    exact h (List.mem_map_of_mem hentry)
  simpa using hne

/-- An entry with a new key is all that is found under this key, and nothing under any other. -/
theorem lookup_cons_cases {key : α} (value : β) {rest : List (α × β)}
    (hnew : key ∉ rest.map Prod.fst) (k : α) :
    ([(key, value)].lookup k = some value ∧ rest.lookup k = none ∧
        ((key, value) :: rest).lookup k = some value) ∨
      [(key, value)].lookup k = none ∧ ((key, value) :: rest).lookup k = rest.lookup k := by
  rw [lookup_cons, lookup_cons]
  by_cases h : k = key
  · rw [if_pos h, if_pos h, h]
    exact Or.inl ⟨rfl, lookup_eq_none_of_not_mem hnew, rfl⟩
  · rw [if_neg h, if_neg h]
    exact Or.inr ⟨rfl, rfl⟩

/-- Where no two entries have the same key, each is found by its key. -/
theorem lookup_eq_some_iff_mem {entries : List (α × β)} (hkeys : (entries.map Prod.fst).Nodup)
    {k : α} {value : β} : entries.lookup k = some value ↔ (k, value) ∈ entries := by
  induction entries with
  | nil => simp
  | cons entry rest ih =>
      obtain ⟨key, v⟩ := entry
      obtain ⟨hnew, hrest⟩ := List.nodup_cons.mp hkeys
      rw [lookup_cons, List.mem_cons, Prod.mk.injEq, ← ih hrest]
      by_cases h : k = key
      · -- the entry at the head is the only one with this key
        have hnone : rest.lookup k ≠ some value := by
          intro hfound
          have hmem := (ih hrest).mp hfound
          exact hnew (List.mem_map.mpr ⟨(k, value), hmem, h⟩)
        rw [if_pos h, Option.some_inj, or_iff_left hnone, and_iff_right h, eq_comm]
      · rw [if_neg h, or_iff_right fun heq => h heq.1]

end KotlinMeta
