import Mathlib.Data.List.Forall2
import KotlinMeta.Json.Basic
import KotlinMeta.Proofs.Entries

/-! # The same JSON

Two JSON values are the same if they differ in nothing but the order in which objects list their
members. A writer is judged by what it keeps apart: `Tells write alike` says that two values are
written the same exactly if they are alike. Records are compared field by field (`same_obj_cons`),
so that it is enough to know the writers of their fields.
-/

set_option autoImplicit false

namespace KotlinMeta.Json

/-- The same values, where an object is known by what it has under each key. -/
inductive Same : Json → Json → Prop
  | refl (j : Json) : Same j j
  | arr {js js' : List Json} (h : List.Forall₂ Same js js') : Same (arr js) (arr js')
  | obj {ms ms' : List (String × Json)}
    (h : ∀ key, Option.Rel Same (ms.lookup key) (ms'.lookup key)) : Same (obj ms) (obj ms')

/-! ## Leaves and arrays -/

/-- What has no parts is the same as itself only. -/
theorem same_leaf {j j' : Json} (harr : ∀ js, j ≠ arr js) (hobj : ∀ ms, j ≠ obj ms) :
    Same j j' ↔ j = j' := by
  constructor
  · intro h
    cases h with
    | refl => rfl
    | arr => exact absurd rfl (harr _)
    | obj => exact absurd rfl (hobj _)
  · rintro rfl
    exact .refl _

@[simp]
theorem same_str {text text' : String} : Same (str text) (str text') ↔ text = text' := by
  rw [same_leaf (by simp) (by simp), str.injEq]

@[simp]
theorem same_bool {b b' : Bool} : Same (bool b) (bool b') ↔ b = b' := by
  rw [same_leaf (by simp) (by simp), bool.injEq]

@[simp]
theorem same_word {w w' : UInt32} : Same (word w) (word w') ↔ w = w' := by
  rw [word, word, same_leaf (by simp) (by simp), int.injEq, Int.natCast_inj, UInt32.toNat_inj]

@[simp]
theorem same_arr {js js' : List Json} : Same (arr js) (arr js') ↔ List.Forall₂ Same js js' := by
  constructor
  · intro h
    cases h with
    | refl => exact List.forall₂_same.mpr fun j _ => .refl j
    | arr h => exact h
  · exact .arr

/-- Only `null` is the same as `null`. -/
theorem same_null {j : Json} : Same null j ↔ j = null := by
  rw [same_leaf (by simp) (by simp), eq_comm]

theorem same_null_right {j : Json} : Same j null ↔ j = null := by
  constructor
  · intro h
    cases h
    rfl
  · rintro rfl
    exact .refl _

/-! ## Objects -/

theorem same_obj {ms ms' : List (String × Json)} :
    Same (obj ms) (obj ms') ↔ ∀ key, Option.Rel Same (ms.lookup key) (ms'.lookup key) := by
  constructor
  · intro h
    cases h with
    | refl =>
        intro key
        cases ms.lookup key with
        | none => exact .none
        | some j => exact .some (.refl j)
    | obj h => exact h
  · exact .obj

@[simp]
theorem same_obj_nil : Same (obj []) (obj []) := .refl _

/-- **Records are compared field by field**: where both start with the same new key, its values
and the rest are. -/
theorem same_obj_cons {key : String} {j j' : Json} {ms ms' : List (String × Json)}
    (hnew : key ∉ ms.map Prod.fst) (hnew' : key ∉ ms'.map Prod.fst) :
    Same (obj ((key, j) :: ms)) (obj ((key, j') :: ms')) ↔ Same j j' ∧ Same (obj ms) (obj ms') := by
  rw [same_obj, same_obj]
  simp only [lookup_cons]
  constructor
  · intro h
    constructor
    · have hkey := h key
      rw [if_pos rfl, if_pos rfl] at hkey
      cases hkey with
      | some h => exact h
    · intro k
      by_cases hk : k = key
      · rw [hk, lookup_eq_none_of_not_mem hnew, lookup_eq_none_of_not_mem hnew']
        exact .none
      · have hrest := h k
        rwa [if_neg hk, if_neg hk] at hrest
  · rintro ⟨hj, hrest⟩ k
    by_cases hk : k = key
    · rw [if_pos hk, if_pos hk]
      exact .some hj
    · rw [if_neg hk, if_neg hk]
      exact hrest k

/-! ## Writers -/

section
variable {α : Type} {write : α → Json} {alike : α → α → Prop}

/-- Two values are written the same exactly if they are alike. -/
def Tells (write : α → Json) (alike : α → α → Prop) : Prop :=
  ∀ a b, Same (write a) (write b) ↔ alike a b

theorem Tells.list (h : Tells write alike) :
    Tells (fun as => arr (as.map write)) (List.Forall₂ alike) := by
  intro as bs
  rw [same_arr, List.forall₂_map_left_iff, List.forall₂_map_right_iff]
  constructor
  · exact List.Forall₂.imp fun a b => (h a b).mp
  · exact List.Forall₂.imp fun a b => (h a b).mpr

theorem Tells.list_eq (h : Tells write Eq) : Tells (fun as : List α => arr (as.map write)) Eq := by
  intro as bs
  rw [← List.forall₂_eq_eq_eq]
  exact h.list as bs

/-- The absence of a value is told from every value that is not itself written as `null`. -/
theorem Tells.orNull (h : Tells write alike) (hnull : ∀ a, write a ≠ null) :
    Tells (orNull write) (Option.Rel alike) := by
  intro a b
  cases a with
  | none =>
      cases b with
      | none => exact iff_of_true (.refl _) .none
      | some b => exact iff_of_false (fun hsame => hnull b (same_null.mp hsame)) nofun
  | some a =>
      cases b with
      | none => exact iff_of_false (fun hsame => hnull a (same_null_right.mp hsame)) nofun
      | some b =>
          rw [Option.rel_some_some]
          exact h a b

theorem Tells.orNull_eq (h : Tells write Eq) (hnull : ∀ a, write a ≠ null) :
    Tells (Json.orNull write) Eq := by
  intro a b
  rw [h.orNull hnull a b]
  cases a <;> cases b <;> simp

/-- Words tell values apart that have different words. -/
theorem tells_of_injective {name : α → String} (h : Function.Injective name) :
    Tells (fun a => str (name a)) Eq := by
  intro a b
  rw [same_str, h.eq_iff]

/-- Names are injective if those of all values differ. -/
theorem injective_of_nodup {name : α → String} (values : List α) (hall : ∀ a, a ∈ values)
    (h : (values.map name).Nodup) : Function.Injective name :=
  fun a b hab => List.inj_on_of_nodup_map h (hall a) (hall b) hab

end

theorem tells_str : Tells str Eq := fun _ _ => same_str

theorem tells_strs : Tells strs Eq := tells_str.list_eq

theorem tells_strOrNull : Tells strOrNull Eq := tells_str.orNull_eq fun _ => nofun

end KotlinMeta.Json
