import Mathlib.Data.List.Find
import KotlinMeta.Decoding.Scope
import KotlinMeta.Proofs.Sequence

/-! # What a number denotes

`Denotes` says without reference to the look-up which declaration a number stands for: the last one
with this number in the innermost scope that has any. The look-up finds exactly that one
(`Scope.lookup_eq_some_iff`), and declaring type parameters one by one leaves each where its
position says (`Scope.extended_eq_ok`).
-/

set_option autoImplicit false

namespace KotlinMeta

/-! ## Looking up -/

/-- The last of these declarations that has this number. -/
def IsLast (k : UInt32) (vs : List TypeVar) (v : TypeVar) : Prop :=
  ∃ before after, vs = before ++ v :: after ∧ v.id = k ∧ ∀ w ∈ after, w.id ≠ k

/-- What a number stands for where these lists of declarations can be seen, the nearest first. -/
def Denotes : List (List TypeVar) → UInt32 → TypeVar → Prop
  | [], _, _ => False
  | vs :: outer, k, v => IsLast k vs v ∨ (∀ w ∈ vs, w.id ≠ k) ∧ Denotes outer k v

theorem IsLast.mem {k : UInt32} {vs : List TypeVar} {v : TypeVar} (h : IsLast k vs v) :
    v ∈ vs := by
  obtain ⟨before, after, rfl, -, -⟩ := h
  simp

theorem Denotes.mem {visible : List (List TypeVar)} {k : UInt32} {v : TypeVar}
    (h : Denotes visible k v) : ∃ vs ∈ visible, v ∈ vs := by
  induction visible with
  | nil => cases h
  | cons vs outer ih =>
      rcases h with h | ⟨-, h⟩
      · exact ⟨vs, List.mem_cons_self, h.mem⟩
      · obtain ⟨ws, hws, hv⟩ := ih h
        exact ⟨ws, List.mem_cons_of_mem vs hws, hv⟩

namespace Scope

theorem latest?_eq_some_iff {k : UInt32} {vs : List TypeVar} {v : TypeVar} :
    latest? vs k = some v ↔ IsLast k vs v := by
  -- the search runs backwards, so that what it passes is what comes after the one it finds
  rw [latest?, List.find?_eq_some_iff_append, IsLast]
  constructor
  · rintro ⟨hid, after, before, hsplit, hafter⟩
    refine ⟨before.reverse, after.reverse, ?_, by simpa using hid, ?_⟩
    · rw [← List.reverse_inj, hsplit]
      simp
    · intro w hw
      simpa using hafter w (List.mem_reverse.mp hw)
  · rintro ⟨before, after, rfl, hid, hafter⟩
    refine ⟨by simpa using hid, after.reverse, before.reverse, by simp, ?_⟩
    intro w hw
    simpa using hafter w (List.mem_reverse.mp hw)

theorem latest?_eq_none_iff {k : UInt32} {vs : List TypeVar} :
    latest? vs k = none ↔ ∀ w ∈ vs, w.id ≠ k := by
  simp [latest?]

/-- The declarations that can be seen, the nearest first. -/
def visible (s : Scope) : List (List TypeVar) := s.declared :: s.outer

/-- **The look-up finds the declaration that a number denotes.** -/
theorem lookup_eq_some_iff (s : Scope) (k : UInt32) (v : TypeVar) :
    s.lookup k = some v ↔ Denotes s.visible k v := by
  rw [lookup, ← visible]
  induction s.visible with
  | nil => simp [Denotes]
  | cons vs outer ih =>
      rw [List.findSome?_cons, Denotes, ← latest?_eq_none_iff, ← latest?_eq_some_iff]
      cases latest? vs k with
      | some w => simp
      | none => simpa using ih

/-- A list with other declarations finds under the new number what the list finds, replaced. -/
theorem latest?_map {number : UInt32 → UInt32} {f : TypeVar → TypeVar} {vs : List TypeVar}
    {k : UInt32} (h : ∀ v ∈ vs, (f v).id = number k ↔ v.id = k) :
    latest? (vs.map f) (number k) = (latest? vs k).map f := by
  rw [latest?, latest?, ← List.map_reverse, List.find?_map]
  refine congrArg _ (List.find?_congr fun v hv => ?_)
  rw [Function.comp, Bool.eq_iff_iff, beq_iff_eq, beq_iff_eq]
  exact h v (List.mem_reverse.mp hv)

/-- Scopes in which every declaration is replaced find what the scopes find, replaced. -/
theorem lookup_map {s s' : Scope} {number : UInt32 → UInt32} {f : TypeVar → TypeVar} {k : UInt32}
    (hvisible : s'.visible = s.visible.map (List.map f))
    (h : ∀ v ∈ s.visible.flatten, (f v).id = number k ↔ v.id = k) :
    s'.lookup (number k) = (s.lookup k).map f := by
  rw [lookup, lookup, ← visible, ← visible, hvisible]
  clear hvisible
  generalize s.visible = lists at h
  induction lists with
  | nil => rfl
  | cons vs outer ih =>
      rw [List.map_cons, List.findSome?_cons, List.findSome?_cons,
        latest?_map fun v hv => h v (List.mem_append_left _ hv),
        ih fun v hv => h v (List.mem_append_right _ hv)]
      cases latest? vs k <;> rfl

theorem lookup_eq_none_iff (s : Scope) (k : UInt32) :
    s.lookup k = none ↔ ∀ vs ∈ s.visible, ∀ v ∈ vs, v.id ≠ k := by
  rw [lookup, ← visible, List.findSome?_eq_none_iff]
  simp only [latest?_eq_none_iff]

theorem lookup_ne_none_iff (s : Scope) (k : UInt32) :
    s.lookup k ≠ none ↔ ∃ v ∈ s.visible.flatten, v.id = k := by
  rw [Ne, lookup_eq_none_iff]
  constructor
  · intro h
    by_contra hnone
    exact h fun vs hvs w hw hid => hnone ⟨w, List.mem_flatten.mpr ⟨vs, hvs, hw⟩, hid⟩
  · rintro ⟨v, hv, hid⟩ h
    obtain ⟨vs, hvs, hmem⟩ := List.mem_flatten.mp hv
    exact h vs hvs v hmem hid

/-! ## Declaring -/

theorem extended_cons (keepAliases : Bool) (s : Scope) (p : TypeParameterNode)
    (rest : List TypeParameterNode) :
    s.extended keepAliases (p :: rest) =
      p.resolve (s.context keepAliases) s.nextKey >>= fun v =>
        (s.declare v).extended keepAliases rest := by
  rw [extended, declareAll]
  cases p.resolve (s.context keepAliases) s.nextKey <;> rfl

theorem extended_append (keepAliases : Bool) (s : Scope) (ps qs : List TypeParameterNode) :
    s.extended keepAliases (ps ++ qs) =
      s.extended keepAliases ps >>= fun s' => s'.extended keepAliases qs := by
  induction ps generalizing s with
  | nil => rfl
  | cons p rest ih =>
      rw [List.cons_append, extended_cons, extended_cons]
      simp only [ih, bind_assoc]

/-- The scope with more declarations. -/
def declareList (s : Scope) (vs : List TypeVar) : Scope := { s with declared := s.declared ++ vs }

/-- Each parameter is resolved where those before it are declared, and gets the key of its
position. -/
theorem extended_eq_ok {keepAliases : Bool} {s s' : Scope} {ps : List TypeParameterNode}
    (h : s.extended keepAliases ps = .ok s') :
    ∃ vs, s' = s.declareList vs ∧ vs.length = ps.length ∧
      ∀ i (p : TypeParameterNode) v, ps[i]? = some p → vs[i]? = some v →
        p.resolve ((s.declareList (vs.take i)).context keepAliases)
          (.declared s.path (s.declared.length + i)) = .ok v := by
  -- the scope grows from one parameter to the next, hence the statement is about any scope
  induction ps generalizing s with
  | nil =>
      cases h
      exact ⟨[], by simp [declareList], rfl, fun i p v hp => by simp at hp⟩
  | cons p rest ih =>
      rw [extended_cons] at h
      obtain ⟨v, hv, h⟩ := Except.bind_eq_ok.mp h
      obtain ⟨vs, rfl, hlength, heach⟩ := ih h
      refine ⟨v :: vs, by simp [declareList, declare], by simp [hlength], ?_⟩
      intro i p' v' hp' hv'
      cases i with
      | zero =>
          cases hp'
          cases hv'
          simpa [declareList, nextKey] using hv
      | succ i =>
          have := heach i p' v' hp' hv'
          simpa [declareList, declare, Nat.add_assoc, Nat.add_comm 1 i] using this

/-- Later declarations leave the earlier ones as they are. -/
theorem declared_prefix_of_extended_append {keepAliases : Bool} {s s₁ s₂ : Scope}
    {ps more : List TypeParameterNode} (h₁ : s.extended keepAliases ps = .ok s₁)
    (h₂ : s.extended keepAliases (ps ++ more) = .ok s₂) : s₁.declared <+: s₂.declared := by
  rw [extended_append, h₁] at h₂
  obtain ⟨vs, rfl, -⟩ := extended_eq_ok h₂
  exact List.prefix_append _ _

end Scope

end KotlinMeta
