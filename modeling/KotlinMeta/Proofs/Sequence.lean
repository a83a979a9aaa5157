import Mathlib.Data.List.Forall2

/-! # Results one after another

A computation that can fail stops at its first failure, so that two in a row, and all of a list,
succeed when each of them does.
-/

set_option autoImplicit false

namespace KotlinMeta

variable {ε α β : Type}

theorem Except.bind_eq_ok {x : Except ε α} {f : α → Except ε β} {b : β} :
    x >>= f = .ok b ↔ ∃ a, x = .ok a ∧ f a = .ok b := by
  cases x with
  | error e =>
      constructor
      · intro h; cases h
      · rintro ⟨a, h, -⟩; cases h
  | ok a =>
      constructor
      · intro h; exact ⟨a, rfl, h⟩
      · rintro ⟨a', h, hf⟩; cases h; exact hf

theorem Except.bind_eq_error {x : Except ε α} {f : α → Except ε β} {e : ε} :
    x >>= f = .error e ↔ x = .error e ∨ ∃ a, x = .ok a ∧ f a = .error e := by
  cases x with
  | error e' =>
      constructor
      · intro h; cases h; exact Or.inl rfl
      · rintro (h | ⟨a, h, -⟩) <;> cases h
        rfl
  | ok a =>
      constructor
      · intro h; exact Or.inr ⟨a, rfl, h⟩
      · rintro (h | ⟨a', h, hf⟩)
        · cases h
        · cases h; exact hf

theorem Except.map_eq_ok {x : Except ε α} {f : α → β} {b : β} :
    x.map f = .ok b ↔ ∃ a, x = .ok a ∧ f a = b := by
  cases x <;> simp [Except.map]

/-- The second computation counts only where the first succeeds. -/
theorem Except.bind_congr_of_ok {x : Except ε α} {f g : α → Except ε β}
    (h : ∀ a, x = .ok a → f a = g a) : x >>= f = x >>= g := by
  cases x with
  | error e => rfl
  | ok a => exact h a rfl

/-! ## Lists that correspond -/

variable {R S : α → β → Prop}

theorem forall₂_imp_of_mem {xs : List α} {ys : List β} (h : List.Forall₂ R xs ys)
    (himp : ∀ x ∈ xs, ∀ y ∈ ys, R x y → S x y) : List.Forall₂ S xs ys := by
  induction h with
  | nil => exact .nil
  | cons hxy _ ih =>
      refine .cons (himp _ List.mem_cons_self _ List.mem_cons_self hxy) (ih ?_)
      intro x hx y hy
      exact himp x (List.mem_cons_of_mem _ hx) y (List.mem_cons_of_mem _ hy)

theorem exists_of_mem_right {xs : List α} {ys : List β} (h : List.Forall₂ R xs ys) {y : β}
    (hy : y ∈ ys) : ∃ x ∈ xs, R x y := by
  induction h with
  | nil => cases hy
  | cons hxy _ ih =>
      rcases List.mem_cons.mp hy with rfl | hy
      · exact ⟨_, List.mem_cons_self, hxy⟩
      · obtain ⟨x, hx, hR⟩ := ih hy
        exact ⟨x, List.mem_cons_of_mem _ hx, hR⟩

theorem exists_of_mem_left {xs : List α} {ys : List β} (h : List.Forall₂ R xs ys) {x : α}
    (hx : x ∈ xs) : ∃ y ∈ ys, R x y := by
  have hflip : List.Forall₂ (flip R) ys xs := List.Forall₂.flip h
  exact exists_of_mem_right hflip hx

theorem forall₂_dropLast {xs : List α} {ys : List β} (h : List.Forall₂ R xs ys) :
    List.Forall₂ R xs.dropLast ys.dropLast := by
  rw [List.dropLast_eq_take, List.dropLast_eq_take, h.length_eq]
  exact List.forall₂_take _ h

/-- What corresponds to two lists in a row is two lists in a row. -/
theorem exists_append_of_forall₂ {xs ys : List α} {zs : List β} (h : List.Forall₂ R (xs ++ ys) zs) :
    ∃ front back, zs = front ++ back ∧ List.Forall₂ R xs front ∧ List.Forall₂ R ys back := by
  refine ⟨zs.take xs.length, zs.drop xs.length, (List.take_append_drop _ _).symm, ?_, ?_⟩
  · have hfront := List.forall₂_take xs.length h
    rwa [List.take_left] at hfront
  · have hback := List.forall₂_drop xs.length h
    rwa [List.drop_left] at hback

theorem forall₂_getElem? {xs : List α} {ys : List β} (h : List.Forall₂ R xs ys) {i : Nat} {x : α}
    {y : β} (hx : xs[i]? = some x) (hy : ys[i]? = some y) : R x y := by
  obtain ⟨hi, rfl⟩ := List.getElem?_eq_some_iff.mp hx
  obtain ⟨hi', rfl⟩ := List.getElem?_eq_some_iff.mp hy
  exact h.get hi hi'

theorem exists_getElem?_of_forall₂ {xs : List α} {ys : List β} (h : List.Forall₂ R xs ys) {i : Nat}
    {x : α} (hx : xs[i]? = some x) : ∃ y, ys[i]? = some y ∧ R x y := by
  obtain ⟨hi, -⟩ := List.getElem?_eq_some_iff.mp hx
  have hi' : i < ys.length := h.length_eq ▸ hi
  exact ⟨ys[i], List.getElem?_eq_getElem hi', forall₂_getElem? h hx (List.getElem?_eq_getElem hi')⟩

/-- Lists that correspond when the elements of one are numbered. -/
theorem forall₂_of_zipIdx {R : α × Nat → β → Prop} {xs : List α} {ys : List β}
    (h : List.Forall₂ R xs.zipIdx ys) (himp : ∀ x i y, R (x, i) y → S x y) :
    List.Forall₂ S xs ys := by
  rw [← List.zipIdx_map_fst 0 xs, List.forall₂_map_left_iff]
  exact h.imp fun x y hxy => himp x.1 x.2 y hxy

theorem forall₂_zipIdx_of {R : α × Nat → β → Prop} {xs : List α} {ys : List β}
    (h : List.Forall₂ (fun x y => ∀ i, R (x, i) y) xs ys) : List.Forall₂ R xs.zipIdx ys := by
  suffices hfrom : ∀ n, List.Forall₂ R (xs.zipIdx n) ys from hfrom 0
  induction h with
  | nil => exact fun _ => .nil
  | cons hxy _ ih => exact fun n => .cons (hxy n) (ih (n + 1))

theorem forall₂_zipIdx_getElem? {R : α × Nat → β → Prop} {xs : List α} {ys : List β}
    (h : List.Forall₂ R xs.zipIdx ys) {i : Nat} {y : β} (hy : ys[i]? = some y) :
    ∃ x, xs[i]? = some x ∧ R (x, i) y := by
  have hi : i < xs.length := by
    have := (List.getElem?_eq_some_iff.mp hy).1
    rw [← h.length_eq, List.length_zipIdx] at this
    exact this
  refine ⟨xs[i], List.getElem?_eq_getElem hi, forall₂_getElem? h ?_ hy⟩
  simp [hi]

/-! ## Where a list splits -/

/-- An element that is not in the first part is in the second. -/
theorem split_of_not_mem {xs ys front back : List α} {a : α} (h : xs ++ ys = front ++ a :: back)
    (ha : a ∉ xs) : ∃ front', ys = front' ++ a :: back := by
  rcases List.append_eq_append_iff.mp h with ⟨front', -, hys⟩ | ⟨between, hxs, hback⟩
  · exact ⟨front', hys⟩
  · cases between with
    | nil => exact ⟨[], hback.symm⟩
    | cons b between =>
        obtain ⟨rfl, -⟩ := List.cons_eq_cons.mp hback
        refine absurd ?_ ha
        rw [hxs]
        simp

/-- Of two elements at which a list can be split, one comes first, or they are at the same place. -/
theorem split_cases {before after before' after' : List α} {a b : α}
    (h : before ++ a :: after = before' ++ b :: after') :
    b ∈ before ∨ (before = before' ∧ a = b) ∨ a ∈ before' := by
  rcases List.append_eq_append_iff.mp h with ⟨between, rfl, hrest⟩ | ⟨between, rfl, hrest⟩
  · cases between with
    | nil =>
        cases hrest
        exact Or.inr (Or.inl ⟨(List.append_nil _).symm, rfl⟩)
    | cons c between =>
        cases hrest
        exact Or.inr (Or.inr (by simp))
  · cases between with
    | nil =>
        cases hrest
        exact Or.inr (Or.inl ⟨List.append_nil _, rfl⟩)
    | cons c between =>
        cases hrest
        exact Or.inl (by simp)

theorem exists_of_mem_take {xs : List α} {n : Nat} {a : α} (h : a ∈ xs.take n) :
    ∃ i < n, xs[i]? = some a := by
  obtain ⟨i, hi⟩ := List.mem_iff_getElem?.mp h
  rw [List.getElem?_take] at hi
  split at hi
  · rename_i hlt
    exact ⟨i, hlt, hi⟩
  · cases hi

/-! ## Runs over a list -/

/-- A list of computations succeeds when each of them does. -/
theorem mapM_eq_ok_iff {f : α → Except ε β} {xs : List α} {ys : List β} :
    xs.mapM f = .ok ys ↔ List.Forall₂ (fun x y => f x = .ok y) xs ys := by
  induction xs generalizing ys with
  | nil =>
      rw [List.mapM_nil, List.forall₂_nil_left_iff]
      constructor
      · intro h; cases h; rfl
      · rintro rfl; rfl
  | cons x xs ih =>
      rw [List.mapM_cons, List.forall₂_cons_left_iff, Except.bind_eq_ok]
      constructor
      · rintro ⟨y, hy, h⟩
        obtain ⟨zs, hzs, h⟩ := Except.bind_eq_ok.mp h
        cases h
        exact ⟨y, zs, hy, ih.mp hzs, rfl⟩
      · rintro ⟨y, zs, hy, hzs, rfl⟩
        exact ⟨y, hy, Except.bind_eq_ok.mpr ⟨zs, ih.mpr hzs, rfl⟩⟩

/-! ## Results that correspond -/

section
variable {ε' α' β' : Type} {onError : ε → ε'} {onValue : α → α'} {onResult : β → β'}

/-- A result with its value or its failure mapped. -/
def mapResult (onError : ε → ε') (onValue : α → α') : Except ε α → Except ε' α'
  | .ok a => .ok (onValue a)
  | .error e => .error (onError e)

theorem mapResult_eq_ok {x : Except ε α} {b : α'} :
    mapResult onError onValue x = .ok b ↔ ∃ a, x = .ok a ∧ onValue a = b := by
  cases x <;> simp [mapResult]

/-- Two computations in a row correspond to two others if the first and the second do. -/
theorem bind_eq_mapResult {x : Except ε α} {x' : Except ε' α'} {f : α → Except ε β}
    {f' : α' → Except ε' β'} (hx : x' = mapResult onError onValue x)
    (hf : ∀ a, f' (onValue a) = mapResult onError onResult (f a)) :
    x' >>= f' = mapResult onError onResult (x >>= f) := by
  rw [hx]
  cases x with
  | error e => rfl
  | ok a => exact hf a

theorem mapM_eq_mapResult {γ γ' : Type} {f : γ → Except ε α} {f' : γ' → Except ε' α'}
    {onItem : γ → γ'} {xs : List γ}
    (hf : ∀ x ∈ xs, f' (onItem x) = mapResult onError onValue (f x)) :
    (xs.map onItem).mapM f' = mapResult onError (List.map onValue) (xs.mapM f) := by
  induction xs with
  | nil => rfl
  | cons x xs ih =>
      rw [List.map_cons, List.mapM_cons, List.mapM_cons]
      refine bind_eq_mapResult (hf x List.mem_cons_self) fun a => ?_
      refine bind_eq_mapResult (ih fun y hy => hf y (List.mem_cons_of_mem x hy)) fun as => ?_
      rfl

theorem mapM_zipIdx_eq_mapResult {γ γ' : Type} {f : γ × Nat → Except ε α}
    {f' : γ' × Nat → Except ε' α'} {onItem : γ → γ'} {xs : List γ}
    (hf : ∀ x i, f' (onItem x, i) = mapResult onError onValue (f (x, i))) :
    (xs.map onItem).zipIdx.mapM f' = mapResult onError (List.map onValue) (xs.zipIdx.mapM f) := by
  rw [List.zipIdx_map]
  exact mapM_eq_mapResult fun x _ => hf x.1 x.2

end

/-! ## The first failure -/

/-- The failure of a computation that fails. -/
def failure? : Except ε α → Option ε
  | .ok _ => none
  | .error e => some e

theorem failure?_eq_none_iff {x : Except ε α} : failure? x = none ↔ ∃ a, x = .ok a := by
  cases x <;> simp [failure?]

theorem failure?_eq_some_iff {x : Except ε α} {e : ε} : failure? x = some e ↔ x = .error e := by
  cases x <;> simp [failure?]

/-- With these outcomes one after another, each a failure or none, the computation fails with the
first failure, and succeeds if there is none. -/
def FailsFirst (outcomes : List (Option ε)) (x : Except ε α) : Prop :=
  failure? x = outcomes.findSome? id

namespace FailsFirst

theorem ok (a : α) : FailsFirst [] (.ok a : Except ε α) := rfl

theorem one (x : Except ε α) : FailsFirst [failure? x] x := by
  cases x <;> rfl

theorem bind {outcomes more : List (Option ε)} {x : Except ε α} {f : α → Except ε β}
    (hx : FailsFirst outcomes x) (hf : ∀ a, x = .ok a → FailsFirst more (f a)) :
    FailsFirst (outcomes ++ more) (x >>= f) := by
  rw [FailsFirst, List.findSome?_append, ← hx]
  cases x with
  | error e => rfl
  | ok a => exact hf a rfl

theorem map {outcomes : List (Option ε)} {x : Except ε α} (hx : FailsFirst outcomes x)
    (f : α → β) : FailsFirst outcomes (x >>= fun a => .ok (f a)) := by
  rw [← List.append_nil outcomes]
  exact hx.bind fun a _ => .ok (f a)

theorem mapM {γ : Type} {outcomes : γ → List (Option ε)} {f : γ → Except ε α} {xs : List γ}
    (h : ∀ x ∈ xs, FailsFirst (outcomes x) (f x)) :
    FailsFirst (xs.flatMap outcomes) (xs.mapM f) := by
  induction xs with
  | nil => exact .ok []
  | cons x xs ih =>
      rw [List.flatMap_cons, List.mapM_cons]
      refine (h x List.mem_cons_self).bind fun a _ => ?_
      exact (ih fun y hy => h y (List.mem_cons_of_mem x hy)).map _

/-- Of a list of computations the first that fails is the failure. -/
theorem each {γ : Type} (f : γ → Except ε α) (xs : List γ) :
    FailsFirst (xs.map fun x => failure? (f x)) (xs.mapM f) := by
  rw [← List.flatMap_singleton' (xs.map _), List.flatMap_map]
  exact .mapM fun x _ => .one (f x)

variable {outcomes : List (Option ε)} {x : Except ε α} (h : FailsFirst outcomes x)
include h

theorem exists_ok_iff : (∃ a, x = .ok a) ↔ ∀ o ∈ outcomes, o = none := by
  have hnone : failure? x = none ↔ ∀ o ∈ outcomes, o = none := by
    rw [h, List.findSome?_eq_none_iff]
    rfl
  rw [← hnone, failure?_eq_none_iff]

theorem eq_error_iff {e : ε} : x = .error e ↔
    ∃ before after, outcomes = before ++ some e :: after ∧ ∀ o ∈ before, o = none := by
  have hsome : failure? x = some e ↔
      ∃ before after, outcomes = before ++ some e :: after ∧ ∀ o ∈ before, o = none := by
    rw [h, List.findSome?_eq_some_iff]
    constructor
    · rintro ⟨before, o, after, rfl, ho, hbefore⟩
      cases ho
      exact ⟨before, after, rfl, hbefore⟩
    · rintro ⟨before, after, rfl, hbefore⟩
      exact ⟨before, some e, after, rfl, rfl, hbefore⟩
  rw [← hsome, failure?_eq_some_iff]

end FailsFirst

theorem exists_mapM_eq_ok_iff {γ : Type} {f : γ → Except ε α} {xs : List γ} :
    (∃ ys, xs.mapM f = .ok ys) ↔ ∀ x ∈ xs, ∃ y, f x = .ok y := by
  rw [(FailsFirst.each f xs).exists_ok_iff, List.forall_mem_map]
  exact forall₂_congr fun x _ => failure?_eq_none_iff

/-! ## Success and failure together -/

/-- The computation succeeds exactly if it is accepted, and it fails with `e` exactly if it is
rejected with `e`. -/
structure Decides (accepted : Prop) (rejected : ε → Prop) (x : Except ε α) : Prop where
  ok_iff : (∃ a, x = .ok a) ↔ accepted
  error_iff : ∀ e, x = .error e ↔ rejected e

namespace Decides

theorem ok (a : α) : Decides True (fun _ => False) (.ok a : Except ε α) :=
  ⟨⟨fun _ => trivial, fun _ => ⟨a, rfl⟩⟩, fun _ => ⟨nofun, False.elim⟩⟩

theorem error (e : ε) : Decides False (fun e' => e = e') (.error e : Except ε α) := by
  constructor
  · exact ⟨nofun, False.elim⟩
  · intro e'
    exact ⟨fun h => Except.error.inj h, fun h => congrArg Except.error h⟩

variable {accepted accepted' : Prop} {rejected rejected' : ε → Prop} {x : Except ε α}

/-- Other words for the same conditions. -/
theorem congr (h : Decides accepted rejected x) (haccepted : accepted ↔ accepted')
    (hrejected : ∀ e, rejected e ↔ rejected' e) : Decides accepted' rejected' x :=
  ⟨h.ok_iff.trans haccepted, fun e => (h.error_iff e).trans (hrejected e)⟩

theorem bind {f : α → Except ε β} (hx : Decides accepted rejected x)
    (hf : ∀ a, x = .ok a → Decides accepted' rejected' (f a)) :
    Decides (accepted ∧ accepted') (fun e => rejected e ∨ accepted ∧ rejected' e) (x >>= f) := by
  cases hresult : x with
  | error e =>
      rw [hresult] at hx
      have hnot : ¬ accepted := fun h => by
        obtain ⟨a, ha⟩ := hx.ok_iff.mpr h
        cases ha
      refine (Decides.error e).congr ⟨False.elim, fun h => hnot h.1⟩ fun e' => ?_
      rw [← hx.error_iff]
      constructor
      · rintro rfl
        exact Or.inl rfl
      · rintro (h | ⟨h, -⟩)
        · exact Except.error.inj h
        · exact absurd h hnot
  | ok a =>
      have haccepted : accepted := hx.ok_iff.mp ⟨a, hresult⟩
      have hnot : ∀ e, ¬ rejected e := fun e h => by
        rw [← hx.error_iff, hresult] at h
        cases h
      refine (hf a hresult).congr ⟨fun h => ⟨haccepted, h⟩, fun h => h.2⟩ fun e => ?_
      exact ⟨fun h => Or.inr ⟨haccepted, h⟩, fun h => (h.resolve_left (hnot e)).2⟩

theorem map (hx : Decides accepted rejected x) (f : α → β) :
    Decides accepted rejected (x >>= fun a => .ok (f a)) :=
  (hx.bind fun a _ => .ok (f a)).congr (and_iff_left trivial) fun e => by simp

theorem mapM {γ : Type} {accepted : γ → Prop} {rejected : γ → ε → Prop} {f : γ → Except ε α}
    {xs : List γ} (h : ∀ x ∈ xs, Decides (accepted x) (rejected x) (f x)) :
    Decides (∀ x ∈ xs, accepted x)
      (fun e => ∃ before x after, xs = before ++ x :: after ∧ (∀ y ∈ before, accepted y) ∧
        rejected x e)
      (xs.mapM f) := by
  constructor
  · rw [exists_mapM_eq_ok_iff]
    exact forall₂_congr fun x hx => (h x hx).ok_iff
  · intro e
    rw [(FailsFirst.each f xs).eq_error_iff]
    constructor
    · rintro ⟨outcomes, more, hsplit, hnone⟩
      obtain ⟨before, rest, rfl, rfl, hrest⟩ := List.map_eq_append_iff.mp hsplit
      obtain ⟨x, after, rfl, hx, rfl⟩ := List.map_eq_cons_iff.mp hrest
      refine ⟨before, x, after, rfl, fun y hy => ?_, ?_⟩
      · rw [← (h y (by simp [hy])).ok_iff, ← failure?_eq_none_iff]
        exact hnone _ (List.mem_map_of_mem hy)
      · rwa [← (h x (by simp)).error_iff, ← failure?_eq_some_iff]
    · rintro ⟨before, x, after, rfl, hbefore, hx⟩
      have hfailure : failure? (f x) = some e :=
        failure?_eq_some_iff.mpr (((h x (by simp)).error_iff e).mpr hx)
      refine ⟨before.map fun y => failure? (f y), after.map fun y => failure? (f y), ?_, ?_⟩
      · rw [List.map_append, List.map_cons, hfailure]
      · intro o ho
        obtain ⟨y, hy, rfl⟩ := List.mem_map.mp ho
        rw [failure?_eq_none_iff, (h y (by simp [hy])).ok_iff]
        exact hbefore y hy

end Decides

end KotlinMeta
