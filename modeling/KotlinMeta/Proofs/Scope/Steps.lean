import Mathlib.Data.List.Induction
import KotlinMeta.Proofs.Scope.Lookup

/-! # Scopes that are built step by step

Scopes are opened, on their own or inside others, and type parameters are declared in them, in any
order. A scope sees the scopes around it as they were when it was opened. So it is in use only as
long as nothing more is declared around it, and a declaration ends the use of the scopes inside
(`Opened.step`).

What a scope in use holds and finds can be read off the steps: it holds what was declared in it, and
it sees what has been declared around it up to now (`Follows`). The look-up could as well go through
one table for each scope, in which a declaration takes the place of an earlier one with its number
(`lookup_eq_findSome?_tableOf`). Steps that declare nothing in a scope or around it leave the scope
as it is (`Opened.inUse_run`).
-/

set_option autoImplicit false

namespace KotlinMeta.Scope

/-! ## Tables -/

/-- The table of a scope after these declarations: each is entered under its number and takes the
place of the one that was there. -/
def tableOf (declared : List TypeVar) : Std.HashMap UInt32 TypeVar :=
  declared.foldl (fun table v => table.insert v.id v) ∅

theorem latest?_concat (vs : List TypeVar) (v : TypeVar) (k : UInt32) :
    latest? (vs ++ [v]) k = if v.id == k then some v else latest? vs k := by
  rw [latest?, List.reverse_concat, List.find?_cons]
  cases v.id == k <;> rfl

/-- **The table of a scope holds the latest declaration of each number.** -/
theorem getElem?_tableOf (vs : List TypeVar) (k : UInt32) : (tableOf vs)[k]? = latest? vs k := by
  induction vs using List.reverseRecOn with
  | nil => exact Std.HashMap.getElem?_empty
  | append_singleton vs v ih =>
      rw [tableOf, List.foldl_concat, ← tableOf, Std.HashMap.getElem?_insert, ih, latest?_concat]

/-- The look-up through the tables of a scope and of the scopes around it, nearest first. -/
theorem lookup_eq_findSome?_tableOf (s : Scope) (k : UInt32) :
    s.lookup k = s.visible.findSome? fun vs => (tableOf vs)[k]? := by
  simp only [getElem?_tableOf]
  rfl

/-! ## Steps -/

/-- What is done with scopes. They are numbered in the order in which they are opened. -/
inductive Step where
  | root
  | child (parent ordinal : Nat)
  | declare (number : Nat) (v : TypeVar)

/-- A scope in use, and the numbers of the scopes around it, nearest first. -/
structure InUse where
  around : List Nat
  scope : Scope

/-- The scopes that have been opened: how many they are, and which of them are in use. -/
structure Opened where
  count : Nat
  inUse : Nat → Option InUse

namespace Opened

/-- No scope has been opened. -/
def start : Opened := ⟨0, fun _ => none⟩

/-- One more scope is opened, inside these. -/
def add (o : Opened) (around : List Nat) (s : Scope) : Opened where
  count := o.count + 1
  inUse := Function.update o.inUse o.count (some ⟨around, s⟩)

/-- A scope becomes another one, and the scopes inside are no longer in use. -/
def replace (o : Opened) (number : Nat) (u : InUse) : Opened where
  count := o.count
  inUse :=
    Function.update (fun n => (o.inUse n).filter fun w => !w.around.contains number) number (some u)

/-- One step. Nothing can be done with a scope that is not in use. -/
def step (o : Opened) : Step → Option Opened
  | .root => some (o.add [] .root)
  | .child parent ordinal =>
    (o.inUse parent).map fun u => o.add (parent :: u.around) (u.scope.child ordinal)
  | .declare number v =>
    (o.inUse number).map fun u => o.replace number { u with scope := u.scope.declare v }

def run (o : Opened) (steps : List Step) : Option Opened := steps.foldlM step o

variable {o o' : Opened}

/-- What one step can do. -/
theorem step_cases {st : Step} (h : o.step st = some o') :
    (st = .root ∧ o' = o.add [] .root) ∨
    (∃ parent ordinal u, st = .child parent ordinal ∧ o.inUse parent = some u ∧
      o' = o.add (parent :: u.around) (u.scope.child ordinal)) ∨
    ∃ number v u, st = .declare number v ∧ o.inUse number = some u ∧
      o' = o.replace number { u with scope := u.scope.declare v } := by
  cases st with
  | root => exact Or.inl ⟨rfl, (Option.some.inj h).symm⟩
  | child parent ordinal =>
      obtain ⟨u, hu, rfl⟩ := Option.map_eq_some_iff.mp h
      exact Or.inr (Or.inl ⟨parent, ordinal, u, rfl, hu, rfl⟩)
  | declare number v =>
      obtain ⟨u, hu, rfl⟩ := Option.map_eq_some_iff.mp h
      exact Or.inr (Or.inr ⟨number, v, u, rfl, hu, rfl⟩)

theorem run_concat (steps : List Step) (st : Step) :
    o.run (steps ++ [st]) = (o.run steps).bind fun o => o.step st := by
  rw [run, List.foldlM_append]
  simp [run]

theorem inUse_add (o : Opened) (around : List Nat) (s : Scope) :
    (o.add around s).inUse = Function.update o.inUse o.count (some ⟨around, s⟩) := rfl

theorem inUse_replace (o : Opened) (number : Nat) (u : InUse) :
    (o.replace number u).inUse =
      Function.update (fun n => (o.inUse n).filter fun w => !w.around.contains number) number
        (some u) := rfl

theorem inUse_add_cases {around : List Nat} {s : Scope} {n : Nat} {u : InUse}
    (h : (o.add around s).inUse n = some u) :
    n = o.count ∧ u = ⟨around, s⟩ ∨ n ≠ o.count ∧ o.inUse n = some u := by
  rw [inUse_add] at h
  by_cases hn : n = o.count
  · rw [hn, Function.update_self] at h
    exact Or.inl ⟨hn, (Option.some.inj h).symm⟩
  · rw [Function.update_of_ne hn] at h
    exact Or.inr ⟨hn, h⟩

theorem inUse_replace_cases {number n : Nat} {u w : InUse}
    (h : (o.replace number w).inUse n = some u) :
    n = number ∧ u = w ∨ n ≠ number ∧ o.inUse n = some u ∧ number ∉ u.around := by
  rw [inUse_replace] at h
  by_cases hn : n = number
  · rw [hn, Function.update_self] at h
    exact Or.inl ⟨hn, (Option.some.inj h).symm⟩
  · rw [Function.update_of_ne hn, Option.filter_eq_some_iff] at h
    exact Or.inr ⟨hn, h.1, by simpa using h.2⟩

theorem inUse_replace_of_ne {number n : Nat} {u w : InUse} (hn : n ≠ number)
    (hu : o.inUse n = some u) (haround : number ∉ u.around) :
    (o.replace number w).inUse n = some u := by
  rw [inUse_replace, Function.update_of_ne hn, hu]
  simpa using haround

/-! ## What the steps leave alone -/

/-- Steps that declare nothing in a scope or around it, such as any steps with the scopes inside it,
leave the scope as it is. -/
theorem inUse_step {n : Nat} {u : InUse} {st : Step} (hu : o.inUse n = some u) (hn : n < o.count)
    (hst : ∀ m v, st = .declare m v → m ∉ n :: u.around) (h : o.step st = some o') :
    o'.inUse n = some u ∧ n < o'.count := by
  rcases step_cases h with ⟨-, rfl⟩ | ⟨parent, ordinal, p, -, -, rfl⟩ | ⟨m, v, p, rfl, -, rfl⟩
  · exact ⟨(Function.update_of_ne hn.ne _ _).trans hu, Nat.lt_succ_of_lt hn⟩
  · exact ⟨(Function.update_of_ne hn.ne _ _).trans hu, Nat.lt_succ_of_lt hn⟩
  · have hm := hst m v rfl
    rw [List.mem_cons, not_or] at hm
    exact ⟨inUse_replace_of_ne (Ne.symm hm.1) hu hm.2, hn⟩

theorem inUse_run {n : Nat} {u : InUse} {steps : List Step} (hu : o.inUse n = some u)
    (hn : n < o.count) (hsteps : ∀ m v, .declare m v ∈ steps → m ∉ n :: u.around)
    (h : o.run steps = some o') : o'.inUse n = some u := by
  induction steps generalizing o with
  | nil =>
      cases h
      exact hu
  | cons st rest ih =>
      rw [run, List.foldlM_cons] at h
      obtain ⟨o₁, hst, hrest⟩ := Option.bind_eq_some_iff.mp h
      obtain ⟨hu₁, hn₁⟩ :=
        inUse_step hu hn (fun m v hm => hsteps m v (hm ▸ List.mem_cons_self)) hst
      exact ih hu₁ hn₁ (fun m v hm => hsteps m v (List.mem_cons_of_mem st hm)) hrest

end Opened

/-! ## What the steps declare -/

/-- What a step declares in the scope with this number. -/
def Step.declaredIn? (number : Nat) : Step → Option TypeVar
  | .declare n v => if n = number then some v else none
  | .root | .child _ _ => none

/-- What steps declare in the scope with this number, in order. -/
def declaredIn (steps : List Step) (number : Nat) : List TypeVar :=
  steps.filterMap (Step.declaredIn? number)

theorem declaredIn_concat_of_none {steps : List Step} {st : Step} {n : Nat}
    (h : st.declaredIn? n = none) : declaredIn (steps ++ [st]) n = declaredIn steps n := by
  simp [declaredIn, h]

theorem declaredIn_concat_self (steps : List Step) (n : Nat) (v : TypeVar) :
    declaredIn (steps ++ [.declare n v]) n = declaredIn steps n ++ [v] := by
  simp [declaredIn, Step.declaredIn?]

theorem declaredIn_concat_of_ne (steps : List Step) {m n : Nat} (v : TypeVar) (h : m ≠ n) :
    declaredIn (steps ++ [.declare m v]) n = declaredIn steps n :=
  declaredIn_concat_of_none (if_neg h)

/-- The scopes in use are what the steps make of them. -/
structure Follows (steps : List Step) (o : Opened) : Prop where
  /-- In a scope that is not opened yet nothing is declared. -/
  unopened : ∀ n, o.count ≤ n → declaredIn steps n = []
  opened : ∀ n u, o.inUse n = some u → n < o.count
  /-- The scopes around a scope were opened before it, and they are in use as well. -/
  around : ∀ n u, o.inUse n = some u →
    ∀ a ∈ u.around, a < n ∧ ∃ w, o.inUse a = some w ∧ a :: w.around <:+ u.around
  visible : ∀ n u, o.inUse n = some u →
    u.scope.visible = (n :: u.around).map (declaredIn steps)

namespace Follows

variable {steps : List Step} {o o' : Opened} (h : Follows steps o)
include h

theorem add {st : Step} {around : List Nat} {s : Scope} (hst : ∀ n, st.declaredIn? n = none)
    (haround : ∀ a ∈ around,
      a < o.count ∧ ∃ w, o.inUse a = some w ∧ a :: w.around <:+ around)
    (hvisible : s.visible = [] :: around.map (declaredIn steps)) :
    Follows (steps ++ [st]) (o.add around s) := by
  have hsame : declaredIn (steps ++ [st]) = declaredIn steps :=
    funext fun n => declaredIn_concat_of_none (hst n)
  -- a scope that is in use already is not the new one
  have hold : ∀ a w, o.inUse a = some w → (o.add around s).inUse a = some w := fun a w hw =>
    (Function.update_of_ne (h.opened a w hw).ne _ _).trans hw
  constructor
  · intro n hn
    rw [hsame]
    exact h.unopened n (Nat.le_of_succ_le hn)
  · intro n u hu
    rcases Opened.inUse_add_cases hu with ⟨rfl, -⟩ | ⟨-, hu⟩
    · exact Nat.lt_succ_self o.count
    · exact Nat.lt_succ_of_lt (h.opened n u hu)
  · intro n u hu a ha
    rcases Opened.inUse_add_cases hu with ⟨rfl, rfl⟩ | ⟨-, hu⟩
    · obtain ⟨hlt, w, hw, hsuffix⟩ := haround a ha
      exact ⟨hlt, w, hold a w hw, hsuffix⟩
    · obtain ⟨hlt, w, hw, hsuffix⟩ := h.around n u hu a ha
      exact ⟨hlt, w, hold a w hw, hsuffix⟩
  · intro n u hu
    rw [hsame]
    rcases Opened.inUse_add_cases hu with ⟨rfl, rfl⟩ | ⟨-, hu⟩
    · rw [hvisible, List.map_cons, h.unopened o.count (Nat.le_refl o.count)]
    · exact h.visible n u hu

theorem declare {n : Nat} {u : InUse} (hu : o.inUse n = some u) (v : TypeVar) :
    Follows (steps ++ [.declare n v]) (o.replace n { u with scope := u.scope.declare v }) := by
  -- where the scope is neither the one at hand nor around it, nothing is declared
  have hsame : ∀ chain : List Nat, n ∉ chain →
      chain.map (declaredIn (steps ++ [.declare n v])) = chain.map (declaredIn steps) := by
    intro chain hn
    refine List.map_congr_left fun m hm => declaredIn_concat_of_ne steps v ?_
    rintro rfl
    exact hn hm
  have hself : n ∉ u.around := fun hn => Nat.lt_irrefl n (h.around n u hu n hn).1
  constructor
  · intro m hm
    rw [declaredIn_concat_of_ne steps v ((h.opened n u hu).trans_le hm).ne]
    exact h.unopened m hm
  · intro m w hw
    rcases Opened.inUse_replace_cases hw with ⟨rfl, -⟩ | ⟨-, hw, -⟩
    · exact h.opened m u hu
    · exact h.opened m w hw
  · -- what is around a scope that stays in use stays in use
    have hstays : ∀ m w, o.inUse m = some w → n ∉ w.around → ∀ a ∈ w.around, a < m ∧
        ∃ w', (o.replace n { u with scope := u.scope.declare v }).inUse a = some w' ∧
          a :: w'.around <:+ w.around := by
      intro m w hw hn a ha
      obtain ⟨hlt, w', hw', hsuffix⟩ := h.around m w hw a ha
      refine ⟨hlt, w', Opened.inUse_replace_of_ne ?_ hw' fun hn' => ?_, hsuffix⟩
      · rintro rfl
        exact hn ha
      · exact hn (hsuffix.subset (List.mem_cons_of_mem a hn'))
    intro m w hw
    rcases Opened.inUse_replace_cases hw with ⟨rfl, rfl⟩ | ⟨-, hw, hn⟩
    · exact hstays m u hu hself
    · exact hstays m w hw hn
  · intro m w hw
    rcases Opened.inUse_replace_cases hw with ⟨rfl, rfl⟩ | ⟨hm, hw, hn⟩
    · obtain ⟨hdeclared, houter⟩ := List.cons.inj (h.visible m u hu)
      rw [List.map_cons, hsame u.around hself, declaredIn_concat_self, ← hdeclared, ← houter]
      rfl
    · rw [hsame (m :: w.around) (by simp [Ne.symm hm, hn])]
      exact h.visible m w hw

/-- **One step keeps the scopes and the steps together.** -/
theorem step {st : Step} (hst : o.step st = some o') : Follows (steps ++ [st]) o' := by
  rcases Opened.step_cases hst with
    ⟨rfl, rfl⟩ | ⟨p, ordinal, u, rfl, hu, rfl⟩ | ⟨n, v, u, rfl, hu, rfl⟩
  · exact h.add (fun _ => rfl) (fun a ha => absurd ha List.not_mem_nil) rfl
  · refine h.add (fun _ => rfl) (fun a ha => ?_) (congrArg _ (h.visible p u hu))
    rcases List.mem_cons.mp ha with rfl | ha
    · exact ⟨h.opened a u hu, u, hu, List.suffix_refl _⟩
    · obtain ⟨hlt, w, hw, hsuffix⟩ := h.around p u hu a ha
      exact ⟨hlt.trans (h.opened p u hu), w, hw, hsuffix.trans (List.suffix_cons p u.around)⟩
  · exact h.declare hu v

end Follows

/-- **The scopes and the steps stay together through all steps.** -/
theorem follows_run {steps : List Step} {o : Opened} (h : Opened.start.run steps = some o) :
    Follows steps o := by
  induction steps using List.reverseRecOn generalizing o with
  | nil =>
      cases h
      constructor
      · exact fun _ _ => rfl
      all_goals exact fun _ _ hu => nomatch hu
  | append_singleton steps st ih =>
      rw [Opened.run_concat] at h
      obtain ⟨o₁, hsteps, hst⟩ := Option.bind_eq_some_iff.mp h
      exact (ih hsteps).step hst

/-- **A number stands for its latest declaration in the nearest scope that has one.** Whatever steps
were taken, a scope in use holds all that was declared in it, in order, and the scopes around it are
in use. The look-up finds the last declaration of a number in the innermost of these scopes that
declares it, and nothing if none does; tables in which declarations take the place of earlier ones
give the same. More can always be declared in the scope and opened inside it. Further steps that
declare only in the scope or in scopes opened after it change nothing in the scopes around it. -/
theorem lookup_nearest_latest {steps : List Step} {o : Opened}
    (h : Opened.start.run steps = some o) {n : Nat} {u : InUse} (hu : o.inUse n = some u) :
    u.scope.declared = declaredIn steps n ∧
    (∀ a ∈ u.around, ∃ w, o.inUse a = some w ∧ a :: w.around <:+ u.around) ∧
    (∀ k v, u.scope.lookup k = some v ↔
      Denotes ((n :: u.around).map (declaredIn steps)) k v) ∧
    (∀ k, u.scope.lookup k = none ↔
      ∀ a ∈ n :: u.around, ∀ v ∈ declaredIn steps a, v.id ≠ k) ∧
    (∀ k, u.scope.lookup k =
      (n :: u.around).findSome? fun a => (tableOf (declaredIn steps a))[k]?) ∧
    (∀ v, ∃ o', o.step (.declare n v) = some o') ∧
    (∀ ordinal, ∃ o', o.step (.child n ordinal) = some o') ∧
    ∀ more o', o.run more = some o' → (∀ m v, .declare m v ∈ more → n ≤ m) →
      ∀ a ∈ u.around, o'.inUse a = o.inUse a := by
  have hfollows := follows_run h
  have hvisible := hfollows.visible n u hu
  refine ⟨(List.cons.inj hvisible).1, fun a ha => (hfollows.around n u hu a ha).2, fun k v => ?_,
    fun k => ?_, fun k => ?_, fun v => ⟨_, congrArg (Option.map _) hu⟩,
    fun ordinal => ⟨_, congrArg (Option.map _) hu⟩, fun more o' hrun hmore a ha => ?_⟩
  · rw [← hvisible]
    exact u.scope.lookup_eq_some_iff k v
  · rw [lookup_eq_none_iff, hvisible]
    exact List.forall_mem_map
  · rw [lookup_eq_findSome?_tableOf, hvisible, List.findSome?_map]
    rfl
  · obtain ⟨hlt, w, hw, -⟩ := hfollows.around n u hu a ha
    rw [hw]
    refine Opened.inUse_run hw (hfollows.opened a w hw) (fun m v hm hmem => ?_) hrun
    have hnm : n ≤ m := hmore m v hm
    rcases List.mem_cons.mp hmem with rfl | hmem
    · omega
    · have := (hfollows.around a w hw m hmem).1
      omega

/-- A number that is declared twice in one scope, one that is declared in two scopes of three, and
one that no scope declares. -/
def nestedSteps : List Step :=
  [.root, .declare 0 (.plain (.declared [] 0) "T" 0), .declare 0 (.plain (.declared [] 1) "K" 1),
    .child 0 4, .declare 1 (.plain (.declared [4] 0) "V" 2), .child 0 7, .root,
    .declare 0 (.plain (.declared [] 2) "U" 0), .child 0 0,
    .declare 4 (.plain (.declared [0] 0) "L" 1), .child 4 0,
    .declare 5 (.plain (.declared [0, 0] 0) "E" 3)]

theorem lookup_nearest_latest_nestedSteps :
    ∃ o u w, Opened.start.run nestedSteps = some o ∧ o.inUse 5 = some u ∧ u.around = [4, 0] ∧
      o.inUse 0 = some w ∧ w.scope.declared.map (·.name) = ["T", "K", "U"] ∧
      [0, 1, 2, 3].map (fun k => (u.scope.lookup k).map (·.key)) =
        [some (.declared [] 2), some (.declared [0] 0), none, some (.declared [0, 0] 0)] ∧
      u.scope.lookup 2 = none ∧
      ∀ v, ∃ o', o.run [.declare 5 v, .child 5 1] = some o' ∧ o'.inUse 0 = some w := by
  have hdeclared : ∀ a ∈ [5, 4, 0], ∀ v ∈ declaredIn nestedSteps a, v.id ≠ 2 := by decide
  refine ⟨_, _, _, rfl, rfl, rfl, rfl, rfl, rfl, ?_, fun v => ⟨_, rfl, ?_⟩⟩
  · obtain ⟨-, -, -, hnone, -⟩ := @lookup_nearest_latest nestedSteps _ rfl 5 _ rfl
    exact (hnone 2).mpr hdeclared
  · obtain ⟨-, -, -, -, -, -, -, hmore⟩ := @lookup_nearest_latest nestedSteps _ rfl 5 _ rfl
    exact hmore [.declare 5 v, .child 5 1] _ rfl (by simp) 0 (by decide)

end KotlinMeta.Scope
