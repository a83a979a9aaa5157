import Mathlib.Data.Nat.Bitwise
import KotlinMeta.Flags.Basic

/-! # Bits of a flag word

Which bits are set in a word that others are put together to.
-/

set_option autoImplicit false

namespace KotlinMeta

namespace Flags

/-- The flags that are set in both words. -/
def intersect (f mask : Flags) : Flags := ⟨f.bits &&& mask.bits⟩

theorem ownBit_intersect (f mask : Flags) (n : Nat) :
    (f.intersect mask).ownBit n = (f.ownBit n && mask.ownBit n) := by
  rw [ownBit, bit, intersect, UInt32.toNat_and, Nat.testBit_and]
  rfl

/-- The word has 21 bits that a kind of node numbers for itself. -/
theorem ownBit_withOwnBit (f : Flags) {n : Nat} (hn : n < 21) (m : Nat) :
    (f.withOwnBit n).ownBit m = (f.ownBit m || decide (m = n)) := by
  have hlt : 1 <<< (11 + n) < UInt32.size := by
    rw [Nat.one_shiftLeft]
    exact Nat.pow_lt_pow_right (by decide : 1 < 2) (by omega : 11 + n < 32)
  rw [ownBit, bit, withOwnBit, UInt32.toNat_or, Nat.testBit_or,
    UInt32.toNat_ofNat_of_lt' hlt, Nat.one_shiftLeft, Nat.testBit_two_pow]
  have hdec : decide (11 + n = 11 + m) = decide (m = n) := by
    rw [decide_eq_decide]
    omega
  rw [hdec]
  rfl

end Flags

end KotlinMeta
