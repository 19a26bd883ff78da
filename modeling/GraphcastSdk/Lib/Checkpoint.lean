import Mathlib.Data.Nat.Basic
import Mathlib.Order.Bounds.Basic

/-!
# Settling on a checkpoint

Parties at different positions of one order each settle on the last checkpoint at or below their
own position.

* `IsLast.mono`: a party further on settles no earlier.
* `IsLast.eq_iff`: two parties settle on one checkpoint iff none lies between them.
* `isLast_sub_mod`: with the multiples of `k` as checkpoints, `n` settles on `n - n % k`.
-/

namespace Checkpoint

variable {α : Type} [LinearOrder α] {P : Set α} {x y b c : α}

/-- `b` is the last of the checkpoints `P` at or below `x`. -/
def IsLast (P : Set α) (x b : α) : Prop := IsGreatest {m | m ∈ P ∧ m ≤ x} b

/-- **A party further on settles no earlier.** -/
theorem IsLast.mono (hb : IsLast P x b) (hc : IsLast P y c) (hxy : x ≤ y) : b ≤ c :=
  hc.2 ⟨hb.1.1, hb.1.2.trans hxy⟩

/-- **Two parties settle on one checkpoint iff none lies between them**, after the first and up to
the second. -/
theorem IsLast.eq_iff (hb : IsLast P x b) (hc : IsLast P y c) (hxy : x ≤ y) :
    b = c ↔ ¬ ∃ m ∈ P, x < m ∧ m ≤ y := by
  constructor
  · rintro rfl ⟨m, hm, hxm, hmy⟩
    have hmb : m ≤ b := hc.2 ⟨hm, hmy⟩
    exact absurd (hxm.trans_le hmb) (not_lt.mpr hb.1.2)
  · intro hnone
    have hcx : c ≤ x := not_lt.mp fun hlt => hnone ⟨c, hc.1.1, hlt, hc.1.2⟩
    exact le_antisymm (hb.mono hc hxy) (hb.2 ⟨hc.1.1, hcx⟩)

/-- **The last multiple of `k` at or below `n`.** -/
theorem isLast_sub_mod (k n : Nat) : IsLast {m | k ∣ m} n (n - n % k) := by
  refine ⟨⟨Nat.dvd_sub_mod n, Nat.sub_le n _⟩, ?_⟩
  rintro m ⟨⟨d, rfl⟩, hle⟩
  rcases Nat.eq_zero_or_pos k with rfl | hk
  · simp
  · have hdiv : d ≤ n / k := (Nat.le_div_iff_mul_le hk).mpr (by rwa [Nat.mul_comm])
    have hmod := Nat.div_add_mod n k
    have hmul : k * d ≤ k * (n / k) := Nat.mul_le_mul_left k hdiv
    omega

end Checkpoint
