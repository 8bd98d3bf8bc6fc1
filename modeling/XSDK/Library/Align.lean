import Mathlib.Data.Nat.Bitwise

/-! The test for multiples with a mask: a value and the size less one have no bit in common.
It is right for powers of two; for other sizes it only sees the power of two in them. -/
namespace XSDK.Library

variable {v size k : Nat}

/-- Values that pass are multiples of every power of two that divides the size. -/
theorem dvd_of_masked (positive : 0 < size) (power : 2 ^ k ∣ size) (masked : v &&& (size - 1) = 0) : 2 ^ k ∣ v := by
  obtain ⟨m, rfl⟩ := power
  have pow_pos : 0 < 2 ^ k := Nat.two_pow_pos k
  have m_pos : 0 < m := Nat.pos_of_mul_pos_left positive
  have ones : (2 ^ k * m - 1) % 2 ^ k = 2 ^ k - 1 := by
    have shape : 2 ^ k * m - 1 = 2 ^ k - 1 + 2 ^ k * (m - 1) := by
      rw [Nat.mul_sub_one]
      have le : 2 ^ k ≤ 2 ^ k * m := Nat.le_mul_of_pos_right _ m_pos
      omega
    rw [shape, Nat.add_mul_mod_self_left]
    exact Nat.mod_eq_of_lt (by omega)
  have low := congrArg (· % 2 ^ k) masked
  simp only [Nat.and_mod_two_pow, ones, Nat.zero_mod, Nat.and_two_pow_sub_one_eq_mod, Nat.mod_mod] at low
  exact Nat.dvd_of_mod_eq_zero low

theorem masked_power (k : Nat) {m : Nat} (odd : Odd m) : 2 ^ k &&& (2 ^ k * m - 1) = 0 := by
  obtain ⟨n, rfl⟩ := odd
  have pow_pos : 0 < 2 ^ k := Nat.two_pow_pos k
  have shape : 2 ^ k * (2 * n + 1) - 1 = 2 ^ k - 1 + 2 ^ k * (2 * n) := by
    rw [Nat.mul_add_one]
    omega
  have clear : (2 ^ k * (2 * n + 1) - 1).testBit k = false := by
    rw [Nat.testBit_eq_decide_div_mod_eq, shape, Nat.add_mul_div_left _ _ pow_pos, Nat.div_eq_of_lt (by omega)]
    simp
  rw [Nat.and_comm, Nat.and_two_pow, clear]
  simp

theorem masked_multiple (k m : Nat) : 2 ^ k * m &&& (2 ^ k - 1) = 0 := by
  rw [Nat.and_two_pow_sub_one_eq_mod, Nat.mul_mod_right]

end XSDK.Library
