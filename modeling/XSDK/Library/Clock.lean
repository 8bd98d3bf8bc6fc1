import Mathlib.Data.BitVec

/-! Counters that wrap. A counter of w bits shows a time modulo two to the w, and two
times are compared through the sign of their difference. The comparison is right as
long as the times are less than half the range apart. -/
namespace XSDK.Library

variable {w : Nat}

/-- The counter now has reached the counter due, by the sign of the difference. -/
def reached (now due : BitVec w) : Bool := decide (0 ≤ (now - due).toInt)

theorem toInt_sub_ofInt (x y : Int) : (BitVec.ofInt w x - BitVec.ofInt w y).toInt = (x - y).bmod (2 ^ w) := by
  rw [BitVec.toInt_sub, BitVec.toInt_ofInt, BitVec.toInt_ofInt, Int.bmod_sub_bmod, Int.sub_bmod_bmod]

theorem reached_ofInt (x y : Int) (low : -(2 ^ w) ≤ (x - y) * 2) (high : (x - y) * 2 < 2 ^ w) :
    reached (BitVec.ofInt w x) (BitVec.ofInt w y) = true ↔ y ≤ x := by
  have near : (x - y).bmod (2 ^ w) = x - y := by
    apply Int.bmod_eq_of_le_mul_two
    · push_cast
      exact low
    · push_cast
      exact high
  unfold reached
  rw [toInt_sub_ofInt, near, decide_eq_true_eq]
  constructor
  · intro h
    omega
  · intro h
    omega

theorem ofInt_add_nat (x : Int) (n : Nat) : BitVec.ofInt w x + BitVec.ofNat w n = BitVec.ofInt w (x + n) := by
  rw [BitVec.ofInt_add]
  congr 1

theorem ofInt_toNat (b : BitVec w) : BitVec.ofInt w b.toNat = b := by
  rw [BitVec.ofInt_natCast, BitVec.ofNat_toNat, BitVec.setWidth_eq]

end XSDK.Library
