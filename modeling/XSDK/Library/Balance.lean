import Mathlib.Tactic.Linarith
import Mathlib.Tactic.Ring

/-! The equation `x = ⌊(a - n x) / b⌋`: when it has a solution, and from where iterating its
right-hand side comes to it. -/
namespace XSDK.Library.Balance

/-- What is left of `a` after `x` shares of `n`, in parts of `b`. -/
def parts (a n b x : Int) : Int := (a - n * x) / b

/-- The same map around a solution, with what the solution leaves over. -/
def drift (r n b e : Int) : Int := (r - n * e) / b

/-- The least and the largest distance from which so many rounds come to the solution. -/
def reach (r n b : Int) : Nat → Int × Int
  | 0 => (0, 0)
  | k + 1 => ((r - ((reach r n b k).2 + 1) * b) / n + 1, (r - (reach r n b k).1 * b) / n)

variable {a n b r x e : Int} {k : Nat}

theorem parts_eq_self_iff (positive : 0 < b) (nonneg : 0 ≤ n) :
    parts a n b x = x ↔ x = a / (b + n) ∧ a % (b + n) < b := by
  have bound : b + n ≠ 0 := by omega
  constructor
  · intro fixed
    have low : x * b ≤ a - n * x := (Int.le_ediv_iff_mul_le positive).mp (le_of_eq fixed.symm)
    have high : a - n * x < (x + 1) * b := (Int.ediv_lt_iff_lt_mul positive).mp (lt_of_eq_of_lt fixed (Int.lt_succ x))
    have split : a = (a - (b + n) * x) + (b + n) * x := by ring
    have small : 0 ≤ a - (b + n) * x ∧ a - (b + n) * x < b := by constructor <;> linarith
    have quotient : a / (b + n) = x ∧ a % (b + n) = a - (b + n) * x :=
      (Int.ediv_emod_unique (by omega)).mpr ⟨split.symm, small.1, by omega⟩
    exact ⟨quotient.1.symm, by rw [quotient.2]; exact small.2⟩
  · rintro ⟨rfl, small⟩
    have division := Int.emod_add_mul_ediv a (b + n)
    have least := Int.emod_nonneg a bound
    have split : a - n * (a / (b + n)) = a % (b + n) + a / (b + n) * b := by linarith
    rw [parts, split, Int.add_mul_ediv_right _ _ (by omega), Int.ediv_eq_zero_of_lt least small, Int.zero_add]

theorem parts_add (positive : 0 < b) (split : a = (b + n) * x + r) : parts a n b (x + e) = x + drift r n b e := by
  have moved : a - n * (x + e) = (r - n * e) + x * b := by
    rw [split]
    ring
  rw [parts, moved, Int.add_mul_ediv_right _ _ (by omega), Int.add_comm, drift]

theorem iterate_parts (positive : 0 < b) (split : a = (b + n) * x + r) :
    (parts a n b)^[k] (x + e) = x + (drift r n b)^[k] e := by
  induction k generalizing e with
  | zero => rfl
  | succ k ih => rw [Function.iterate_succ_apply, Function.iterate_succ_apply, parts_add positive split, ih]

/-- So many rounds come to the solution exactly from the distances within reach. -/
theorem iterate_drift_iff (positive : 0 < b) (share : 0 < n) :
    (drift r n b)^[k] e = 0 ↔ (reach r n b k).1 ≤ e ∧ e ≤ (reach r n b k).2 := by
  induction k generalizing e with
  | zero =>
    change e = 0 ↔ 0 ≤ e ∧ e ≤ 0
    omega
  | succ k ih =>
    have least : (reach r n b k).1 ≤ drift r n b e ↔ e ≤ (r - (reach r n b k).1 * b) / n := by
      rw [drift, Int.le_ediv_iff_mul_le positive, Int.le_ediv_iff_mul_le share, Int.mul_comm e n]
      omega
    have most : drift r n b e ≤ (reach r n b k).2 ↔ (r - ((reach r n b k).2 + 1) * b) / n + 1 ≤ e := by
      rw [← Int.lt_add_one_iff, drift, Int.ediv_lt_iff_lt_mul positive, Int.add_one_le_iff, Int.ediv_lt_iff_lt_mul share,
        Int.mul_comm e n]
      omega
    rw [Function.iterate_succ_apply, ih, least, most]
    exact and_comm

theorem iterate_drift_zero (least : 0 ≤ r) (small : r < b) : (drift r n b)^[k] 0 = 0 := by
  have fixed : drift r n b 0 = 0 := by
    rw [drift, Int.mul_zero, Int.sub_zero]
    exact Int.ediv_eq_zero_of_lt least small
  exact Function.iterate_fixed fixed k

end XSDK.Library.Balance
