import Mathlib.Data.List.Basic

/-! Scanning a machine word from its low end: the count of trailing zeros as a
shift loop, and the walk over the set bits that clears the lowest one each time. -/
namespace XSDK.Library

variable {w : Nat}

/-- Shift right until the low bit is set, at most fuel times, counting the shifts. -/
def ctzLoop : Nat → BitVec w → Nat → Nat
  | 0, _, n => n
  | fuel + 1, v, n => if v.getLsbD 0 then n else ctzLoop fuel (v >>> 1) (n + 1)

theorem ctzLoop_spec (fuel : Nat) (v : BitVec w) (n : Nat) (h : ∃ i ≤ fuel, v.getLsbD i = true) :
    ∃ c, ctzLoop fuel v n = n + c ∧ v.getLsbD c = true ∧ ∀ i < c, v.getLsbD i = false := by
  induction fuel generalizing v n with
  | zero =>
    obtain ⟨i, hi, hv⟩ := h
    have hi : i = 0 := Nat.le_zero.mp hi
    exact ⟨0, rfl, hi ▸ hv, fun j hj => absurd hj (Nat.not_lt_zero j)⟩
  | succ fuel ih =>
    by_cases low : v.getLsbD 0 = true
    · exact ⟨0, by simp [ctzLoop, low], low, fun j hj => absurd hj (Nat.not_lt_zero j)⟩
    · obtain ⟨i, hi, hv⟩ := h
      have low : v.getLsbD 0 = false := by simpa using low
      cases i with
      | zero => rw [low] at hv; cases hv
      | succ i =>
        have shifted : ∃ j ≤ fuel, (v >>> 1).getLsbD j = true :=
          ⟨i, Nat.le_of_succ_le_succ hi, by simpa [Nat.add_comm] using hv⟩
        obtain ⟨c, hc, hset, hlow⟩ := ih (v >>> 1) (n + 1) shifted
        refine ⟨c + 1, ?_, ?_, ?_⟩
        · rw [ctzLoop, if_neg (by simp [low]), hc]
          omega
        · simpa [Nat.add_comm] using hset
        · intro j hj
          cases j with
          | zero => exact low
          | succ j => simpa [Nat.add_comm] using hlow j (Nat.lt_of_succ_lt_succ hj)

/-- The index of the lowest set bit of a word that has one. -/
def ctz (v : BitVec w) : Nat := ctzLoop (w - 1) v 0

variable {v : BitVec w}

theorem exists_set_bit (h : v ≠ 0#w) : ∃ i, i < w ∧ v.getLsbD i = true := by
  by_contra none
  apply h
  apply BitVec.eq_of_getLsbD_eq
  intro i hi
  have clear : ¬ v.getLsbD i = true := fun hv => none ⟨i, hi, hv⟩
  simpa using clear

theorem ctz_spec (h : v ≠ 0#w) : v.getLsbD (ctz v) = true ∧ ∀ i < ctz v, v.getLsbD i = false := by
  obtain ⟨i, hi, hv⟩ := exists_set_bit h
  obtain ⟨c, hc, hset, hlow⟩ := ctzLoop_spec (w - 1) v 0 ⟨i, by omega, hv⟩
  have eq : ctz v = c := by rw [ctz, hc, Nat.zero_add]
  exact eq ▸ ⟨hset, hlow⟩

/-- Subtracting one and masking clears the lowest set bit and nothing else. -/
theorem clear_lowest (h : v ≠ 0#w) (i : Nat) : (v &&& (v - 1#w)).getLsbD i = (v.getLsbD i && decide (i ≠ ctz v)) := by
  obtain ⟨hset, hlow⟩ := ctz_spec h
  generalize ctz v = c at hset hlow
  have hcw : c < w := BitVec.lt_of_getLsbD hset
  have low : v.toNat % 2 ^ c = 0 := by
    apply Nat.eq_of_testBit_eq
    intro j
    rw [Nat.testBit_mod_two_pow, Nat.zero_testBit]
    by_cases hj : j < c
    · have := hlow j hj
      rw [BitVec.getLsbD] at this
      simp [this]
    · simp [hj]
  have odd : (v.toNat / 2 ^ c) % 2 = 1 := by
    have : (v.toNat / 2 ^ c).testBit 0 = true := by
      rw [Nat.testBit_div_two_pow, Nat.zero_add]
      exact hset
    simpa [Nat.testBit_zero] using this
  obtain ⟨q, hq⟩ : ∃ q, v.toNat / 2 ^ c = 2 * q + 1 := ⟨v.toNat / 2 ^ c / 2, by omega⟩
  have whole : v.toNat = 2 ^ c * (2 * q + 1) + 0 := by
    have := Nat.div_add_mod v.toNat (2 ^ c)
    rw [low, hq] at this
    omega
  have pos : 0 < 2 ^ c := Nat.two_pow_pos c
  have pred : (v - 1#w).toNat = 2 ^ c * (2 * q) + (2 ^ c - 1) := by
    have one : (1#w).toNat = 1 := by
      rw [BitVec.toNat_ofNat]
      exact Nat.mod_eq_of_lt (Nat.one_lt_two_pow (by omega))
    have le : 1#w ≤ v := by
      rw [BitVec.le_def, one, whole, Nat.mul_succ]
      omega
    rw [BitVec.toNat_sub_of_le le, one, whole, Nat.mul_succ]
    omega
  by_cases hi : i < c
  · simp [hlow i hi]
  · rw [BitVec.getLsbD_and]
    have bitV : v.getLsbD i = (2 * q + 1).testBit (i - c) := by
      rw [BitVec.getLsbD, whole, Nat.testBit_two_pow_mul_add _ pos]
      simp [hi]
    have bitP : (v - 1#w).getLsbD i = (2 * q).testBit (i - c) := by
      rw [BitVec.getLsbD, pred, Nat.testBit_two_pow_mul_add _ (by omega)]
      simp [hi]
    rw [bitV, bitP]
    cases hd : i - c with
    | zero =>
      have hic : i = c := by omega
      simp [hic]
    | succ d =>
      have hic : i ≠ c := by omega
      have half : (2 * q + 1) / 2 = q := by omega
      simp [Nat.testBit_succ, hic, half]

/-- The set bits of a word in ascending order, clearing the lowest one in each round. -/
def lowBits : Nat → BitVec w → List Nat
  | 0, _ => []
  | fuel + 1, v => if v = 0#w then [] else ctz v :: lowBits fuel (v &&& (v - 1#w))

variable {i : Nat}

theorem mem_lowBits_of {fuel : Nat} (h : i ∈ lowBits fuel v) : v.getLsbD i = true := by
  induction fuel generalizing v with
  | zero => simp [lowBits] at h
  | succ fuel ih =>
    rw [lowBits] at h
    split at h
    · simp at h
    · rename_i hv
      rcases List.mem_cons.mp h with rfl | h
      · exact (ctz_spec hv).1
      · have := ih h
        rw [clear_lowest hv] at this
        simp only [Bool.and_eq_true] at this
        exact this.1

/-- With no set bit below base, a fuel of w - base reaches every set bit. -/
theorem lowBits_complete {fuel b : Nat} (hf : w ≤ b + fuel)
    (low : ∀ j < b, v.getLsbD j = false) (hi : v.getLsbD i = true) :
    i ∈ lowBits fuel v := by
  induction fuel generalizing v b with
  | zero =>
    have := BitVec.lt_of_getLsbD hi
    rw [low i (by omega)] at hi
    cases hi
  | succ fuel ih =>
    have hv : v ≠ 0#w := by
      rintro rfl
      simp at hi
    obtain ⟨hset, hlow⟩ := ctz_spec hv
    rw [lowBits, if_neg hv]
    by_cases hic : i = ctz v
    · exact hic ▸ List.mem_cons_self
    · refine List.mem_cons_of_mem _ (ih (b := ctz v + 1) ?_ ?_ ?_)
      · have : b ≤ ctz v := by
          by_contra hb
          rw [low _ (by omega)] at hset
          cases hset
        omega
      · intro j hj
        rw [clear_lowest hv]
        by_cases hjc : j = ctz v
        · simp [hjc]
        · simp [hlow j (by omega)]
      · rw [clear_lowest hv]
        simp [hi, hic]

theorem mem_lowBits : i ∈ lowBits w v ↔ v.getLsbD i = true :=
  ⟨mem_lowBits_of, lowBits_complete (b := 0) (by omega) (fun _ hj => absurd hj (Nat.not_lt_zero _))⟩

end XSDK.Library
