import Mathlib.Algebra.Ring.Nat
import Mathlib.Data.List.GetD
import Mathlib.Logic.Function.Iterate

/-! Division of a string of bits by a polynomial with coefficients zero and one, the lowest
bit of a word standing for the highest power: the remainder is linear, a step of the division
can be undone, and so no burst shorter than the polynomial leaves the remainder as it was. -/
namespace XSDK.Library.Crc

variable {w : Nat} (poly : BitVec w)

/-- One step of the division: the bit that falls out tells whether the polynomial is taken off. -/
def step (r : BitVec w) : BitVec w := if r.getLsbD 0 then (r >>> 1) ^^^ poly else r >>> 1

variable (n : Nat)

def steps (r : BitVec w) : BitVec w := (step poly)^[n] r

def bitWord (b : Bool) : BitVec w := (BitVec.ofBool b).setWidth w

def feed (r : BitVec w) (b : Bool) : BitVec w := step poly (r ^^^ bitWord b)

/-- The remainder after the bits, starting from a remainder. -/
def remainder (r : BitVec w) (bits : List Bool) : BitVec w := bits.foldl (feed poly) r

/-- The bits as one word, the first one lowest. -/
def word : List Bool → BitVec w
  | [] => 0
  | b :: bits => bitWord b ^^^ word bits <<< 1

/-- Strings of one length that differ, and only in a window of n bits. -/
structure Burst (n : Nat) (a b : List Bool) : Prop where
  length : a.length = b.length
  differ : a ≠ b
  window : ∃ k, ∀ i, a[i]? ≠ b[i]? → k ≤ i ∧ i < k + n

variable {poly} {r s : BitVec w} {bits a b pre u v post : List Bool}

theorem getLsbD_bitWord (b : Bool) (i : Nat) (lt : i < w) :
    (bitWord b : BitVec w).getLsbD i = (decide (i = 0) && b) := by
  rw [bitWord, BitVec.getLsbD_setWidth, BitVec.getLsbD_ofBool]
  simp [lt]

theorem step_eq (r : BitVec w) : step poly r = (r >>> 1) ^^^ (if r.getLsbD 0 then poly else 0) := by
  rw [step]
  split <;> simp

theorem step_xor (r s : BitVec w) : step poly (r ^^^ s) = step poly r ^^^ step poly s := by
  have taken : (if (r ^^^ s).getLsbD 0 then poly else 0) =
      (if r.getLsbD 0 then poly else 0) ^^^ (if s.getLsbD 0 then poly else 0) := by
    rw [BitVec.getLsbD_xor]
    cases r.getLsbD 0 <;> cases s.getLsbD 0 <;> simp
  rw [step_eq, step_eq, step_eq, taken, BitVec.ushiftRight_xor_distrib]
  ac_rfl

theorem steps_succ (r : BitVec w) : steps poly (n + 1) r = steps poly n (step poly r) :=
  Function.iterate_succ_apply _ _ _

theorem steps_xor (r s : BitVec w) : steps poly n (r ^^^ s) = steps poly n r ^^^ steps poly n s := by
  induction n generalizing r s with
  | zero => rfl
  | succ n ih => rw [steps_succ, steps_succ, steps_succ, step_xor, ih]

theorem steps_of_low_zero (low : ∀ i < n, r.getLsbD i = false) : steps poly n r = r >>> n := by
  induction n generalizing r with
  | zero => rw [BitVec.ushiftRight_zero]; rfl
  | succ n ih =>
    have first : step poly r = r >>> 1 := by
      rw [step, low 0 (Nat.succ_pos n)]
      rfl
    have later : ∀ i < n, (r >>> 1).getLsbD i = false := by
      intro i lt
      rw [BitVec.getLsbD_ushiftRight]
      exact low (1 + i) (by omega)
    rw [steps_succ, first, ih later, ← BitVec.shiftRight_add, Nat.add_comm]

/-- The bits that fall out decide what is taken off; the others only move down. -/
theorem steps_split (r : BitVec w) :
    steps poly n r = (r >>> n) ^^^ steps poly n (r &&& BitVec.ofNat w (2 ^ n - 1)) := by
  have mask : ∀ i < w, (BitVec.ofNat w (2 ^ n - 1)).getLsbD i = decide (i < n) := by
    intro i lt
    rw [BitVec.getLsbD_ofNat, Nat.testBit_two_pow_sub_one]
    simp [lt]
  have parts : r = (r &&& ~~~BitVec.ofNat w (2 ^ n - 1)) ^^^ (r &&& BitVec.ofNat w (2 ^ n - 1)) := by
    apply BitVec.eq_of_getLsbD_eq
    intro i lt
    simp only [BitVec.getLsbD_xor, BitVec.getLsbD_and, BitVec.getLsbD_not, mask i lt]
    cases r.getLsbD i <;> by_cases h : i < n <;> simp [h, lt]
  have high : ∀ i < n, (r &&& ~~~BitVec.ofNat w (2 ^ n - 1)).getLsbD i = false := by
    intro i lt
    rw [BitVec.getLsbD_and, BitVec.getLsbD_not]
    by_cases inside : i < w
    · simp [mask i inside, lt]
    · simp [inside]
  have moved : (r &&& ~~~BitVec.ofNat w (2 ^ n - 1)) >>> n = r >>> n := by
    apply BitVec.eq_of_getLsbD_eq
    intro i lt
    rw [BitVec.getLsbD_ushiftRight, BitVec.getLsbD_ushiftRight, BitVec.getLsbD_and, BitVec.getLsbD_not]
    by_cases inside : n + i < w
    · have past : ¬ n + i < n := by omega
      simp only [mask _ inside, inside, past, decide_true, decide_false, Bool.not_false, Bool.and_true]
    · rw [BitVec.getLsbD_of_ge r _ (by omega), Bool.false_and]
  conv => lhs; rw [parts]
  rw [steps_xor, steps_of_low_zero n high, moved]

/-- A polynomial with its lowest coefficient tells from the remainder which bit fell out. -/
theorem step_injective (top : poly.getLsbD (w - 1) = true) (same : step poly r = step poly s) : r = s := by
  have wide : w - 1 + 1 = w := by
    have lt := BitVec.lt_of_getLsbD top
    omega
  have top_bit : ∀ x : BitVec w, (step poly x).getLsbD (w - 1) = x.getLsbD 0 := by
    intro x
    have out : (x >>> 1).getLsbD (w - 1) = false := by
      rw [BitVec.getLsbD_ushiftRight, Nat.add_comm, wide]
      exact BitVec.getLsbD_of_ge x w (Nat.le_refl w)
    rw [step_eq, BitVec.getLsbD_xor, out]
    cases x.getLsbD 0 <;> simp [top]
  have low : r.getLsbD 0 = s.getLsbD 0 := by rw [← top_bit r, same, top_bit s]
  have high : r >>> 1 = s >>> 1 := by
    rw [step_eq, step_eq, low] at same
    exact BitVec.xor_left_inj _ |>.mp same
  apply BitVec.eq_of_getLsbD_eq
  intro i _
  cases i with
  | zero => exact low
  | succ i =>
    have bit := congrArg (fun x => x.getLsbD i) high
    simp only [BitVec.getLsbD_ushiftRight, Nat.add_comm 1 i] at bit
    exact bit

theorem steps_injective (top : poly.getLsbD (w - 1) = true) (n : Nat)
    (same : steps poly n r = steps poly n s) : r = s :=
  Function.Injective.iterate (fun _ _ same => step_injective top same) n same

theorem remainder_append (r : BitVec w) (a b : List Bool) :
    remainder poly r (a ++ b) = remainder poly (remainder poly r a) b :=
  List.foldl_append

theorem remainder_injective (top : poly.getLsbD (w - 1) = true)
    (same : remainder poly r bits = remainder poly s bits) :
    r = s := by
  induction bits generalizing r s with
  | nil => exact same
  | cons b bits ih => exact BitVec.xor_left_inj _ |>.mp (step_injective top (ih same))

theorem getLsbD_word (bits : List Bool) (i : Nat) (lt : i < w) :
    (word bits : BitVec w).getLsbD i = bits.getD i false := by
  induction bits generalizing i with
  | nil => simp [word]
  | cons b bits ih =>
    rw [word, BitVec.getLsbD_xor, getLsbD_bitWord b i lt, BitVec.getLsbD_shiftLeft]
    cases i with
    | zero => simp
    | succ i =>
      have rest := ih i (by omega)
      simp [lt, rest]

theorem remainder_eq_steps (r : BitVec w) (fits : bits.length ≤ w) :
    remainder poly r bits = steps poly bits.length (r ^^^ word bits) := by
  induction bits generalizing r with
  | nil =>
    rw [word]
    simp [remainder, steps]
  | cons b bits ih =>
    have short : bits.length < w := fits
    have low : ∀ i < 1, (word bits <<< 1 : BitVec w).getLsbD i = false := by
      intro i lt
      simp [BitVec.getLsbD_shiftLeft, lt]
    have back : (word bits <<< 1 : BitVec w) >>> 1 = word bits := by
      apply BitVec.eq_of_getLsbD_eq
      intro i lt
      rw [BitVec.getLsbD_ushiftRight, BitVec.getLsbD_shiftLeft]
      by_cases inside : 1 + i < w
      · simp [inside]
      · have past : (word bits : BitVec w).getLsbD i = false := by
          rw [getLsbD_word bits i lt, List.getD_eq_default _ _ (by omega)]
        simp [inside, past]
    have moved : step poly (word bits <<< 1) = word bits := by
      have one : steps poly 1 (word bits <<< 1) = (word bits <<< 1 : BitVec w) >>> 1 := steps_of_low_zero 1 low
      rw [back] at one
      exact one
    have rest := ih (feed poly r b) (Nat.le_of_lt short)
    rw [List.length_cons, steps_succ, word, ← BitVec.xor_assoc, step_xor, moved]
    exact rest

theorem eq_of_remainder_eq (top : poly.getLsbD (w - 1) = true) (length : u.length = v.length) (fits : u.length ≤ w)
    (same : remainder poly r u = remainder poly r v) : u = v := by
  rw [remainder_eq_steps r fits, remainder_eq_steps r (length ▸ fits), length] at same
  have words : (word u : BitVec w) = word v := BitVec.xor_right_inj _ |>.mp (steps_injective top _ same)
  apply List.ext_getElem length
  intro i lt lt'
  have bit := congrArg (fun x : BitVec w => x.getLsbD i) words
  simp only [getLsbD_word _ i (Nat.lt_of_lt_of_le lt fits)] at bit
  rwa [List.getD_eq_getElem _ _ lt, List.getD_eq_getElem _ _ lt'] at bit

theorem Burst.split {n : Nat} (burst : Burst n a b) :
    ∃ pre u v post, a = pre ++ (u ++ post) ∧ b = pre ++ (v ++ post) ∧ u.length = v.length ∧ u.length ≤ n ∧ u ≠ v := by
  obtain ⟨k, window⟩ := burst.window
  have front : a.take k = b.take k := by
    apply List.ext_getElem?
    intro i
    by_cases lt : i < k
    · rw [List.getElem?_take_of_lt lt, List.getElem?_take_of_lt lt]
      by_contra differ
      have inside := window i differ
      omega
    · rw [List.getElem?_take_eq_none (by omega), List.getElem?_take_eq_none (by omega)]
  have back : (a.drop k).drop n = (b.drop k).drop n := by
    apply List.ext_getElem?
    intro i
    rw [List.drop_drop, List.drop_drop, List.getElem?_drop, List.getElem?_drop]
    by_contra differ
    have inside := window _ differ
    omega
  have split_a : a = a.take k ++ ((a.drop k).take n ++ (a.drop k).drop n) := by
    rw [List.take_append_drop, List.take_append_drop]
  have split_b : b = a.take k ++ ((b.drop k).take n ++ (a.drop k).drop n) := by
    rw [front, back, List.take_append_drop, List.take_append_drop]
  refine ⟨_, _, _, _, split_a, split_b, ?_, List.length_take_le _ _, ?_⟩
  · rw [List.length_take, List.length_take, List.length_drop, List.length_drop, burst.length]
  · intro same
    rw [same] at split_a
    exact burst.differ (split_a.trans split_b.symm)

theorem remainder_ne_of_burst (top : poly.getLsbD (w - 1) = true) (burst : Burst w a b) (r : BitVec w) :
    remainder poly r a ≠ remainder poly r b := by
  obtain ⟨pre, u, v, post, rfl, rfl, length, fits, differ⟩ := burst.split
  intro same
  rw [remainder_append, remainder_append, remainder_append, remainder_append] at same
  exact differ (eq_of_remainder_eq top length fits (remainder_injective top same))

end XSDK.Library.Crc
