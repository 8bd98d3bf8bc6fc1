import Mathlib.Data.Nat.ModEq

/-! The Internet checksum over lists of bytes: a sum of big-endian words whose carries are
folded back in, which is the remainder modulo 65535 with 65535 for a positive multiple. -/
namespace XSDK.Library

/-- An odd last byte is the high byte of its word. -/
def wordSum : List UInt8 → Nat
  | [] => 0
  | [a] => a.toNat * 256
  | a :: b :: rest => a.toNat * 256 + b.toNat + wordSum rest

@[simp] theorem wordSum_nil : wordSum [] = 0 := rfl

@[simp] theorem wordSum_cons_cons (a b : UInt8) (rest : List UInt8) :
    wordSum (a :: b :: rest) = a.toNat * 256 + b.toNat + wordSum rest := rfl

theorem wordSum_append (xs ys : List UInt8) (even : xs.length % 2 = 0) :
    wordSum (xs ++ ys) = wordSum xs + wordSum ys := by
  induction xs using wordSum.induct with
  | case1 => simp
  | case2 a => simp at even
  | case3 a b rest ih =>
    have shorter : rest.length % 2 = 0 := by
      simp only [List.length_cons] at even
      omega
    simp only [List.cons_append, wordSum_cons_cons, ih shorter]
    omega

theorem wordSum_le (xs : List UInt8) : wordSum xs ≤ 65535 * ((xs.length + 1) / 2) := by
  induction xs using wordSum.induct with
  | case1 => simp
  | case2 a =>
    have byte := a.toNat_lt
    simp only [wordSum, List.length_cons, List.length_nil]
    omega
  | case3 a b rest ih =>
    have high := a.toNat_lt
    have low := b.toNat_lt
    simp only [wordSum_cons_cons, List.length_cons]
    omega

variable (x : Nat)

/-- What is left of a sum when every carry has been added back. -/
def foldedSum : Nat := if x = 0 then 0 else if x % 65535 = 0 then 65535 else x % 65535

theorem foldedSum_of_lt {x : Nat} (h : x < 65536) : foldedSum x = x := by
  unfold foldedSum
  split
  · omega
  · split <;> omega

theorem foldedSum_le : foldedSum x ≤ 65535 := by
  unfold foldedSum
  split
  · omega
  · split <;> omega

theorem foldedSum_round : foldedSum (x % 65536 + x / 65536) = foldedSum x := by
  unfold foldedSum
  have zero : x % 65536 + x / 65536 = 0 ↔ x = 0 := by omega
  have same : (x % 65536 + x / 65536) % 65535 = x % 65535 := by omega
  simp only [zero, same]

/-- The words verify when they sum to a positive multiple of 65535. -/
theorem foldedSum_eq_max {x : Nat} (pos : 0 < x) : foldedSum x = 65535 ↔ x % 65535 = 0 := by
  unfold foldedSum
  split
  · omega
  · split <;> omega

theorem foldedSum_mod : foldedSum x % 65535 = x % 65535 := by
  unfold foldedSum
  split
  · omega
  · split <;> omega

theorem add_complement_mod : (x + (65535 - foldedSum x)) % 65535 = 0 := by
  have bound := foldedSum_le x
  have same := foldedSum_mod x
  omega

end XSDK.Library
