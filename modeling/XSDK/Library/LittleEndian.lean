import Mathlib.Algebra.Ring.Nat

/-! Little-endian fields of a buffer of bytes: reading back what was written, and leaving
the other fields alone. -/
namespace XSDK.Library

/-- A 16-bit and a 32-bit word of a larger value. -/
def word16 (x : Nat) : Nat := x % 2 ^ 16
def word32 (x : Nat) : Nat := x % 2 ^ 32

theorem word32_of_lt {x : Nat} (h : x < 2 ^ 32) : word32 x = x := Nat.mod_eq_of_lt h
theorem word16_of_lt {x : Nat} (h : x < 2 ^ 16) : word16 x = x := Nat.mod_eq_of_lt h
theorem word32_lt (x : Nat) : word32 x < 2 ^ 32 := Nat.mod_lt _ (by decide)

def readLE16 (d : Nat → UInt8) (k : Nat) : Nat := (d k).toNat + 256 * (d (k + 1)).toNat
def readLE32 (d : Nat → UInt8) (k : Nat) : Nat := readLE16 d k + 65536 * readLE16 d (k + 2)

def writeLE16 (d : Nat → UInt8) (k x : Nat) : Nat → UInt8 := fun j =>
  if j = k then UInt8.ofNat x else if j = k + 1 then UInt8.ofNat (x / 256) else d j

def writeLE32 (d : Nat → UInt8) (k x : Nat) : Nat → UInt8 := writeLE16 (writeLE16 d k x) (k + 2) (x / 65536)

variable {d d' : Nat → UInt8} {k j x : Nat}

theorem readLE16_lt (d : Nat → UInt8) (k : Nat) : readLE16 d k < 2 ^ 16 := by
  have low := (d k).toNat_lt
  have high := (d (k + 1)).toNat_lt
  rw [readLE16]
  omega

theorem readLE32_lt (d : Nat → UInt8) (k : Nat) : readLE32 d k < 2 ^ 32 := by
  have low := readLE16_lt d k
  have high := readLE16_lt d (k + 2)
  rw [readLE32]
  omega

theorem readLE16_congr (same : ∀ i < 2, d (k + i) = d' (k + i)) : readLE16 d k = readLE16 d' k := by
  have first := same 0 (by omega)
  have second := same 1 (by omega)
  simp only [Nat.add_zero] at first
  rw [readLE16, readLE16, first, second]

theorem readLE32_congr (same : ∀ i < 4, d (k + i) = d' (k + i)) : readLE32 d k = readLE32 d' k := by
  have low : readLE16 d k = readLE16 d' k := readLE16_congr fun i h => same i (by omega)
  have high : readLE16 d (k + 2) = readLE16 d' (k + 2) := by
    apply readLE16_congr
    intro i h
    have shifted := same (2 + i) (by omega)
    rwa [← Nat.add_assoc] at shifted
  rw [readLE32, readLE32, low, high]

theorem writeLE16_other (outside : j < k ∨ k + 2 ≤ j) : writeLE16 d k x j = d j := by
  rw [writeLE16, if_neg (by omega), if_neg (by omega)]

theorem writeLE32_other (outside : j < k ∨ k + 4 ≤ j) : writeLE32 d k x j = d j := by
  rw [writeLE32, writeLE16_other (by omega), writeLE16_other (by omega)]

@[simp] theorem readLE16_write (d : Nat → UInt8) (k x : Nat) : readLE16 (writeLE16 d k x) k = word16 x := by
  have second : writeLE16 d k x (k + 1) = UInt8.ofNat (x / 256) := by
    rw [writeLE16, if_neg (by omega), if_pos rfl]
  have first : writeLE16 d k x k = UInt8.ofNat x := if_pos rfl
  rw [readLE16, first, second, word16]
  simp only [UInt8.toNat_ofNat']
  omega

@[simp] theorem readLE32_write (d : Nat → UInt8) (k x : Nat) : readLE32 (writeLE32 d k x) k = word32 x := by
  have low : readLE16 (writeLE32 d k x) k = word16 x := by
    rw [← readLE16_write d k x]
    exact readLE16_congr fun i h => writeLE16_other (by omega)
  have high : readLE16 (writeLE32 d k x) (k + 2) = word16 (x / 65536) := readLE16_write _ _ _
  rw [readLE32, low, high, word16, word16, word32]
  omega

theorem readLE16_write_other (apart : j + 2 ≤ k ∨ k + 2 ≤ j) : readLE16 (writeLE16 d k x) j = readLE16 d j :=
  readLE16_congr fun i h => writeLE16_other (by omega)

theorem readLE16_write32_other (apart : j + 2 ≤ k ∨ k + 4 ≤ j) : readLE16 (writeLE32 d k x) j = readLE16 d j :=
  readLE16_congr fun i h => writeLE32_other (by omega)

theorem readLE32_write_other (apart : j + 4 ≤ k ∨ k + 4 ≤ j) : readLE32 (writeLE32 d k x) j = readLE32 d j :=
  readLE32_congr fun i h => writeLE32_other (by omega)

end XSDK.Library
