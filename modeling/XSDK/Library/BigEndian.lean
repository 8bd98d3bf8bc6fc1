import Mathlib.Data.Vector.Basic

/-! Big-endian words, and packed layouts: a layout reads its fields one behind the other. -/
namespace XSDK.Library.BigEndian

def value16 (a b : UInt8) : UInt16 := UInt16.ofNat (256 * a.toNat + b.toNat)
def value32 (a b c d : UInt8) : UInt32 := UInt32.ofNat (256 * (256 * (256 * a.toNat + b.toNat) + c.toNat) + d.toNat)

def bytes16 (v : UInt16) : List UInt8 := [(v >>> 8).toUInt8, v.toUInt8]
def bytes32 (v : UInt32) : List UInt8 := [(v >>> 24).toUInt8, (v >>> 16).toUInt8, (v >>> 8).toUInt8, v.toUInt8]

@[simp] theorem value16_bytes (v : UInt16) : value16 (v >>> 8).toUInt8 v.toUInt8 = v := by
  apply UInt16.toNat_inj.mp
  have bound := v.toNat_lt
  simp only [value16, UInt16.toNat_ofNat', UInt16.toNat_toUInt8, UInt16.toNat_shiftRight, Nat.shiftRight_eq_div_pow]
  simp
  omega

@[simp] theorem value32_bytes (v : UInt32) :
    value32 (v >>> 24).toUInt8 (v >>> 16).toUInt8 (v >>> 8).toUInt8 v.toUInt8 = v := by
  apply UInt32.toNat_inj.mp
  have bound := v.toNat_lt
  simp only [value32, UInt32.toNat_ofNat', UInt32.toNat_toUInt8, UInt32.toNat_shiftRight, Nat.shiftRight_eq_div_pow]
  simp
  omega

theorem toNat_byte_shiftLeft (a : UInt8) {k : Nat} (k_le : k ≤ 24) :
    (a.toUInt32 <<< UInt32.ofNat k).toNat = a.toNat <<< k := by
  have small : a.toNat * 2 ^ k < 2 ^ 32 := by
    calc a.toNat * 2 ^ k < 2 ^ 8 * 2 ^ k := Nat.mul_lt_mul_of_pos_right a.toNat_lt (Nat.two_pow_pos k)
      _ = 2 ^ (8 + k) := (Nat.pow_add 2 8 k).symm
      _ ≤ 2 ^ 32 := Nat.pow_le_pow_right (by decide) (by omega)
  have shift : (UInt32.ofNat k).toNat % 32 = k := by
    rw [UInt32.toNat_ofNat']
    omega
  rw [UInt32.toNat_shiftLeft, UInt8.toNat_toUInt32, shift, Nat.shiftLeft_eq, Nat.mod_eq_of_lt small]

theorem place_or (n : Nat) {b k : Nat} (small : b < 256) : (n <<< (k + 8)) ||| (b <<< k) = (256 * n + b) <<< k := by
  have low : b <<< k < 2 ^ (k + 8) := by
    rw [Nat.shiftLeft_eq, Nat.pow_add, Nat.mul_comm b]
    exact Nat.mul_lt_mul_of_pos_left small (Nat.two_pow_pos k)
  rw [← Nat.shiftLeft_add_eq_or_of_lt low, Nat.shiftLeft_eq, Nat.shiftLeft_eq, Nat.shiftLeft_eq, Nat.pow_add, Nat.add_mul,
    Nat.mul_comm (2 ^ k), ← Nat.mul_assoc, Nat.mul_comm n]

theorem shifted32 (a b c d : UInt8) :
    (a.toUInt32 <<< 24) ||| (b.toUInt32 <<< 16) ||| (c.toUInt32 <<< 8) ||| d.toUInt32 = value32 a b c d := by
  apply UInt32.toNat_inj.mp
  have first := @toNat_byte_shiftLeft a 24 (by decide)
  have second := @toNat_byte_shiftLeft b 16 (by decide)
  have third := @toNat_byte_shiftLeft c 8 (by decide)
  have last := d.toUInt32.toNat.shiftLeft_zero
  have bounds : a.toNat < 256 ∧ b.toNat < 256 ∧ c.toNat < 256 ∧ d.toNat < 256 :=
    ⟨a.toNat_lt, b.toNat_lt, c.toNat_lt, d.toNat_lt⟩
  rw [UInt32.toNat_or, UInt32.toNat_or, UInt32.toNat_or, ← last]
  change (((a.toUInt32 <<< UInt32.ofNat 24).toNat ||| (b.toUInt32 <<< UInt32.ofNat 16).toNat) |||
    (c.toUInt32 <<< UInt32.ofNat 8).toNat) ||| _ = _
  rw [first, second, third, UInt8.toNat_toUInt32, place_or a.toNat bounds.2.1, place_or _ bounds.2.2.1,
    place_or _ bounds.2.2.2, Nat.shiftLeft_zero, value32, UInt32.toNat_ofNat']
  omega

/-- What a layout reads off the front of the bytes, and the bytes behind it. -/
abbrev Layout (α : Type) : Type := StateT (List UInt8) Option α

namespace Layout

variable {α β : Type}

def u8 : Layout UInt8
  | a :: rest => some (a, rest)
  | [] => none

def u16 : Layout UInt16
  | a :: b :: rest => some (value16 a b, rest)
  | _ => none

def u32 : Layout UInt32
  | a :: b :: c :: d :: rest => some (value32 a b c d, rest)
  | _ => none

/-- An array of bytes. -/
def array (n : Nat) : Layout (Vector UInt8 n) := fun s =>
  if h : n ≤ s.length then some (⟨(s.take n).toArray, by simp [h]⟩, s.drop n) else none

/-- So many of one layout. -/
def many (one : Layout α) : Nat → Layout (List α)
  | 0 => pure []
  | n + 1 => do
    let a ← one
    let as ← many one n
    return a :: as

/-- The layout reads these bytes as this value, whatever follows them. -/
def Reads (l : Layout α) (bytes : List UInt8) (a : α) : Prop := ∀ rest, l (bytes ++ rest) = some (a, rest)

variable {l : Layout α} {bytes more : List UInt8} {a : α} {b : β}

theorem Reads.bind {f : α → Layout β} (first : Reads l bytes a) (then_ : Reads (f a) more b) :
    Reads (l >>= f) (bytes ++ more) b := by
  intro rest
  change (l (bytes ++ more ++ rest)).bind _ = _
  rw [List.append_assoc, first, Option.bind_some]
  exact then_ rest

theorem Reads.pure (a : α) : Reads (Pure.pure a) [] a := fun _ => rfl

theorem Reads.map {f : α → β} (first : Reads l bytes a) : Reads (do let a ← l; return f a) bytes (f a) := by
  have both := @Reads.bind _ _ l bytes [] a (f a) (fun a => Pure.pure (f a)) first (.pure _)
  rwa [List.append_nil] at both

theorem reads_u8 (v : UInt8) : Reads u8 [v] v := fun _ => rfl

theorem reads_u16 (v : UInt16) : Reads u16 (bytes16 v) v := by
  intro rest
  change some (value16 _ _, rest) = _
  rw [value16_bytes]

theorem reads_u32 (v : UInt32) : Reads u32 (bytes32 v) v := by
  intro rest
  change some (value32 _ _ _ _, rest) = _
  rw [value32_bytes]

theorem reads_array {n : Nat} (v : Vector UInt8 n) : Reads (array n) v.toList v := by
  intro rest
  have size : v.toList.length = n := v.length_toList
  have fits : n ≤ (v.toList ++ rest).length := by
    rw [List.length_append, size]
    exact Nat.le_add_right n _
  rw [array, dif_pos fits, List.drop_left' size]
  congr 2
  apply Vector.toList_inj.mp
  change (List.take n (v.toList ++ rest)).toArray.toList = _
  exact List.take_left' size

theorem reads_many {one : Layout α} {enc : α → List UInt8} {as : List α} (each : ∀ a ∈ as, Reads one (enc a) a) :
    Reads (many one as.length) (as.flatMap enc) as := by
  induction as with
  | nil => exact .pure []
  | cons a as ih =>
    have rest := ih fun b mem => each b (List.mem_cons_of_mem _ mem)
    exact (each a List.mem_cons_self).bind rest.map

end Layout

end XSDK.Library.BigEndian
