import Mathlib.Algebra.Ring.Nat
import Mathlib.Data.List.Basic

/-! LEB128: a number as groups of seven bits, the lowest first, each byte but the last
with its high bit set. -/
namespace XSDK.Library.Leb128

/-- One byte for each round; a number has fewer groups than its own value plus one. -/
def encodeLoop : Nat → Nat → List UInt8
  | 0, v => [UInt8.ofNat v]
  | fuel + 1, v =>
    if v < 128 then [UInt8.ofNat v] else UInt8.ofNat (v % 128 + 128) :: encodeLoop fuel (v / 128)

def encode (v : Nat) : List UInt8 := encodeLoop v v

def sizeLoop : Nat → Nat → Nat
  | 0, _ => 1
  | fuel + 1, v => if v < 128 then 1 else sizeLoop fuel (v / 128) + 1

/-- The number of bytes, counted ahead. -/
def size (v : Nat) : Nat := sizeLoop v v

variable {v w : Nat} {rest : List UInt8}

theorem encodeLoop_fuel {f g : Nat} (hf : v ≤ f) (hg : v ≤ g) : encodeLoop f v = encodeLoop g v := by
  induction f generalizing g v with
  | zero =>
    have zero : v = 0 := by omega
    subst zero
    cases g with
    | zero => rfl
    | succ g => rfl
  | succ f ih =>
    cases g with
    | zero =>
      have zero : v = 0 := by omega
      subst zero
      rfl
    | succ g =>
      by_cases small : v < 128
      · rw [encodeLoop, encodeLoop, if_pos small, if_pos small]
      · have quotient : encodeLoop f (v / 128) = encodeLoop g (v / 128) := ih (by omega) (by omega)
        rw [encodeLoop, encodeLoop, if_neg small, if_neg small, quotient]

theorem encode_of_lt (small : v < 128) : encode v = [UInt8.ofNat v] := by
  cases v with
  | zero => rfl
  | succ v => rw [encode, encodeLoop, if_pos small]

theorem encode_of_le (big : 128 ≤ v) : encode v = UInt8.ofNat (v % 128 + 128) :: encode (v / 128) := by
  cases v with
  | zero => omega
  | succ v =>
    rw [encode, encodeLoop, if_neg (by omega), encodeLoop_fuel (g := (v + 1) / 128) (by omega) (by omega)]
    rfl

theorem groups {P : Nat → Prop} (last : ∀ v < 128, P v) (more : ∀ v, 128 ≤ v → P (v / 128) → P v) (v : Nat) :
    P v := by
  induction v using Nat.strongRecOn with
  | ind v ih =>
    by_cases small : v < 128
    · exact last v small
    · exact more v (by omega) (ih (v / 128) (by omega))

theorem length_encodeLoop (f v : Nat) : (encodeLoop f v).length = sizeLoop f v := by
  induction f generalizing v with
  | zero => rfl
  | succ f ih =>
    by_cases small : v < 128
    · rw [encodeLoop, sizeLoop, if_pos small, if_pos small]
      rfl
    · rw [encodeLoop, sizeLoop, if_neg small, if_neg small, List.length_cons, ih]

@[simp] theorem length_encode (v : Nat) : (encode v).length = size v := length_encodeLoop v v

theorem size_of_lt (small : v < 128) : size v = 1 := by
  rw [← length_encode, encode_of_lt small]
  rfl

theorem size_of_le (big : 128 ≤ v) : size v = size (v / 128) + 1 := by
  rw [← length_encode, encode_of_le big, List.length_cons, length_encode]

theorem size_pos (v : Nat) : 0 < size v := by
  by_cases small : v < 128
  · rw [size_of_lt small]
    omega
  · rw [size_of_le (by omega)]
    omega

theorem encode_ne_nil (v : Nat) : encode v ≠ [] := by
  intro nil
  have pos := size_pos v
  rw [← length_encode, nil] at pos
  exact absurd pos (by decide)

theorem size_mono (h : v ≤ w) : size v ≤ size w := by
  induction w using groups generalizing v with
  | last w small =>
    have both : size v = size w := by rw [size_of_lt small, size_of_lt (by omega)]
    exact Nat.le_of_eq both
  | more w big ih =>
    by_cases small : v < 128
    · rw [size_of_lt small]
      exact size_pos w
    · have step := ih (v := v / 128) (Nat.div_le_div_right h)
      rw [size_of_le big, size_of_le (by omega)]
      omega

theorem size_le_iff {k : Nat} : size v ≤ k + 1 ↔ v < 2 ^ (7 * (k + 1)) := by
  induction k generalizing v with
  | zero =>
    by_cases small : v < 128
    · rw [size_of_lt small]
      omega
    · have pos := size_pos (v / 128)
      rw [size_of_le (by omega)]
      omega
  | succ k ih =>
    have pow : 2 ^ (7 * (k + 1 + 1)) = 128 * 2 ^ (7 * (k + 1)) := by
      rw [Nat.mul_add 7 (k + 1) 1, Nat.pow_add, Nat.mul_comm]
    by_cases small : v < 128
    · have pos : 0 < 2 ^ (7 * (k + 1)) := Nat.pow_pos (by decide)
      rw [size_of_lt small]
      omega
    · rw [size_of_le (by omega), pow, Nat.add_le_add_iff_right, ih, Nat.div_lt_iff_lt_mul (by decide), Nat.mul_comm]

/-- The first number of a list of bytes and what follows it. -/
def decode : List UInt8 → Option (Nat × List UInt8)
  | [] => none
  | b :: rest =>
    if b.toNat < 128 then some (b.toNat, rest)
    else (decode rest).map fun (v, left) => (b.toNat - 128 + 128 * v, left)

theorem toNat_ofNat_of_lt (h : v < 256) : (UInt8.ofNat v).toNat = v := by
  rw [UInt8.toNat_ofNat']
  exact Nat.mod_eq_of_lt h

theorem decode_encode (v : Nat) (rest : List UInt8) : decode (encode v ++ rest) = some (v, rest) := by
  induction v using groups with
  | last v small =>
    have byte := toNat_ofNat_of_lt (v := v) (by omega)
    rw [encode_of_lt small, List.singleton_append, decode, byte, if_pos small]
  | more v big ih =>
    have byte := toNat_ofNat_of_lt (v := v % 128 + 128) (by omega)
    have value : v % 128 + 128 - 128 + 128 * (v / 128) = v := by omega
    rw [encode_of_le big, List.cons_append, decode, byte, if_neg (by omega), ih]
    simp only [Option.map_some, value]

theorem encode_append_inj {a b : List UInt8} (h : encode v ++ a = encode w ++ b) : v = w ∧ a = b := by
  have read := decode_encode v a
  rw [h, decode_encode] at read
  simp only [Option.some.injEq, Prod.mk.injEq] at read
  exact ⟨read.1.symm, read.2.symm⟩

end XSDK.Library.Leb128

/-! A stream of blocks, each preceded by its length. -/
namespace XSDK.Library.Prefixed

open Leb128

def block (payload : List UInt8) : List UInt8 := encode payload.length ++ payload

def stream (payloads : List (List UInt8)) : List UInt8 := payloads.flatMap block

variable {p q a b : List UInt8} {ps qs : List (List UInt8)}

theorem length_block (p : List UInt8) : (block p).length = size p.length + p.length := by
  rw [block, List.length_append, length_encode]

theorem block_ne_nil (p : List UInt8) : block p ≠ [] := by
  intro nil
  exact encode_ne_nil _ (List.append_eq_nil_iff.mp nil).1

@[simp] theorem stream_nil : stream [] = [] := rfl
@[simp] theorem stream_cons : stream (p :: ps) = block p ++ stream ps := rfl
@[simp] theorem stream_append : stream (ps ++ qs) = stream ps ++ stream qs := List.flatMap_append

theorem block_append_inj (h : block p ++ a = block q ++ b) : p = q ∧ a = b := by
  rw [block, block, List.append_assoc, List.append_assoc] at h
  obtain ⟨length, tail⟩ := encode_append_inj h
  exact List.append_inj tail length

theorem stream_inj (h : stream ps = stream qs) : ps = qs := by
  induction ps generalizing qs with
  | nil =>
    cases qs with
    | nil => rfl
    | cons q qs => exact absurd (List.append_eq_nil_iff.mp h.symm).1 (block_ne_nil q)
  | cons p ps ih =>
    cases qs with
    | nil => exact absurd (List.append_eq_nil_iff.mp h).1 (block_ne_nil p)
    | cons q qs =>
      obtain ⟨head, tail⟩ := block_append_inj h
      rw [head, ih tail]

end XSDK.Library.Prefixed
