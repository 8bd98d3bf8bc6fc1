import Mathlib.Data.List.GetD
import XSDK.Library.InternetChecksum
import XSDK.Net.Conservation

/-! A packet as the list of its active bytes: what writing, pushing and pulling do to the
list, how the fields of a header are read back from it, and its checksums. -/
namespace XSDK.Net

open Library Prog
open List (getElem_append_left getElem_append_right length_append)

variable {p q : PacketBuffer} {a b bytes : List UInt8} {k x : Nat}

namespace PacketBuffer

@[simp] theorem length_bytes (p : PacketBuffer) : p.bytes.length = p.dataLength := by
  simp [PacketBuffer.bytes]

theorem bytes_eq (length : p.dataLength = bytes.length) (same : ∀ k, (h : k < bytes.length) → p.data k = bytes[k]) :
    p.bytes = bytes := by
  apply List.ext_getElem
  · simp [length]
  · intro k _ h
    simp [PacketBuffer.bytes, same k h]

theorem data_of_bytes (h : p.bytes = bytes) (lt : k < bytes.length) : p.data k = bytes[k] := by
  subst h
  simp [PacketBuffer.bytes]

theorem data_write (p : PacketBuffer) (k : Nat) (new : List UInt8) (j : Nat) :
    (p.write k new).data j = if k ≤ j ∧ j < k + new.length then new.getD (j - k) 0 else p.data j := by
  have inside : (p.dataOffset + k ≤ p.dataOffset + j ∧ p.dataOffset + j < p.dataOffset + k + new.length) ↔
      (k ≤ j ∧ j < k + new.length) := by omega
  have index : p.dataOffset + j - (p.dataOffset + k) = j - k := by omega
  simp only [PacketBuffer.data, PacketBuffer.write, inside, index]

theorem bytes_splice {old new : List UInt8} (h : p.bytes = a ++ old ++ b) (at_end : a.length = k)
    (same : new.length = old.length) : (p.write k new).bytes = a ++ new ++ b := by
  have length : p.dataLength = a.length + old.length + b.length := by
    rw [← length_bytes, h, length_append, length_append]
  apply bytes_eq
  · change p.dataLength = _
    simp only [length_append]
    omega
  · intro j hj
    rw [data_write]
    split
    · next inside =>
      rw [getElem_append_left (by simp only [length_append]; omega),
        getElem_append_right (by omega), List.getD_eq_getElem _ _ (by omega)]
      simp only [at_end]
    · next outside =>
      have lt : j < (a ++ old ++ b).length := by
        simp only [length_append] at hj ⊢
        omega
      rw [data_of_bytes h lt]
      by_cases before : j < a.length
      · rw [getElem_append_left (by simp only [length_append]; omega), getElem_append_left before,
          getElem_append_left (by simp only [length_append]; omega), getElem_append_left before]
      · rw [getElem_append_right (by simp only [length_append]; omega),
          getElem_append_right (by simp only [length_append]; omega)]
        simp only [length_append, same]

theorem bytes_push {size : Nat} (room : size ≤ p.dataOffset) (small : p.dataLength + size < 2 ^ 32)
    (header : a.length = size) :
    ({ p with dataOffset := p.dataOffset - size, dataLength := u32 (p.dataLength + size) }.write 0 a).bytes =
      a ++ p.bytes := by
  apply bytes_eq
  · change u32 (p.dataLength + size) = _
    rw [u32_of_lt small, length_append, length_bytes]
    omega
  · intro j hj
    rw [data_write]
    split
    · next inside =>
      rw [getElem_append_left (by omega), List.getD_eq_getElem _ _ (by omega)]
      rfl
    · next outside =>
      rw [getElem_append_right (by omega)]
      have lt : j - a.length < p.bytes.length := by
        simp only [length_append] at hj
        omega
      rw [← data_of_bytes rfl lt, PacketBuffer.data, PacketBuffer.data]
      change p.buffer (p.dataOffset - size + j) = _
      congr 1
      omega

theorem bytes_pull {size offset : Nat} (h : p.bytes = a ++ b) (header : a.length = size)
    (offset_eq : offset = p.dataOffset + size) :
    { p with dataOffset := offset, dataLength := p.dataLength - size }.bytes = b := by
  have length : p.dataLength = a.length + b.length := by
    rw [← length_bytes, h, length_append]
  apply bytes_eq
  · change p.dataLength - size = _
    omega
  · intro j hj
    have moved : p.data (size + j) = b[j] := by
      rw [data_of_bytes h (by rw [length_append]; omega), getElem_append_right (by omega)]
      congr 1
      omega
    rw [← moved, PacketBuffer.data, PacketBuffer.data, offset_eq, Nat.add_assoc]

theorem bytes_trim (h : p.bytes = a ++ b) (length : a.length = k) : { p with dataLength := k }.bytes = a := by
  apply bytes_eq
  · exact length.symm
  · intro j hj
    change p.data j = _
    rw [data_of_bytes h (by rw [length_append]; omega), getElem_append_left hj]

theorem bytes_extend (h : p.bytes = a) (b : List UInt8) (length : a.length + b.length = k) :
    { p.write p.dataLength b with dataLength := k }.bytes = a ++ b := by
  have length_a : p.dataLength = a.length := by rw [← length_bytes, h]
  apply bytes_eq
  · rw [length_append, length]
  · intro j hj
    change (p.write p.dataLength b).data j = _
    rw [data_write]
    split
    · next inside =>
      rw [getElem_append_right (by omega), List.getD_eq_getElem _ _ (by omega)]
      simp only [length_a]
    · next outside =>
      have lt : j < a.length := by
        rw [length_append] at hj
        omega
      rw [data_of_bytes h lt, getElem_append_left lt]

end PacketBuffer

open PacketBuffer

/- Fields of a header. -/

@[simp] theorem length_be16Bytes (x : Nat) : (be16Bytes x).length = 2 := rfl

theorem data_of_split {c : UInt8} (h : p.bytes = a ++ c :: b) (at_end : a.length = k) : p.data k = c := by
  have lt : k < (a ++ c :: b).length := by
    rw [length_append, List.length_cons]
    omega
  rw [data_of_bytes h lt]
  subst at_end
  simp

theorem be16_be16Bytes (x : Nat) : (UInt8.ofNat (x / 256)).toNat * 256 + (UInt8.ofNat x).toNat = u16 x := by
  simp only [UInt8.toNat_ofNat', u16]
  omega

theorem be16_of_split (h : p.bytes = a ++ be16Bytes x ++ b) (at_end : a.length = k) : be16 p.data k = u16 x := by
  have first : p.data k = UInt8.ofNat (x / 256) := by
    apply data_of_split (a := a) (b := UInt8.ofNat x :: b) _ at_end
    simp [h, be16Bytes]
  have second : p.data (k + 1) = UInt8.ofNat x := by
    apply data_of_split (a := a ++ [UInt8.ofNat (x / 256)]) (b := b)
    · simp [h, be16Bytes]
    · simp [at_end]
  rw [be16, first, second, be16_be16Bytes]

theorem field_of_split {n : Nat} {f : Fin n → UInt8} (h : p.bytes = a ++ List.ofFn f ++ b) (at_end : a.length = k)
    (i : Fin n) : p.data (k + i) = f i := by
  have lt : k + i < (a ++ List.ofFn f ++ b).length := by
    simp only [length_append, List.length_ofFn]
    omega
  rw [data_of_bytes h lt, getElem_append_left (by simp only [length_append, List.length_ofFn]; omega),
    getElem_append_right (by omega)]
  simp [at_end]

theorem addrAt_of_split {addr : Addr} (h : p.bytes = a ++ List.ofFn addr ++ b) (at_end : a.length = k) :
    addrAt p.data k = addr :=
  funext fun i => field_of_split h at_end i

theorem macAt_of_split {mac : Mac} (h : p.bytes = a ++ List.ofFn mac ++ b) (at_end : a.length = k) :
    macAt p.data k = mac :=
  funext fun i => field_of_split h at_end i

/- Checksums. -/

theorem sumWords_eq (d : Nat → UInt8) (k len sum : Nat) (small : sum + 65535 * ((len + 1) / 2) < 2 ^ 32) :
    sumWords d k len sum = sum + wordSum ((List.range len).map fun j => d (k + j)) := by
  induction k, len, sum using sumWords.induct (d := d) with
  | case1 k len sum ih =>
    have high := (d k).toNat_lt
    have low := (d (k + 1)).toNat_lt
    have no_wrap : u32 (sum + be16 d k) = sum + be16 d k := by
      apply u32_of_lt
      rw [be16]
      omega
    have rest : sumWords d (k + 2) len (sum + be16 d k) =
        sum + be16 d k + wordSum ((List.range len).map fun j => d (k + 2 + j)) := by
      rw [no_wrap] at ih
      apply ih
      rw [be16]
      omega
    have words : (List.range (len + 2)).map (fun j => d (k + j)) =
        d k :: d (k + 1) :: (List.range len).map fun j => d (k + 2 + j) := by
      rw [List.range_succ_eq_map, List.range_succ_eq_map]
      simp [Nat.add_comm, Nat.add_left_comm, Function.comp_def]
    rw [sumWords, no_wrap, rest, words, wordSum_cons_cons, be16]
    omega
  | case2 k sum =>
    have byte := (d k).toNat_lt
    rw [sumWords, u32_of_lt (by omega)]
    simp [wordSum]
  | case3 k sum => simp [sumWords]

theorem foldCarries_eq {sum : Nat} (small : sum < 2 ^ 32) : foldCarries 3 sum = foldedSum sum := by
  have stop : ∀ fuel x, x < 65536 → foldCarries fuel x = foldedSum x := by
    intro fuel x h
    rw [foldedSum_of_lt h]
    cases fuel with
    | zero => rfl
    | succ fuel => rw [foldCarries, if_pos (by omega)]
  have round : ∀ fuel x, foldCarries fuel (x % 65536 + x / 65536) = foldedSum x →
      foldCarries (fuel + 1) x = foldedSum x := by
    intro fuel x h
    rw [foldCarries]
    split
    · next done => rw [foldedSum_of_lt (by omega)]
    · exact h
  apply round
  rw [← foldedSum_round]
  apply round
  rw [← foldedSum_round]
  apply stop
  omega

variable {d : Nat → UInt8}

theorem checksumCalculate_eq {length : Nat} (small : length < 2 ^ 16) :
    checksumCalculate d length = 65535 - foldedSum (wordSum ((List.range length).map d)) := by
  have sum : sumWords d 0 length 0 = wordSum ((List.range length).map d) := by
    rw [sumWords_eq d 0 length 0 (by omega)]
    simp
  have bound := wordSum_le ((List.range length).map d)
  rw [List.length_map, List.length_range] at bound
  rw [checksumCalculate, sum, foldCarries_eq (by omega), complement16]

theorem addrSum_le (addr : Addr) : addrSum addr ≤ 131070 := by
  have h0 := (addr 0).toNat_lt
  have h1 := (addr 1).toNat_lt
  have h2 := (addr 2).toNat_lt
  have h3 := (addr 3).toNat_lt
  rw [addrSum]
  omega

theorem checksumCalculatePseudo_eq {length protocol protoLen : Nat} {src dest : Addr}
    (small : length < 2 ^ 16) (protocol_small : protocol < 2 ^ 16) (protoLen_small : protoLen < 2 ^ 16) :
    checksumCalculatePseudo d length src dest protocol protoLen =
      65535 - foldedSum (addrSum src + addrSum dest + protocol + protoLen + wordSum ((List.range length).map d)) := by
  have src_le := addrSum_le src
  have dest_le := addrSum_le dest
  have sum : sumWords d 0 length (addrSum src + addrSum dest + protocol + protoLen) =
      addrSum src + addrSum dest + protocol + protoLen + wordSum ((List.range length).map d) := by
    rw [sumWords_eq d 0 length _ (by omega)]
    simp
  have bound := wordSum_le ((List.range length).map d)
  rw [List.length_map, List.length_range] at bound
  rw [checksumCalculatePseudo, sum, foldCarries_eq (by omega), complement16]

theorem wordSum_be16Bytes (x : Nat) : wordSum (be16Bytes x) = u16 x := by
  rw [be16Bytes, wordSum_cons_cons, be16_be16Bytes, wordSum_nil, Nat.add_zero]

end XSDK.Net
