import Mathlib.Data.List.Range

/-! A buffer that remembers where it was written: laying bytes down one behind the other, and
patching some of them later. -/
namespace XSDK.Library

open List (getElem_append_left length_append mem_cons)

/-- The bytes, and the places written so far. -/
structure Stores where
  bytes : Nat → UInt8
  written : List Nat

namespace Stores

def put (b : Stores) (index : Nat) (byte : UInt8) : Stores := ⟨Function.update b.bytes index byte, index :: b.written⟩

/-- A 16-bit word, the low byte first. -/
def putLE16 (b : Stores) (index word : Nat) : Stores :=
  (b.put index (UInt8.ofNat word)).put (index + 1) (UInt8.ofNat (word / 256))

/-- No place from n on is written. -/
def Within (n : Nat) (b : Stores) : Prop := ∀ i ∈ b.written, i < n

variable {b b₁ b₂ : Stores} {i j n o : Nat} {byte : UInt8} {l l' : List UInt8}

@[simp] theorem put_bytes (b : Stores) (i : Nat) (byte : UInt8) :
    (b.put i byte).bytes = Function.update b.bytes i byte := rfl

@[simp] theorem put_written (b : Stores) (i : Nat) (byte : UInt8) : (b.put i byte).written = i :: b.written := rfl

theorem Within.put (within : b.Within n) (small : i < n) (byte : UInt8) : (b.put i byte).Within n := by
  intro j mem
  rcases mem_cons.mp mem with rfl | mem
  · exact small
  · exact within j mem

/-- Between two buffers exactly some bytes are laid down from a place on. -/
structure Lays (b b' : Stores) (o : Nat) (l : List UInt8) : Prop where
  inside : ∀ j, (small : j < l.length) → b'.bytes (o + j) = l[j]
  outside : ∀ j, j < o ∨ o + l.length ≤ j → b'.bytes j = b.bytes j
  written : ∀ j ∈ b'.written, j ∈ b.written ∨ o ≤ j ∧ j < o + l.length

/-- Whatever was written stays written. -/
def Grows (b b' : Stores) : Prop := ∀ j ∈ b.written, j ∈ b'.written

namespace Grows

theorem refl (b : Stores) : Grows b b := fun _ mem => mem

theorem put (grows : Grows b b₁) (i : Nat) (byte : UInt8) : Grows b (b₁.put i byte) :=
  fun j mem => List.mem_cons_of_mem _ (grows j mem)

theorem putLE16 (grows : Grows b b₁) (i word : Nat) : Grows b (b₁.putLE16 i word) :=
  Grows.put (Grows.put grows _ _) _ _

theorem trans (first : Grows b b₁) (second : Grows b₁ b₂) : Grows b b₂ := fun j mem => second j (first j mem)

theorem within (grows : Grows b b₁) (within : b₁.Within n) : b.Within n := fun j mem => within j (grows j mem)

end Grows

namespace Lays

theorem nil : Lays b b o [] := ⟨nofun, fun _ _ => rfl, fun _ mem => .inl mem⟩

theorem put (b : Stores) (o : Nat) (byte : UInt8) : Lays b (b.put o byte) o [byte] := by
  refine ⟨fun j small => ?_, fun j outside => ?_, fun j mem => ?_⟩
  · obtain rfl : j = 0 := Nat.lt_one_iff.mp small
    exact Function.update_self ..
  · exact Function.update_of_ne (by rw [List.length_singleton] at outside; omega) ..
  · rcases mem_cons.mp mem with rfl | mem
    · exact .inr ⟨Nat.le_refl _, Nat.lt_succ_self _⟩
    · exact .inl mem

theorem append (first : Lays b b₁ o l) (second : Lays b₁ b₂ (o + l.length) l') : Lays b b₂ o (l ++ l') := by
  refine ⟨fun j small => ?_, fun j outside => ?_, fun j mem => ?_⟩
  · rw [length_append] at small
    rcases Nat.lt_or_ge j l.length with front | back
    · rw [getElem_append_left front, second.outside _ (.inl (by omega)), first.inside j front]
    · have shifted := second.inside (j - l.length) (by omega)
      rw [show o + l.length + (j - l.length) = o + j by omega] at shifted
      rw [List.getElem_append_right back, shifted]
  · rw [length_append] at outside
    rw [second.outside j (by omega), first.outside j (by omega)]
  · rw [length_append]
    rcases second.written j mem with mem | new
    · rcases first.written j mem with mem | new
      · exact .inl mem
      · exact .inr (by omega)
    · exact .inr (by omega)

theorem follow {o' : Nat} (first : Lays b b₁ o l) (second : Lays b₁ b₂ o' l') (behind : o' = o + l.length) :
    Lays b b₂ o (l ++ l') := by
  subst behind
  exact first.append second

theorem putLE16 (b : Stores) (o word : Nat) :
    Lays b (b.putLE16 o word) o [UInt8.ofNat word, UInt8.ofNat (word / 256)] :=
  (put b o _).append (put _ (o + 1) _)

theorem overwrite {front old new back : List UInt8} (lays : Lays b b₁ o (front ++ old ++ back))
    (again : Lays b₁ b₂ (o + front.length) new) (same : new.length = old.length) :
    Lays b b₂ o (front ++ new ++ back) := by
  have length : (front ++ new ++ back).length = (front ++ old ++ back).length := by
    rw [length_append, length_append, length_append, length_append, same]
  have total : (front ++ old ++ back).length = front.length + old.length + back.length := by
    rw [length_append, length_append]
  refine ⟨fun j small => ?_, fun j outside => ?_, fun j mem => ?_⟩
  · rw [length] at small
    have before := lays.inside j small
    rcases Nat.lt_or_ge j front.length with head | rest
    · rw [again.outside _ (.inl (by omega)), before, getElem_append_left (by rw [length_append]; omega),
        getElem_append_left head, getElem_append_left (by rw [length_append]; omega),
        getElem_append_left head]
    · rcases Nat.lt_or_ge j (front.length + new.length) with middle | tail
      · have written := again.inside (j - front.length) (by omega)
        rw [show o + front.length + (j - front.length) = o + j by omega] at written
        rw [written, getElem_append_left (by rw [length_append]; omega), List.getElem_append_right rest]
      · rw [again.outside _ (.inr (by omega)), before,
          List.getElem_append_right (by rw [length_append]; omega),
          List.getElem_append_right (by rw [length_append]; omega)]
        simp only [length_append, same]
  · rw [length] at outside
    rw [again.outside j (by omega), lays.outside j outside]
  · rw [length]
    rcases again.written j mem with mem | new
    · exact lays.written j mem
    · exact .inr (by omega)

theorem patch (front : List UInt8) {back : List UInt8} {x y : UInt8} (lays : Lays b b₁ o (front ++ [x, y] ++ back))
    (word : Nat) :
    Lays b (b₁.putLE16 (o + front.length) word) o
      (front ++ [UInt8.ofNat word, UInt8.ofNat (word / 256)] ++ back) :=
  lays.overwrite (putLE16 b₁ _ word) rfl

theorem read (lays : Lays b b₁ o l) : (List.range' o l.length).map b₁.bytes = l := by
  refine List.ext_getElem (by simp) fun j small _ => ?_
  rw [List.length_map, List.length_range'] at small
  rw [List.getElem_map, List.getElem_range', Nat.one_mul, lays.inside j small]

theorem within (lays : Lays b b₁ o l) (before : b.Within n) (room : o + l.length ≤ n) : b₁.Within n := by
  intro j mem
  rcases lays.written j mem with mem | new
  · exact before j mem
  · omega

end Lays

end Stores

end XSDK.Library
