import Mathlib.Data.List.Range
import Mathlib.Data.Finset.Card
import XSDK.Library.Bits
import XSDK.Rtos.Defs

/-! The kernel's bitmaps: arrays of 32-bit words, read and written through the
helpers of the definitions header only. The first lemmas turn each helper into a
statement about single bits, and nothing after them looks at a word again. -/
namespace XSDK.Rtos

open Library

/-- A bitmap is an array of 32-bit words, here indexed without a bound. -/
structure Bitmap where
  words : Nat → BitVec 32

namespace Bitmap

def empty : Bitmap := ⟨fun _ => 0#32⟩

def set (b : Bitmap) (i : Nat) : Bitmap :=
  ⟨Function.update b.words (i / 32) (b.words (i / 32) ||| (1#32 <<< (i % 32)))⟩

def clear (b : Bitmap) (i : Nat) : Bitmap :=
  ⟨Function.update b.words (i / 32) (b.words (i / 32) &&& ~~~(1#32 <<< (i % 32)))⟩

def isSet (b : Bitmap) (i : Nat) : Bool :=
  decide ((b.words (i / 32) &&& (1#32 <<< (i % 32))) ≠ 0#32)

def wordCount (width : Nat) : Nat := (width + 31) / 32

/-- The valid bits of a word; the final word may be only partially used. -/
def wordMask (width w : Nat) : BitVec 32 :=
  if width % 32 ≠ 0 ∧ w = wordCount width - 1 then (1#32 <<< (width % 32)) - 1#32 else BitVec.allOnes 32

def word (width : Nat) (b : Bitmap) (w : Nat) : BitVec 32 := b.words w &&& wordMask width w

def isEmpty (width : Nat) (b : Bitmap) : Bool :=
  (List.range (wordCount width)).all fun w => decide (word width b w = 0#32)

def findFirstSet (width : Nat) (b : Bitmap) : Option Nat :=
  ((List.range (wordCount width)).find? fun w => decide (word width b w ≠ 0#32)).map
    fun w => w * 32 + ctz (word width b w)

/-- The bits that a scan visits, word by word, clearing the lowest bit of a word each time. -/
def setBits (width : Nat) (b : Bitmap) : List Nat :=
  (List.range (wordCount width)).flatMap fun w => (lowBits 32 (word width b w)).map (w * 32 + ·)

/-- The bits that a loop visits which finds the first set bit, clears it and goes on. -/
def drain (width : Nat) : Nat → Bitmap → List Nat
  | 0, _ => []
  | fuel + 1, b =>
    match findFirstSet width b with
    | none => []
    | some i => i :: drain width fuel (b.clear i)

theorem getLsbD_bit (i j : Nat) : (1#32 <<< (i % 32)).getLsbD j = decide (j = i % 32) := by
  have hi : i % 32 < 32 := Nat.mod_lt _ (by decide)
  simp only [BitVec.getLsbD_shiftLeft, BitVec.getLsbD_one]
  by_cases h : j = i % 32
  · simp [h, hi]
  · by_cases hlt : j < i % 32
    · simp [h, hlt]
    · have : j - i % 32 ≠ 0 := by omega
      simp [h, this]

theorem isSet_eq (b : Bitmap) (i : Nat) : b.isSet i = (b.words (i / 32)).getLsbD (i % 32) := by
  have hi : i % 32 < 32 := Nat.mod_lt _ (by decide)
  rw [Bool.eq_iff_iff, isSet, decide_eq_true_iff]
  constructor
  · intro h
    obtain ⟨j, hj, hv⟩ := exists_set_bit h
    rw [BitVec.getLsbD_and, getLsbD_bit i j, Bool.and_eq_true, decide_eq_true_iff] at hv
    exact hv.2 ▸ hv.1
  · intro h none
    have := congrArg (fun v => BitVec.getLsbD v (i % 32)) none
    simp [h, getLsbD_bit i _] at this

@[simp] theorem isSet_empty (i : Nat) : empty.isSet i = false := by
  simp [isSet_eq, empty]

theorem split_eq_iff (i j : Nat) : i = j ↔ i / 32 = j / 32 ∧ i % 32 = j % 32 := by
  constructor
  · rintro rfl
    exact ⟨rfl, rfl⟩
  · omega

@[simp] theorem isSet_set (b : Bitmap) (i j : Nat) :
    (b.set i).isSet j = (decide (j = i) || b.isSet j) := by
  have hj : j % 32 < 32 := Nat.mod_lt _ (by decide)
  rw [isSet_eq, isSet_eq, set]
  dsimp only
  by_cases hw : j / 32 = i / 32
  · rw [hw, Function.update_self, BitVec.getLsbD_or, getLsbD_bit i _]
    simp [split_eq_iff j i, hw, Bool.or_comm]
  · rw [Function.update_of_ne hw]
    simp [split_eq_iff j i, hw]

@[simp] theorem isSet_clear (b : Bitmap) (i j : Nat) :
    (b.clear i).isSet j = (decide (j ≠ i) && b.isSet j) := by
  have hj : j % 32 < 32 := Nat.mod_lt _ (by decide)
  rw [isSet_eq, isSet_eq, clear]
  dsimp only
  by_cases hw : j / 32 = i / 32
  · rw [hw, Function.update_self, BitVec.getLsbD_and, BitVec.getLsbD_not, getLsbD_bit i _]
    simp [split_eq_iff j i, hw, hj, Bool.and_comm]
  · rw [Function.update_of_ne hw]
    simp [split_eq_iff j i, hw]

theorem ext_isSet {b c : Bitmap} (h : ∀ i, b.isSet i = c.isSet i) : b = c := by
  obtain ⟨words⟩ := b
  obtain ⟨words'⟩ := c
  refine congrArg Bitmap.mk (funext fun w => BitVec.eq_of_getLsbD_eq fun i hi => ?_)
  have bit := h (w * 32 + i)
  have hq : (w * 32 + i) / 32 = w := by omega
  have hr : (w * 32 + i) % 32 = i := by omega
  rwa [isSet_eq, isSet_eq, hq, hr] at bit

variable {b : Bitmap} {width i : Nat}

theorem set_clear (h : b.isSet i = true) : (b.clear i).set i = b := by
  apply ext_isSet
  intro j
  by_cases hj : j = i
  · simp [hj, h]
  · simp [hj]

theorem getLsbD_wordMask (width w i : Nat) (hi : i < 32) (hw : w < wordCount width) :
    (wordMask width w).getLsbD i = decide (w * 32 + i < width) := by
  unfold wordMask
  unfold wordCount at hw
  split
  · rename_i h
    have hu : width % 32 < 32 := Nat.mod_lt _ (by decide)
    have mask : ((1#32 <<< (width % 32)) - 1#32).toNat = 2 ^ (width % 32) - 1 := by
      have pow : 2 ^ (width % 32) < 2 ^ 32 := Nat.pow_lt_pow_right (by decide) hu
      have one : (1#32 <<< (width % 32)).toNat = 2 ^ (width % 32) := by
        rw [BitVec.toNat_shiftLeft, Nat.shiftLeft_eq]
        simpa using Nat.mod_eq_of_lt pow
      have le : 1#32 ≤ 1#32 <<< (width % 32) := by
        rw [BitVec.le_def, one]
        exact Nat.one_le_two_pow
      rw [BitVec.toNat_sub_of_le le, one]
      rfl
    rw [BitVec.getLsbD, mask, Nat.testBit_two_pow_sub_one, decide_eq_decide]
    obtain ⟨hm, he⟩ := h
    unfold wordCount at he
    omega
  · rename_i h
    unfold wordCount at h
    rw [BitVec.getLsbD_allOnes, decide_eq_decide]
    omega

theorem getLsbD_word (width : Nat) (b : Bitmap) (w i : Nat) (hi : i < 32) (hw : w < wordCount width) :
    (word width b w).getLsbD i = (b.isSet (w * 32 + i) && decide (w * 32 + i < width)) := by
  have hq : (w * 32 + i) / 32 = w := by omega
  have hr : (w * 32 + i) % 32 = i := by omega
  rw [word, BitVec.getLsbD_and, getLsbD_wordMask width w i hi hw, isSet_eq, hq, hr]

theorem div_lt_wordCount {width i : Nat} (h : i < width) : i / 32 < wordCount width := by
  unfold wordCount
  omega

theorem word_ne_zero (hi : i < width) (h : b.isSet i = true) : word width b (i / 32) ≠ 0#32 := by
  intro zero
  have bit := getLsbD_word width b (i / 32) (i % 32) (Nat.mod_lt _ (by decide)) (div_lt_wordCount hi)
  have eq : i / 32 * 32 + i % 32 = i := by omega
  rw [zero, eq, h] at bit
  simp [hi] at bit

theorem set_of_word_ne_zero {width w : Nat} (hw : w < wordCount width) (h : word width b w ≠ 0#32) :
    b.isSet (w * 32 + ctz (word width b w)) = true ∧ w * 32 + ctz (word width b w) < width := by
  have hset := (ctz_spec h).1
  have hlt : ctz (word width b w) < 32 := BitVec.lt_of_getLsbD hset
  rw [getLsbD_word width b w _ hlt hw] at hset
  simpa using hset

theorem isEmpty_iff : b.isEmpty width = true ↔ ∀ i < width, b.isSet i = false := by
  simp only [isEmpty, List.all_eq_true, List.mem_range, decide_eq_true_iff]
  constructor
  · intro h i hi
    by_contra hs
    exact word_ne_zero hi (by simpa using hs) (h _ (div_lt_wordCount hi))
  · intro h w hw
    by_contra hne
    obtain ⟨hset, hlt⟩ := set_of_word_ne_zero hw hne
    rw [h _ hlt] at hset
    cases hset

theorem not_isEmpty_iff : b.isEmpty width = false ↔ ∃ i < width, b.isSet i = true := by
  rw [← Bool.not_eq_true, isEmpty_iff]
  simp

theorem findFirstSet_some (h : b.findFirstSet width = some i) :
    i < width ∧ b.isSet i = true ∧ ∀ j < i, b.isSet j = false := by
  obtain ⟨w, hw, rfl⟩ := Option.map_eq_some_iff.mp h
  have hlt : w < wordCount width := by
    simpa using List.mem_of_find?_eq_some hw
  have hne : word width b w ≠ 0#32 := by
    simpa using List.find?_some hw
  obtain ⟨hset, hwid⟩ := set_of_word_ne_zero hlt hne
  refine ⟨hwid, hset, ?_⟩
  intro j hj
  by_contra hs
  have hs : b.isSet j = true := by simpa using hs
  have nonzero := word_ne_zero (Nat.lt_trans hj hwid) hs
  have hjw : ¬ j / 32 < w := by
    intro below
    rw [List.find?_range_eq_some] at hw
    have := hw.2.2 (j / 32) below
    simp [nonzero] at this
  have hc : ctz (word width b w) < 32 := BitVec.lt_of_getLsbD (ctz_spec hne).1
  have same : j / 32 = w := by omega
  have low := (ctz_spec hne).2 (j % 32) (by omega)
  rw [getLsbD_word width b w _ (Nat.mod_lt _ (by decide)) hlt] at low
  have eq : w * 32 + j % 32 = j := by omega
  simp [eq, hs] at low
  omega

theorem findFirstSet_none : b.findFirstSet width = none ↔ ∀ i < width, b.isSet i = false := by
  rw [findFirstSet, Option.map_eq_none_iff, List.find?_eq_none, ← isEmpty_iff, isEmpty, List.all_eq_true]
  simp

theorem mem_setBits : i ∈ b.setBits width ↔ i < width ∧ b.isSet i = true := by
  simp only [setBits, List.mem_flatMap, List.mem_range, List.mem_map, mem_lowBits]
  constructor
  · rintro ⟨w, hw, j, hj, rfl⟩
    have hlt : j < 32 := BitVec.lt_of_getLsbD hj
    rw [getLsbD_word width b w j hlt hw] at hj
    simpa [and_comm] using hj
  · rintro ⟨hi, hs⟩
    have eq : i / 32 * 32 + i % 32 = i := by omega
    refine ⟨i / 32, div_lt_wordCount hi, i % 32, ?_, eq⟩
    rw [getLsbD_word width b _ _ (Nat.mod_lt _ (by decide)) (div_lt_wordCount hi), eq]
    simp [hi, hs]

def members (width : Nat) (b : Bitmap) : Finset Nat := (Finset.range width).filter fun i => b.isSet i = true

theorem card_members_clear (hi : i < width) (h : b.isSet i = true) :
    (members width (b.clear i)).card + 1 = (members width b).card := by
  have eq : members width (b.clear i) = (members width b).erase i := by
    ext j
    simp only [members, Finset.mem_filter, Finset.mem_range, isSet_clear, Finset.mem_erase,
      Bool.and_eq_true, decide_eq_true_iff]
    tauto
  have mem : i ∈ members width b := by simp [members, hi, h]
  rw [eq, Finset.card_erase_add_one mem]

theorem mem_drain {width fuel : Nat} (hf : (members width b).card ≤ fuel) :
    i ∈ drain width fuel b ↔ i < width ∧ b.isSet i = true := by
  induction fuel generalizing b with
  | zero =>
    have none : members width b = ∅ := Finset.card_eq_zero.mp (Nat.le_zero.mp hf)
    have : i ∉ members width b := by simp [none]
    simpa [drain, members] using this
  | succ fuel ih =>
    rw [drain]
    cases hfirst : findFirstSet width b with
    | none =>
      have clear := findFirstSet_none.mp hfirst
      simp only [List.not_mem_nil, false_iff, not_and]
      intro hi
      simp [clear i hi]
    | some j =>
      obtain ⟨hj, hset, _⟩ := findFirstSet_some hfirst
      have card := card_members_clear hj hset
      rw [List.mem_cons, ih (by omega), isSet_clear]
      by_cases hij : i = j
      · simp [hij, hj, hset]
      · simp [hij]

theorem nodup_drain (width fuel : Nat) (b : Bitmap) : (drain width fuel b).Nodup := by
  have member : ∀ (fuel : Nat) (b : Bitmap) (i : Nat), i ∈ drain width fuel b → b.isSet i = true := by
    intro fuel
    induction fuel with
    | zero => simp [drain]
    | succ fuel ih =>
      intro b i hi
      rw [drain] at hi
      cases hfirst : findFirstSet width b with
      | none => simp [hfirst] at hi
      | some j =>
        rw [hfirst] at hi
        rcases List.mem_cons.mp hi with rfl | hi
        · exact (findFirstSet_some hfirst).2.1
        · have := ih _ _ hi
          simp only [isSet_clear, Bool.and_eq_true] at this
          exact this.2
  induction fuel generalizing b with
  | zero => exact List.nodup_nil
  | succ fuel ih =>
    rw [drain]
    cases hfirst : findFirstSet width b with
    | none => exact List.nodup_nil
    | some j =>
      refine List.nodup_cons.mpr ⟨?_, ih _⟩
      intro hj
      simpa using member _ _ _ hj

/-- The ids a find-clear loop visits on a local copy of the map, in visiting order. -/
def scan (width : Nat) (b : Bitmap) : List Nat := drain width width b

theorem mem_scan : i ∈ b.scan width ↔ i < width ∧ b.isSet i = true := by
  apply mem_drain
  have := Finset.card_filter_le (Finset.range width) (fun i => b.isSet i = true)
  rwa [Finset.card_range] at this

theorem nodup_scan (width : Nat) (b : Bitmap) : (b.scan width).Nodup := nodup_drain _ _ _

end Bitmap

end XSDK.Rtos
