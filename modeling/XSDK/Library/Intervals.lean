import Mathlib.Algebra.Order.BigOperators.Group.List
import Mathlib.Algebra.Order.Field.Basic
import Mathlib.Tactic.Linarith

/-! Half-open intervals and the part of them that lies in a window: intervals that are apart
fill a window at most once, and a scan in the order of their starts may stop at its end. -/
namespace XSDK.Library.Intervals

variable {K : Type} [Field K] [LinearOrder K] [IsStrictOrderedRing K]

/-- The length of the part of an interval inside the window from a to b. -/
def clip (a b : K) (iv : K × K) : K := max 0 (min iv.2 b - max iv.1 a)

def Apart (x y : K × K) : Prop := x.2 ≤ y.1 ∨ y.2 ≤ x.1

variable {a b a' b' m : K} {iv x y : K × K} {ivs : List (K × K)}

omit [IsStrictOrderedRing K] in
theorem clip_nonneg (a b : K) (iv : K × K) : 0 ≤ clip a b iv := le_max_left _ _

theorem clip_le_clip (low : max iv.1 a' ≤ max iv.1 a) (high : min iv.2 b ≤ min iv.2 b') :
    clip a b iv ≤ clip a' b' iv :=
  max_le_max (le_refl 0) (sub_le_sub high low)

theorem clip_eq_zero (out : iv.2 ≤ a ∨ b ≤ iv.1) : clip a b iv = 0 := by
  apply max_eq_left
  rw [sub_nonpos]
  rcases out with before | after
  · exact le_trans (min_le_left _ _) (le_trans before (le_max_right _ _))
  · exact le_trans (min_le_right _ _) (le_trans after (le_max_left _ _))

theorem clip_before (before : iv.2 ≤ m) : clip a b iv ≤ clip a (max a (min m b)) iv := by
  apply clip_le_clip (le_refl _)
  apply le_min (min_le_left _ _)
  exact le_trans (min_le_min before (le_refl b)) (le_max_right _ _)

theorem clip_behind (behind : m ≤ iv.1) : clip a b iv ≤ clip (min b (max m a)) b iv := by
  apply clip_le_clip _ (le_refl _)
  apply max_le (le_max_left _ _)
  exact le_trans (min_le_right _ _) (max_le_max behind (le_refl a))

theorem clip_le_between (window : a ≤ b) (proper : iv.1 ≤ iv.2) :
    clip a b iv ≤ min b (max iv.2 a) - max a (min iv.1 b) := by
  apply max_le
  · rw [sub_nonneg]
    apply max_le
    · exact le_min window (le_max_right _ _)
    · exact le_min (min_le_right _ _) (le_trans (min_le_left _ _) (le_trans proper (le_max_left _ _)))
  · apply sub_le_sub
    · exact le_min (min_le_right _ _) (le_trans (min_le_left _ _) (le_max_left _ _))
    · apply max_le (le_max_right _ _)
      exact le_trans (min_le_left _ _) (le_max_left _ _)

/-- Intervals that are apart from each other fill a window at most once. -/
theorem sum_clip_le (window : a ≤ b) (proper : ∀ iv ∈ ivs, iv.1 ≤ iv.2) (apart : ivs.Pairwise Apart) :
    (ivs.map (clip a b)).sum ≤ b - a := by
  induction ivs generalizing a b with
  | nil =>
    rw [List.map_nil, List.sum_nil, sub_nonneg]
    exact window
  | cons iv ivs ih =>
    obtain ⟨others, rest⟩ := List.pairwise_cons.mp apart
    have proper' : ∀ iv ∈ ivs, iv.1 ≤ iv.2 := fun iv mem => proper iv (List.mem_cons_of_mem _ mem)
    have here := clip_le_between window (proper iv List.mem_cons_self)
    -- the others lie in what is left of the window on either side
    have before := ih (a := a) (b := max a (min iv.1 b)) (le_max_left _ _) proper' rest
    have behind := ih (a := min b (max iv.2 a)) (b := b) (min_le_left _ _) proper' rest
    have sides : (ivs.map (clip a b)).sum ≤
        (ivs.map (clip a (max a (min iv.1 b)))).sum + (ivs.map (clip (min b (max iv.2 a)) b)).sum := by
      rw [← List.sum_map_add]
      apply List.sum_le_sum
      intro other mem
      rcases others other mem with after | first
      · exact le_trans (clip_behind after) (le_add_of_nonneg_left (clip_nonneg _ _ _))
      · exact le_trans (clip_before first) (le_add_of_nonneg_right (clip_nonneg _ _ _))
    rw [List.map_cons, List.sum_cons]
    linarith

end XSDK.Library.Intervals
