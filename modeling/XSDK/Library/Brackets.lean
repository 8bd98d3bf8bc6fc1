import Mathlib.Data.List.Sort

/-! Brackets with labels: a viewer that keeps the open ones on a stack, and when each closing one
meets its own opening one. -/
namespace XSDK.Library.Brackets

open List (map_append mem_cons mem_cons_of_mem mem_cons_self pairwise_append rel_of_pairwise_cons reverse_cons)

inductive Bracket (α : Type) where
  | opening (a : α)
  | closing (a : α)
  deriving DecidableEq

variable {α : Type}

/-- The stack after a list of brackets, unless one closes what is not on top. -/
def replay [DecidableEq α] : List α → List (Bracket α) → Option (List α)
  | stack, [] => some stack
  | stack, .opening a :: rest => replay (a :: stack) rest
  | [], .closing _ :: _ => none
  | top :: stack, .closing a :: rest => if top = a then replay stack rest else none

/-- Every closing bracket finds its opening one on top, and none stays open. -/
def Nests [DecidableEq α] (l : List (Bracket α)) : Prop := replay [] l = some []

variable {lt : Bracket α → Bracket α → Prop} {stack : List α} {l rest : List (Bracket α)} {a b : α}

/-- Brackets in their order behind those that are open, and each closed behind where it opens. -/
structure Pending (lt : Bracket α → Bracket α → Prop) (stack : List α) (l : List (Bracket α)) : Prop where
  sorted : (stack.reverse.map Bracket.opening ++ l).Pairwise lt
  both : ∀ a, (a ∈ stack ∨ .opening a ∈ l) ↔ .closing a ∈ l
  ordered : ∀ a, .closing a ∈ l → lt (.opening a) (.closing a)

/-- The first opens first and closes first, while the second is open. -/
def Cross (lt : Bracket α → Bracket α → Prop) (a b : α) : Prop :=
  lt (.opening a) (.opening b) ∧ lt (.opening b) (.closing a) ∧ lt (.closing a) (.closing b)

namespace Pending

variable (asymm : ∀ x y, lt x y → ¬lt y x)

theorem push (pending : Pending lt stack (.opening a :: l)) : Pending lt (a :: stack) l := by
  refine ⟨?_, fun b => ?_, fun b mem => pending.ordered b (mem_cons_of_mem _ mem)⟩
  · have sorted := pending.sorted
    rwa [List.append_cons, ← List.map_singleton, ← map_append, ← reverse_cons] at sorted
  · have both := pending.both b
    simp only [mem_cons, Bracket.opening.injEq, reduceCtorEq, false_or] at both ⊢
    rw [← both]
    tauto

include asymm in
theorem open_ (pending : Pending lt stack (.closing a :: l)) : a ∈ stack := by
  have sorted := (pairwise_append.mp pending.sorted).2.1
  rcases (pending.both a).mpr mem_cons_self with mem | later
  · exact mem
  · rcases mem_cons.mp later with same | later
    · cases same
    · exact absurd (rel_of_pairwise_cons sorted later) (asymm _ _ (pending.ordered a mem_cons_self))

theorem before (pending : Pending lt stack l) (mem : a ∈ stack) {x : Bracket α} (later : x ∈ l) :
    lt (.opening a) x := by
  have apart := (pairwise_append.mp pending.sorted).2.2
  exact apart _ (List.mem_map_of_mem (List.mem_reverse.mpr mem)) x later

theorem deeper (pending : Pending lt (b :: stack) l) (mem : a ∈ stack) : lt (.opening a) (.opening b) := by
  have opened := (pairwise_append.mp pending.sorted).1
  rw [reverse_cons, map_append] at opened
  exact (pairwise_append.mp opened).2.2 _ (List.mem_map_of_mem (List.mem_reverse.mpr mem)) _ mem_cons_self

include asymm in
theorem pop (pending : Pending lt (a :: stack) (.closing a :: l)) : Pending lt stack l := by
  have self (x : Bracket α) (self : lt x x) : False := asymm x x self self
  refine ⟨?_, fun b => ?_, fun b mem => pending.ordered b (mem_cons_of_mem _ mem)⟩
  · refine pending.sorted.sublist ?_
    rw [reverse_cons, map_append]
    exact (List.sublist_append_left _ _).append (List.sublist_cons_self _ _)
  · have both := pending.both b
    have sorted := (pairwise_append.mp pending.sorted).2.1
    simp only [mem_cons, Bracket.closing.injEq, reduceCtorEq, false_or] at both
    by_cases same : b = a
    · subst same
      constructor
      · rintro (mem | mem)
        · exact (self _ (pending.deeper mem)).elim
        · exact absurd (rel_of_pairwise_cons sorted mem) (asymm _ _ (pending.ordered b mem_cons_self))
      · intro mem
        exact (self _ (rel_of_pairwise_cons sorted mem)).elim
    · simpa only [same, false_or] using both

end Pending

/-- The rest of the brackets nests exactly if no two of them cross. -/
theorem replay_iff [DecidableEq α] (asymm : ∀ x y, lt x y → ¬lt y x) (pending : Pending lt stack l) :
    replay stack l = some [] ↔ ∀ a b, .closing a ∈ l → .closing b ∈ l → ¬Cross lt a b := by
  induction l generalizing stack with
  | nil =>
    have empty : stack = [] := by
      cases stack with
      | nil => rfl
      | cons a stack => exact absurd ((pending.both a).mp (.inl mem_cons_self)) List.not_mem_nil
    subst empty
    simp [replay]
  | cons head l ih =>
    cases head with
    | opening a =>
      rw [replay, ih pending.push]
      simp only [mem_cons, reduceCtorEq, false_or]
    | closing a =>
      have sorted := (pairwise_append.mp pending.sorted).2.1
      have mem := pending.open_ asymm
      cases stack with
      | nil => exact absurd mem List.not_mem_nil
      | cons top stack =>
        rw [replay]
        by_cases same : top = a
        · subst same
          rw [if_pos rfl, ih (pending.pop asymm)]
          constructor
          · intro none b c closes closes' cross
            rcases mem_cons.mp closes with first | closes
            · -- the other opens while the top is open, so it opened later or is deeper
              cases first
              rcases (pending.both c).mpr closes' with open_ | later
              · rcases mem_cons.mp open_ with same | mem
                · cases same
                  exact asymm _ _ cross.1 cross.1
                · exact asymm _ _ cross.1 (pending.deeper mem)
              · rcases mem_cons.mp later with same | later
                · cases same
                · exact asymm _ _ cross.2.1 (rel_of_pairwise_cons sorted later)
            · rcases mem_cons.mp closes' with second | closes'
              · cases second
                exact asymm _ _ cross.2.2 (rel_of_pairwise_cons sorted closes)
              · exact none b c closes closes' cross
          · intro none b c closes closes'
            exact none b c (mem_cons_of_mem _ closes) (mem_cons_of_mem _ closes')
        · rw [if_neg same]
          constructor
          · intro impossible
            cases impossible
          · intro none
            rcases mem_cons.mp mem with first | mem
            · exact absurd first.symm same
            · have closes := (pending.both top).mp (.inl mem_cons_self)
              refine absurd ⟨pending.deeper mem, pending.before mem_cons_self mem_cons_self, ?_⟩
                (none a top mem_cons_self closes)
              rcases mem_cons.mp closes with first | later
              · cases first
                exact absurd rfl same
              · exact rel_of_pairwise_cons sorted later

theorem mergeSort_stable {β : Type} {le : β → β → Bool} {seq : β → Nat} {l : List β}
    (trans : ∀ x y z, le x y = true → le y z = true → le x z = true) (total : ∀ x y, (le x y || le y x) = true)
    (ordered : l.Pairwise fun x y => seq x < seq y) :
    (l.mergeSort le).Pairwise fun x y => le x y = true ∧ (le y x = true → seq x < seq y) := by
  rw [← List.mergeSort_zipIdx, List.pairwise_map]
  have sorted := List.pairwise_mergeSort (List.zipIdxLE_trans trans) (List.zipIdxLE_total total) l.zipIdx
  have nodup : (l.zipIdx.mergeSort (List.zipIdxLE le)).Nodup :=
    (List.mergeSort_perm _ _).nodup_iff.mpr (List.Nodup.of_map Prod.snd (by
      rw [List.zipIdx_map_snd]
      exact List.nodup_range'))
  refine (sorted.and nodup).imp_of_mem fun {x y} memX memY both => ?_
  obtain ⟨a, i⟩ := x
  obtain ⟨b, j⟩ := y
  obtain ⟨small, at_⟩ := List.mem_zipIdx' (List.mem_mergeSort.mp memX)
  obtain ⟨small', at'⟩ := List.mem_zipIdx' (List.mem_mergeSort.mp memY)
  have placed := both.1
  rw [List.zipIdxLE] at placed
  split at placed
  · next before =>
    refine ⟨before, fun back => ?_⟩
    have place : i ≤ j := by
      rw [if_pos back] at placed
      exact of_decide_eq_true placed
    have ne : i ≠ j := by
      rintro rfl
      exact both.2 (by rw [at_, at'])
    rw [at_, at']
    exact List.pairwise_iff_getElem.mp ordered i j small small' (by omega)
  · cases placed

end XSDK.Library.Brackets
