import Mathlib.Data.List.Nodup

/-! Lists threaded through link fields of their own elements.
The carrier holds a next and a prev field for every possible element, so several
lists may share one pair of fields as long as they are disjoint. Both shapes that
occur in practice are here: a list with a head and a tail pointer (Links), and
one with a head pointer only (Threads). -/
namespace XSDK.Library

open Function (update)
open List (concat_eq_append eq_nil_or_concat getLast?_cons mem_cons_of_mem mem_cons_self mem_of_getLast? mem_of_head?
  nodup_append nodup_cons)

variable {α : Type} [DecidableEq α]

/-- The elements of l are linked in order, entered from pred and left to succ. -/
def Seg (next prev : α → Option α) : Option α → List α → Option α → Prop
  | _, [], _ => True
  | pred, a :: l, succ =>
    prev a = pred ∧ next a = l.head?.or succ ∧ Seg next prev (some a) l succ

variable {xs ys l : List α} {a : α}

variable {next prev next' prev' : α → Option α} {p s : Option α}

omit [DecidableEq α] in
theorem seg_congr
    (h : Seg next prev p l s) (hn : ∀ a ∈ l, next' a = next a) (hp : ∀ a ∈ l, prev' a = prev a) :
    Seg next' prev' p l s := by
  induction l generalizing p with
  | nil => trivial
  | cons a l ih =>
    obtain ⟨ha, hs, ht⟩ := h
    refine ⟨(hp a mem_cons_self).trans ha, (hn a mem_cons_self).trans hs, ?_⟩
    exact ih ht (fun b hb => hn b (mem_cons_of_mem a hb))
      (fun b hb => hp b (mem_cons_of_mem a hb))

omit [DecidableEq α] in
theorem seg_append {next prev : α → Option α} :
    Seg next prev p (xs ++ ys) s ↔ Seg next prev p xs (ys.head?.or s) ∧ Seg next prev (xs.getLast?.or p) ys s := by
  induction xs generalizing p with
  | nil => simp [Seg]
  | cons a xs ih =>
    have last : ((a :: xs).getLast?.or p) = xs.getLast?.or (some a) := by
      cases h : xs.getLast? <;> simp [getLast?_cons, h]
    simp only [List.cons_append, Seg, ih, List.head?_append, Option.or_assoc, last, and_assoc]

omit [DecidableEq α] in
theorem seg_prev {next prev : α → Option α}
    (h : Seg next prev none (xs ++ a :: ys) none) : prev a = xs.getLast? := by
  have ha := (seg_append.mp h).2.1
  simpa using ha

omit [DecidableEq α] in
theorem seg_next {next prev : α → Option α}
    (h : Seg next prev none (xs ++ a :: ys) none) : next a = ys.head? := by
  have ha := (seg_append.mp h).2.2.1
  simpa using ha

omit [DecidableEq α] in
theorem seg_succ {p s s' : Option α} (h : Seg next prev p l s) (hn : ∀ a ∈ l, some a ≠ l.getLast? → next' a = next a)
    (hl : ∀ a, l.getLast? = some a → next' a = s') (hp : ∀ a ∈ l, prev' a = prev a)
    (nodup : l.Nodup) : Seg next' prev' p l s' := by
  rcases eq_nil_or_concat l with rfl | ⟨xs, a, rfl⟩
  · trivial
  · rw [concat_eq_append] at *
    rw [seg_append] at h ⊢
    have fresh : ∀ b ∈ xs, b ≠ a := by
      intro b hb e
      exact (nodup_append.mp nodup).2.2 b hb a (by simp) e
    refine ⟨seg_congr h.1 ?_ (fun b hb => hp b (by simp [hb])), ?_⟩
    · intro b hb
      exact hn b (by simp [hb]) (by simpa using fresh b hb)
    · exact ⟨(hp a (by simp)).trans h.2.1, by simpa using hl a (by simp), trivial⟩

omit [DecidableEq α] in
theorem seg_pred {p p' s : Option α} (h : Seg next prev p l s) (hp : ∀ a ∈ l, some a ≠ l.head? → prev' a = prev a)
    (hh : ∀ a, l.head? = some a → prev' a = p') (hn : ∀ a ∈ l, next' a = next a)
    (nodup : l.Nodup) : Seg next' prev' p' l s := by
  cases l with
  | nil => trivial
  | cons a l =>
    have fresh : ∀ b ∈ l, b ≠ a := fun b hb e => (nodup_cons.mp nodup).1 (e ▸ hb)
    refine ⟨hh a rfl, (hn a mem_cons_self).trans h.2.1, seg_congr h.2.2 ?_ ?_⟩
    · exact fun b hb => hn b (mem_cons_of_mem a hb)
    · intro b hb
      exact hp b (mem_cons_of_mem a hb) (by simpa using fresh b hb)

/-- A list head and tail together with the two link fields of every element. -/
structure Links (α : Type) where
  head : Option α
  tail : Option α
  next : α → Option α
  prev : α → Option α

namespace Links

/-- Take a out of the list, patching its neighbours or the ends, and clear its links. -/
def unlink (L : Links α) (a : α) : Links α :=
  let L₁ := match L.prev a with
    | some p => { L with next := update L.next p (L.next a) }
    | none => { L with head := L.next a }
  let L₂ := match L₁.next a with
    | some n => { L₁ with prev := update L₁.prev n (L₁.prev a) }
    | none => { L₁ with tail := L₁.prev a }
  { L₂ with prev := update L₂.prev a none, next := update L₂.next a none }

/-- Put a in front of succ, or at the tail when there is no succ. -/
def insertBefore (L : Links α) (a : α) (succ : Option α) : Links α :=
  let L₁ := { L with next := update L.next a succ }
  let L₂ := match succ with
    | some n => { L₁ with prev := update (update L₁.prev a (L₁.prev n)) n (some a) }
    | none => { L₁ with prev := update L₁.prev a L₁.tail, tail := some a }
  match L₂.prev a with
  | some p => { L₂ with next := update L₂.next p (some a) }
  | none => { L₂ with head := some a }

/-- The link structure represents exactly the list l. -/
structure Holds (L : Links α) (l : List α) : Prop where
  nodup : l.Nodup
  head : L.head = l.head?
  tail : L.tail = l.getLast?
  seg : Seg L.next L.prev none l none

variable {L : Links α}

omit [DecidableEq α] in
theorem holds_nil (h : L.Holds []) : L.head = none ∧ L.tail = none :=
  ⟨h.head, h.tail⟩

omit [DecidableEq α] in
theorem holds_congr {L L' : Links α} (h : L.Holds l) (head : L'.head = L.head) (tail : L'.tail = L.tail)
    (next : ∀ a ∈ l, L'.next a = L.next a) (prev : ∀ a ∈ l, L'.prev a = L.prev a) :
    L'.Holds l :=
  ⟨h.nodup, head.trans h.head, tail.trans h.tail, seg_congr h.seg next prev⟩

theorem unlink_next (L : Links α) (a b : α) (hp : L.prev a ≠ some a) :
    (L.unlink a).next b = if b = a then none else if L.prev a = some b then L.next a else L.next b := by
  unfold unlink
  dsimp only
  cases hpa : L.prev a with
  | none =>
    by_cases hb : b = a
    · cases hna : L.next a <;> simp [hb]
    · cases hna : L.next a <;> simp [hb]
  | some p =>
    have hpne : a ≠ p := fun e => hp (by rw [hpa, e])
    by_cases hb : b = a
    · simp [hb]
    · by_cases hbp : b = p
      · subst hbp
        cases hna : L.next a <;> simp [hb, hpne, hna]
      · have hpb : p ≠ b := fun e => hbp e.symm
        cases hna : L.next a <;> simp [hb, hbp, hpb, hpne, hna]

theorem unlink_prev (L : Links α) (a b : α) (hp : L.prev a ≠ some a) :
    (L.unlink a).prev b = if b = a then none else if L.next a = some b then L.prev a else L.prev b := by
  unfold unlink
  dsimp only
  have keep : ∀ p, L.prev a = some p → update L.next p (L.next a) a = L.next a := by
    intro p h
    exact Function.update_of_ne (fun e => hp (by rw [h, e])) _ _
  cases hpa : L.prev a with
  | none =>
    dsimp only
    by_cases hb : b = a
    · simp [hb]
    · cases hna : L.next a with
      | none => simp [hb]
      | some n =>
        by_cases hbn : b = n
        · subst hbn
          simp [hb, hpa]
        · simp [hb, hbn, Ne.symm hbn, hpa]
  | some p =>
    dsimp only
    rw [keep p hpa]
    by_cases hb : b = a
    · simp [hb]
    · cases hna : L.next a with
      | none => simp [hb]
      | some n =>
        by_cases hbn : b = n
        · subst hbn
          simp [hb, hpa]
        · simp [hb, hbn, Ne.symm hbn, hpa]

theorem unlink_head (L : Links α) (a : α) : (L.unlink a).head = if L.prev a = none then L.next a else L.head := by
  unfold unlink
  dsimp only
  cases hpa : L.prev a with
  | none => cases hna : L.next a <;> simp
  | some p =>
    dsimp only
    split <;> simp

theorem unlink_tail (L : Links α) (a : α) (hp : L.prev a ≠ some a) :
    (L.unlink a).tail = if L.next a = none then L.prev a else L.tail := by
  unfold unlink
  dsimp only
  cases hpa : L.prev a with
  | none => cases hna : L.next a <;> simp [hpa]
  | some p =>
    have keep : update L.next p (L.next a) a = L.next a :=
      Function.update_of_ne (fun e => hp (by rw [hpa, e])) _ _
    dsimp only
    rw [keep]
    cases hna : L.next a <;> simp [hpa]

/-- Unlinking an element removes it and keeps the order of the others. -/
theorem unlink_holds (h : L.Holds (xs ++ a :: ys)) : (L.unlink a).Holds (xs ++ ys) := by
  have prevA := seg_prev h.seg
  have nextA := seg_next h.seg
  have nodup := nodup_append.mp h.nodup
  have nodupY := nodup_cons.mp nodup.2.1
  have freshX : ∀ b ∈ xs, b ≠ a := fun b hb => nodup.2.2 b hb a (by simp)
  have freshY : ∀ b ∈ ys, b ≠ a := fun b hb e => nodupY.1 (e ▸ hb)
  have apart : ∀ b ∈ xs, ∀ c ∈ ys, b ≠ c := fun b hb c hc => nodup.2.2 b hb c (by simp [hc])
  have self : L.prev a ≠ some a := by
    rw [prevA]
    intro e
    exact freshX a (mem_of_getLast? e) rfl
  have segs := seg_append.mp h.seg
  refine ⟨?_, ?_, ?_, ?_⟩
  · exact nodup_append.mpr ⟨nodup.1, nodupY.2, apart⟩
  · rw [unlink_head, prevA, nextA, h.head]
    cases xs <;> simp [getLast?_cons]
  · rw [unlink_tail L a self, prevA, nextA, h.tail]
    cases ys with
    | nil => simp
    | cons c ys => simp [List.getLast?_append, getLast?_cons]
  · refine seg_append.mpr ⟨?_, ?_⟩
    · refine seg_succ segs.1 ?_ ?_ ?_ nodup.1
      · intro b hb hl
        rw [unlink_next L a b self, if_neg (freshX b hb), if_neg]
        exact fun e => hl (by rw [← e, prevA])
      · intro b hb
        rw [unlink_next L a b self, if_neg (freshX b (mem_of_getLast? hb)), if_pos]
        · simpa using nextA
        · exact prevA.trans hb
      · intro b hb
        rw [unlink_prev L a b self, if_neg (freshX b hb), if_neg]
        rw [nextA]
        intro e
        exact apart b hb b (mem_of_head? e) rfl
    · refine seg_pred segs.2.2.2 ?_ ?_ ?_ nodupY.2
      · intro b hb hh
        rw [unlink_prev L a b self, if_neg (freshY b hb), if_neg]
        exact fun e => hh (by rw [← e, nextA])
      · intro b hb
        rw [unlink_prev L a b self, if_neg (freshY b (mem_of_head? hb)), if_pos]
        · simpa using prevA
        · exact nextA.trans hb
      · intro b hb
        rw [unlink_next L a b self, if_neg (freshY b hb), if_neg]
        rw [prevA]
        intro e
        exact apart b (mem_of_getLast? e) b hb rfl

theorem unlink_other {a b : α} (h : L.Holds l) (ha : a ∈ l)
    (hb : b ∉ l) : (L.unlink a).next b = L.next b ∧ (L.unlink a).prev b = L.prev b := by
  obtain ⟨xs, ys, rfl⟩ := List.append_of_mem ha
  have prevA := seg_prev h.seg
  have nextA := seg_next h.seg
  have hba : b ≠ a := fun e => hb (by simp [e])
  have self : L.prev a ≠ some a := by
    rw [prevA]
    intro e
    exact (nodup_append.mp h.nodup).2.2 a (mem_of_getLast? e) a (by simp) rfl
  constructor
  · rw [unlink_next L a b self, if_neg hba, if_neg]
    rw [prevA]
    exact fun e => hb (by simp [mem_of_getLast? e])
  · rw [unlink_prev L a b self, if_neg hba, if_neg]
    rw [nextA]
    exact fun e => hb (by simp [mem_of_head? e])

@[simp] theorem unlink_next_self (L : Links α) (a : α) : (L.unlink a).next a = none := by
  simp [unlink]

@[simp] theorem unlink_prev_self (L : Links α) (a : α) : (L.unlink a).prev a = none := by
  simp [unlink]

/-- Inserting in front of ys puts the element between the two halves. -/
theorem insertBefore_holds (h : L.Holds (xs ++ ys))
    (fresh : a ∉ xs ++ ys) : (L.insertBefore a ys.head?).Holds (xs ++ a :: ys) := by
  have nodup := nodup_append.mp h.nodup
  have freshX : ∀ b ∈ xs, b ≠ a := fun b hb e => fresh (by simp [← e, hb])
  have freshY : ∀ b ∈ ys, b ≠ a := fun b hb e => fresh (by simp [← e, hb])
  have apart : ∀ b ∈ xs, ∀ c ∈ ys, b ≠ c := nodup.2.2
  have nodup' : (xs ++ a :: ys).Nodup := by
    refine nodup_append.mpr ⟨nodup.1, nodup_cons.mpr ⟨?_, nodup.2.1⟩, ?_⟩
    · exact fun ha => freshY a ha rfl
    · intro b hb c hc
      rcases List.mem_cons.mp hc with rfl | hc
      · exact freshX b hb
      · exact apart b hb c hc
  have segs := seg_append.mp h.seg
  -- The predecessor the new element gets is the last element of the first half.
  have predY : ∀ c zs, ys = c :: zs → L.prev c = xs.getLast? := by
    intro c zs e
    subst e
    exact seg_prev h.seg
  cases ys with
  | nil =>
    have tail : L.tail = xs.getLast? := by simpa using h.tail
    rcases eq_nil_or_concat xs with rfl | ⟨ws, z, rfl⟩
    · have empty := holds_nil h
      refine ⟨nodup', ?_, ?_, ?_⟩ <;>
        simp [insertBefore, empty.2, Seg]
    · rw [concat_eq_append] at *
      have tail : L.tail = some z := by simpa using tail
      have hza : z ≠ a := freshX z (by simp)
      refine ⟨nodup', ?_, ?_, ?_⟩
      · have hh := h.head
        simp only [insertBefore, List.head?_nil, tail, Function.update_self] at hh ⊢
        rw [hh]
        cases ws <;> simp
      · simp [insertBefore, tail]
      · refine seg_append.mpr ⟨?_, ?_⟩
        · refine seg_succ segs.1 ?_ ?_ ?_ nodup.1
          · intro b hb hl
            have hbz : b ≠ z := fun e => hl (by simp [e])
            simp [insertBefore, tail, hbz, freshX b hb]
          · intro b hb
            have hbz : b = z := by simpa using hb.symm
            simp [insertBefore, tail, hbz]
          · intro b hb
            simp [insertBefore, tail, freshX b hb]
        · simp [insertBefore, tail, Seg, hza.symm]
  | cons c zs =>
    have prevC := predY c zs rfl
    have hca : c ≠ a := freshY c (by simp)
    have tailY : Seg L.next L.prev (some c) zs none := segs.2.2.2
    have nodupY := nodup_cons.mp nodup.2.1
    rcases eq_nil_or_concat xs with rfl | ⟨ws, z, rfl⟩
    · have prevC : L.prev c = none := by simpa using prevC
      have nextC : L.next c = zs.head? := by simpa using segs.2.2.1
      refine ⟨nodup', ?_, ?_, ?_⟩
      · simp [insertBefore, prevC, hca.symm]
      · simpa [insertBefore, prevC, hca.symm] using h.tail
      · refine ⟨?_, ?_, ?_, ?_, seg_congr tailY ?_ ?_⟩
        · simp [insertBefore, prevC, hca.symm]
        · simp [insertBefore, prevC, hca.symm]
        · simp [insertBefore, prevC, hca.symm]
        · simpa [insertBefore, prevC, hca, hca.symm] using nextC
        · intro b hb
          simp [insertBefore, prevC, hca.symm, freshY b (by simp [hb])]
        · intro b hb
          have hbc : b ≠ c := fun e => nodupY.1 (e ▸ hb)
          simp [insertBefore, prevC, hca.symm, freshY b (by simp [hb]), hbc]
    · rw [concat_eq_append] at *
      have prevC : L.prev c = some z := by simpa using prevC
      have hza : z ≠ a := freshX z (by simp)
      have hzc : z ≠ c := apart z (by simp) c (by simp)
      have nextC : L.next c = zs.head? := by simpa using segs.2.2.1
      refine ⟨nodup', ?_, ?_, ?_⟩
      · have same : (ws ++ [z] ++ a :: c :: zs).head? = (ws ++ [z] ++ c :: zs).head? := by
          cases ws <;> simp
        rw [same, ← h.head]
        simp [insertBefore, prevC, hca.symm]
      · simpa [insertBefore, prevC, hca.symm] using h.tail
      · refine seg_append.mpr ⟨?_, ?_, ?_, ?_, ?_, seg_congr tailY ?_ ?_⟩
        · refine seg_succ segs.1 ?_ ?_ ?_ nodup.1
          · intro b hb hl
            have hbz : b ≠ z := fun e => hl (by simp [e])
            simp [insertBefore, prevC, hca.symm, hbz, freshX b hb]
          · intro b hb
            have hbz : b = z := by simpa using hb.symm
            simp [insertBefore, prevC, hca.symm, hbz]
          · intro b hb
            have hbc : b ≠ c := apart b hb c (by simp)
            simp [insertBefore, prevC, hca.symm, freshX b hb, hbc]
        · simp [insertBefore, prevC, hca.symm]
        · simp [insertBefore, prevC, hca.symm, hza.symm]
        · simp [insertBefore, prevC, hca.symm]
        · simpa [insertBefore, prevC, hca, hca.symm, hzc.symm] using nextC
        · intro b hb
          have hbz : b ≠ z := fun e => apart z (by simp) b (by simp [hb]) e.symm
          simp [insertBefore, prevC, hca.symm, freshY b (by simp [hb]), hbz]
        · intro b hb
          have hbc : b ≠ c := fun e => nodupY.1 (e ▸ hb)
          simp [insertBefore, prevC, hca.symm, freshY b (by simp [hb]), hbc]

theorem insertBefore_other {a b : α} (h : L.Holds (xs ++ ys)) (hb : b ∉ xs ++ ys) (hba : b ≠ a) :
    (L.insertBefore a ys.head?).next b = L.next b ∧ (L.insertBefore a ys.head?).prev b = L.prev b := by
  have hbx : ∀ z, xs.getLast? = some z → b ≠ z :=
    fun z hz e => hb (by simp [e, mem_of_getLast? hz])
  cases ys with
  | nil =>
    have tail : L.tail = xs.getLast? := by simpa using h.tail
    cases hz : xs.getLast? with
    | none => simp [insertBefore, tail, hz, hba]
    | some z => simp [insertBefore, tail, hz, hba, hbx z hz]
  | cons c zs =>
    have prevC : L.prev c = xs.getLast? := seg_prev h.seg
    have hbc : b ≠ c := fun e => hb (by simp [e])
    by_cases hca : a = c
    · subst hca
      simp [insertBefore, hba]
    · cases hz : xs.getLast? with
      | none => simp [insertBefore, prevC, hz, hba, hbc, hca]
      | some z => simp [insertBefore, prevC, hz, hba, hbc, hca, hbx z hz]

end Links

/-- A list head alone, with the two link fields of every element. -/
structure Threads (α : Type) where
  head : Option α
  next : α → Option α
  prev : α → Option α

namespace Threads

/-- Put a in front of the whole list. -/
def pushFront (T : Threads α) (a : α) : Threads α :=
  let T₁ := { T with prev := update T.prev a none, next := update T.next a T.head }
  let T₂ := match T.head with
    | some h => { T₁ with prev := update T₁.prev h (some a) }
    | none => T₁
  { T₂ with head := some a }

/-- Take a out of the list, patching its neighbours and the head, and clear its links. -/
def remove (T : Threads α) (a : α) : Threads α :=
  let T₁ := if T.head = some a then { T with head := T.next a } else T
  let T₂ := match T₁.prev a with
    | some p => { T₁ with next := update T₁.next p (T₁.next a) }
    | none => T₁
  let T₃ := match T₂.next a with
    | some n => { T₂ with prev := update T₂.prev n (T₂.prev a) }
    | none => T₂
  { T₃ with prev := update T₃.prev a none, next := update T₃.next a none }

structure Holds (T : Threads α) (l : List α) : Prop where
  nodup : l.Nodup
  head : T.head = l.head?
  seg : Seg T.next T.prev none l none

omit [DecidableEq α] in
theorem holds_congr {T T' : Threads α} (h : T.Holds l) (head : T'.head = T.head)
    (next : ∀ a ∈ l, T'.next a = T.next a) (prev : ∀ a ∈ l, T'.prev a = T.prev a) : T'.Holds l :=
  ⟨h.nodup, head.trans h.head, seg_congr h.seg next prev⟩

variable {T : Threads α}

theorem pushFront_holds (h : T.Holds l) (fresh : a ∉ l) : (T.pushFront a).Holds (a :: l) := by
  have neA : ∀ b ∈ l, b ≠ a := fun b hb e => fresh (e ▸ hb)
  cases l with
  | nil =>
    have head : T.head = none := h.head
    refine ⟨by simp, ?_, ?_⟩ <;> simp [pushFront, head, Seg]
  | cons c l =>
    have head : T.head = some c := h.head
    have hca : c ≠ a := neA c (by simp)
    have nodup := nodup_cons.mp h.nodup
    refine ⟨nodup_cons.mpr ⟨fresh, h.nodup⟩, by simp [pushFront, head], ?_⟩
    refine ⟨?_, ?_, ?_, ?_, seg_congr h.seg.2.2 ?_ ?_⟩
    · simp [pushFront, head, hca.symm]
    · simp [pushFront, head]
    · simp [pushFront, head]
    · simpa [pushFront, head, hca] using h.seg.2.1
    · intro b hb
      simp [pushFront, head, neA b (by simp [hb])]
    · intro b hb
      have hbc : b ≠ c := fun e => nodup.1 (e ▸ hb)
      simp [pushFront, head, neA b (by simp [hb]), hbc]

theorem pushFront_other {a b : α} (h : T.Holds l) (hb : b ∉ l) (hba : b ≠ a) :
    (T.pushFront a).next b = T.next b ∧ (T.pushFront a).prev b = T.prev b := by
  cases l with
  | nil =>
    have head : T.head = none := h.head
    simp [pushFront, head, hba]
  | cons c l =>
    have head : T.head = some c := h.head
    have hbc : b ≠ c := fun e => hb (by simp [e])
    simp [pushFront, head, hba, hbc]

/-- On a represented list the head pointer names an element exactly when it has no
predecessor, so this removal and that of Links do the same to the link fields. -/
theorem remove_eq_unlink (h : T.Holds (xs ++ a :: ys)) (tail : Option α) :
    (T.remove a).head = (Links.unlink ⟨T.head, tail, T.next, T.prev⟩ a).head ∧
    (T.remove a).next = (Links.unlink ⟨T.head, tail, T.next, T.prev⟩ a).next ∧
    (T.remove a).prev = (Links.unlink ⟨T.head, tail, T.next, T.prev⟩ a).prev := by
  have prevA := seg_prev h.seg
  have head := h.head
  unfold remove Links.unlink
  dsimp only
  rcases eq_nil_or_concat xs with rfl | ⟨ws, z, rfl⟩
  · have prevA : T.prev a = none := by simpa using prevA
    have head : T.head = some a := by simpa using head
    cases hna : T.next a <;> simp [prevA, head, hna]
  · rw [concat_eq_append] at *
    have prevA : T.prev a = some z := by simpa using prevA
    have hza : z ≠ a := (nodup_append.mp h.nodup).2.2 z (by simp) a (by simp)
    have head : T.head ≠ some a := by
      rw [head]
      cases ws with
      | nil => simpa using hza
      | cons w ws =>
        have hwa := (nodup_append.mp h.nodup).2.2 w (by simp) a (by simp)
        simpa using hwa
    cases hna : T.next a <;> simp [prevA, head, hna, hza.symm]

theorem remove_holds (h : T.Holds (xs ++ a :: ys)) : (T.remove a).Holds (xs ++ ys) := by
  have same := remove_eq_unlink h (xs ++ a :: ys).getLast?
  have held := Links.unlink_holds (L := ⟨T.head, (xs ++ a :: ys).getLast?, T.next, T.prev⟩)
    ⟨h.nodup, h.head, rfl, h.seg⟩
  exact ⟨held.nodup, same.1.trans held.head, by rw [same.2.1, same.2.2]; exact held.seg⟩

theorem remove_other {a b : α} (h : T.Holds l) (ha : a ∈ l)
    (hb : b ∉ l) : (T.remove a).next b = T.next b ∧ (T.remove a).prev b = T.prev b := by
  obtain ⟨xs, ys, rfl⟩ := List.append_of_mem ha
  have same := remove_eq_unlink h (xs ++ a :: ys).getLast?
  rw [same.2.1, same.2.2]
  exact Links.unlink_other (L := ⟨T.head, (xs ++ a :: ys).getLast?, T.next, T.prev⟩)
    ⟨h.nodup, h.head, rfl, h.seg⟩ ha hb

@[simp] theorem remove_next_self (T : Threads α) (a : α) : (T.remove a).next a = none := by
  simp [remove]

@[simp] theorem remove_prev_self (T : Threads α) (a : α) : (T.remove a).prev a = none := by
  simp [remove]

end Threads

end XSDK.Library
