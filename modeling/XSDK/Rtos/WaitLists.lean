import Mathlib.Data.List.TakeWhile
import Mathlib.Data.Finset.Card
import XSDK.Library.Links
import XSDK.Rtos.Defs

/-! The waiter lists of the mutexes: one list of blocked tasks for every mutex, the
most urgent first and equals in arrival order. -/
namespace XSDK.Rtos

open Function (update update_self update_of_ne)
open Library

/-- The waiter ends of every mutex and the waiter fields of every task context. -/
structure WaitLists where
  head : Nat → Option Nat
  tail : Nat → Option Nat
  next : Nat → Option Nat
  prev : Nat → Option Nat
  waitingOn : Nat → Option Nat

namespace WaitLists

def empty : WaitLists :=
  ⟨fun _ => none, fun _ => none, fun _ => none, fun _ => none, fun _ => none⟩

/-- The list of one mutex, seen as a linked list of its own. -/
def links (W : WaitLists) (mutex : Nat) : Links Nat :=
  ⟨W.head mutex, W.tail mutex, W.next, W.prev⟩

def setLinks (W : WaitLists) (mutex : Nat) (K : Links Nat) : WaitLists :=
  { W with
    head := update W.head mutex K.head
    tail := update W.tail mutex K.tail
    next := K.next
    prev := K.prev }

/-- The walk to the first waiter that is less urgent than the priority. -/
def position (eff : Nat → Nat) (next : Nat → Option Nat) (priority : Nat) : Nat → Option Nat → Option Nat
  | 0, cursor => cursor
  | _ + 1, none => none
  | fuel + 1, some u => if eff u ≤ priority then position eff next priority fuel (next u) else some u

/-- Both functions leave the mutex's wait map to their callers. -/
def insert (W : WaitLists) (fuel : Nat) (eff : Nat → Nat) (mutex taskId : Nat) : WaitLists :=
  if W.waitingOn taskId = some mutex then W
  else
    let next := position eff W.next (eff taskId) fuel (W.head mutex)
    let W := W.setLinks mutex ((W.links mutex).insertBefore taskId next)
    { W with waitingOn := update W.waitingOn taskId (some mutex) }

def remove (W : WaitLists) (mutex taskId : Nat) : WaitLists :=
  if W.waitingOn taskId = some mutex then
    let W := W.setLinks mutex ((W.links mutex).unlink taskId)
    { W with waitingOn := update W.waitingOn taskId none }
  else W

/-- The lists hold the waiters of each mutex. -/
structure Holds (W : WaitLists) (lists : Nat → List Nat) : Prop where
  links : ∀ m, (W.links m).Holds (lists m)
  mem : ∀ m t, t ∈ lists m ↔ W.waitingOn t = some m
  loose : ∀ t, W.waitingOn t = none → W.next t = none ∧ W.prev t = none

def Sorted (eff : Nat → Nat) (lists : Nat → List Nat) : Prop :=
  ∀ m, (lists m).Pairwise fun a b => eff a ≤ eff b

@[simp] theorem waitingOn_insert (W : WaitLists) (fuel : Nat) (eff : Nat → Nat) (m t : Nat) :
    (W.insert fuel eff m t).waitingOn = update W.waitingOn t (some m) := by
  unfold insert
  split
  · rename_i h
    rw [← h, Function.update_eq_self]
  · rfl

variable {m t : Nat}

theorem waitingOn_remove {W : WaitLists} (h : W.waitingOn t = some m) :
    (W.remove m t).waitingOn = update W.waitingOn t none := by
  simp [remove, h, setLinks]

theorem empty_holds : empty.Holds fun _ => [] := by
  refine ⟨fun m => ⟨List.nodup_nil, rfl, rfl, trivial⟩, ?_, fun t _ => ⟨rfl, rfl⟩⟩
  intro m t
  simp [empty]

variable {l : List Nat} {eff' : Nat → Nat}

theorem position_eq (eff : Nat → Nat) (priority : Nat) {next prev : Nat → Option Nat} {fuel : Nat}
    {pred : Option Nat} (seg : Seg next prev pred l none) (enough : l.length ≤ fuel) :
    position eff next priority fuel l.head? = (l.dropWhile fun u => decide (eff u ≤ priority)).head? := by
  induction l generalizing pred fuel with
  | nil => cases fuel <;> rfl
  | cons u l ih =>
    cases fuel with
    | zero => simp at enough
    | succ fuel =>
      have tail := ih seg.2.2 (by simpa using enough)
      have nextU : next u = l.head? := by simpa using seg.2.1
      by_cases hu : eff u ≤ priority
      · simp only [List.head?_cons, position, if_pos hu, nextU, tail, List.dropWhile_cons]
        simp [hu]
      · simp [position, hu]

variable {W : WaitLists} {eff : Nat → Nat} {lists : Nat → List Nat}

theorem Holds.apart (h : W.Holds lists) {m n t : Nat} (hm : t ∈ lists m) (hn : t ∈ lists n) : m = n := by
  have := ((h.mem m t).mp hm).symm.trans ((h.mem n t).mp hn)
  exact Option.some.inj this

theorem length_le {bound : Nat} (nodup : l.Nodup) (lt : ∀ t ∈ l, t < bound) : l.length ≤ bound := by
  have sub : l.toFinset ⊆ Finset.range bound := by
    intro t ht
    exact Finset.mem_range.mpr (lt t (List.mem_toFinset.mp ht))
  have := Finset.card_le_card sub
  rwa [Finset.card_range, List.toFinset_card_of_nodup nodup] at this

theorem holds_setLinks (h : W.Holds lists) {K : Links Nat} {target : Option Nat} (held : K.Holds l)
    (target_ok : target = some m ∨ target = none) (mem : ∀ u, u ∈ l ↔ update W.waitingOn t target u = some m)
    (home : W.waitingOn t = some m ∨ W.waitingOn t = none)
    (other : ∀ b, b ∉ lists m → b ≠ t → K.next b = W.next b ∧ K.prev b = W.prev b)
    (self : target = none → K.next t = none ∧ K.prev t = none) :
    Holds { W.setLinks m K with waitingOn := update W.waitingOn t target } (update lists m l) := by
  have notT : ∀ n, n ≠ m → t ∉ lists n := by
    intro n hn ht
    have := (h.mem n t).mp ht
    rcases home with e | e <;> rw [e] at this
    · exact hn (Option.some.inj this).symm
    · cases this
  refine ⟨?_, ?_, ?_⟩
  · intro n
    by_cases hn : n = m
    · subst hn
      simpa [WaitLists.links, setLinks] using held
    · rw [update_of_ne hn]
      have kept : ∀ b ∈ lists n, b ∉ lists m ∧ b ≠ t := by
        intro b hb
        refine ⟨fun hb' => hn (h.apart hb hb'), ?_⟩
        rintro rfl
        exact notT n hn hb
      refine Links.holds_congr (h.links n) ?_ ?_ ?_ ?_
      · simp [WaitLists.links, setLinks, hn]
      · simp [WaitLists.links, setLinks, hn]
      · exact fun b hb => (other b (kept b hb).1 (kept b hb).2).1
      · exact fun b hb => (other b (kept b hb).1 (kept b hb).2).2
  · intro n u
    dsimp only
    by_cases hn : n = m
    · subst hn
      rw [update_self, mem]
    · rw [update_of_ne hn, h.mem]
      by_cases hu : u = t
      · subst hu
        have no := fun e => notT n hn ((h.mem n u).mpr e)
        rw [update_self]
        constructor
        · exact fun e => absurd e no
        · intro e
          rcases target_ok with ht | ht <;> rw [ht] at e
          · exact absurd (Option.some.inj e).symm hn
          · cases e
      · rw [update_of_ne hu]
  · intro u hu
    dsimp only at hu ⊢
    by_cases hut : u = t
    · subst hut
      rw [update_self] at hu
      exact self hu
    · rw [update_of_ne hut] at hu
      have out : u ∉ lists m := by
        intro hm
        rw [(h.mem m u).mp hm] at hu
        cases hu
      have same := other u out hut
      exact ⟨same.1.trans (h.loose u hu).1, same.2.trans (h.loose u hu).2⟩

theorem remove_holds (h : W.Holds lists) (waiting : W.waitingOn t = some m) :
    (W.remove m t).Holds (update lists m ((lists m).erase t)) := by
  have mem : t ∈ lists m := (h.mem m t).mpr waiting
  obtain ⟨xs, ys, hsplit⟩ := List.append_of_mem mem
  have old : (W.links m).Holds (xs ++ t :: ys) := hsplit ▸ h.links m
  have erased : (lists m).erase t = xs ++ ys := by
    have notX : t ∉ xs := fun hx => (List.nodup_append.mp old.nodup).2.2 t hx t (by simp) rfl
    rw [hsplit, List.erase_append_right _ notX, List.erase_cons_head]
  have unfolded : W.remove m t =
      { W.setLinks m ((W.links m).unlink t) with waitingOn := update W.waitingOn t none } := by
    simp [remove, waiting, setLinks]
  rw [unfolded]
  refine holds_setLinks h ?_ (.inr rfl) ?_ (.inl waiting) ?_ ?_
  · rw [erased]
    exact Links.unlink_holds old
  · intro u
    rw [(h.links m).nodup.mem_erase_iff, h.mem]
    by_cases hu : u = t
    · simp [hu]
    · simp [hu]
  · exact fun b hb _ => Links.unlink_other (h.links m) mem hb
  · exact fun _ => ⟨Links.unlink_next_self _ _, Links.unlink_prev_self _ _⟩

theorem insert_holds (h : W.Holds lists) {fuel m t : Nat} (idle : W.waitingOn t = none)
    (bound : ∀ u, W.waitingOn u = some m → u < fuel) :
    (W.insert fuel eff m t).Holds (update lists m
      (((lists m).takeWhile fun u => decide (eff u ≤ eff t)) ++
        t :: ((lists m).dropWhile fun u => decide (eff u ≤ eff t)))) := by
  set xs := (lists m).takeWhile fun u => decide (eff u ≤ eff t) with hxs
  set ys := (lists m).dropWhile fun u => decide (eff u ≤ eff t) with hys
  have hsplit : xs ++ ys = lists m := List.takeWhile_append_dropWhile
  have held := h.links m
  have short : (lists m).length ≤ fuel :=
    length_le held.nodup fun u hu => bound u ((h.mem m u).mp hu)
  have place : position eff W.next (eff t) fuel (W.head m) = ys.head? := by
    have := position_eq eff (eff t) held.seg short
    rwa [← held.head] at this
  have old : (W.links m).Holds (xs ++ ys) := hsplit ▸ held
  have fresh : t ∉ xs ++ ys := by
    rw [hsplit, h.mem, idle]
    exact nofun
  have unfolded : W.insert fuel eff m t =
      { W.setLinks m ((W.links m).insertBefore t ys.head?) with
        waitingOn := update W.waitingOn t (some m) } := by
    simp [insert, idle, setLinks, place]
  rw [unfolded]
  refine holds_setLinks h (Links.insertBefore_holds old fresh) (.inl rfl) ?_ (.inr idle) ?_ ?_
  · intro u
    have inList : u ∈ xs ++ t :: ys ↔ u = t ∨ u ∈ lists m := by
      rw [← hsplit]
      simp only [List.mem_append, List.mem_cons]
      tauto
    rw [inList, h.mem]
    by_cases hu : u = t
    · simp [hu]
    · simp [hu]
  · exact fun b hb hbt => Links.insertBefore_other old (by rwa [hsplit]) hbt
  · exact nofun

theorem sorted_erase (h : Sorted eff lists) (m t : Nat) : Sorted eff (update lists m ((lists m).erase t)) := by
  intro n
  by_cases hn : n = m
  · subst hn
    rw [update_self]
    exact (h n).sublist List.erase_sublist
  · rw [update_of_ne hn]
    exact h n

theorem sorted_insert (h : Sorted eff lists) (m t : Nat) :
    Sorted eff (update lists m
      (((lists m).takeWhile fun u => decide (eff u ≤ eff t)) ++
        t :: ((lists m).dropWhile fun u => decide (eff u ≤ eff t)))) := by
  intro n
  by_cases hn : n = m
  · subst hn
    rw [update_self]
    have sorted := h n
    rw [← List.takeWhile_append_dropWhile (p := fun u => decide (eff u ≤ eff t)) (l := lists n),
      List.pairwise_append] at sorted
    obtain ⟨before, after, across⟩ := sorted
    have low : ∀ u ∈ (lists n).takeWhile fun u => decide (eff u ≤ eff t), eff u ≤ eff t := by
      intro u hu
      simpa using List.mem_takeWhile_imp hu
    -- The first waiter behind is less urgent, and the rest follows in order.
    have high : ∀ u ∈ (lists n).dropWhile fun u => decide (eff u ≤ eff t), eff t ≤ eff u := by
      intro u hu
      cases hd : (lists n).dropWhile fun u => decide (eff u ≤ eff t) with
      | nil => simp [hd] at hu
      | cons c zs =>
        have hc : ¬ eff c ≤ eff t := by
          have := List.head?_dropWhile_not (fun u => decide (eff u ≤ eff t)) (lists n)
          simpa [hd] using this
        rw [hd] at hu after
        rcases List.mem_cons.mp hu with rfl | hz
        · omega
        · have := (List.pairwise_cons.mp after).1 u hz
          omega
    refine List.pairwise_append.mpr ⟨before, List.pairwise_cons.mpr ⟨high, after⟩, ?_⟩
    intro a ha b hb
    rcases List.mem_cons.mp hb with rfl | hb
    · exact low a ha
    · exact across a ha b hb
  · rw [update_of_ne hn]
    exact h n

theorem Sorted.congr (h : Sorted eff lists)
    (same : ∀ m, ∀ t ∈ lists m, eff' t = eff t) : Sorted eff' lists := by
  intro m
  refine (h m).imp_of_mem ?_
  intro a b ha hb le
  rw [same m a ha, same m b hb]
  exact le

def Ok (W : WaitLists) (eff : Nat → Nat) : Prop := ∃ lists, W.Holds lists ∧ Sorted eff lists

variable (h : W.Ok eff)
include h

theorem Ok.congr
    (same : ∀ t, W.waitingOn t ≠ none → eff' t = eff t) : W.Ok eff' := by
  obtain ⟨lists, held, sorted⟩ := h
  refine ⟨lists, held, sorted.congr ?_⟩
  intro m t ht
  exact same t (by rw [(held.mem m t).mp ht]; exact nofun)

theorem remove_ok (waiting : W.waitingOn t = some m) : (W.remove m t).Ok eff := by
  obtain ⟨lists, held, sorted⟩ := h
  exact ⟨_, remove_holds held waiting, sorted_erase sorted m t⟩

theorem insert_ok (fuel : Nat) (idle : W.waitingOn t = none)
    (bound : ∀ u, W.waitingOn u = some m → u < fuel) : (W.insert fuel eff m t).Ok eff := by
  obtain ⟨lists, held, sorted⟩ := h
  exact ⟨_, insert_holds held idle bound, sorted_insert sorted m t⟩

theorem Ok.head_some (head : W.head m = some t) :
    W.waitingOn t = some m ∧ ∀ u, W.waitingOn u = some m → eff t ≤ eff u := by
  obtain ⟨lists, held, sorted⟩ := h
  have first : (lists m).head? = some t := (held.links m).head.symm.trans head
  obtain ⟨rest, hlist⟩ := List.head?_eq_some_iff.mp first
  refine ⟨(held.mem m t).mp (by simp [hlist]), ?_⟩
  intro u hu
  have mem := (held.mem m u).mpr hu
  rw [hlist] at mem
  have order := sorted m
  rw [hlist] at order
  rcases List.mem_cons.mp mem with rfl | mem
  · exact le_rfl
  · exact (List.pairwise_cons.mp order).1 u mem

theorem Ok.head_none {m : Nat} (head : W.head m = none) (u : Nat) : W.waitingOn u ≠ some m := by
  obtain ⟨lists, held, _⟩ := h
  have none : lists m = [] := List.head?_eq_none_iff.mp ((held.links m).head.symm.trans head)
  intro hu
  have := (held.mem m u).mpr hu
  simp [none] at this

end WaitLists

end XSDK.Rtos
