import XSDK.Library.Links
import XSDK.Rtos.Bitmap

/-! The ready lists of the scheduler: one list of tasks for every priority, linked
through the task contexts, with a map of the ready tasks and a map of the
non-empty priorities beside it. -/
namespace XSDK.Rtos

open Function (update update_self update_of_ne)
open Library

/-- The scheduler's ready fields and the two ready links of every task context. -/
structure ReadyLists where
  map : Bitmap
  priorityMap : Bitmap
  head : Nat → Option Nat
  tail : Nat → Option Nat
  next : Nat → Option Nat
  prev : Nat → Option Nat

namespace ReadyLists

def empty : ReadyLists :=
  ⟨Bitmap.empty, Bitmap.empty, fun _ => none, fun _ => none, fun _ => none, fun _ => none⟩

/-- The list of one priority, seen as a linked list of its own. -/
def links (L : ReadyLists) (priority : Nat) : Links Nat :=
  ⟨L.head priority, L.tail priority, L.next, L.prev⟩

def setLinks (L : ReadyLists) (priority : Nat) (K : Links Nat) : ReadyLists :=
  { L with
    head := update L.head priority K.head
    tail := update L.tail priority K.tail
    next := K.next
    prev := K.prev }

def insertTail (L : ReadyLists) (taskId priority : Nat) : ReadyLists :=
  if L.map.isSet taskId then { L with priorityMap := L.priorityMap.set priority }
  else
    let L := L.setLinks priority ((L.links priority).insertBefore taskId none)
    { L with map := L.map.set taskId, priorityMap := L.priorityMap.set priority }

def removeAtPriority (L : ReadyLists) (taskId priority : Nat) : ReadyLists :=
  if L.map.isSet taskId then
    let L := L.setLinks priority ((L.links priority).unlink taskId)
    let L := { L with map := L.map.clear taskId }
    if L.head priority = none then { L with priorityMap := L.priorityMap.clear priority } else L
  else L

/-- The lists hold the ready tasks, each under its own priority. -/
structure Holds (L : ReadyLists) (eff : Nat → Nat) (lists : Nat → List Nat) : Prop where
  links : ∀ p, (L.links p).Holds (lists p)
  mem : ∀ p t, t ∈ lists p ↔ L.map.isSet t = true ∧ eff t = p
  priority : ∀ p, L.priorityMap.isSet p = true ↔ lists p ≠ []
  loose : ∀ t, L.map.isSet t = false → L.next t = none ∧ L.prev t = none

@[simp] theorem isSet_insertTail (L : ReadyLists) (t p u : Nat) :
    (L.insertTail t p).map.isSet u = (decide (u = t) || L.map.isSet u) := by
  unfold insertTail
  split
  · rename_i h
    by_cases hu : u = t
    · simp [hu, h]
    · simp [hu]
  · simp [setLinks]

@[simp] theorem isSet_removeAtPriority (L : ReadyLists) (t p u : Nat) :
    (L.removeAtPriority t p).map.isSet u = (decide (u ≠ t) && L.map.isSet u) := by
  unfold removeAtPriority
  split
  · dsimp only
    split <;> simp [setLinks]
  · rename_i h
    by_cases hu : u = t
    · simp [hu, h]
    · simp [hu]

theorem empty_holds (eff : Nat → Nat) : empty.Holds eff fun _ => [] := by
  refine ⟨fun p => ⟨List.nodup_nil, rfl, rfl, trivial⟩, ?_, ?_, fun t _ => ⟨rfl, rfl⟩⟩
  · intro p t
    simp [empty]
  · intro p
    simp [empty]

variable {L : ReadyLists} {eff : Nat → Nat} {lists : Nat → List Nat}

theorem Holds.apart (h : L.Holds eff lists) {p q t : Nat} (hp : t ∈ lists p) (hq : t ∈ lists q) : p = q :=
  ((h.mem p t).mp hp).2.symm.trans ((h.mem q t).mp hq).2

variable {eff' : Nat → Nat} {t : Nat}

theorem insertTail_holds (h : L.Holds eff lists) (fresh : L.map.isSet t = false) :
    (L.insertTail t (eff t)).Holds eff (update lists (eff t) (lists (eff t) ++ [t])) := by
  have out : ∀ p, t ∉ lists p := by
    intro p hp
    have := ((h.mem p t).mp hp).1
    simp [fresh] at this
  have old : (L.links (eff t)).Holds (lists (eff t) ++ []) := by simpa using h.links (eff t)
  have other : ∀ b, b ∉ lists (eff t) ++ [] → b ≠ t →
      ((L.links (eff t)).insertBefore t none).next b = (L.links (eff t)).next b ∧
        ((L.links (eff t)).insertBefore t none).prev b = (L.links (eff t)).prev b :=
    fun b hb hbt => Links.insertBefore_other old hb hbt
  have unfolded : L.insertTail t (eff t) =
      { L.setLinks (eff t) ((L.links (eff t)).insertBefore t none) with
        map := L.map.set t, priorityMap := L.priorityMap.set (eff t) } := by
    simp [insertTail, fresh, setLinks]
  rw [unfolded]
  refine ⟨?_, ?_, ?_, ?_⟩
  · intro p
    by_cases hp : p = eff t
    · subst hp
      have new : ((L.links (eff t)).insertBefore t none).Holds (lists (eff t) ++ [t]) :=
        Links.insertBefore_holds old (by simpa using out (eff t))
      simpa [ReadyLists.links, setLinks] using new
    · rw [update_of_ne hp]
      have kept : ∀ b ∈ lists p, b ∉ lists (eff t) ++ [] ∧ b ≠ t := by
        intro b hb
        refine ⟨fun hb' => hp (h.apart hb (by simpa using hb')), ?_⟩
        rintro rfl
        exact out p hb
      refine Links.holds_congr (h.links p) ?_ ?_ ?_ ?_
      · simp [ReadyLists.links, setLinks, hp]
      · simp [ReadyLists.links, setLinks, hp]
      · exact fun b hb => (other b (kept b hb).1 (kept b hb).2).1
      · exact fun b hb => (other b (kept b hb).1 (kept b hb).2).2
  · intro p u
    dsimp only
    rw [Bitmap.isSet_set]
    by_cases hp : p = eff t
    · subst hp
      rw [update_self, List.mem_append, h.mem]
      by_cases hu : u = t
      · simp [hu]
      · simp [hu]
    · rw [update_of_ne hp, h.mem]
      by_cases hu : u = t
      · subst hu
        simp [fresh, Ne.symm hp]
      · simp [hu]
  · intro p
    dsimp only
    rw [Bitmap.isSet_set]
    by_cases hp : p = eff t
    · simp [hp]
    · simp [hp, h.priority p]
  · intro u hu
    dsimp only at hu ⊢
    rw [Bitmap.isSet_set] at hu
    have hut : u ≠ t := by
      rintro rfl
      simp at hu
    have clear : L.map.isSet u = false := by simpa [hut] using hu
    have outU : u ∉ lists (eff t) ++ [] := by
      intro hm
      have := ((h.mem (eff t) u).mp (by simpa using hm)).1
      simp [clear] at this
    have same := other u outU hut
    exact ⟨same.1.trans (h.loose u clear).1, same.2.trans (h.loose u clear).2⟩

theorem removeAtPriority_holds (h : L.Holds eff lists) (ready : L.map.isSet t = true) :
    (L.removeAtPriority t (eff t)).Holds eff (update lists (eff t) ((lists (eff t)).erase t)) := by
  have mem : t ∈ lists (eff t) := (h.mem _ _).mpr ⟨ready, rfl⟩
  obtain ⟨xs, ys, hsplit⟩ := List.append_of_mem mem
  have old : (L.links (eff t)).Holds (xs ++ t :: ys) := hsplit ▸ h.links (eff t)
  have erased : (lists (eff t)).erase t = xs ++ ys := by
    have notX : t ∉ xs := fun hx => (List.nodup_append.mp old.nodup).2.2 t hx t (by simp) rfl
    rw [hsplit, List.erase_append_right _ notX, List.erase_cons_head]
  have new := Links.unlink_holds old
  have other := fun b hb => Links.unlink_other (a := t) (b := b) (h.links (eff t)) mem hb
  have fields : (L.removeAtPriority t (eff t)).map = L.map.clear t ∧
      (L.removeAtPriority t (eff t)).head = update L.head (eff t) ((L.links (eff t)).unlink t).head ∧
      (L.removeAtPriority t (eff t)).tail = update L.tail (eff t) ((L.links (eff t)).unlink t).tail ∧
      (L.removeAtPriority t (eff t)).next = ((L.links (eff t)).unlink t).next ∧
      (L.removeAtPriority t (eff t)).prev = ((L.links (eff t)).unlink t).prev ∧
      (L.removeAtPriority t (eff t)).priorityMap =
        if ((L.links (eff t)).unlink t).head = none then L.priorityMap.clear (eff t)
        else L.priorityMap := by
    unfold removeAtPriority
    rw [if_pos ready]
    dsimp only
    split <;> simp_all [setLinks]
  obtain ⟨fmap, fhead, ftail, fnext, fprev, fprio⟩ := fields
  rw [erased]
  refine ⟨?_, ?_, ?_, ?_⟩
  · intro p
    by_cases hp : p = eff t
    · subst hp
      rw [update_self]
      refine Links.holds_congr new ?_ ?_ ?_ ?_
      · simp [ReadyLists.links, fhead]
      · simp [ReadyLists.links, ftail]
      · simp [ReadyLists.links, fnext]
      · simp [ReadyLists.links, fprev]
    · rw [update_of_ne hp]
      have kept : ∀ b ∈ lists p, b ∉ lists (eff t) := fun b hb hb' => hp (h.apart hb hb')
      refine Links.holds_congr (h.links p) ?_ ?_ ?_ ?_
      · simp [ReadyLists.links, fhead, hp]
      · simp [ReadyLists.links, ftail, hp]
      · intro b hb
        exact (congrFun fnext b).trans (other b (kept b hb)).1
      · intro b hb
        exact (congrFun fprev b).trans (other b (kept b hb)).2
  · intro p u
    rw [fmap, Bitmap.isSet_clear]
    by_cases hp : p = eff t
    · subst hp
      rw [update_self, ← erased, (h.links (eff t)).nodup.mem_erase_iff, h.mem]
      simp [and_assoc]
    · rw [update_of_ne hp, h.mem]
      by_cases hu : u = t
      · simp [hu, Ne.symm hp]
      · simp [hu]
  · intro p
    rw [fprio, new.head]
    by_cases hp : p = eff t
    · subst hp
      have ne : lists (eff t) ≠ [] := List.ne_nil_of_mem mem
      rw [update_self]
      cases hxy : xs ++ ys with
      | nil => simp
      | cons c zs => simpa using (h.priority (eff t)).mpr ne
    · rw [update_of_ne hp, ← h.priority p]
      split <;> simp [hp]
  · intro u hu
    rw [fmap, Bitmap.isSet_clear] at hu
    rw [fnext, fprev]
    by_cases hut : u = t
    · subst hut
      exact ⟨Links.unlink_next_self _ _, Links.unlink_prev_self _ _⟩
    · have clear : L.map.isSet u = false := by simpa [hut] using hu
      have outU : u ∉ lists (eff t) := by
        intro hm
        have := ((h.mem (eff t) u).mp hm).1
        simp [clear] at this
      exact ⟨(other u outU).1.trans (h.loose u clear).1, (other u outU).2.trans (h.loose u clear).2⟩

theorem Holds.congr (h : L.Holds eff lists)
    (same : ∀ t, L.map.isSet t = true → eff' t = eff t) : L.Holds eff' lists := by
  refine ⟨h.links, ?_, h.priority, h.loose⟩
  intro p t
  rw [h.mem]
  constructor
  · exact fun ⟨ht, hp⟩ => ⟨ht, (same t ht).trans hp⟩
  · exact fun ⟨ht, hp⟩ => ⟨ht, (same t ht).symm.trans hp⟩

def Ok (L : ReadyLists) (eff : Nat → Nat) : Prop := ∃ lists, L.Holds eff lists

theorem insertTail_ok (h : L.Ok eff) (fresh : L.map.isSet t = false) : (L.insertTail t (eff t)).Ok eff :=
  ⟨_, insertTail_holds h.choose_spec fresh⟩

theorem removeAtPriority_ok (h : L.Ok eff) (t : Nat) : (L.removeAtPriority t (eff t)).Ok eff := by
  by_cases ready : L.map.isSet t = true
  · exact ⟨_, removeAtPriority_holds h.choose_spec ready⟩
  · have same : L.removeAtPriority t (eff t) = L := by simp [removeAtPriority, ready]
    rwa [same]

theorem Ok.congr (h : L.Ok eff)
    (same : ∀ t, L.map.isSet t = true → eff' t = eff t) : L.Ok eff' :=
  ⟨_, h.choose_spec.congr same⟩

/-- The first non-empty priority is led by a ready task of that priority, and no
ready task is more urgent. -/
theorem Ok.first (h : L.Ok eff) {width p : Nat} (first : L.priorityMap.findFirstSet width = some p) :
    ∃ t, L.head p = some t ∧ L.map.isSet t = true ∧ eff t = p ∧ ∀ u, L.map.isSet u = true → p ≤ eff u := by
  obtain ⟨lists, held⟩ := h
  obtain ⟨_, hset, least⟩ := Bitmap.findFirstSet_some first
  have ne := (held.priority p).mp hset
  obtain ⟨t, rest, hlist⟩ := List.exists_cons_of_ne_nil ne
  have head : L.head p = some t := (held.links p).head.trans (by rw [hlist]; rfl)
  have ht := (held.mem p t).mp (by simp [hlist])
  refine ⟨t, head, ht.1, ht.2, ?_⟩
  intro u hu
  by_contra lt
  have bit : L.priorityMap.isSet (eff u) = true :=
    (held.priority _).mpr (List.ne_nil_of_mem ((held.mem _ _).mpr ⟨hu, rfl⟩))
  rw [least (eff u) (by omega)] at bit
  cases bit

theorem Ok.first_isSome (h : L.Ok eff) {width t : Nat} (ready : L.map.isSet t = true)
    (bound : eff t < width) : ∃ p, L.priorityMap.findFirstSet width = some p := by
  obtain ⟨lists, held⟩ := h
  have bit : L.priorityMap.isSet (eff t) = true :=
    (held.priority _).mpr (List.ne_nil_of_mem ((held.mem _ _).mpr ⟨ready, rfl⟩))
  cases hf : L.priorityMap.findFirstSet width with
  | some p => exact ⟨p, rfl⟩
  | none =>
    rw [Bitmap.findFirstSet_none.mp hf _ bound] at bit
    cases bit

end ReadyLists

end XSDK.Rtos
