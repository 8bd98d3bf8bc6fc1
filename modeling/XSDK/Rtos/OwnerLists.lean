import XSDK.Rtos.WaitLists

/-! Mutex ownership: the owner recorded in every mutex, and for every task the list
of the mutexes it holds, linked through the mutexes. -/
namespace XSDK.Rtos

open Function (update update_self update_of_ne)
open Library

/-- The owner fields of every mutex and the list head of every task context. -/
structure OwnerLists where
  owner : Nat → Nat
  head : Nat → Option Nat
  next : Nat → Option Nat
  prev : Nat → Option Nat

namespace OwnerLists

def empty : OwnerLists :=
  ⟨fun _ => invalidTaskId, fun _ => none, fun _ => none, fun _ => none⟩

def threads (O : OwnerLists) (task : Nat) : Threads Nat := ⟨O.head task, O.next, O.prev⟩

def setThreads (O : OwnerLists) (task : Nat) (T : Threads Nat) : OwnerLists :=
  { O with head := update O.head task T.head, next := T.next, prev := T.prev }

def setOwner (O : OwnerLists) (mutex task : Nat) : OwnerLists :=
  { O with owner := update O.owner mutex task }

/-- A mutex that is linked somewhere, or is the head already, is left alone. -/
def insert (O : OwnerLists) (task mutex : Nat) : OwnerLists :=
  if O.prev mutex ≠ none ∨ O.next mutex ≠ none ∨ O.head task = some mutex then O
  else O.setThreads task ((O.threads task).pushFront mutex)

def remove (O : OwnerLists) (task mutex : Nat) : OwnerLists :=
  O.setThreads task ((O.threads task).remove mutex)

/-- The smallest value along a held list, started from the accumulator. -/
def least (value : Nat → Nat) (next : Nat → Option Nat) : Nat → Option Nat → Nat → Nat
  | 0, _, acc => acc
  | _ + 1, none, acc => acc
  | fuel + 1, some m, acc => least value next fuel (next m) (if value m < acc then value m else acc)

/-- The lists hold the mutexes of each task; a free mutex is in none. -/
structure Holds (O : OwnerLists) (lists : Nat → List Nat) : Prop where
  threads : ∀ t, (O.threads t).Holds (lists t)
  mem : ∀ t m, m ∈ lists t ↔ t ≠ invalidTaskId ∧ O.owner m = t
  loose : ∀ m, O.owner m = invalidTaskId → O.next m = none ∧ O.prev m = none

@[simp] theorem owner_insert (O : OwnerLists) (t m : Nat) : (O.insert t m).owner = O.owner := by
  unfold insert
  split <;> rfl

@[simp] theorem owner_remove (O : OwnerLists) (t m : Nat) : (O.remove t m).owner = O.owner := rfl

theorem empty_holds : empty.Holds fun _ => [] := by
  refine ⟨fun t => ⟨List.nodup_nil, rfl, trivial⟩, ?_, fun m _ => ⟨rfl, rfl⟩⟩
  intro t m
  simp only [List.not_mem_nil, false_iff, not_and]
  exact fun ht e => ht e.symm

variable {O : OwnerLists} {lists : Nat → List Nat}

theorem Holds.apart (h : O.Holds lists) {t u m : Nat} (ht : m ∈ lists t) (hu : m ∈ lists u) : t = u :=
  ((h.mem t m).mp ht).2.symm.trans ((h.mem u m).mp hu).2

variable {t m : Nat} {value : Nat → Nat} {l : List Nat}

theorem holds_setThreads (h : O.Holds lists) {t m target : Nat} {T : Threads Nat}
    (held : T.Holds l) (mem : ∀ n, n ∈ l ↔ t ≠ invalidTaskId ∧ update O.owner m target n = t)
    (home : O.owner m = t ∨ O.owner m = invalidTaskId) (moved : target = t ∨ target = invalidTaskId)
    (other : ∀ n, n ∉ lists t → n ≠ m → T.next n = O.next n ∧ T.prev n = O.prev n)
    (self : target = invalidTaskId → T.next m = none ∧ T.prev m = none) :
    ((O.setThreads t T).setOwner m target).Holds (update lists t l) := by
  have notM : ∀ u, u ≠ t → m ∉ lists u := by
    intro u hu hm
    obtain ⟨valid, own⟩ := (h.mem u m).mp hm
    rcases home with e | e
    · exact hu (own.symm.trans e)
    · exact valid (own.symm.trans e)
  refine ⟨?_, ?_, ?_⟩
  · intro u
    by_cases hu : u = t
    · subst hu
      simpa [OwnerLists.threads, setThreads, setOwner] using held
    · rw [update_of_ne hu]
      have kept : ∀ n ∈ lists u, n ∉ lists t ∧ n ≠ m := by
        intro n hn
        refine ⟨fun hn' => hu (h.apart hn hn'), ?_⟩
        rintro rfl
        exact notM u hu hn
      refine Threads.holds_congr (h.threads u) ?_ ?_ ?_
      · simp [OwnerLists.threads, setThreads, setOwner, hu]
      · exact fun n hn => (other n (kept n hn).1 (kept n hn).2).1
      · exact fun n hn => (other n (kept n hn).1 (kept n hn).2).2
  · intro u n
    dsimp only [setOwner, setThreads]
    by_cases hu : u = t
    · subst hu
      rw [update_self, mem]
    · rw [update_of_ne hu, h.mem]
      by_cases hn : n = m
      · subst hn
        have no : ¬(u ≠ invalidTaskId ∧ O.owner n = u) := fun e => notM u hu ((h.mem u n).mpr e)
        rw [update_self]
        constructor
        · exact fun e => absurd e no
        · rintro ⟨valid, e⟩
          rcases moved with ht | ht
          · exact absurd (e.symm.trans ht) hu
          · exact absurd (e.symm.trans ht) valid
      · rw [update_of_ne hn]
  · intro n hn
    dsimp only [setOwner, setThreads] at hn ⊢
    by_cases hnm : n = m
    · subst hnm
      rw [update_self] at hn
      exact self hn
    · rw [update_of_ne hnm] at hn
      have out : n ∉ lists t := by
        intro hm
        obtain ⟨valid, own⟩ := (h.mem t n).mp hm
        exact valid (own.symm.trans hn)
      have same := other n out hnm
      exact ⟨same.1.trans (h.loose n hn).1, same.2.trans (h.loose n hn).2⟩

theorem acquire_holds (h : O.Holds lists) (free : O.owner m = invalidTaskId) (valid : t ≠ invalidTaskId) :
    ((O.setOwner m t).insert t m).Holds (update lists t (m :: lists t)) := by
  have loose := h.loose m free
  have out : m ∉ lists t := by
    intro hm
    exact valid (((h.mem t m).mp hm).2.symm.trans free)
  have notHead : O.head t ≠ some m := by
    intro e
    apply out
    have := (h.threads t).head
    exact List.mem_of_head? (this.symm.trans e)
  have unfolded : (O.setOwner m t).insert t m = (O.setThreads t ((O.threads t).pushFront m)).setOwner m t := by
    simp [insert, setOwner, setThreads, threads, loose.1, loose.2, notHead]
  rw [unfolded]
  refine holds_setThreads h (Threads.pushFront_holds (h.threads t) out) ?_ (.inr free) (.inl rfl) ?_ ?_
  · intro n
    rw [List.mem_cons, h.mem]
    by_cases hn : n = m
    · simp [hn, valid]
    · simp [hn]
  · exact fun n hn hnm => Threads.pushFront_other (h.threads t) hn hnm
  · exact fun e => absurd e valid

theorem release_holds (h : O.Holds lists) (own : O.owner m = t) (valid : t ≠ invalidTaskId) :
    ((O.remove t m).setOwner m invalidTaskId).Holds (update lists t ((lists t).erase m)) := by
  have mem : m ∈ lists t := (h.mem t m).mpr ⟨valid, own⟩
  obtain ⟨xs, ys, hsplit⟩ := List.append_of_mem mem
  have old : (O.threads t).Holds (xs ++ m :: ys) := hsplit ▸ h.threads t
  have erased : (lists t).erase m = xs ++ ys := by
    have notX : m ∉ xs := fun hx => (List.nodup_append.mp old.nodup).2.2 m hx m (by simp) rfl
    rw [hsplit, List.erase_append_right _ notX, List.erase_cons_head]
  refine holds_setThreads h ?_ ?_ (.inl own) (.inr rfl) ?_ ?_
  · rw [erased]
    exact Threads.remove_holds old
  · intro n
    rw [(h.threads t).nodup.mem_erase_iff, h.mem]
    by_cases hn : n = m
    · simp [hn, Ne.symm valid]
    · simp [hn]
  · exact fun n hn _ => Threads.remove_other (h.threads t) mem hn
  · exact fun _ => ⟨Threads.remove_next_self _ _, Threads.remove_prev_self _ _⟩

def Ok (O : OwnerLists) : Prop := ∃ lists, O.Holds lists

theorem acquire_ok (h : O.Ok) (free : O.owner m = invalidTaskId)
    (valid : t ≠ invalidTaskId) : ((O.setOwner m t).insert t m).Ok :=
  ⟨_, acquire_holds h.choose_spec free valid⟩

theorem release_ok (h : O.Ok) (own : O.owner m = t) (valid : t ≠ invalidTaskId) :
    ((O.remove t m).setOwner m invalidTaskId).Ok :=
  ⟨_, release_holds h.choose_spec own valid⟩

theorem le_least_seg {next prev : Nat → Option Nat} {fuel acc x : Nat}
    {pred : Option Nat} (seg : Seg next prev pred l none) (enough : l.length ≤ fuel) :
    x ≤ least value next fuel l.head? acc ↔ x ≤ acc ∧ ∀ m ∈ l, x ≤ value m := by
  induction l generalizing pred fuel acc with
  | nil => cases fuel <;> simp [least]
  | cons m l ih =>
    cases fuel with
    | zero => simp at enough
    | succ fuel =>
      have nextM : next m = l.head? := by simpa using seg.2.1
      rw [List.head?_cons, least, nextM, ih seg.2.2 (by simpa using enough), List.forall_mem_cons, ← and_assoc]
      refine and_congr_left fun _ => ?_
      split <;> omega

theorem Ok.le_least (h : O.Ok) {fuel t acc x : Nat} (valid : t ≠ invalidTaskId)
    (bound : ∀ m, O.owner m = t → m < fuel) :
    x ≤ least value O.next fuel (O.head t) acc ↔ x ≤ acc ∧ ∀ m, O.owner m = t → x ≤ value m := by
  obtain ⟨lists, held⟩ := h
  have list := held.threads t
  have short : (lists t).length ≤ fuel :=
    WaitLists.length_le list.nodup fun m hm => bound m ((held.mem t m).mp hm).2
  have head : O.head t = (lists t).head? := list.head
  have seg : Seg O.next O.prev none (lists t) none := list.seg
  rw [head, le_least_seg seg short]
  simp [held.mem, valid]

end OwnerLists

end XSDK.Rtos
