import XSDK.Library.Inherit
import XSDK.Rtos.Mutex

/-! What a change of an effective priority does and what it leaves alone. The
recursion of the mutex code is the settling walk of the inheritance library, run
on the graph of who waits for whom. -/
namespace XSDK.Rtos

open Function (update update_self update_of_ne)
open Library

variable (cfg : Config)

/-- The linked lists represent their lists, in the order of the effective priorities. -/
structure ListsOk (k : Kernel) : Prop where
  ready : k.ready.Ok k.effectivePriority
  waiters : k.waiters.Ok k.effectivePriority
  owners : k.owners.Ok
  lt : ∀ t, k.taskTable t = true → t < cfg.maxTasks
  eff : ∀ t, k.taskTable t = true → k.effectivePriority t < cfg.maxPriorities
  base : ∀ t, k.taskTable t = true → k.task.basePriority t < cfg.maxPriorities
  waiter : ∀ t m, k.waiters.waitingOn t = some m →
    k.taskTable t = true ∧ (k.waitMap (.mutex m)).isSet t = true ∧ k.owners.owner m ≠ t ∧
      k.owners.owner m ≠ invalidTaskId
  owner : ∀ m, k.owners.owner m ≠ invalidTaskId →
    k.taskTable (k.owners.owner m) = true ∧ m < cfg.mutexCount

structure PriorityOnly (k k' : Kernel) : Prop where
  task : k'.task = k.task
  owners : k'.owners = k.owners
  taskTable : k'.taskTable = k.taskTable
  taskByPriority : k'.taskByPriority = k.taskByPriority
  waitMap : k'.waitMap = k.waitMap
  timeoutMap : k'.timeoutMap = k.timeoutMap
  tickCount : k'.tickCount = k.tickCount
  waitingOn : k'.waiters.waitingOn = k.waiters.waitingOn
  readyBits : ∀ t, k'.ready.map.isSet t = k.ready.map.isSet t
  blockedMap : k'.scheduler.blockedMap = k.scheduler.blockedMap
  currentTaskId : k'.scheduler.currentTaskId = k.scheduler.currentTaskId
  nextTaskId : k'.scheduler.nextTaskId = k.scheduler.nextTaskId
  isStarted : k'.scheduler.isStarted = k.scheduler.isStarted
  isSchedulePending : k'.scheduler.isSchedulePending = k.scheduler.isSchedulePending
  mirror : k.task.state k.scheduler.currentTaskId = .running →
    k.scheduler.currentPriority = k.effectivePriority k.scheduler.currentTaskId →
    k'.scheduler.currentPriority = k'.effectivePriority k'.scheduler.currentTaskId

namespace PriorityOnly

theorem refl (k : Kernel) : PriorityOnly k k :=
  ⟨rfl, rfl, rfl, rfl, rfl, rfl, rfl, rfl, fun _ => rfl, rfl, rfl, rfl, rfl, rfl, fun _ => id⟩

theorem trans {k k' k'' : Kernel} (h : PriorityOnly k k') (h' : PriorityOnly k' k'') :
    PriorityOnly k k'' where
  task := h'.task.trans h.task
  owners := h'.owners.trans h.owners
  taskTable := h'.taskTable.trans h.taskTable
  taskByPriority := h'.taskByPriority.trans h.taskByPriority
  waitMap := h'.waitMap.trans h.waitMap
  timeoutMap := h'.timeoutMap.trans h.timeoutMap
  tickCount := h'.tickCount.trans h.tickCount
  waitingOn := h'.waitingOn.trans h.waitingOn
  readyBits t := (h'.readyBits t).trans (h.readyBits t)
  blockedMap := h'.blockedMap.trans h.blockedMap
  currentTaskId := h'.currentTaskId.trans h.currentTaskId
  nextTaskId := h'.nextTaskId.trans h.nextTaskId
  isStarted := h'.isStarted.trans h.isStarted
  isSchedulePending := h'.isSchedulePending.trans h.isSchedulePending
  mirror running e := h'.mirror (by rw [h.task, h.currentTaskId]; exact running) (h.mirror running e)

end PriorityOnly

variable {cfg} {k : Kernel}

theorem Kernel.lookup_eq_some {t u : Nat} :
    k.lookup cfg t = some u ↔ t = u ∧ t < cfg.maxTasks ∧ k.taskTable t = true := by
  unfold Kernel.lookup
  split
  · rename_i h
    simp [h]
  · rename_i h
    simp [h]

variable {t : Nat}

theorem Kernel.lookup_eq_none : k.lookup cfg t = none ↔ ¬(t < cfg.maxTasks ∧ k.taskTable t = true) := by
  unfold Kernel.lookup
  split <;> simp_all

theorem ListsOk.lookup (h : ListsOk cfg k) (ht : k.taskTable t = true) : k.lookup cfg t = some t :=
  Kernel.lookup_eq_some.mpr ⟨rfl, h.lt t ht, ht⟩

theorem ListsOk.valid (h : ListsOk cfg k) (ht : k.taskTable t = true) : t ≠ invalidTaskId := by
  have := h.lt t ht
  have := cfg.tasks_word
  unfold invalidTaskId
  omega

theorem priorityChanged_spec (cfg : Config) {k : Kernel} {old : Nat → Nat} {t p : Nat}
    (eff : k.effectivePriority = update old t p) (waiters : k.waiters.Ok old)
    (bound : ∀ u m, k.waiters.waitingOn u = some m → u < cfg.maxTasks)
    (bit : ∀ m, k.waiters.waitingOn t = some m → (k.waitMap (.mutex m)).isSet t = true) :
    ∃ W, mutexWaiterPriorityChanged cfg k t (old t) = { k with waiters := W } ∧
      W.waitingOn = k.waiters.waitingOn ∧ W.Ok k.effectivePriority := by
  unfold mutexWaiterPriorityChanged
  have effT : k.effectivePriority t = p := by rw [eff, update_self]
  cases hw : k.waiters.waitingOn t with
  | none =>
    refine ⟨k.waiters, rfl, rfl, waiters.congr ?_⟩
    intro u hu
    rw [eff]
    refine update_of_ne ?_ _ _
    rintro rfl
    exact hu hw
  | some m =>
    dsimp only
    by_cases same : old t = k.effectivePriority t
    · rw [if_pos same]
      refine ⟨k.waiters, rfl, rfl, ?_⟩
      rwa [eff, ← effT, ← same, Function.update_eq_self]
    · rw [if_neg same]
      have removed := WaitLists.remove_ok waiters hw
      have left := WaitLists.waitingOn_remove hw
      -- The waiter itself is out of the lists, so their order ignores its new priority.
      have okNew : (k.waiters.remove m t).Ok k.effectivePriority := by
        refine removed.congr fun u hu => ?_
        rw [eff]
        refine update_of_ne ?_ _ _
        rintro rfl
        rw [left, update_self] at hu
        exact hu rfl
      have inserted := WaitLists.insert_ok (m := m) (t := t) okNew cfg.maxTasks
        (by rw [left, update_self]) (by
          intro u hu
          rw [left] at hu
          by_cases hut : u = t
          · rw [hut, update_self] at hu
            cases hu
          · rw [update_of_ne hut] at hu
            exact bound u m hu)
      refine ⟨(k.waiters.remove m t).insert cfg.maxTasks k.effectivePriority m t, ?_, ?_, inserted⟩
      · have bits : update (update k.waitMap (.mutex m) ((k.waitMap (.mutex m)).clear t)) (.mutex m)
            (((k.waitMap (.mutex m)).clear t).set t) = k.waitMap := by
          rw [Function.update_idem, Bitmap.set_clear (bit m hw), Function.update_eq_self]
        simp [mutexWaiterInsert, mutexWaiterRemove, hw, Kernel.setWaitBit, Kernel.clearWaitBit, bits]
      · rw [WaitLists.waitingOn_insert, left, Function.update_idem, ← hw, Function.update_eq_self]

theorem readyMoved {L : ReadyLists} {eff : Nat → Nat} (h : L.Ok eff) {t p : Nat} (ready : L.map.isSet t = true) :
    ((L.removeAtPriority t (eff t)).insertTail t p).Ok (update eff t p) ∧
      ∀ u, ((L.removeAtPriority t (eff t)).insertTail t p).map.isSet u = L.map.isSet u := by
  have out : (L.removeAtPriority t (eff t)).map.isSet t = false := by simp
  have removed : (L.removeAtPriority t (eff t)).Ok (update eff t p) := by
    refine (ReadyLists.removeAtPriority_ok h t).congr fun u hu => ?_
    refine update_of_ne ?_ _ _
    rintro rfl
    rw [out] at hu
    cases hu
  have inserted := ReadyLists.insertTail_ok removed out
  rw [update_self] at inserted
  refine ⟨inserted, fun u => ?_⟩
  by_cases hu : u = t
  · simp [hu, ready]
  · simp [hu]

theorem setEffectivePriority_eq (h : ListsOk cfg k) {t p : Nat} (ht : k.taskTable t = true)
    (hp : p < cfg.maxPriorities) :
    ∃ R W, setEffectivePriority cfg k t p =
        mirrorPriority { k with
          ready := R, waiters := W, effectivePriority := update k.effectivePriority t p } t p ∧
      R.Ok (update k.effectivePriority t p) ∧ (∀ u, R.map.isSet u = k.ready.map.isSet u) ∧
      W.Ok (update k.effectivePriority t p) ∧ W.waitingOn = k.waiters.waitingOn := by
  have bound : ∀ u m, k.waiters.waitingOn u = some m → u < cfg.maxTasks :=
    fun u m hu => h.lt u (h.waiter u m hu).1
  have bit : ∀ m, k.waiters.waitingOn t = some m → (k.waitMap (.mutex m)).isSet t = true :=
    fun m hm => (h.waiter t m hm).2.1
  unfold setEffectivePriority
  rw [if_neg (Nat.not_le.mpr hp), h.lookup ht]
  dsimp only
  by_cases ready : k.ready.map.isSet t = true
  · -- The task is out of the ready lists while its priority changes.
    rw [if_pos ready, if_pos ready]
    obtain ⟨W, hW, waitingW, okW⟩ := priorityChanged_spec cfg (t := t) (p := p)
      (k := { readyRemove k t with effectivePriority := update k.effectivePriority t p })
      rfl h.waiters bound bit
    obtain ⟨okR, bits⟩ := readyMoved h.ready (p := p) ready
    refine ⟨_, W, ?_, okR, bits, okW, waitingW⟩
    have same : (readyRemove k t).effectivePriority = k.effectivePriority := rfl
    rw [same, hW]
    simp only [readyAdd, mirrorPriority, update_self]
    rfl
  · rw [if_neg ready, if_neg ready]
    obtain ⟨W, hW, waitingW, okW⟩ := priorityChanged_spec cfg (t := t) (p := p)
      (k := { k with effectivePriority := update k.effectivePriority t p })
      rfl h.waiters bound bit
    refine ⟨k.ready, W, by rw [hW], ?_, fun _ => rfl, okW, waitingW⟩
    refine h.ready.congr fun u hu => ?_
    refine update_of_ne ?_ _ _
    rintro rfl
    exact ready hu

theorem setEffectivePriority_spec (h : ListsOk cfg k) {t p : Nat} (ht : k.taskTable t = true)
    (hp : p < cfg.maxPriorities) :
    ListsOk cfg (setEffectivePriority cfg k t p) ∧ PriorityOnly k (setEffectivePriority cfg k t p) ∧
      (setEffectivePriority cfg k t p).effectivePriority = update k.effectivePriority t p := by
  obtain ⟨R, W, eq, okR, bits, okW, waitingW⟩ := setEffectivePriority_eq h ht hp
  rw [eq]
  refine ⟨⟨okR, okW, h.owners, h.lt, ?_, h.base, ?_, h.owner⟩, ?_, rfl⟩
  · intro u hu
    change update k.effectivePriority t p u < cfg.maxPriorities
    by_cases hut : u = t
    · rwa [hut, update_self]
    · rw [update_of_ne hut]
      exact h.eff u hu
  · intro u m hu
    exact h.waiter u m (by rw [← waitingW]; exact hu)
  · refine ⟨rfl, rfl, rfl, rfl, rfl, rfl, rfl, waitingW, bits, rfl, rfl, rfl, rfl, rfl, ?_⟩
    intro _ old
    dsimp only [mirrorPriority]
    by_cases hc : k.scheduler.currentTaskId = t
    · rw [if_pos hc, hc, update_self]
    · rw [if_neg hc, update_of_ne hc]
      exact old

def Kernel.tasks (cfg : Config) (k : Kernel) : Finset Nat :=
  (Finset.range cfg.maxTasks).filter fun t => k.taskTable t = true

def Kernel.lender (cfg : Config) (k : Kernel) (t : Nat) : Option Nat :=
  (k.waiters.waitingOn t).bind fun m => k.lookup cfg (k.owners.owner m)

theorem Kernel.mem_tasks : t ∈ k.tasks cfg ↔ t < cfg.maxTasks ∧ k.taskTable t = true := by
  simp [Kernel.tasks]

section

variable (h : ListsOk cfg k)
include h

theorem ListsOk.mem_tasks : t ∈ k.tasks cfg ↔ k.taskTable t = true := by
  rw [Kernel.mem_tasks]
  exact ⟨fun e => e.2, fun e => ⟨h.lt t e, e⟩⟩

theorem ListsOk.lender_eq_some {t u : Nat} :
    k.lender cfg t = some u ↔ ∃ m, k.waiters.waitingOn t = some m ∧ k.owners.owner m = u := by
  unfold Kernel.lender
  cases hw : k.waiters.waitingOn t with
  | none => simp
  | some m =>
    have reg := (h.owner m (h.waiter t m hw).2.2.2).1
    simp [h.lookup reg]

theorem ListsOk.lender_closed : ∀ t ∈ k.tasks cfg, ∀ u, k.lender cfg t = some u → u ∈ k.tasks cfg := by
  intro t _ u hu
  obtain ⟨m, hm, rfl⟩ := h.lender_eq_some.mp hu
  exact h.mem_tasks.mpr (h.owner m (h.waiter t m hm).2.2.2).1

theorem ListsOk.lender_irrefl : ∀ t ∈ k.tasks cfg, k.lender cfg t ≠ some t := by
  intro t _ e
  obtain ⟨m, hm, own⟩ := h.lender_eq_some.mp e
  exact (h.waiter t m hm).2.2.1 own

theorem inheritedPriority_eq (ht : k.taskTable t = true) :
    inheritedPriority cfg k t = lent (k.tasks cfg) (k.lender cfg) k.task.basePriority k.effectivePriority t := by
  have small : k.task.basePriority t < invalidTaskId := by
    have := h.base t ht
    have := cfg.priorities_word
    unfold invalidTaskId
    omega
  have valid := h.valid ht
  refine eq_of_forall_le_iff fun x => ?_
  rw [inheritedPriority, h.owners.le_least valid (fun m hm => (h.owner m (hm ▸ valid)).2), le_lent]
  refine and_congr_right fun hx => ?_
  constructor
  · intro all c _ hc
    obtain ⟨m, hm, own⟩ := h.lender_eq_some.mp hc
    have le := all m own
    unfold mutexHighestWaiterPriority at le
    cases hd : k.waiters.head m with
    | none => exact absurd hm (h.waiters.head_none hd c)
    | some w =>
      rw [hd] at le
      exact le.trans ((h.waiters.head_some hd).2 c hm)
  · intro all m own
    unfold mutexHighestWaiterPriority
    cases hd : k.waiters.head m with
    | none =>
      dsimp only
      omega
    | some w =>
      have hw := (h.waiters.head_some hd).1
      exact all w (h.mem_tasks.mpr (h.waiter w m hw).1) (h.lender_eq_some.mpr ⟨m, hw, own⟩)

end

theorem PriorityOnly.tasks {k' : Kernel} (h : PriorityOnly k k') : k'.tasks cfg = k.tasks cfg := by
  simp [Kernel.tasks, h.taskTable]

theorem PriorityOnly.lender {k' : Kernel} (h : PriorityOnly k k') : k'.lender cfg = k.lender cfg := by
  funext t
  simp [Kernel.lender, Kernel.lookup, h.waitingOn, h.owners, h.taskTable]

theorem recomputeTaskPriority_spec (h : ListsOk cfg k) (ht : k.taskTable t = true) (depth : Nat) :
    ListsOk cfg (recomputeTaskPriority cfg depth k t) ∧
      PriorityOnly k (recomputeTaskPriority cfg depth k t) ∧
      (recomputeTaskPriority cfg depth k t).effectivePriority =
        settle (k.tasks cfg) (k.lender cfg) k.task.basePriority depth k.effectivePriority t := by
  induction depth generalizing k t with
  | zero => exact ⟨h, PriorityOnly.refl k, rfl⟩
  | succ depth ih =>
    have inherited := inheritedPriority_eq h ht
    have small : inheritedPriority cfg k t < cfg.maxPriorities := by
      rw [inherited]
      exact (lent_le_base _ _).trans_lt (h.base t ht)
    obtain ⟨ok, only, eff⟩ := setEffectivePriority_spec h ht small
    simp only [recomputeTaskPriority, settle, ← inherited]
    by_cases same : k.effectivePriority t = inheritedPriority cfg k t
    · rw [if_pos same, if_pos same]
      exact ⟨ok, only, eff⟩
    · rw [if_neg same, if_neg same, only.waitingOn]
      cases hw : k.waiters.waitingOn t with
      | none =>
        have root : k.lender cfg t = none := by simp [Kernel.lender, hw]
        rw [root]
        exact ⟨ok, only, eff⟩
      | some m =>
        have reg := (h.owner m (h.waiter t m hw).2.2.2).1
        have up : k.lender cfg t = some (k.owners.owner m) := h.lender_eq_some.mpr ⟨m, hw, rfl⟩
        have reg' : (setEffectivePriority cfg k t (inheritedPriority cfg k t)).taskTable
            (k.owners.owner m) = true := by rwa [only.taskTable]
        rw [up, only.owners]
        dsimp only
        rw [ok.lookup reg']
        obtain ⟨ok', only', eff'⟩ := ih ok reg'
        refine ⟨ok', only.trans only', ?_⟩
        rw [eff', only.tasks, only.lender, only.task, eff]

end XSDK.Rtos
