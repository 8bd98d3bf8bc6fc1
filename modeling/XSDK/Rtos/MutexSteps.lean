import XSDK.Rtos.Wake

/-! Locking, unlocking and giving up on a mutex keep the invariant. Between the steps
of one call the invariant is broken for a single task, so the lemmas here speak
about the lists as a whole and about every other task. -/
namespace XSDK.Rtos

open Function (update update_self update_of_ne)
open Library

variable {cfg : Config} {k k' : Kernel} {t m : Nat}

theorem recompute_spec (h : ListsOk cfg k) (reg : k.taskTable t = true) :
    ListsOk cfg (mutexRecomputeTaskPriority cfg k t) ∧
      PriorityOnly k (mutexRecomputeTaskPriority cfg k t) ∧
      (mutexRecomputeTaskPriority cfg k t).effectivePriority =
        settle (k.tasks cfg) (k.lender cfg) k.task.basePriority (cfg.maxTasks + 1)
          k.effectivePriority t :=
  recomputeTaskPriority_spec h reg (cfg.maxTasks + 1)

theorem mutexWaiterRemove_eq (waiting : k.waiters.waitingOn t = some m) :
    mutexWaiterRemove k m t = { k with
      waiters := k.waiters.remove m t
      waitMap := update k.waitMap (.mutex m) ((k.waitMap (.mutex m)).clear t) } := by
  simp [mutexWaiterRemove, waiting, Kernel.clearWaitBit]

theorem isSet_clearMutex (k : Kernel) (m t u : Nat) (w : WaitObject) :
    (update k.waitMap (.mutex m) ((k.waitMap (.mutex m)).clear t) w).isSet u =
      ((k.waitMap w).isSet u && !decide (u = t ∧ w = .mutex m)) := by
  by_cases hw : w = .mutex m
  · subst hw
    by_cases hu : u = t
    · simp [hu]
    · simp [hu]
  · simp [hw]

theorem mutexWaiterRemove_spec (h : ListsOk cfg k) (waiting : k.waiters.waitingOn t = some m) :
    ListsOk cfg (mutexWaiterRemove k m t) ∧
      (mutexWaiterRemove k m t).waiters.waitingOn = update k.waiters.waitingOn t none ∧
      (∀ u, u ≠ t → TaskOk k u → TaskOk (mutexWaiterRemove k m t) u) ∧
      ∀ w u, ((mutexWaiterRemove k m t).waitMap w).isSet u =
        ((k.waitMap w).isSet u && !decide (u = t ∧ w = .mutex m)) := by
  have left := WaitLists.waitingOn_remove waiting
  rw [mutexWaiterRemove_eq waiting]
  refine ⟨⟨h.ready, WaitLists.remove_ok h.waiters waiting, h.owners, h.lt, h.eff, h.base, ?_, h.owner⟩,
    left, ?_, fun w u => isSet_clearMutex k m t u w⟩
  · intro u n hu
    dsimp only at hu ⊢
    rw [left] at hu
    have hut : u ≠ t := by
      rintro rfl
      rw [update_self] at hu
      cases hu
    rw [update_of_ne hut] at hu
    obtain ⟨reg, bit, rest⟩ := h.waiter u n hu
    refine ⟨reg, ?_, rest⟩
    rw [isSet_clearMutex]
    simp [bit, hut]
  · intro u hut ok
    refine ok.congr ⟨rfl, rfl, rfl, rfl, rfl, rfl, ?_, rfl, ?_⟩ ok.running
    · intro w
      dsimp only
      rw [isSet_clearMutex]
      simp [hut]
    · dsimp only
      rw [left, update_of_ne hut]

theorem mutexWaiterRemove_frame (waiting : k.waiters.waitingOn t = some m) :
    (mutexWaiterRemove k m t).task = k.task ∧ (mutexWaiterRemove k m t).owners = k.owners ∧
      (mutexWaiterRemove k m t).taskTable = k.taskTable ∧
      (mutexWaiterRemove k m t).taskByPriority = k.taskByPriority ∧
      (mutexWaiterRemove k m t).ready = k.ready ∧
      (mutexWaiterRemove k m t).effectivePriority = k.effectivePriority ∧
      (mutexWaiterRemove k m t).scheduler = k.scheduler ∧
      (mutexWaiterRemove k m t).timeoutMap = k.timeoutMap ∧
      (mutexWaiterRemove k m t).tickCount = k.tickCount := by
  rw [mutexWaiterRemove_eq waiting]
  exact ⟨rfl, rfl, rfl, rfl, rfl, rfl, rfl, rfl, rfl⟩

theorem mutexCleanupWaiter_eq (h : ListsOk cfg k) (waiting : k.waiters.waitingOn t = some m) :
    mutexCleanupWaiter cfg k t m = mutexRecomputeTaskPriority cfg (mutexWaiterRemove k m t) (k.owners.owner m) := by
  obtain ⟨reg, _, _, owned⟩ := h.waiter t m waiting
  have frame := mutexWaiterRemove_frame waiting
  have ownerReg := (h.owner m owned).1
  have found : (mutexWaiterRemove k m t).lookup cfg (k.owners.owner m) = some (k.owners.owner m) :=
    Kernel.lookup_eq_some.mpr ⟨rfl, h.lt _ ownerReg, by rw [frame.2.2.1]; exact ownerReg⟩
  unfold mutexCleanupWaiter
  rw [h.lookup reg]
  dsimp only
  unfold mutexRecomputeOwnerPriority
  rw [frame.2.1, found]

/-- The hook of a blocked task: a mutex waiter leaves its list and the owner recomputes,
any other task loses its payload at most. -/
theorem blockCleanup_cases (h : k.Inv cfg) (reg : k.taskTable t = true) (blocked : k.task.state t = .blocked) :
    (∃ m, k.waiters.waitingOn t = some m ∧ blockCleanup cfg k t =
      mutexRecomputeTaskPriority cfg (mutexWaiterRemove k m t) (k.owners.owner m)) ∨
    ((∀ m, k.task.waitMapPtr t ≠ some (.mutex m)) ∧ ∃ payload, blockCleanup cfg k t = k.setPayload t payload) := by
  have cleanup := (h.task t).cleanup reg blocked
  by_cases hm : ∃ m, k.task.waitMapPtr t = some (.mutex m)
  · obtain ⟨m, ptr⟩ := hm
    have waiting := ((h.task t).waiting m).mpr ⟨reg, blocked, ptr⟩
    refine .inl ⟨m, waiting, ?_⟩
    rw [← mutexCleanupWaiter_eq h.lists waiting]
    unfold blockCleanup
    rw [cleanup, ptr]
    rfl
  · refine .inr ⟨fun m e => hm ⟨m, e⟩, ?_⟩
    unfold blockCleanup
    rw [cleanup]
    cases hp : k.task.waitMapPtr t with
    | none => exact ⟨k.task.blockPayload t, by simp [cleanupOf, Kernel.setPayload]⟩
    | some w =>
      cases w with
      | mutex m => exact absurd ⟨m, hp⟩ hm
      | sem s => exact ⟨k.task.blockPayload t, by simp [cleanupOf, Kernel.setPayload]⟩
      | notify => exact ⟨k.task.blockPayload t, by simp [cleanupOf, Kernel.setPayload]⟩
      | queueSend q => exact ⟨_, rfl⟩
      | queueRecv q => exact ⟨_, rfl⟩
      | event e => exact ⟨_, rfl⟩

theorem payload_wakes (h : k.Inv cfg) (reg : k.taskTable t = true) (blocked : k.task.state t = .blocked)
    (free : ∀ m, k.task.waitMapPtr t ≠ some (.mutex m)) (payload : Payload) (status : Return) :
    (unblock cfg (k.setPayload t payload) t status).Inv cfg ∧
      Wakes k (unblock cfg (k.setPayload t payload) t status) (wokenBy t status) := by
  have inv := h.setPayload t payload
  have woken := unblock_wakes (k := k.setPayload t payload) (inv.lists.lookup (t := t) reg) blocked status
  refine ⟨inv.unblock reg blocked free status, ⟨woken.taskTable, woken.wakeTick, woken.notifyValue,
    woken.hasNotifyPending, woken.tickCount, woken.woke, woken.blocked, woken.blockStatus, woken.waitMapPtr, ?_, woken.timeout⟩,
    woken.state, woken.taskByPriority, woken.basePriority, woken.currentTaskId, woken.isStarted, woken.pending⟩
  intro u hu
  rw [woken.blockPayload u hu]
  exact update_of_ne (wokenBy_eq_none.mp hu) _ _

theorem expire_spec (h : k.Inv cfg) (reg : k.taskTable t = true) (blocked : k.task.state t = .blocked) :
    (unblock cfg (blockCleanup cfg k t) t .timeout).Inv cfg ∧
      Wakes k (unblock cfg (blockCleanup cfg k t) t .timeout) (wokenBy t .timeout) ∧
      (unblock cfg (blockCleanup cfg k t) t .timeout).owners = k.owners := by
  have notReady : k.ready.map.isSet t = false := by
    rw [← Bool.not_eq_true, (h.task t).ready, blocked]
    exact fun e => nomatch e.2
  rcases blockCleanup_cases h reg blocked with ⟨m, waiting, hook⟩ | ⟨free, payload, hook⟩
  · rw [hook]
    obtain ⟨lists, left, others, bits⟩ := mutexWaiterRemove_spec h.lists waiting
    obtain ⟨fTask, fOwners, fTable, fByPrio, fReady, fEff, fSched, fTimeout, fTick⟩ :=
      mutexWaiterRemove_frame waiting
    have ownerReg := (h.lists.owner m (h.lists.waiter t m waiting).2.2.2).1
    obtain ⟨lists', only, _⟩ := recompute_spec lists (t := k.owners.owner m) (by rw [fTable]; exact ownerReg)
    have regEnd : (mutexRecomputeTaskPriority cfg (mutexWaiterRemove k m t) (k.owners.owner m)).taskTable t =
        true := by rw [only.taskTable, fTable]; exact reg
    refine ⟨unblock_inv lists' ?_ regEnd ?_ ?_ ?_ .timeout, ?_, ?_⟩
    · exact fun u hu => (others u hu (h.task u)).priorityOnly only
    · rw [only.readyBits, fReady]
      exact notReady
    · rw [only.waitingOn, left, update_self]
    · intro w hw
      rw [only.waitMap, bits] at hw
      rw [only.task, fTask]
      simp only [Bool.and_eq_true] at hw
      exact (((h.task t).wait w).mp hw.1).2.2
    · have before : Wakes k (mutexWaiterRemove k m t) fun _ => none :=
        Wakes.none_of_task fTask fTable fByPrio fTimeout fTick (by rw [fSched]) (by rw [fSched])
          (by rw [fSched]; exact id)
      have woken := unblock_wakes (lists'.lookup regEnd) (by rw [only.task, fTask]; exact blocked) .timeout
      exact ((before.trans (.of_priorityOnly only)).trans woken).congr fun _ => rfl
    · rw [unblock_eq (lists'.lookup regEnd)]
      exact only.owners.trans fOwners
  · rw [hook]
    obtain ⟨inv, woken⟩ := payload_wakes h reg blocked free payload .timeout
    exact ⟨inv, woken, by rw [unblock_eq ((h.setPayload t payload).lists.lookup reg)]; rfl⟩

theorem mutexAcquire_lists (h : ListsOk cfg k) (free : k.owners.owner m = invalidTaskId)
    (reg : k.taskTable t = true) (bound : m < cfg.mutexCount)
    (waiters : ∀ u, k.waiters.waitingOn u ≠ some m) : ListsOk cfg (mutexAcquire k t m) := by
  have owner : (mutexAcquire k t m).owners.owner = update k.owners.owner m t := by
    simp [mutexAcquire, OwnerLists.setOwner]
  refine ⟨h.ready, h.waiters, OwnerLists.acquire_ok h.owners free (h.valid reg), h.lt, h.eff, h.base, ?_, ?_⟩
  · intro u n hu
    obtain ⟨regU, bit, other, owned⟩ := h.waiter u n hu
    have hn : n ≠ m := by
      rintro rfl
      exact waiters u hu
    rw [owner, update_of_ne hn]
    exact ⟨regU, bit, other, owned⟩
  · intro n hn
    rw [owner] at hn ⊢
    by_cases hnm : n = m
    · subst hnm
      rw [update_self]
      exact ⟨reg, bound⟩
    · rw [update_of_ne hnm] at hn ⊢
      exact h.owner n hn

theorem TaskOk.acquire (h : TaskOk k t) (u m : Nat) : TaskOk (mutexAcquire k u m) t :=
  h.congr ⟨rfl, rfl, rfl, rfl, rfl, rfl, fun _ => rfl, rfl, rfl⟩ h.running

theorem TaskOk.release (h : TaskOk k t) (u m : Nat) : TaskOk (mutexRelease k u m) t :=
  h.congr ⟨rfl, rfl, rfl, rfl, rfl, rfl, fun _ => rfl, rfl, rfl⟩ h.running

theorem owner_release (k : Kernel) (t m : Nat) :
    (mutexRelease k t m).owners.owner = update k.owners.owner m invalidTaskId := by
  simp [mutexRelease, OwnerLists.setOwner]

theorem owner_acquire (k : Kernel) (t m : Nat) : (mutexAcquire k t m).owners.owner = update k.owners.owner m t := by
  simp [mutexAcquire, OwnerLists.setOwner]

theorem mutexRelease_lists (h : ListsOk cfg k) (own : k.owners.owner m = t)
    (reg : k.taskTable t = true) (waiters : ∀ u, k.waiters.waitingOn u ≠ some m) :
    ListsOk cfg (mutexRelease k t m) := by
  refine ⟨h.ready, h.waiters, OwnerLists.release_ok h.owners own (h.valid reg), h.lt, h.eff, h.base, ?_, ?_⟩
  · intro u n hu
    obtain ⟨regU, bit, other, owned⟩ := h.waiter u n hu
    have hn : n ≠ m := by
      rintro rfl
      exact waiters u hu
    rw [owner_release, update_of_ne hn]
    exact ⟨regU, bit, other, owned⟩
  · intro n hn
    rw [owner_release] at hn ⊢
    by_cases hnm : n = m
    · subst hnm
      rw [update_self] at hn
      exact absurd rfl hn
    · rw [update_of_ne hnm] at hn ⊢
      exact h.owner n hn

def passed (k : Kernel) (t m w : Nat) : Kernel :=
  mutexAcquire (mutexWaiterRemove (mutexRelease k t m) m w) w m

variable {w : Nat}

theorem passed_eq (waiting : k.waiters.waitingOn w = some m) :
    passed k t m w = { k with
      owners := (((k.owners.remove t m).setOwner m invalidTaskId).setOwner m w).insert w m
      waiters := k.waiters.remove m w
      waitMap := update k.waitMap (.mutex m) ((k.waitMap (.mutex m)).clear w) } := by
  have waiting' : (mutexRelease k t m).waiters.waitingOn w = some m := waiting
  unfold passed
  rw [mutexWaiterRemove_eq waiting']
  rfl

theorem passed_spec (h : ListsOk cfg k) (own : k.owners.owner m = t)
    (reg : k.taskTable t = true) (waiting : k.waiters.waitingOn w = some m) :
    ListsOk cfg (passed k t m w) ∧
      (passed k t m w).owners.owner = update k.owners.owner m w ∧
      (passed k t m w).waiters.waitingOn = update k.waiters.waitingOn w none ∧
      ∀ u, u ≠ w → TaskOk k u → TaskOk (passed k t m w) u := by
  obtain ⟨regW, _, otherW, owned⟩ := h.waiter w m waiting
  have left := WaitLists.waitingOn_remove waiting
  have acquired := OwnerLists.acquire_ok (t := w) (m := m)
    (OwnerLists.release_ok h.owners own (h.valid reg)) (by simp [OwnerLists.setOwner]) (h.valid regW)
  have owner : ((((k.owners.remove t m).setOwner m invalidTaskId).setOwner m w).insert w m).owner =
      update k.owners.owner m w := by
    simp [OwnerLists.setOwner]
  rw [passed_eq waiting]
  refine ⟨⟨h.ready, WaitLists.remove_ok h.waiters waiting, acquired, h.lt, h.eff, h.base, ?_, ?_⟩, owner, left, ?_⟩
  · intro u n hu
    dsimp only at hu ⊢
    rw [left] at hu
    have huw : u ≠ w := by
      rintro rfl
      rw [update_self] at hu
      cases hu
    rw [update_of_ne huw] at hu
    obtain ⟨regU, bit, other, ownedN⟩ := h.waiter u n hu
    rw [isSet_clearMutex, owner]
    refine ⟨regU, by simp [bit, huw], ?_⟩
    by_cases hn : n = m
    · subst hn
      rw [update_self]
      exact ⟨Ne.symm huw, h.valid regW⟩
    · rw [update_of_ne hn]
      exact ⟨other, ownedN⟩
  · intro n hn
    dsimp only at hn ⊢
    rw [owner] at hn ⊢
    by_cases hnm : n = m
    · subst hnm
      rw [update_self]
      exact ⟨regW, (h.owner n owned).2⟩
    · rw [update_of_ne hnm] at hn ⊢
      exact h.owner n hn
  · intro u hu ok
    refine ok.congr ⟨rfl, rfl, rfl, rfl, rfl, rfl, ?_, rfl, ?_⟩ ok.running
    · intro v
      dsimp only
      rw [isSet_clearMutex]
      simp [hu]
    · dsimp only
      rw [left, update_of_ne hu]

theorem handOff_spec (h : k.Inv cfg) (own : k.owners.owner m = t)
    (reg : k.taskTable t = true) (waiting : k.waiters.waitingOn w = some m) :
    let k₁ := unblock cfg (passed k t m w) w .ok
    let k₂ := mutexRecomputeTaskPriority cfg k₁ w
    let k₃ := mutexRecomputeTaskPriority cfg k₂ t
    k₁.Inv cfg ∧ k₂.Inv cfg ∧ k₃.Inv cfg ∧ PriorityOnly k₁ k₂ ∧ PriorityOnly k₂ k₃ ∧ Wakes k k₃ (wokenBy w .ok) := by
  intro k₁ k₂ k₃
  obtain ⟨regW, blockedW, ptrW⟩ := ((h.task w).waiting m).mp waiting
  obtain ⟨lists, owner, waitingOn, others⟩ := passed_spec h.lists own reg waiting
  have eq := passed_eq (t := t) waiting
  have regW' : (passed k t m w).taskTable w = true := by rw [eq]; exact regW
  have inv₁ : k₁.Inv cfg := by
    refine unblock_inv lists (fun u hu => others u hu (h.task u)) regW' ?_ ?_ ?_ .ok
    · rw [eq, ← Bool.not_eq_true]
      dsimp only
      rw [(h.task w).ready, blockedW]
      exact fun e => nomatch e.2
    · rw [waitingOn, update_self]
    · intro v hv
      rw [eq] at hv ⊢
      dsimp only at hv ⊢
      rw [isSet_clearMutex, Bool.and_eq_true] at hv
      exact (((h.task w).wait v).mp hv.1).2.2
  have before : Wakes k (passed k t m w) fun _ => none := by
    rw [eq]
    exact Wakes.none_of_task rfl rfl rfl rfl rfl rfl rfl id
  have woken : Wakes (passed k t m w) k₁ (wokenBy w .ok) :=
    unblock_wakes (lists.lookup regW') (by rw [eq]; exact blockedW) .ok
  have table₁ : k₁.taskTable = k.taskTable := woken.taskTable.trans before.taskTable
  obtain ⟨lists₂, only₂, _⟩ := recompute_spec inv₁.lists (t := w) (by rw [table₁]; exact regW)
  have inv₂ := inv₁.priorityOnly only₂ lists₂
  obtain ⟨lists₃, only₃, _⟩ := recompute_spec inv₂.lists (t := t)
    (by rw [only₂.taskTable, table₁]; exact reg)
  refine ⟨inv₁, inv₂, inv₂.priorityOnly only₃ lists₃, only₂, only₃, ?_⟩
  have path := ((before.trans woken).trans (.of_priorityOnly only₂)).trans (.of_priorityOnly only₃)
  refine path.congr fun u => ?_
  by_cases hu : u = w
  · simp [wokenBy, hu]
  · simp [wokenBy, hu]

theorem mutexUnlock_cases (h : k.Inv cfg) (started : k.scheduler.isStarted = true)
    (current : k.scheduler.currentTaskId = t) (reg : k.taskTable t = true) (own : k.owners.owner m = t) :
    (k.waiters.head m = none ∧
      mutexUnlock cfg k m = (mutexRecomputeTaskPriority cfg (mutexRelease k t m) t, .ret .ok)) ∨
    ∃ w, k.waiters.head m = some w ∧ k.waiters.waitingOn w = some m ∧
      mutexUnlock cfg k m =
        (mutexRecomputeTaskPriority cfg
          (mutexRecomputeTaskPriority cfg (unblock cfg (passed k t m w) w .ok) w) t, .ret .ok) := by
  have found := h.lists.lookup reg
  have same : (mutexRelease k t m).waiters.head m = k.waiters.head m := rfl
  unfold mutexUnlock currentTask
  rw [if_neg (by rw [started]; rintro ⟨⟩), own, current, found]
  simp only [ne_eq, not_true_eq_false, if_false, same]
  cases head : k.waiters.head m with
  | none => exact .inl ⟨rfl, rfl⟩
  | some w =>
    have waiting := (h.lists.waiters.head_some head).1
    have regW := (h.lists.waiter w m waiting).1
    refine .inr ⟨w, rfl, waiting, ?_⟩
    have waiting' : (mutexRelease k t m).waiters.waitingOn w = some m := waiting
    have foundW : (mutexWaiterRemove (mutexRelease k t m) m w).lookup cfg w = some w := by
      rw [mutexWaiterRemove_eq waiting']
      exact h.lists.lookup regW
    dsimp only
    unfold mutexHandOff
    dsimp only
    rw [foundW]
    rfl

/-- The running task owns the mutex. -/
abbrev Kernel.Unlocks (k : Kernel) (m : Nat) : Prop :=
  k.owners.owner m = k.scheduler.currentTaskId ∧ k.scheduler.isStarted = true ∧
    k.taskTable k.scheduler.currentTaskId = true

theorem mutexUnlock_refused (other : ¬k.Unlocks m) : mutexUnlock cfg k m = (k, .ret .invalidState) := by
  unfold mutexUnlock
  split
  · rfl
  · rename_i started
    cases ho : k.lookup cfg (k.owners.owner m) with
    | none => rfl
    | some o =>
      cases hc : currentTask cfg k with
      | none => rfl
      | some c =>
        obtain ⟨rfl, _, regO⟩ := Kernel.lookup_eq_some.mp ho
        obtain ⟨rfl, _, regC⟩ := Kernel.lookup_eq_some.mp hc
        have foreign : k.owners.owner m ≠ k.scheduler.currentTaskId :=
          fun own => other ⟨own, Bool.not_eq_false _ ▸ started, regC⟩
        simp [Ne.symm foreign]

theorem release_spec (h : k.Inv cfg) (own : k.owners.owner m = t) (reg : k.taskTable t = true)
    (waiters : ∀ u, k.waiters.waitingOn u ≠ some m) :
    (mutexRelease k t m).Inv cfg ∧
      (mutexRecomputeTaskPriority cfg (mutexRelease k t m) t).Inv cfg ∧
      PriorityOnly (mutexRelease k t m) (mutexRecomputeTaskPriority cfg (mutexRelease k t m) t) ∧
      Wakes k (mutexRecomputeTaskPriority cfg (mutexRelease k t m) t) fun _ => none := by
  have inv : (mutexRelease k t m).Inv cfg :=
    ⟨mutexRelease_lists h.lists own reg waiters, fun u => (h.task u).release t m⟩
  obtain ⟨lists, only, _⟩ := recompute_spec inv.lists (t := t) reg
  have before : Wakes k (mutexRelease k t m) fun _ => none :=
    Wakes.none_of_task rfl rfl rfl rfl rfl rfl rfl id
  exact ⟨inv, inv.priorityOnly only lists, only, before.trans (.of_priorityOnly only)⟩

end XSDK.Rtos
