import XSDK.Rtos.Priority

/-! The kernel invariant and the two primitives that move a task between the maps:
blocking the current task and unblocking a blocked one. -/
namespace XSDK.Rtos

open Function (update)

variable (cfg : Config)

def cleanupOf : Option WaitObject → Option Cleanup
  | some (.mutex m) => some (.mutexWaiter m)
  | some (.queueSend _) | some (.queueRecv _) | some (.event _) => some .payload
  | some (.sem _) | some .notify | none => none

/-- The maps and the fields of one task agree with its state. -/
structure TaskOk (k : Kernel) (t : Nat) : Prop where
  live : k.taskTable t = true →
    k.task.state t = .ready ∨ k.task.state t = .running ∨ k.task.state t = .blocked
  ready : k.ready.map.isSet t = true ↔ k.taskTable t = true ∧ k.task.state t = .ready
  blocked : k.scheduler.blockedMap.isSet t = true ↔ k.taskTable t = true ∧ k.task.state t = .blocked
  running : k.taskTable t = true → k.task.state t = .running →
    k.scheduler.isStarted = true ∧ k.scheduler.currentTaskId = t ∧
      k.scheduler.currentPriority = k.effectivePriority t
  wait : ∀ w, (k.waitMap w).isSet t = true ↔
    k.taskTable t = true ∧ k.task.state t = .blocked ∧ k.task.waitMapPtr t = some w
  idle : k.taskTable t = true → k.task.state t ≠ .blocked →
    k.task.waitMapPtr t = none ∧ k.task.blockCleanup t = none
  timeout : k.timeoutMap.isSet t = true → k.taskTable t = true ∧ k.task.state t = .blocked
  waiting : ∀ m, k.waiters.waitingOn t = some m ↔
    k.taskTable t = true ∧ k.task.state t = .blocked ∧ k.task.waitMapPtr t = some (.mutex m)
  cleanup : k.taskTable t = true → k.task.state t = .blocked →
    k.task.blockCleanup t = cleanupOf (k.task.waitMapPtr t)

structure Kernel.Inv (k : Kernel) : Prop where
  lists : ListsOk cfg k
  task : ∀ t, TaskOk k t

structure SameTask (k k' : Kernel) (t : Nat) : Prop where
  table : k'.taskTable t = k.taskTable t
  state : k'.task.state t = k.task.state t
  waitMapPtr : k'.task.waitMapPtr t = k.task.waitMapPtr t
  blockCleanup : k'.task.blockCleanup t = k.task.blockCleanup t
  ready : k'.ready.map.isSet t = k.ready.map.isSet t
  blocked : k'.scheduler.blockedMap.isSet t = k.scheduler.blockedMap.isSet t
  wait : ∀ w, (k'.waitMap w).isSet t = (k.waitMap w).isSet t
  timeout : k'.timeoutMap.isSet t = k.timeoutMap.isSet t
  waitingOn : k'.waiters.waitingOn t = k.waiters.waitingOn t

variable {cfg} {k k' : Kernel} {t : Nat}

theorem TaskOk.congr (h : TaskOk k t) (same : SameTask k k' t)
    (running : k.taskTable t = true → k.task.state t = .running →
      k'.scheduler.isStarted = true ∧ k'.scheduler.currentTaskId = t ∧
        k'.scheduler.currentPriority = k'.effectivePriority t) : TaskOk k' t where
  live := by rw [same.table, same.state]; exact h.live
  ready := by rw [same.ready, same.table, same.state]; exact h.ready
  blocked := by rw [same.blocked, same.table, same.state]; exact h.blocked
  running := by rw [same.table, same.state]; exact running
  wait := by simp only [same.wait, same.table, same.state, same.waitMapPtr]; exact h.wait
  idle := by rw [same.table, same.state, same.waitMapPtr, same.blockCleanup]; exact h.idle
  timeout := by rw [same.timeout, same.table, same.state]; exact h.timeout
  waiting := by simp only [same.waitingOn, same.table, same.state, same.waitMapPtr]; exact h.waiting
  cleanup := by rw [same.table, same.state, same.blockCleanup, same.waitMapPtr]; exact h.cleanup

theorem TaskOk.priorityOnly (h : TaskOk k t) (only : PriorityOnly k k') : TaskOk k' t := by
  refine h.congr ⟨?_, ?_, ?_, ?_, only.readyBits t, ?_, ?_, ?_, ?_⟩ ?_
  · rw [only.taskTable]
  · rw [only.task]
  · rw [only.task]
  · rw [only.task]
  · rw [only.blockedMap]
  · simp [only.waitMap]
  · rw [only.timeoutMap]
  · rw [only.waitingOn]
  · intro reg running
    obtain ⟨started, current, priority⟩ := h.running reg running
    rw [only.isStarted, only.currentTaskId]
    refine ⟨started, current, ?_⟩
    have mirror := only.mirror (by rw [current]; exact running) (by rw [current]; exact priority)
    rwa [only.currentTaskId, current] at mirror

theorem Kernel.Inv.priorityOnly (h : k.Inv cfg) (only : PriorityOnly k k') (lists : ListsOk cfg k') : k'.Inv cfg :=
  ⟨lists, fun t => (h.task t).priorityOnly only⟩

theorem Kernel.Inv.setPending (h : k.Inv cfg) : k.setPending.Inv cfg := by
  obtain ⟨l, t⟩ := h
  refine ⟨⟨l.ready, l.waiters, l.owners, l.lt, l.eff, l.base, l.waiter, l.owner⟩, fun u => ?_⟩
  exact (t u).congr ⟨rfl, rfl, rfl, rfl, rfl, rfl, fun _ => rfl, rfl, rfl⟩ (t u).running

theorem Kernel.Inv.setPayload (h : k.Inv cfg) (u : Nat) (payload : Payload) : (k.setPayload u payload).Inv cfg := by
  obtain ⟨l, t⟩ := h
  refine ⟨⟨l.ready, l.waiters, l.owners, l.lt, l.eff, l.base, l.waiter, l.owner⟩, fun u => ?_⟩
  exact (t u).congr ⟨rfl, rfl, rfl, rfl, rfl, rfl, fun _ => rfl, rfl, rfl⟩ (t u).running

def Kernel.leaveWaitMap (k : Kernel) (t : Nat) : WaitObject → Bitmap :=
  match k.task.waitMapPtr t with
  | some w => update k.waitMap w ((k.waitMap w).clear t)
  | none => k.waitMap

theorem isSet_leaveWaitMap (k : Kernel) (t u : Nat) (w : WaitObject) :
    (k.leaveWaitMap t w).isSet u = ((k.waitMap w).isSet u && !decide (u = t ∧ k.task.waitMapPtr t = some w)) := by
  unfold Kernel.leaveWaitMap
  cases hp : k.task.waitMapPtr t with
  | none => simp
  | some v =>
    dsimp only
    by_cases hv : w = v
    · subst hv
      by_cases hu : u = t
      · simp [hu]
      · simp [hu]
    · simp [hv, Ne.symm hv]

theorem unblock_eq (found : k.lookup cfg t = some t) (status : Return) :
    unblock cfg k t status = { k with
      ready := k.ready.insertTail t (k.effectivePriority t)
      waitMap := k.leaveWaitMap t
      timeoutMap := k.timeoutMap.clear t
      task := { k.task with
        state := update k.task.state t .ready
        blockStatus := update k.task.blockStatus t status
        waitMapPtr := update k.task.waitMapPtr t none
        blockCleanup := update k.task.blockCleanup t none }
      scheduler := { k.scheduler with
        blockedMap := k.scheduler.blockedMap.clear t
        isSchedulePending := k.scheduler.isSchedulePending ||
          decide (k.effectivePriority t < k.scheduler.currentPriority) } } := by
  unfold unblock Kernel.leaveWaitMap
  rw [found]
  dsimp only
  cases hp : k.task.waitMapPtr t with
  | none =>
    by_cases lt : k.effectivePriority t < k.scheduler.currentPriority
    · simp [readyAdd, Kernel.setPending, lt]
    · simp [readyAdd, lt]
  | some w =>
    by_cases lt : k.effectivePriority t < k.scheduler.currentPriority
    · simp [readyAdd, Kernel.setPending, Kernel.clearWaitBit, lt]
    · simp [readyAdd, Kernel.clearWaitBit, lt]

theorem unblock_inv (lists : ListsOk cfg k) (others : ∀ u, u ≠ t → TaskOk k u)
    (reg : k.taskTable t = true) (notReady : k.ready.map.isSet t = false) (idle : k.waiters.waitingOn t = none)
    (wait : ∀ w, (k.waitMap w).isSet t = true → k.task.waitMapPtr t = some w) (status : Return) :
    (unblock cfg k t status).Inv cfg := by
  rw [unblock_eq (lists.lookup reg)]
  refine ⟨⟨ReadyLists.insertTail_ok lists.ready notReady, lists.waiters, lists.owners, lists.lt, lists.eff,
    lists.base, ?_, lists.owner⟩, fun u => ?_⟩
  · intro u m hu
    obtain ⟨regU, bit, rest⟩ := lists.waiter u m hu
    refine ⟨regU, ?_, rest⟩
    have hut : u ≠ t := by
      rintro rfl
      rw [idle] at hu
      cases hu
    dsimp only
    rw [isSet_leaveWaitMap]
    simp [bit, hut]
  · by_cases hu : u = t
    · subst hu
      refine ⟨?_, ?_, ?_, ?_, ?_, ?_, ?_, ?_, ?_⟩
      · simp
      · simp [reg]
      · simp
      · simp
      · intro w
        dsimp only
        rw [isSet_leaveWaitMap]
        cases hb : (k.waitMap w).isSet u with
        | false => simp
        | true => simp [wait w hb]
      · simp
      · simp
      · simp [idle]
      · simp
    · refine (others u hu).congr ⟨rfl, ?_, ?_, ?_, ?_, ?_, ?_, ?_, rfl⟩ (others u hu).running
      · simp [hu]
      · simp [hu]
      · simp [hu]
      · simp [hu]
      · simp [hu]
      · intro w
        dsimp only
        rw [isSet_leaveWaitMap]
        simp [hu]
      · simp [hu]

theorem Kernel.Inv.unblock (h : k.Inv cfg) (reg : k.taskTable t = true)
    (blocked : k.task.state t = .blocked) (free : ∀ m, k.task.waitMapPtr t ≠ some (.mutex m))
    (status : Return) : (Rtos.unblock cfg k t status).Inv cfg := by
  refine unblock_inv h.lists (fun u _ => h.task u) reg ?_ ?_ ?_ status
  · rw [← Bool.not_eq_true, (h.task t).ready, blocked]
    exact fun e => nomatch e.2
  · cases hw : k.waiters.waitingOn t with
    | none => rfl
    | some m => exact absurd (((h.task t).waiting m).mp hw).2.2 (free m)
  · exact fun w hw => (((h.task t).wait w).mp hw).2.2

theorem blockCurrent_eq (started : k.scheduler.isStarted = true)
    (found : k.lookup cfg k.scheduler.currentTaskId = some k.scheduler.currentTaskId) (target : Option WaitObject) :
    blockCurrent cfg k target = ({ k with
      ready := k.ready.removeAtPriority k.scheduler.currentTaskId
        (k.effectivePriority k.scheduler.currentTaskId)
      waitMap := match target with
        | some w => update k.waitMap w ((k.waitMap w).set k.scheduler.currentTaskId)
        | none => k.waitMap
      task := { k.task with
        state := update k.task.state k.scheduler.currentTaskId .blocked
        waitMapPtr := update k.task.waitMapPtr k.scheduler.currentTaskId target
        blockStatus := update k.task.blockStatus k.scheduler.currentTaskId .ok }
      scheduler := { k.scheduler with
        blockedMap := k.scheduler.blockedMap.set k.scheduler.currentTaskId
        isSchedulePending := true } }, .ok) := by
  unfold blockCurrent currentTask
  rw [started, found]
  cases target <;> rfl

theorem blockCurrent_inv (lists : ListsOk cfg k) (current : k.scheduler.currentTaskId = t)
    (others : ∀ u, u ≠ t → TaskOk k u) (started : k.scheduler.isStarted = true)
    (reg : k.taskTable t = true) (target : Option WaitObject)
    (wait : ∀ w, (k.waitMap w).isSet t = true → target = some w)
    (waiting : ∀ m, k.waiters.waitingOn t = some m ↔ target = some (.mutex m))
    (cleanup : k.task.blockCleanup t = cleanupOf target) :
    (blockCurrent cfg k target).1.Inv cfg := by
  rw [blockCurrent_eq started (current ▸ lists.lookup reg)]
  rw [current]
  have bits : ∀ w u, ((match target with
        | some w => update k.waitMap w ((k.waitMap w).set t)
        | none => k.waitMap) w).isSet u =
      ((k.waitMap w).isSet u || decide (u = t ∧ target = some w)) := by
    intro w u
    cases target with
    | none => simp
    | some v =>
      dsimp only
      by_cases hv : w = v
      · subst hv
        simp [Bool.or_comm]
      · simp [hv, Ne.symm hv]
  refine ⟨⟨ReadyLists.removeAtPriority_ok lists.ready t, lists.waiters, lists.owners, lists.lt, lists.eff,
    lists.base, ?_, lists.owner⟩, fun u => ?_⟩
  · intro u m hu
    obtain ⟨regU, bit, rest⟩ := lists.waiter u m hu
    refine ⟨regU, ?_, rest⟩
    dsimp only
    rw [bits, bit]
    rfl
  · by_cases hu : u = t
    · subst hu
      refine ⟨?_, ?_, ?_, ?_, ?_, ?_, ?_, ?_, ?_⟩
      · simp
      · simp
      · simp [reg]
      · simp
      · intro w
        dsimp only
        rw [bits]
        cases hb : (k.waitMap w).isSet u with
        | false => simp [reg]
        | true => simp [reg, wait w hb]
      · simp
      · simp [reg]
      · intro m
        dsimp only
        simp [reg, waiting m]
      · simp [cleanup]
    · refine (others u hu).congr ⟨rfl, ?_, ?_, rfl, ?_, ?_, ?_, rfl, rfl⟩ (others u hu).running
      · simp [hu]
      · simp [hu]
      · simp [hu]
      · simp [hu]
      · intro w
        dsimp only
        rw [bits]
        simp [hu]

end XSDK.Rtos
