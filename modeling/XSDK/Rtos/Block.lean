import XSDK.Rtos.MutexSteps

/-! Blocking the current task: on a wait map, on a mutex, or on the clock alone. -/
namespace XSDK.Rtos

open Function (update update_self update_of_ne)
open Library

variable {cfg : Config} {k k' : Kernel} {t m : Nat}

structure Blocks (k k' : Kernel) (t : Nat) (target : Option WaitObject) (payload : Payload)
    (ticks : Word) : Prop where
  taskTable : k'.taskTable = k.taskTable
  taskByPriority : k'.taskByPriority = k.taskByPriority
  basePriority : k'.task.basePriority = k.task.basePriority
  notifyValue : k'.task.notifyValue = k.task.notifyValue
  hasNotifyPending : k'.task.hasNotifyPending = k.task.hasNotifyPending
  currentTaskId : k'.scheduler.currentTaskId = k.scheduler.currentTaskId
  isStarted : k'.scheduler.isStarted = k.scheduler.isStarted
  tickCount : k'.tickCount = k.tickCount
  pending : k'.scheduler.isSchedulePending = true
  state : k'.task.state = update k.task.state t .blocked
  waitMapPtr : k'.task.waitMapPtr = update k.task.waitMapPtr t target
  blockStatus : k'.task.blockStatus = update k.task.blockStatus t .ok
  blockPayload : k'.task.blockPayload = update k.task.blockPayload t payload
  wakeTick : k'.task.wakeTick =
    if ticks = waitForever then k.task.wakeTick else update k.task.wakeTick t (k.tickCount + ticks)
  timeout : ∀ u, k'.timeoutMap.isSet u = (k.timeoutMap.isSet u || decide (u = t ∧ ticks ≠ waitForever))

structure Runs (cfg : Config) (k : Kernel) (t : Nat) : Prop where
  started : k.scheduler.isStarted = true
  current : k.scheduler.currentTaskId = t
  lt : t < cfg.maxTasks
  reg : k.taskTable t = true
  running : k.task.state t = .running

theorem Runs.lookup (r : Runs cfg k t) : k.lookup cfg t = some t :=
  Kernel.lookup_eq_some.mpr ⟨rfl, r.lt, r.reg⟩

theorem Runs.currentTask (r : Runs cfg k t) : currentTask cfg k = some t := by
  unfold Rtos.currentTask
  rw [r.current, r.lookup]

def CalledBy (cfg : Config) (k : Kernel) (inIsr : Bool) (t : Nat) : Prop :=
  k.scheduler.isStarted = true → inIsr = false → Runs cfg k t

structure Caller (cfg : Config) (k : Kernel) (inIsr : Bool) (t : Nat) : Prop extends Runs cfg k t where
  task : inIsr = false

theorem CalledBy.cases {inIsr : Bool} (called : CalledBy cfg k inIsr t) :
    (k.scheduler.isStarted = false ∨ inIsr = true) ∨
      ¬(k.scheduler.isStarted = false ∨ inIsr = true) ∧ Caller cfg k inIsr t := by
  by_cases refused : k.scheduler.isStarted = false ∨ inIsr = true
  · exact .inl refused
  · rw [not_or] at refused
    obtain ⟨started, task⟩ := refused
    have notIsr : inIsr = false := by simpa using task
    refine .inr ⟨by simp [started, task], called ?_ notIsr, notIsr⟩
    simpa using started

def prepared (k : Kernel) (t : Nat) (ticks : Word) (cleanup : Option Cleanup) (payload : Payload) : Kernel :=
  (blockingPrepare k t ticks cleanup).setPayload t payload

theorem prepared_eq (k : Kernel) (t : Nat) (ticks : Word) (cleanup : Option Cleanup) (payload : Payload) :
    prepared k t ticks cleanup payload = { k with
      task := { k.task with
        blockStatus := update k.task.blockStatus t .ok
        blockCleanup := update k.task.blockCleanup t cleanup
        blockPayload := update k.task.blockPayload t payload
        wakeTick := if ticks = waitForever then k.task.wakeTick
          else update k.task.wakeTick t (k.tickCount + ticks) }
      timeoutMap := if ticks = waitForever then k.timeoutMap else k.timeoutMap.set t } := by
  unfold prepared blockingPrepare Kernel.setPayload
  by_cases forever : ticks = waitForever
  · simp [forever]
  · simp [forever]

theorem prepared_zero (k : Kernel) (t : Nat) (ticks : Word) (cleanup : Option Cleanup) :
    prepared k t ticks cleanup Payload.zero = blockingPrepare k t ticks cleanup := by
  unfold prepared blockingPrepare Kernel.setPayload
  by_cases forever : ticks = waitForever
  · simp [forever]
  · simp [forever]

theorem isSet_prepared (k : Kernel) (t u : Nat) (ticks : Word) (cleanup : Option Cleanup) (payload : Payload) :
    (prepared k t ticks cleanup payload).timeoutMap.isSet u =
      (k.timeoutMap.isSet u || decide (u = t ∧ ticks ≠ waitForever)) := by
  rw [prepared_eq]
  dsimp only
  by_cases forever : ticks = waitForever
  · simp [forever]
  · simp [forever, Bool.or_comm]

theorem prepared_lists (h : ListsOk cfg k) (t : Nat) (ticks : Word) (cleanup : Option Cleanup)
    (payload : Payload) : ListsOk cfg (prepared k t ticks cleanup payload) := by
  rw [prepared_eq]
  exact ⟨h.ready, h.waiters, h.owners, h.lt, h.eff, h.base, h.waiter, h.owner⟩

theorem TaskOk.prepared {u : Nat} (h : TaskOk k u) (hu : u ≠ t) (ticks : Word) (cleanup : Option Cleanup)
    (payload : Payload) : TaskOk (Rtos.prepared k t ticks cleanup payload) u := by
  have timeout : (Rtos.prepared k t ticks cleanup payload).timeoutMap.isSet u = k.timeoutMap.isSet u := by
    rw [isSet_prepared]
    simp [hu]
  rw [prepared_eq] at timeout ⊢
  refine h.congr ⟨rfl, rfl, rfl, ?_, rfl, rfl, fun _ => rfl, timeout, rfl⟩ h.running
  exact update_of_ne hu _ _

theorem Kernel.Inv.running_idle (h : k.Inv cfg) (running : k.task.state t = .running) :
    (∀ w, (k.waitMap w).isSet t = false) ∧ k.waiters.waitingOn t = none := by
  constructor
  · intro w
    rw [← Bool.not_eq_true, (h.task t).wait w, running]
    exact fun e => nomatch e.2.1
  · cases hw : k.waiters.waitingOn t with
    | none => rfl
    | some m =>
      have := (((h.task t).waiting m).mp hw).2.1
      rw [running] at this
      cases this

theorem blocks_of (target : Option WaitObject) {payload : Payload} {ticks : Word}
    {cleanup : Option Cleanup} (r : Runs cfg k t)
    (task : k'.task = (prepared k t ticks cleanup payload).task) (taskTable : k'.taskTable = k.taskTable)
    (taskByPriority : k'.taskByPriority = k.taskByPriority)
    (timeoutMap : k'.timeoutMap = (prepared k t ticks cleanup payload).timeoutMap)
    (tickCount : k'.tickCount = k.tickCount) (currentTaskId : k'.scheduler.currentTaskId = k.scheduler.currentTaskId)
    (isStarted : k'.scheduler.isStarted = k.scheduler.isStarted) :
    (blockCurrent cfg k' target).2 = .ok ∧ Blocks k (blockCurrent cfg k' target).1 t target payload ticks := by
  have current : k'.scheduler.currentTaskId = t := currentTaskId.trans r.current
  have found : k'.lookup cfg k'.scheduler.currentTaskId = some k'.scheduler.currentTaskId := by
    rw [current]
    exact Kernel.lookup_eq_some.mpr ⟨rfl, r.lt, by rw [taskTable]; exact r.reg⟩
  rw [blockCurrent_eq (isStarted.trans r.started) found, current, task, prepared_eq]
  refine ⟨rfl, taskTable, taskByPriority, rfl, rfl, rfl, currentTaskId, isStarted, tickCount, rfl, rfl, rfl, ?_,
    rfl, rfl, ?_⟩
  · exact Function.update_idem ..
  · intro u
    dsimp only
    rw [timeoutMap, isSet_prepared]

theorem block_spec (h : k.Inv cfg) (r : Runs cfg k t) (target : Option WaitObject)
    (free : ∀ m, target ≠ some (.mutex m)) (ticks : Word) (payload : Payload) :
    (blockCurrent cfg (prepared k t ticks (cleanupOf target) payload) target).2 = .ok ∧
      (blockCurrent cfg (prepared k t ticks (cleanupOf target) payload) target).1.Inv cfg ∧
      Blocks k (blockCurrent cfg (prepared k t ticks (cleanupOf target) payload) target).1
        t target payload ticks := by
  obtain ⟨noBit, idle⟩ := h.running_idle r.running
  have eq := prepared_eq k t ticks (cleanupOf target) payload
  have same : (prepared k t ticks (cleanupOf target) payload).task =
      (prepared k t ticks (cleanupOf target) payload).task := rfl
  obtain ⟨ok, blocks⟩ := blocks_of target r same
    (by rw [eq]) (by rw [eq]) rfl (by rw [eq]) (by rw [eq]) (by rw [eq])
  refine ⟨ok, ?_, blocks⟩
  refine blockCurrent_inv (t := t) (prepared_lists h.lists t ticks _ payload) (by rw [eq]; exact r.current) ?_
    (by rw [eq]; exact r.started) (by rw [eq]; exact r.reg) target ?_ ?_ ?_
  · exact fun u hu => (h.task u).prepared hu ticks _ payload
  · intro w hw
    rw [eq] at hw
    dsimp only at hw
    rw [noBit w] at hw
    cases hw
  · intro n
    rw [eq]
    dsimp only
    rw [idle]
    exact ⟨nofun, fun e => absurd e (free n)⟩
  · rw [eq]
    simp

theorem blockOn_spec (h : k.Inv cfg) (r : Runs cfg k t) (w : WaitObject) (free : ∀ m, w ≠ .mutex m)
    (ticks : Word) (payload : Payload) :
    ∃ k', blockOn cfg k t w ticks (cleanupOf (some w)) payload = (k', .blocked) ∧ k'.Inv cfg ∧
      Blocks k k' t (some w) payload ticks := by
  obtain ⟨ok, inv, blocks⟩ := block_spec h r (some w) (fun m e => free m (Option.some.inj e)) ticks payload
  refine ⟨_, ?_, inv, blocks⟩
  unfold blockOn
  change (if (blockCurrent cfg (prepared k t ticks _ payload) (some w)).2 = .ok then _ else _) = _
  rw [if_pos ok]
  rfl

def contended (cfg : Config) (k : Kernel) (t m : Nat) (ticks : Word) : Kernel :=
  mutexWaiterInsert cfg (blockingPrepare k t ticks (some (.mutexWaiter m))) m t

theorem contended_eq (cfg : Config) (k : Kernel) (t m : Nat) (ticks : Word) :
    contended cfg k t m ticks =
      { prepared k t ticks (some (.mutexWaiter m)) Payload.zero with
        waiters := k.waiters.insert cfg.maxTasks k.effectivePriority m t
        waitMap := update k.waitMap (.mutex m) ((k.waitMap (.mutex m)).set t) } := by
  unfold contended mutexWaiterInsert
  rw [← prepared_zero, prepared_eq]
  rfl

theorem isSet_setMutex (k : Kernel) (m t u : Nat) (w : WaitObject) :
    (update k.waitMap (.mutex m) ((k.waitMap (.mutex m)).set t) w).isSet u =
      ((k.waitMap w).isSet u || decide (u = t ∧ w = .mutex m)) := by
  by_cases hw : w = .mutex m
  · subst hw
    by_cases hu : u = t
    · simp [hu]
    · simp [hu]
  · simp [hw]

theorem contended_spec (h : k.Inv cfg) (r : Runs cfg k t) (owned : k.owners.owner m ≠ invalidTaskId)
    (other : k.owners.owner m ≠ t) (ticks : Word) :
    ListsOk cfg (contended cfg k t m ticks) ∧
      (contended cfg k t m ticks).waiters.waitingOn = update k.waiters.waitingOn t (some m) ∧
      ∀ u, u ≠ t → TaskOk (contended cfg k t m ticks) u := by
  obtain ⟨_, idle⟩ := h.running_idle r.running
  have lists := h.lists
  have bound : ∀ u, k.waiters.waitingOn u = some m → u < cfg.maxTasks :=
    fun u hu => lists.lt u (lists.waiter u m hu).1
  have waitingOn : (k.waiters.insert cfg.maxTasks k.effectivePriority m t).waitingOn =
      update k.waiters.waitingOn t (some m) := WaitLists.waitingOn_insert ..
  rw [contended_eq, prepared_eq]
  refine ⟨⟨lists.ready, WaitLists.insert_ok lists.waiters cfg.maxTasks idle bound, lists.owners, lists.lt, lists.eff,
    lists.base, ?_, lists.owner⟩, waitingOn, ?_⟩
  · intro u n hu
    dsimp only at hu ⊢
    rw [waitingOn] at hu
    rw [isSet_setMutex]
    by_cases hut : u = t
    · subst hut
      rw [update_self] at hu
      cases hu
      exact ⟨r.reg, by simp, other, owned⟩
    · rw [update_of_ne hut] at hu
      obtain ⟨regU, bit, rest⟩ := lists.waiter u n hu
      exact ⟨regU, by simp [bit], rest⟩
  · intro u hu
    have ok := (h.task u).prepared hu ticks (some (.mutexWaiter m)) Payload.zero
    rw [prepared_eq] at ok
    refine ok.congr ⟨rfl, rfl, rfl, rfl, rfl, rfl, ?_, rfl, ?_⟩ ok.running
    · intro w
      dsimp only
      rw [isSet_setMutex]
      simp [hu]
    · dsimp only
      rw [waitingOn, update_of_ne hu]

theorem mutexBlock_spec (h : k.Inv cfg) (r : Runs cfg k t) (owned : k.owners.owner m ≠ invalidTaskId)
    (other : k.owners.owner m ≠ t) (ticks : Word) :
    let k₁ := contended cfg k t m ticks
    let k₂ := mutexRecomputeTaskPriority cfg k₁ (k.owners.owner m)
    let k₃ := (blockCurrent cfg k₂ (some (.mutex m))).1
    mutexBlock cfg k t m (k.owners.owner m) ticks = (k₃, .blocked) ∧ k₃.Inv cfg ∧ PriorityOnly k₁ k₂ ∧
      Blocks k k₃ t (some (.mutex m)) Payload.zero ticks ∧
      k₃.effectivePriority = k₂.effectivePriority ∧ k₃.owners = k.owners ∧
      k₃.waiters.waitingOn = update k.waiters.waitingOn t (some m) := by
  intro k₁ k₂ k₃
  obtain ⟨noBit, _⟩ := h.running_idle r.running
  obtain ⟨lists, waitingOn, others⟩ := contended_spec h r owned other ticks
  have eq := contended_eq cfg k t m ticks
  have pre := prepared_eq k t ticks (some (.mutexWaiter m)) Payload.zero
  have ownerReg : k₁.taskTable (k.owners.owner m) = true := by
    change (contended cfg k t m ticks).taskTable (k.owners.owner m) = true
    rw [eq, pre]
    exact (h.lists.owner m owned).1
  obtain ⟨lists₂, only, _⟩ := recompute_spec lists ownerReg
  have frame : k₁.scheduler = k.scheduler ∧ k₁.taskTable = k.taskTable ∧
      k₁.taskByPriority = k.taskByPriority ∧ k₁.tickCount = k.tickCount ∧ k₁.owners = k.owners ∧
      k₁.task = (prepared k t ticks (some (.mutexWaiter m)) Payload.zero).task ∧
      k₁.timeoutMap = (prepared k t ticks (some (.mutexWaiter m)) Payload.zero).timeoutMap := by
    change (contended cfg k t m ticks).scheduler = _ ∧ _
    rw [show k₁ = contended cfg k t m ticks from rfl, eq, pre]
    exact ⟨rfl, rfl, rfl, rfl, rfl, rfl, rfl⟩
  obtain ⟨fSched, fTable, fByPrio, fTick, fOwners, fTask, fTimeout⟩ := frame
  have started₂ : k₂.scheduler.isStarted = k.scheduler.isStarted := only.isStarted.trans (by rw [fSched])
  have current₂ : k₂.scheduler.currentTaskId = k.scheduler.currentTaskId :=
    only.currentTaskId.trans (by rw [fSched])
  have table₂ : k₂.taskTable = k.taskTable := only.taskTable.trans fTable
  obtain ⟨ok, blocks⟩ := blocks_of (some (.mutex m)) r (only.task.trans fTask) table₂
    (only.taskByPriority.trans fByPrio) (only.timeoutMap.trans fTimeout) (only.tickCount.trans fTick)
    current₂ started₂
  have found : k₂.lookup cfg k₂.scheduler.currentTaskId = some k₂.scheduler.currentTaskId := by
    rw [current₂, r.current]
    exact Kernel.lookup_eq_some.mpr ⟨rfl, r.lt, by rw [table₂]; exact r.reg⟩
  have waitingOn₂ : k₂.waiters.waitingOn = update k.waiters.waitingOn t (some m) :=
    only.waitingOn.trans waitingOn
  refine ⟨?_, ?_, only, blocks, ?_, ?_, ?_⟩
  · unfold mutexBlock
    change (if (blockCurrent cfg k₂ (some (.mutex m))).2 = .ok then _ else _) = _
    rw [if_pos ok]
    rfl
  · refine blockCurrent_inv (t := t) lists₂ (current₂.trans r.current) ?_ (started₂.trans r.started)
      (by rw [table₂]; exact r.reg) _ ?_ ?_ ?_
    · exact fun u hu => (others u hu).priorityOnly only
    · intro w hw
      rw [only.waitMap, eq] at hw
      dsimp only at hw
      rw [isSet_setMutex, noBit w] at hw
      simpa using Eq.symm (by simpa using hw)
    · intro n
      rw [waitingOn₂, update_self]
      simp
    · rw [only.task, fTask, pre]
      simp [cleanupOf]
  · change (blockCurrent cfg k₂ (some (.mutex m))).1.effectivePriority = _
    rw [blockCurrent_eq (started₂.trans r.started) found]
  · change (blockCurrent cfg k₂ (some (.mutex m))).1.owners = _
    rw [blockCurrent_eq (started₂.trans r.started) found]
    exact only.owners.trans fOwners
  · change (blockCurrent cfg k₂ (some (.mutex m))).1.waiters.waitingOn = _
    rw [blockCurrent_eq (started₂.trans r.started) found]
    exact waitingOn₂

theorem acquire_inv (h : k.Inv cfg) (free : k.owners.owner m = invalidTaskId) (reg : k.taskTable t = true)
    (bound : m < cfg.mutexCount) : (mutexAcquire k t m).Inv cfg := by
  refine ⟨mutexAcquire_lists h.lists free reg bound ?_, fun u => (h.task u).acquire t m⟩
  exact fun u waiting => (h.lists.waiter u m waiting).2.2.2 free

theorem mutexLock_cases (h : k.Inv cfg) {inIsr : Bool} (called : CalledBy cfg k inIsr t) (m : Nat) (ticks : Word) :
    mutexLock cfg k inIsr m ticks = (k, .ret .invalidState) ∨
    (Caller cfg k inIsr t ∧ k.owners.owner m ≠ t ∧ mutexLock cfg k inIsr m ticks = (k, .ret .wouldBlock)) ∨
    (Caller cfg k inIsr t ∧ k.owners.owner m = invalidTaskId ∧
      mutexLock cfg k inIsr m ticks = (mutexAcquire k t m, .ret .ok)) ∨
    (Caller cfg k inIsr t ∧ k.owners.owner m ≠ invalidTaskId ∧ k.owners.owner m ≠ t ∧ ticks ≠ noWait ∧
      mutexLock cfg k inIsr m ticks = mutexBlock cfg k t m (k.owners.owner m) ticks) := by
  unfold mutexLock
  rcases called.cases with refused | ⟨accepted, runs⟩
  · rw [if_pos refused]
    exact .inl rfl
  · rw [if_neg accepted, runs.currentTask]
    dsimp only
    by_cases free : k.owners.owner m = invalidTaskId
    · rw [if_pos free]
      exact .inr (.inr (.inl ⟨runs, free, rfl⟩))
    · rw [if_neg free]
      by_cases mine : k.owners.owner m = t
      · rw [if_pos mine]
        exact .inl rfl
      · rw [if_neg mine]
        by_cases poll : ticks = noWait
        · rw [if_pos poll]
          exact .inr (.inl ⟨runs, mine, rfl⟩)
        · rw [if_neg poll, h.lists.lookup (h.lists.owner m free).1]
          exact .inr (.inr (.inr ⟨runs, free, mine, poll, rfl⟩))

end XSDK.Rtos
