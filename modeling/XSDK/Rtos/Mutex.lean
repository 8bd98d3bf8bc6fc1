import XSDK.Rtos.Scheduler

/-! The blocking helpers and the mutex with its priority inheritance. -/
namespace XSDK.Rtos

open Function (update)

variable (cfg : Config)

/-- How a call ends: with a return code and the value written for the caller, or blocked. -/
inductive Outcome where
  | returned (status : Return) (value : Word)
  | blocked
  deriving DecidableEq, Repr

abbrev Outcome.ret (status : Return) : Outcome := .returned status 0#32

variable (k : Kernel) (taskId : Nat)

def blockingPrepare (timeoutTicks : Word) (cleanup : Option Cleanup) : Kernel :=
  let k := { k with task := { k.task with
    blockStatus := update k.task.blockStatus taskId .ok
    blockCleanup := update k.task.blockCleanup taskId cleanup
    blockPayload := update k.task.blockPayload taskId Payload.zero } }
  if timeoutTicks = waitForever then k
  else
    { k with
      task := { k.task with wakeTick := update k.task.wakeTick taskId (k.tickCount + timeoutTicks) }
      timeoutMap := k.timeoutMap.set taskId }

def blockingCancel : Kernel :=
  { k with
    timeoutMap := k.timeoutMap.clear taskId
    task := { k.task with
      blockCleanup := update k.task.blockCleanup taskId none
      blockPayload := update k.task.blockPayload taskId Payload.zero } }

variable (mutex : Nat)

def mutexHighestWaiterPriority : Nat :=
  match k.waiters.head mutex with
  | some waiter => k.effectivePriority waiter
  | none => invalidTaskId

/-- The base priority, or a more urgent one lent through a held mutex. -/
def inheritedPriority : Nat :=
  OwnerLists.least (mutexHighestWaiterPriority k) k.owners.next cfg.mutexCount
    (k.owners.head taskId) (k.task.basePriority taskId)

/-- The recursion of the source, its depth counted down from the bound it has there. -/
def recomputeTaskPriority : Nat → Kernel → Nat → Kernel
  | 0, k, _ => k
  | depth + 1, k, taskId =>
    let inherited := inheritedPriority cfg k taskId
    let oldPriority := k.effectivePriority taskId
    let k := setEffectivePriority cfg k taskId inherited
    if oldPriority = inherited then k
    else
      match k.waiters.waitingOn taskId with
      | none => k
      | some mutex =>
        match k.lookup cfg (k.owners.owner mutex) with
        | none => k
        | some owner => recomputeTaskPriority depth k owner

def mutexRecomputeTaskPriority : Kernel :=
  recomputeTaskPriority cfg (cfg.maxTasks + 1) k taskId

def mutexRecomputeOwnerPriority : Kernel :=
  match k.lookup cfg (k.owners.owner mutex) with
  | none => k
  | some owner => mutexRecomputeTaskPriority cfg k owner

def mutexCleanupWaiter (taskId mutex : Nat) : Kernel :=
  match k.lookup cfg taskId with
  | none => k
  | some taskId => mutexRecomputeOwnerPriority cfg (mutexWaiterRemove k mutex taskId) mutex

def mutexOwnerRecompute (taskId oldPriority : Nat) : Kernel :=
  match k.waiters.waitingOn taskId with
  | none => k
  | some mutex =>
    if oldPriority = k.effectivePriority taskId then k else mutexRecomputeOwnerPriority cfg k mutex

/-- The hook that the tick runs for a task whose wait has expired. -/
def blockCleanup : Kernel :=
  match k.task.blockCleanup taskId with
  | none => k
  | some .payload => k.setPayload taskId Payload.zero
  | some (.mutexWaiter mutex) => mutexCleanupWaiter cfg k taskId mutex

/-- The tail of a blocking call of a task: wait on the object, or undo the preparation. -/
def blockOn (w : WaitObject) (timeoutTicks : Word)
    (cleanup : Option Cleanup) (payload : Payload) : Kernel × Outcome :=
  let k := blockingPrepare k taskId timeoutTicks cleanup
  let k := k.setPayload taskId payload
  let (k, ret) := blockCurrent cfg k (some w)
  if ret = .ok then (k, .blocked) else (blockingCancel k taskId, .ret ret)

def mutexAcquire (taskId mutex : Nat) : Kernel :=
  { k with owners := (k.owners.setOwner mutex taskId).insert taskId mutex }

def mutexRelease (taskId mutex : Nat) : Kernel :=
  { k with owners := (k.owners.remove taskId mutex).setOwner mutex invalidTaskId }

/-- The part of a lock that blocks: the owner inherits before the caller leaves. -/
def mutexBlock (caller mutex owner : Nat) (timeoutTicks : Word) : Kernel × Outcome :=
  let k := blockingPrepare k caller timeoutTicks (some (.mutexWaiter mutex))
  let k := mutexWaiterInsert cfg k mutex caller
  let k := mutexRecomputeTaskPriority cfg k owner
  let (k, ret) := blockCurrent cfg k (some (.mutex mutex))
  if ret = .ok then (k, .blocked)
  else
    let k := mutexWaiterRemove k mutex caller
    let k := blockingCancel k caller
    (mutexRecomputeTaskPriority cfg k owner, .ret ret)

def mutexLock (inIsr : Bool) (mutex : Nat) (timeoutTicks : Word) : Kernel × Outcome :=
  if k.scheduler.isStarted = false ∨ inIsr = true then (k, .ret .invalidState)
  else
    match currentTask cfg k with
    | none => (k, .ret .invalidState)
    | some caller =>
      if k.owners.owner mutex = invalidTaskId then (mutexAcquire k caller mutex, .ret .ok)
      else if k.owners.owner mutex = caller then (k, .ret .invalidState)
      else if timeoutTicks = noWait then (k, .ret .wouldBlock)
      else
        match k.lookup cfg (k.owners.owner mutex) with
        | none => (k, .ret .invalidState)
        | some owner => mutexBlock cfg k caller mutex owner timeoutTicks

/-- The first waiter leaves the list, becomes the owner and is woken. -/
def mutexHandOff (mutex waiter : Nat) : Kernel :=
  let k := mutexWaiterRemove k mutex waiter
  match k.lookup cfg waiter with
  | none => { k with owners := k.owners.setOwner mutex waiter }
  | some waiter =>
    let k := mutexAcquire k waiter mutex
    let k := unblock cfg k waiter .ok
    mutexRecomputeTaskPriority cfg k waiter

def mutexUnlock : Kernel × Outcome :=
  if k.scheduler.isStarted = false then (k, .ret .invalidState)
  else
    match k.lookup cfg (k.owners.owner mutex), currentTask cfg k with
    | some owner, some caller =>
      if caller ≠ owner then (k, .ret .invalidState)
      else
        let k := mutexRelease k owner mutex
        let k := match k.waiters.head mutex with
          | some waiter => mutexHandOff cfg k mutex waiter
          | none => k
        (mutexRecomputeTaskPriority cfg k owner, .ret .ok)
    | _, _ => (k, .ret .invalidState)

end XSDK.Rtos
