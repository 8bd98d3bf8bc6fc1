import XSDK.Rtos.OwnerLists
import XSDK.Rtos.ReadyLists

/-! The kernel context. A task context is named by its task id and a field of all
task contexts is one function, so that a NULL-able pointer to a task or to a mutex
is an optional number. The fields that form a linked list are kept together. -/
namespace XSDK.Rtos

open Function (update)

inductive TaskState where
  | ready
  | running
  | blocked
  | suspended
  | terminated
  deriving DecidableEq, Repr

/-- What a wait_map_ptr can point at: the wait map of one object. -/
inductive WaitObject where
  | sem (s : Nat)
  | mutex (m : Nat)
  | queueSend (q : Nat)
  | queueRecv (q : Nat)
  | event (e : Nat)
  | notify
  deriving DecidableEq, Repr

/-- A cleanup hook together with its argument. -/
inductive Cleanup where
  | mutexWaiter (m : Nat)
  | payload
  deriving DecidableEq, Repr

/-- The payload union is two words wide. The first is a pointer, an event's wait mask
or a notification value, the second an event's options or the clear-on-exit mask. -/
structure Payload where
  first : Word
  second : Word
  deriving DecidableEq, Repr

def Payload.zero : Payload := ⟨0#32, 0#32⟩

/-- The fields of the task contexts that belong to no list. -/
structure Tasks where
  basePriority : Nat → Nat
  state : Nat → TaskState
  waitMapPtr : Nat → Option WaitObject
  blockCleanup : Nat → Option Cleanup
  blockPayload : Nat → Payload
  wakeTick : Nat → Word
  blockStatus : Nat → Return
  notifyValue : Nat → Word
  hasNotifyPending : Nat → Bool

structure Scheduler where
  blockedMap : Bitmap
  currentTaskId : Nat
  nextTaskId : Nat
  currentPriority : Nat
  nextPriority : Nat
  isStarted : Bool
  isSchedulePending : Bool

structure Kernel where
  ready : ReadyLists
  waiters : WaitLists
  owners : OwnerLists
  effectivePriority : Nat → Nat
  task : Tasks
  scheduler : Scheduler
  taskTable : Nat → Bool
  taskByPriority : Nat → Option Nat
  waitMap : WaitObject → Bitmap
  timeoutMap : Bitmap
  tickCount : Word

namespace Kernel

/-- The context after the memset and the sentinels of the kernel's initialisation. -/
def cleared : Kernel where
  ready := ReadyLists.empty
  waiters := WaitLists.empty
  owners := OwnerLists.empty
  effectivePriority _ := 0
  task :=
    { basePriority := fun _ => 0
      state := fun _ => .ready
      waitMapPtr := fun _ => none
      blockCleanup := fun _ => none
      blockPayload := fun _ => Payload.zero
      wakeTick := fun _ => 0#32
      blockStatus := fun _ => .ok
      notifyValue := fun _ => 0#32
      hasNotifyPending := fun _ => false }
  scheduler :=
    { blockedMap := Bitmap.empty
      currentTaskId := invalidTaskId
      nextTaskId := invalidTaskId
      currentPriority := invalidTaskId
      nextPriority := invalidTaskId
      isStarted := false
      isSchedulePending := false }
  taskTable _ := false
  taskByPriority _ := none
  waitMap _ := Bitmap.empty
  timeoutMap := Bitmap.empty
  tickCount := 0#32

def setState (k : Kernel) (t : Nat) (state : TaskState) : Kernel :=
  { k with task := { k.task with state := update k.task.state t state } }

def setPending (k : Kernel) : Kernel :=
  { k with scheduler := { k.scheduler with isSchedulePending := true } }

def setWaitBit (k : Kernel) (w : WaitObject) (t : Nat) : Kernel :=
  { k with waitMap := update k.waitMap w ((k.waitMap w).set t) }

def clearWaitBit (k : Kernel) (w : WaitObject) (t : Nat) : Kernel :=
  { k with waitMap := update k.waitMap w ((k.waitMap w).clear t) }

def setPayload (k : Kernel) (t : Nat) (payload : Payload) : Kernel :=
  { k with task := { k.task with blockPayload := update k.task.blockPayload t payload } }

end Kernel

end XSDK.Rtos

/-! The scheduler, with the two mutex functions that it calls when a waiter's
priority changes. -/
namespace XSDK.Rtos

open Function (update)

variable (cfg : Config) (k : Kernel) (taskId : Nat)

def readyAdd : Kernel :=
  { k with ready := k.ready.insertTail taskId (k.effectivePriority taskId) }

def readyRemove : Kernel :=
  { k with ready := k.ready.removeAtPriority taskId (k.effectivePriority taskId) }

/-- A lookup in the task table; NULL also for an id outside the table. -/
def Kernel.lookup : Option Nat :=
  if taskId < cfg.maxTasks ∧ k.taskTable taskId = true then some taskId else none

def currentTask : Option Nat := k.lookup cfg k.scheduler.currentTaskId

def selectNext : Kernel × Return :=
  match k.ready.priorityMap.findFirstSet cfg.bitmapWidth with
  | none => (k, .noTasksReady)
  | some nextPriority =>
    match k.ready.head nextPriority with
    | none => (k, .ok) -- the source asserts that this cannot be
    | some nextTask =>
      let scheduler := { k.scheduler with
        nextTaskId := nextTask, nextPriority := k.effectivePriority nextTask }
      ({ k with scheduler := scheduler }, .ok)

def blockCurrent (waitMapPtr : Option WaitObject) : Kernel × Return :=
  if k.scheduler.isStarted = false then (k, .invalidState)
  else
    match currentTask cfg k with
    | none => (k, .invalidState)
    | some taskId =>
      let k := readyRemove k taskId
      let k := { k with scheduler := { k.scheduler with blockedMap := k.scheduler.blockedMap.set taskId } }
      let k := match waitMapPtr with
        | some w => k.setWaitBit w taskId
        | none => k
      let k := { k with task := { k.task with
        state := update k.task.state taskId .blocked
        waitMapPtr := update k.task.waitMapPtr taskId waitMapPtr
        blockStatus := update k.task.blockStatus taskId .ok } }
      (k.setPending, .ok)

def unblock (blockStatus : Return) : Kernel :=
  match k.lookup cfg taskId with
  | none => k
  | some taskId =>
    let k := match k.task.waitMapPtr taskId with
      | some w => k.clearWaitBit w taskId
      | none => k
    let k := { k with timeoutMap := k.timeoutMap.clear taskId }
    let k := { k with scheduler := { k.scheduler with blockedMap := k.scheduler.blockedMap.clear taskId } }
    let k := readyAdd k taskId
    let k := { k with task := { k.task with
      state := update k.task.state taskId .ready
      blockStatus := update k.task.blockStatus taskId blockStatus
      waitMapPtr := update k.task.waitMapPtr taskId none
      blockCleanup := update k.task.blockCleanup taskId none } }
    if k.effectivePriority taskId < k.scheduler.currentPriority then k.setPending else k

/-- The outgoing task goes back to the ready list if it is still running. -/
def preSwitch : Kernel :=
  match currentTask cfg k with
  | none => k
  | some prev => if k.task.state prev = .running then readyAdd (k.setState prev .ready) prev else k

def switch : Kernel :=
  let nextTask := k.scheduler.nextTaskId
  let k := preSwitch cfg k
  let k := readyRemove k nextTask
  let k := k.setState nextTask .running
  { k with scheduler := { k.scheduler with
    currentTaskId := nextTask
    currentPriority := k.effectivePriority nextTask
    isSchedulePending := false } }

/-- One candidate of the search; the pair is the best task id and its priority so far. -/
def better (best : Nat × Nat) (i : Nat) : Nat × Nat :=
  if i < cfg.maxTasks ∧ k.taskTable i = true then
    if k.effectivePriority i < best.2 ∨ k.effectivePriority i = best.2 ∧ i < best.1
    then (i, k.effectivePriority i) else best
  else best

def findHighestTaskInMap (taskMap : Bitmap) : Option Nat :=
  let best := (taskMap.setBits cfg.bitmapWidth).foldl (better cfg k) (invalidTaskId, cfg.maxPriorities)
  if best.1 = invalidTaskId then none else some best.1

def unblockFromWaitMap (w : WaitObject) : Kernel × Return :=
  match findHighestTaskInMap cfg k (k.waitMap w) with
  | none => (k, .noTasksReady)
  | some taskId => (unblock cfg k taskId .ok, .ok)

def mutexWaiterInsert (mutex taskId : Nat) : Kernel :=
  let k := { k with waiters := k.waiters.insert cfg.maxTasks k.effectivePriority mutex taskId }
  k.setWaitBit (.mutex mutex) taskId

def mutexWaiterRemove (mutex taskId : Nat) : Kernel :=
  if k.waiters.waitingOn taskId = some mutex then
    let k := { k with waiters := k.waiters.remove mutex taskId }
    k.clearWaitBit (.mutex mutex) taskId
  else k

def mutexWaiterPriorityChanged (taskId oldPriority : Nat) : Kernel :=
  match k.waiters.waitingOn taskId with
  | none => k
  | some mutex =>
    if oldPriority = k.effectivePriority taskId then k
    else mutexWaiterInsert cfg (mutexWaiterRemove k mutex taskId) mutex taskId

/-- The scheduler's copies of the priority of the current and of the next task. -/
def mirrorPriority (taskId priority : Nat) : Kernel :=
  { k with scheduler := { k.scheduler with
    currentPriority := if k.scheduler.currentTaskId = taskId then priority else k.scheduler.currentPriority
    nextPriority := if k.scheduler.nextTaskId = taskId then priority else k.scheduler.nextPriority } }

def setEffectivePriority (taskId effectivePriority : Nat) : Kernel :=
  if cfg.maxPriorities ≤ effectivePriority then k
  else
    match k.lookup cfg taskId with
    | none => k
    | some taskId =>
      let oldPriority := k.effectivePriority taskId
      let wasReady := k.ready.map.isSet taskId
      let k := if wasReady then readyRemove k taskId else k
      let k := { k with effectivePriority := update k.effectivePriority taskId effectivePriority }
      let k := mutexWaiterPriorityChanged cfg k taskId oldPriority
      let k := mirrorPriority k taskId effectivePriority
      if wasReady then readyAdd k taskId else k

def contextSwitch : Kernel :=
  let k := preSwitch cfg k
  let (k, ret) := selectNext cfg k
  if ret = .ok then switch cfg k else k

end XSDK.Rtos
