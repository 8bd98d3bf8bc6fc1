import XSDK.Rtos.Mutex

/-! Task life cycle, priorities and the tick's timeout processing. -/
namespace XSDK.Rtos

open Function (update)

variable (cfg : Config)

/-- The caller's task description, as far as the kernel checks it. -/
structure TaskConfig where
  taskId : Nat
  priority : Nat
  hasEntry : Bool
  hasStack : Bool
  stackWords : Nat

def validateTaskConfig (config : TaskConfig) : Return :=
  if cfg.maxTasks ≤ config.taskId then .invalidArgument
  else if cfg.maxPriorities ≤ config.priority then .invalidArgument
  else if decide (config.taskId = cfg.idleTaskId) ≠ decide (config.priority = cfg.idlePriority) then
    .invalidArgument
  else if config.hasEntry = false then .nullPointer
  else if config.hasStack = false then .nullPointer
  else if config.stackWords < cfg.minStackWords then .invalidArgument
  else .ok

variable (k : Kernel)

/-- The first registered task of a base priority, by task id. -/
def taskFindFirstAtBasePriority (priority : Nat) (exclude : Option Nat) : Option Nat :=
  (List.range cfg.maxTasks).find? fun i =>
    k.taskTable i && decide (some i ≠ exclude) && decide (k.task.basePriority i = priority)

/-- The memset of a task context followed by the fields set from the description. -/
def initTaskContext (id priority : Nat) : Kernel :=
  { k with
    ready := { k.ready with next := update k.ready.next id none, prev := update k.ready.prev id none }
    waiters := { k.waiters with
      next := update k.waiters.next id none
      prev := update k.waiters.prev id none
      waitingOn := update k.waiters.waitingOn id none }
    owners := { k.owners with head := update k.owners.head id none }
    effectivePriority := update k.effectivePriority id priority
    task :=
      { basePriority := update k.task.basePriority id priority
        state := update k.task.state id .ready
        waitMapPtr := update k.task.waitMapPtr id none
        blockCleanup := update k.task.blockCleanup id none
        blockPayload := update k.task.blockPayload id Payload.zero
        wakeTick := update k.task.wakeTick id 0#32
        blockStatus := update k.task.blockStatus id .ok
        notifyValue := update k.task.notifyValue id 0#32
        hasNotifyPending := update k.task.hasNotifyPending id false } }

def registerTask (id priority : Nat) : Kernel :=
  let k := initTaskContext k id priority
  let k := { k with
    taskTable := update k.taskTable id true
    taskByPriority := match k.taskByPriority priority with
      | none => update k.taskByPriority priority (some id)
      | some _ => k.taskByPriority }
  readyAdd k id

def taskCreate (config : TaskConfig) : Kernel × Return :=
  let ret := validateTaskConfig cfg config
  if ret ≠ .ok then (k, ret)
  else if k.taskTable config.taskId = true then (k, .taskLimit)
  else
    let k := registerTask k config.taskId config.priority
    if k.scheduler.isStarted = true ∧ k.scheduler.currentTaskId ≠ invalidTaskId ∧
        k.effectivePriority config.taskId < k.scheduler.currentPriority
    then (k.setPending, .ok) else (k, .ok)

/-- The context left by the kernel's initialisation, with the timer daemon registered. -/
def kernelInit (timerStackWords : Nat) : Kernel × Return :=
  taskCreate cfg Kernel.cleared
    { taskId := cfg.timerTaskId
      priority := cfg.timerTaskPriority
      hasEntry := true
      hasStack := true
      stackWords := timerStackWords }

def kernelStart : Kernel × Return :=
  match k.taskByPriority cfg.idlePriority with
  | none => (k, .invalidState)
  | some _ =>
    let (k, ret) := selectNext cfg k
    if ret ≠ .ok then (k, .invalidState)
    else
      let first := k.scheduler.nextTaskId
      let k := { k with scheduler := { k.scheduler with
        currentTaskId := first, currentPriority := k.effectivePriority first } }
      let k := readyRemove k first
      let k := k.setState first .running
      ({ k with scheduler := { k.scheduler with isStarted := true } }, .ok)

/-- The source asserts that the exiting task is registered and holds no mutex. -/
def taskExit : Kernel :=
  let taskId := k.scheduler.currentTaskId
  let k := k.setState taskId .terminated
  let k := readyRemove k taskId
  let priority := k.task.basePriority taskId
  let k := { k with taskTable := update k.taskTable taskId false }
  let first := taskFindFirstAtBasePriority cfg k priority none
  let k := { k with taskByPriority := update k.taskByPriority priority first }
  k.setPending

def taskYield (inIsr : Bool) : Kernel :=
  if inIsr then k else k.setPending

/-- The effective priority a task gets with a new base priority. -/
def newEffective (taskId oldBase newPriority : Nat) : Nat :=
  let isBoosted := decide (k.effectivePriority taskId < oldBase)
  if isBoosted = true ∧ k.effectivePriority taskId < newPriority then k.effectivePriority taskId
  else newPriority

def setBasePriority (taskId newPriority : Nat) : Kernel :=
  let oldBase := k.task.basePriority taskId
  let byPriority := if k.taskByPriority oldBase = some taskId
    then update k.taskByPriority oldBase (taskFindFirstAtBasePriority cfg k oldBase (some taskId))
    else k.taskByPriority
  let byPriority := if byPriority newPriority = none
    then update byPriority newPriority (some taskId) else byPriority
  { k with
    taskByPriority := byPriority
    task := { k.task with basePriority := update k.task.basePriority taskId newPriority } }

/-- Move a task to its new effective priority, with everything that depends on it. -/
def applyEffective (taskId newEffective : Nat) : Kernel :=
  let oldEffective := k.effectivePriority taskId
  let k :=
    if k.task.state taskId = .ready then
      let k := readyRemove k taskId
      let k := { k with effectivePriority := update k.effectivePriority taskId newEffective }
      readyAdd k taskId
    else { k with effectivePriority := update k.effectivePriority taskId newEffective }
  let k := mutexWaiterPriorityChanged cfg k taskId oldEffective
  let k := mutexOwnerRecompute cfg k taskId oldEffective
  mirrorPriority k taskId newEffective

def taskSetPriority (taskId newPriority : Nat) : Kernel × Return :=
  if cfg.maxTasks ≤ taskId ∨ cfg.maxPriorities ≤ newPriority ∨ newPriority = cfg.idlePriority then
    (k, .invalidArgument)
  else if k.taskTable taskId = false then (k, .invalidArgument)
  else
    let oldBase := k.task.basePriority taskId
    if oldBase = newPriority then (k, .ok)
    else
      let effective := newEffective k taskId oldBase newPriority
      let k := setBasePriority cfg k taskId newPriority
      let k := if effective = k.effectivePriority taskId then k else applyEffective cfg k taskId effective
      let (k, _) := selectNext cfg k
      if k.scheduler.nextPriority < k.scheduler.currentPriority then (k.setPending, .ok) else (k, .ok)

def taskDelay (inIsr : Bool) (ticks : Word) : Kernel × Outcome :=
  if k.scheduler.isStarted = false ∨ inIsr = true then (k, .ret .invalidState)
  else
    match currentTask cfg k with
    | none => (k, .ret .invalidState)
    | some taskId =>
      if ticks = 0#32 then (k.setPending, .ret .ok)
      else
        let k := blockingPrepare k taskId ticks none
        let (k, ret) := blockCurrent cfg k none
        if ret = .ok then (k, .blocked) else (blockingCancel k taskId, .ret ret)

/-- The signed difference of the two counters is not negative. -/
def tickHasExpired (tickCount wakeTick : Word) : Bool := decide (0 ≤ (tickCount - wakeTick).toInt)

def tickExpire (taskId : Nat) : Kernel :=
  match k.lookup cfg taskId with
  | none => { k with timeoutMap := k.timeoutMap.clear taskId }
  | some taskId =>
    if tickHasExpired k.tickCount (k.task.wakeTick taskId) then
      unblock cfg (blockCleanup cfg k taskId) taskId .timeout
    else k

def tickTimeouts : Kernel :=
  let k := { k with tickCount := k.tickCount + 1#32 }
  (k.timeoutMap.scan cfg.bitmapWidth).foldl (tickExpire cfg) k

def tickRoundRobin : Kernel :=
  if cfg.roundRobin = true ∧ k.scheduler.isStarted = true ∧
      k.ready.head k.scheduler.currentPriority ≠ none
  then k.setPending else k

inductive PrioritySearchMode where
  | exact
  | towardHigher
  | towardLower
  deriving DecidableEq, Repr

/-- The scan down to the highest priority, which is zero. -/
def findFreeTowardHigher (k : Kernel) : Nat → Option Nat
  | 0 => if k.taskByPriority 0 = none then some 0 else none
  | p + 1 => if k.taskByPriority (p + 1) = none then some (p + 1) else findFreeTowardHigher k p

def findFreeTowardLower (k : Kernel) : Nat → Nat → Option Nat
  | 0, _ => none
  | left + 1, p => if k.taskByPriority p = none then some p else findFreeTowardLower k left (p + 1)

def priorityFindFree (preferredPriority : Nat) (searchMode : PrioritySearchMode) : Except Return Nat :=
  if cfg.lowestUserPriority < preferredPriority then .error .invalidArgument
  else
    let assigned := match searchMode with
      | .exact => if k.taskByPriority preferredPriority = none then some preferredPriority else none
      | .towardHigher => findFreeTowardHigher k preferredPriority
      | .towardLower =>
        findFreeTowardLower k (cfg.lowestUserPriority + 1 - preferredPriority) preferredPriority
    match assigned with
    | some p => .ok p
    | none => .error .priorityInUse

end XSDK.Rtos

/-! Software timers in the daemon mode, and the code of the daemon between two points
where it releases the scheduler lock. -/
namespace XSDK.Rtos

open Function (update)

variable (cfg : Config)

structure Timers where
  table : Nat → Bool
  activeMap : Bitmap
  expiryTick : Nat → Word
  periodTicks : Nat → Word
  isPeriodic : Nat → Bool
  nextExpiryTick : Word

/-- Where the daemon task stands: at the top of its loop, woken, in a callback with the
rest of its scan and its copy of the tick, or gone because a callback ended the task. -/
inductive Daemon where
  | top
  | taken
  | callback (timerId : Nat) (rest : List Nat) (currentTick : Word)
  | gone
  deriving DecidableEq

def Timers.none : Timers :=
  ⟨fun _ => false, Bitmap.empty, fun _ => 0#32, fun _ => 0#32, fun _ => false, 0#32⟩

variable (timers : Timers) (timerId : Nat)

def timerInit (period : Word) (isPeriodic : Bool) : Timers × Return :=
  if cfg.maxTimers ≤ timerId ∨ period = 0#32 ∨ timers.table timerId = true then (timers, .invalidArgument)
  else
    ({ timers with
      table := update timers.table timerId true
      expiryTick := update timers.expiryTick timerId 0#32
      periodTicks := update timers.periodTicks timerId period
      isPeriodic := update timers.isPeriodic timerId isPeriodic }, .ok)

def timerRegistered : Bool :=
  decide (timerId < cfg.maxTimers) && timers.table timerId

variable (tickCount : Word)

def timerStart (timerId : Nat) : Timers × Return :=
  if timerRegistered cfg timers timerId = false then (timers, .invalidArgument)
  else
    let expiry := tickCount + timers.periodTicks timerId
    let firstActive := timers.activeMap.isEmpty cfg.bitmapWidth
    let timers := { timers with
      expiryTick := update timers.expiryTick timerId expiry
      activeMap := timers.activeMap.set timerId }
    if firstActive = true ∨ tickHasExpired timers.nextExpiryTick expiry = true
    then ({ timers with nextExpiryTick := expiry }, .ok) else (timers, .ok)

def timerStop : Timers × Return :=
  if timerRegistered cfg timers timerId = false then (timers, .invalidArgument)
  else ({ timers with activeMap := timers.activeMap.clear timerId }, .ok)

/-- The tick signals the daemon when the cached expiry has been reached. -/
def timerDue : Bool :=
  !timers.activeMap.isEmpty cfg.bitmapWidth && tickHasExpired tickCount timers.nextExpiryTick

/-- The daemon's loop up to the next callback, or to the end of the scan. -/
def daemonScan (currentTick : Word) (timers : Timers) : List Nat → Timers × Daemon
  | [] => (timers, .top)
  | timerId :: rest =>
    if timerRegistered cfg timers timerId = false then
      daemonScan currentTick { timers with activeMap := timers.activeMap.clear timerId } rest
    else if tickHasExpired currentTick (timers.expiryTick timerId) then
      (timers, .callback timerId rest currentTick)
    else daemonScan currentTick timers rest

/-- One active timer of the recomputation; found tells whether an earlier one was seen. -/
def nextExpiryVisit (acc : Timers × Bool) (timerId : Nat) : Timers × Bool :=
  let (timers, found) := acc
  if timerRegistered cfg timers timerId = true ∧
      (found = false ∨ tickHasExpired timers.nextExpiryTick (timers.expiryTick timerId) = true)
  then ({ timers with nextExpiryTick := timers.expiryTick timerId }, true)
  else (timers, found)

def recomputeNextExpiry : Timers :=
  ((timers.activeMap.scan cfg.bitmapWidth).foldl (nextExpiryVisit cfg) (timers, false)).1

/-- Go on with a scan; when it ends the cached expiry is recomputed under the same lock. -/
def daemonContinue (currentTick : Word) (timers : Timers) (rest : List Nat) : Timers × Daemon :=
  let (timers, daemon) := daemonScan cfg currentTick timers rest
  if daemon = .top then (recomputeNextExpiry cfg timers, .top) else (timers, daemon)

def daemonBegin : Timers × Daemon :=
  daemonContinue cfg tickCount timers (timers.activeMap.scan cfg.bitmapWidth)

/-- The callback has returned and the lock is held again. -/
def daemonReturn (timerId : Nat) : Timers :=
  if timers.activeMap.isSet timerId = false then timers
  else if timers.isPeriodic timerId = true then
    { timers with
      expiryTick := update timers.expiryTick timerId (tickCount + timers.periodTicks timerId) }
  else { timers with activeMap := timers.activeMap.clear timerId }

end XSDK.Rtos
