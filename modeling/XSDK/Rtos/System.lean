import XSDK.Rtos.Sync

/-! The running system: the kernel, its objects, the application's buffers and, for
every task, the blocking call it is inside of. One step is one call up to its lock
release, one tick, one context switch, or the return from a blocking call. -/
namespace XSDK.Rtos

open Function (update)

variable (cfg : Config)

/-- A blocking call with the arguments that its caller's stack keeps. -/
inductive Call where
  | delay
  | semTake (s : Nat)
  | mutexLock (m : Nat)
  | queueSend (q : Nat) (item : Word)
  | queueReceive (q : Nat) (item : Word)
  | eventWait (e : Nat) (mask options : Word)
  | notifyWait (clearOnExit : Word)
  deriving DecidableEq

/-- The kernel's own semaphore, private to the tick and the timer daemon. -/
def timerSem : Nat := 0

structure System where
  kernel : Kernel
  sem : Nat → Sem
  queue : Nat → Queue
  flags : Nat → Word
  timers : Timers
  memory : Memory
  call : Nat → Option Call
  daemon : Daemon

inductive Op where
  | kernelStart
  | taskCreate (config : TaskConfig)
  | taskExit
  | taskYield
  | taskSetPriority (taskId newPriority : Nat)
  | taskDelay (ticks : Word)
  | tick
  | contextSwitch
  | resume
  | semGive (s : Nat)
  | semTake (s : Nat) (timeoutTicks : Word)
  | mutexLock (m : Nat) (timeoutTicks : Word)
  | mutexUnlock (m : Nat)
  | queueSend (q : Nat) (item timeoutTicks : Word)
  | queueSendFromIsr (q : Nat) (item : Word)
  | queueReceive (q : Nat) (item timeoutTicks : Word)
  | eventSet (e : Nat) (bits : Word)
  | eventClear (e : Nat) (bits : Word)
  | eventWait (e : Nat) (mask options timeoutTicks : Word)
  | taskNotify (taskId : Nat) (value : Word)
  | taskNotifyWait (clearOnEntry clearOnExit timeoutTicks : Word)
  | timerInit (timerId : Nat) (period : Word) (isPeriodic : Bool)
  | timerStart (timerId : Nat)
  | timerStop (timerId : Nat)
  | daemon
  | write (buffer : Word) (bytes : Nat → UInt8)

/-- A call and the context it comes from. -/
structure Request where
  op : Op
  inIsr : Bool

namespace System

variable (S : System)

def current : Nat := S.kernel.scheduler.currentTaskId

/-- The current task runs and is not inside a blocking call. -/
def taskRuns : Bool :=
  S.kernel.scheduler.isStarted && (currentTask cfg S.kernel).isSome &&
    decide (S.kernel.task.state S.current = .running) && decide (S.call S.current = none)

/-- The daemon's own code is running, so no call of the application is. -/
def daemonRuns : Bool :=
  decide (S.current = cfg.timerTaskId) &&
    match S.daemon with
    | .top | .taken => true
    | .callback .. | .gone => false

variable (inIsr : Bool)

/-- Application code may call: an interrupt handler, the code before the start, or a task. -/
def mayCall : Bool :=
  inIsr || !S.kernel.scheduler.isStarted || (S.taskRuns cfg && !S.daemonRuns cfg)

def bufferQuiet (buffer : Word) : Prop :=
  ∀ t q, S.call t ≠ some (.queueReceive q buffer)

def bufferFree (buffer : Word) : Prop :=
  ∀ t q, S.call t ≠ some (.queueReceive q buffer) ∧ S.call t ≠ some (.queueSend q buffer)

/-- What a caller has to respect: the contexts, the assertions, and the ownership of
objects and buffers. A call that the code itself rejects is allowed. -/
def Allowed : Op → Prop
  | .kernelStart => S.kernel.scheduler.isStarted = false ∧ inIsr = false
  | .tick => inIsr = true
  | .contextSwitch => S.kernel.scheduler.isStarted = true
  | .resume => S.kernel.scheduler.isStarted = true ∧ (currentTask cfg S.kernel).isSome = true ∧
      S.kernel.task.state S.current = .running ∧ S.call S.current ≠ none
  | .daemon => S.taskRuns cfg = true ∧ S.current = cfg.timerTaskId ∧ S.daemon ≠ .gone ∧ inIsr = false
  | .taskExit => S.taskRuns cfg = true ∧ S.daemonRuns cfg = false ∧ inIsr = false ∧
      S.kernel.owners.head S.current = none
  | .taskDelay ticks => S.mayCall cfg inIsr = true ∧ ticks ≠ waitForever
  | .semGive s | .semTake s _ => S.mayCall cfg inIsr = true ∧ s ≠ timerSem
  | .mutexLock m _ => S.mayCall cfg inIsr = true ∧ m < cfg.mutexCount
  | .mutexUnlock _ => S.mayCall cfg inIsr = true ∧ inIsr = false
  | .queueSend _ item _ => S.mayCall cfg inIsr = true ∧ S.bufferQuiet item
  | .queueReceive _ item _ => S.mayCall cfg inIsr = true ∧ S.bufferFree item
  | .write buffer _ => S.mayCall cfg inIsr = true ∧ S.bufferFree buffer
  | .taskCreate _ | .taskYield | .taskSetPriority .. | .queueSendFromIsr .. | .eventSet .. | .eventClear ..
  | .eventWait .. | .taskNotify .. | .taskNotifyWait .. | .timerInit .. | .timerStart _ | .timerStop _ =>
    S.mayCall cfg inIsr = true

/-- A call that blocks leaves the current task inside it. -/
def leave (call : Call) (outcome : Outcome) : System × Outcome :=
  (if outcome = .blocked then { S with call := update S.call S.current (some call) } else S, outcome)

def semTake (s : Nat) (timeoutTicks : Word) : System × Outcome :=
  let (kernel, sem, outcome) := Rtos.semTake cfg S.kernel (S.sem s) inIsr s timeoutTicks
  { S with kernel := kernel, sem := update S.sem s sem }.leave (.semTake s) outcome

def semGive (s : Nat) : System × Outcome :=
  let (kernel, sem, ret) := semGiveCore cfg S.kernel (S.sem s) s
  ({ S with kernel := kernel, sem := update S.sem s sem }, .ret ret)

/-- The tick wakes the timer daemon when a timer is due. -/
def signalTimers : System :=
  if timerDue cfg S.timers S.kernel.tickCount = true then (S.semGive cfg timerSem).1 else S

/-- The tick interrupt: timeouts, then the timer daemon's signal, then round robin. -/
def tick : System :=
  let S := { S with kernel := tickTimeouts cfg S.kernel }
  let S := S.signalTimers cfg
  { S with kernel := tickRoundRobin cfg S.kernel }

/-- The current task returns from the call it was blocked in. -/
def resume (call : Call) : System × Outcome :=
  let t := S.current
  let S := { S with call := update S.call t none }
  match call with
  | .delay => (S, .ret .ok)
  | .semTake s =>
    -- the daemon's own take: its code goes on with a pass
    (if s = timerSem then { S with daemon := .taken } else S, .ret (S.kernel.task.blockStatus t))
  | .mutexLock _ | .queueSend .. | .queueReceive .. => (S, .ret (S.kernel.task.blockStatus t))
  | .eventWait .. =>
    let (kernel, outcome) := eventWaitResume S.kernel t
    ({ S with kernel := kernel }, outcome)
  | .notifyWait _ => (S, notifyWaitResume S.kernel t)

/-- The daemon's code from one lock release to the next. -/
def daemonStep : System × Outcome :=
  match S.daemon with
  | .top =>
    let (S, outcome) := S.semTake cfg false timerSem waitForever
    (if outcome = .blocked then S else { S with daemon := .taken }, outcome)
  | .taken =>
    let (timers, daemon) := daemonBegin cfg S.timers S.kernel.tickCount
    ({ S with timers := timers, daemon := daemon }, .ret .ok)
  | .callback timerId rest currentTick =>
    let timers := daemonReturn S.timers S.kernel.tickCount timerId
    let (timers, daemon) := daemonContinue cfg currentTick timers rest
    ({ S with timers := timers, daemon := daemon }, .ret .ok)
  | .gone => (S, .ret .ok)

def run : Op → System × Outcome
  | .kernelStart =>
    let (kernel, ret) := kernelStart cfg S.kernel
    ({ S with kernel := kernel }, .ret ret)
  | .taskCreate config =>
    let (kernel, ret) := taskCreate cfg S.kernel config
    ({ S with kernel := kernel }, .ret ret)
  | .taskExit =>
    ({ S with
      kernel := taskExit cfg S.kernel
      daemon := if S.current = cfg.timerTaskId then .gone else S.daemon }, .ret .ok)
  | .taskYield => ({ S with kernel := taskYield S.kernel inIsr }, .ret .ok)
  | .taskSetPriority taskId newPriority =>
    let (kernel, ret) := taskSetPriority cfg S.kernel taskId newPriority
    ({ S with kernel := kernel }, .ret ret)
  | .taskDelay ticks =>
    let (kernel, outcome) := taskDelay cfg S.kernel inIsr ticks
    { S with kernel := kernel }.leave .delay outcome
  | .tick => (S.tick cfg, .ret .ok)
  | .contextSwitch => ({ S with kernel := contextSwitch cfg S.kernel }, .ret .ok)
  | .resume =>
    match S.call S.current with
    | none => (S, .ret .ok)
    | some call => S.resume call
  | .semGive s => S.semGive cfg s
  | .semTake s timeoutTicks => S.semTake cfg inIsr s timeoutTicks
  | .mutexLock m timeoutTicks =>
    let (kernel, outcome) := mutexLock cfg S.kernel inIsr m timeoutTicks
    { S with kernel := kernel }.leave (.mutexLock m) outcome
  | .mutexUnlock m =>
    let (kernel, outcome) := mutexUnlock cfg S.kernel m
    ({ S with kernel := kernel }, outcome)
  | .queueSend q item timeoutTicks =>
    let (kernel, memory, queue, outcome) :=
      queueSend cfg S.kernel S.memory (S.queue q) inIsr q item timeoutTicks
    { S with kernel := kernel, memory := memory, queue := update S.queue q queue }.leave
      (.queueSend q item) outcome
  | .queueSendFromIsr q item =>
    let (kernel, memory, queue, ret) := queueSendCore cfg S.kernel S.memory (S.queue q) q item
    ({ S with kernel := kernel, memory := memory, queue := update S.queue q queue }, .ret ret)
  | .queueReceive q item timeoutTicks =>
    let (kernel, memory, queue, outcome) :=
      queueReceive cfg S.kernel S.memory (S.queue q) inIsr q item timeoutTicks
    { S with kernel := kernel, memory := memory, queue := update S.queue q queue }.leave
      (.queueReceive q item) outcome
  | .eventSet e bits =>
    let (kernel, flags) := eventSetCore cfg S.kernel (S.flags e) e bits
    ({ S with kernel := kernel, flags := update S.flags e flags }, .ret .ok)
  | .eventClear e bits => ({ S with flags := update S.flags e (eventClear (S.flags e) bits) }, .ret .ok)
  | .eventWait e mask options timeoutTicks =>
    let (kernel, flags, outcome) := eventWait cfg S.kernel (S.flags e) inIsr e mask options timeoutTicks
    { S with kernel := kernel, flags := update S.flags e flags }.leave (.eventWait e mask options) outcome
  | .taskNotify taskId value =>
    let (kernel, ret) := notifyCore cfg S.kernel taskId value
    ({ S with kernel := kernel }, .ret ret)
  | .taskNotifyWait clearOnEntry clearOnExit timeoutTicks =>
    let (kernel, outcome) := taskNotifyWait cfg S.kernel inIsr clearOnEntry clearOnExit timeoutTicks
    { S with kernel := kernel }.leave (.notifyWait clearOnExit) outcome
  | .timerInit timerId period isPeriodic =>
    let (timers, ret) := timerInit cfg S.timers timerId period isPeriodic
    ({ S with timers := timers }, .ret ret)
  | .timerStart timerId =>
    let (timers, ret) := timerStart cfg S.timers S.kernel.tickCount timerId
    ({ S with timers := timers }, .ret ret)
  | .timerStop timerId =>
    let (timers, ret) := timerStop cfg S.timers timerId
    ({ S with timers := timers }, .ret ret)
  | .daemon => S.daemonStep cfg
  | .write buffer bytes => ({ S with memory := update S.memory buffer bytes }, .ret .ok)

/-- After the kernel's and the objects' initialisation; the initial tick is arbitrary. -/
structure Boot (S : System) : Prop where
  kernel : ∃ timerStackWords tickCount,
    S.kernel = { (kernelInit cfg timerStackWords).1 with tickCount := tickCount } ∧
    S.daemon = if (kernelInit cfg timerStackWords).2 = .ok then .top else .gone
  sem : ∀ s, ∃ initialCount maxCount, semInit initialCount maxCount = .ok (S.sem s)
  timerSem : semInit 0 1 = .ok (S.sem timerSem)
  queue : ∀ q, ∃ storage itemSize itemCount, queueInit storage itemSize itemCount = .ok (S.queue q)
  flags : ∀ e, S.flags e = 0#32
  timers : S.timers = Timers.none
  call : ∀ t, S.call t = none

end System

end XSDK.Rtos
