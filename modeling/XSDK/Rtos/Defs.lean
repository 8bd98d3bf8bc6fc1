import Mathlib.Init

/-! Build-time configuration and return codes of the kernel.
The limits are parameters of the whole model; the side conditions are the ones
that the configuration header rejects with a preprocessor error. -/
namespace XSDK.Rtos

abbrev Word := BitVec 32

/-- Task, priority and timer limits. The number of mutex objects is the
application's; it bounds the length of an owner list and nothing else. -/
structure Config where
  maxTasks : Nat
  maxPriorities : Nat
  maxTimers : Nat
  mutexCount : Nat
  timerTaskPriority : Nat
  minStackWords : Nat
  roundRobin : Bool
  tasks_ok : 2 ≤ maxTasks
  priorities_ok : 2 ≤ maxPriorities
  timers_ok : 0 < maxTimers
  tasks_word : maxTasks ≤ 0xFFFFFFFF
  priorities_word : maxPriorities ≤ 0xFFFFFFFF

namespace Config

variable (cfg : Config)

def bitmapWidth : Nat := max cfg.maxTasks (max cfg.maxPriorities cfg.maxTimers)
def idleTaskId : Nat := cfg.maxTasks - 1
def timerTaskId : Nat := cfg.maxTasks - 2
def idlePriority : Nat := cfg.maxPriorities - 1
def lowestUserPriority : Nat := cfg.idlePriority - 1

theorem tasks_le_width : cfg.maxTasks ≤ cfg.bitmapWidth := Nat.le_max_left _ _

theorem priorities_le_width : cfg.maxPriorities ≤ cfg.bitmapWidth :=
  Nat.le_trans (Nat.le_max_left _ _) (Nat.le_max_right _ _)

end Config

/- The two sentinels share one bit pattern; no valid identifier reaches it. -/
def invalidTaskId : Nat := 0xFFFFFFFF
def waitForever : Word := 0xFFFFFFFF#32
def noWait : Word := 0#32

inductive Return where
  | ok
  | nullPointer
  | invalidArgument
  | invalidState
  | taskLimit
  | priorityInUse
  | timeout
  | wouldBlock
  | noTasksReady
  | resourceFull
  deriving DecidableEq, Repr

end XSDK.Rtos
