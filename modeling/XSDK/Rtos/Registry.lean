import XSDK.Rtos.System

/-! The registry of tasks and priorities: which tasks there are, the base priority of
each and one task for each base priority. Most of the kernel leaves it alone. -/
namespace XSDK.Rtos

variable {cfg : Config}

structure Registry where
  tasks : Nat → Bool
  slots : Nat → Option Nat
  base : Nat → Nat

def Kernel.registry (k : Kernel) : Registry := ⟨k.taskTable, k.taskByPriority, k.task.basePriority⟩

section Frame

variable (k : Kernel) (t m : Nat)

@[simp] theorem registry_readyAdd : (readyAdd k t).registry = k.registry := rfl

@[simp] theorem registry_readyRemove : (readyRemove k t).registry = k.registry := rfl

@[simp] theorem registry_setState (state : TaskState) : (k.setState t state).registry = k.registry := rfl

@[simp] theorem registry_setPending : k.setPending.registry = k.registry := rfl

variable (w : WaitObject)

@[simp] theorem registry_clearWaitBit : (k.clearWaitBit w t).registry = k.registry := rfl

@[simp] theorem registry_setPayload (payload : Payload) : (k.setPayload t payload).registry = k.registry := rfl

@[simp] theorem registry_setNotify (value : Word) (pending : Bool) :
    (k.setNotify t value pending).registry = k.registry := rfl

variable (p : Nat)

@[simp] theorem registry_mirrorPriority : (mirrorPriority k t p).registry = k.registry := rfl

@[simp] theorem registry_mutexWaiterInsert : (mutexWaiterInsert cfg k m t).registry = k.registry := rfl

@[simp] theorem registry_blockingCancel : (blockingCancel k t).registry = k.registry := rfl

@[simp] theorem registry_mutexAcquire : (mutexAcquire k t m).registry = k.registry := rfl

@[simp] theorem registry_mutexRelease : (mutexRelease k t m).registry = k.registry := rfl

@[simp] theorem registry_selectNext : (selectNext cfg k).1.registry = k.registry := by
  unfold selectNext
  split
  · rfl
  · split <;> rfl

@[simp] theorem registry_blockCurrent (w : Option WaitObject) :
    (blockCurrent cfg k w).1.registry = k.registry := by
  unfold blockCurrent
  split
  · rfl
  · split
    · rfl
    · cases w <;> rfl

theorem registry_maybePending (c : Prop) [Decidable c] : (if c then k.setPending else k).registry = k.registry := by
  split <;> rfl

@[simp] theorem registry_unblock (status : Return) : (unblock cfg k t status).registry = k.registry := by
  unfold unblock
  split
  · rfl
  · rename_i u _
    dsimp only
    cases k.task.waitMapPtr u with
    | none => exact registry_maybePending _ _
    | some w => exact registry_maybePending _ _

@[simp] theorem registry_preSwitch : (preSwitch cfg k).registry = k.registry := by
  unfold preSwitch
  split
  · rfl
  · split <;> rfl

@[simp] theorem registry_switch : (switch cfg k).registry = k.registry := registry_preSwitch k

@[simp] theorem registry_contextSwitch : (contextSwitch cfg k).registry = k.registry := by
  unfold contextSwitch
  dsimp only
  split
  · rw [registry_switch, registry_selectNext, registry_preSwitch]
  · rw [registry_selectNext, registry_preSwitch]

@[simp] theorem registry_mutexWaiterRemove : (mutexWaiterRemove k m t).registry = k.registry := by
  unfold mutexWaiterRemove
  split <;> rfl

@[simp] theorem registry_mutexWaiterPriorityChanged :
    (mutexWaiterPriorityChanged cfg k t p).registry = k.registry := by
  unfold mutexWaiterPriorityChanged
  split
  · rfl
  · split
    · rfl
    · rw [registry_mutexWaiterInsert, registry_mutexWaiterRemove]

@[simp] theorem registry_setEffectivePriority :
    (setEffectivePriority cfg k t p).registry = k.registry := by
  unfold setEffectivePriority
  split
  · rfl
  · split
    · rfl
    · dsimp only
      split
      · rw [registry_readyAdd, registry_mirrorPriority, registry_mutexWaiterPriorityChanged]
        rfl
      · rw [registry_mirrorPriority, registry_mutexWaiterPriorityChanged]
        rfl

@[simp] theorem registry_recomputeTaskPriority (depth : Nat) :
    (recomputeTaskPriority cfg depth k t).registry = k.registry := by
  induction depth generalizing k t with
  | zero => rfl
  | succ depth ih =>
    unfold recomputeTaskPriority
    dsimp only
    split
    · exact registry_setEffectivePriority ..
    · split
      · exact registry_setEffectivePriority ..
      · split
        · exact registry_setEffectivePriority ..
        · rw [ih, registry_setEffectivePriority]

@[simp] theorem registry_mutexRecomputeTaskPriority :
    (mutexRecomputeTaskPriority cfg k t).registry = k.registry := registry_recomputeTaskPriority ..

@[simp] theorem registry_mutexRecomputeOwnerPriority :
    (mutexRecomputeOwnerPriority cfg k m).registry = k.registry := by
  unfold mutexRecomputeOwnerPriority
  split <;> simp

@[simp] theorem registry_mutexCleanupWaiter : (mutexCleanupWaiter cfg k t m).registry = k.registry := by
  unfold mutexCleanupWaiter
  split <;> simp

@[simp] theorem registry_mutexOwnerRecompute :
    (mutexOwnerRecompute cfg k t p).registry = k.registry := by
  unfold mutexOwnerRecompute
  split
  · rfl
  · split <;> simp

@[simp] theorem registry_blockCleanup : (blockCleanup cfg k t).registry = k.registry := by
  unfold blockCleanup
  split <;> simp

@[simp] theorem registry_blockingPrepare (ticks : Word) (cleanup : Option Cleanup) :
    (blockingPrepare k t ticks cleanup).registry = k.registry := by
  unfold blockingPrepare
  dsimp only
  split <;> rfl

@[simp] theorem registry_blockOn (ticks : Word) (cleanup : Option Cleanup) (payload : Payload) :
    (blockOn cfg k t w ticks cleanup payload).1.registry = k.registry := by
  unfold blockOn
  dsimp only
  split <;> simp

@[simp] theorem registry_mutexBlock (o : Nat) (ticks : Word) :
    (mutexBlock cfg k t m o ticks).1.registry = k.registry := by
  unfold mutexBlock
  dsimp only
  split <;> simp

variable (inIsr : Bool)

@[simp] theorem registry_mutexLock (ticks : Word) :
    (mutexLock cfg k inIsr m ticks).1.registry = k.registry := by
  unfold mutexLock
  repeat' split
  all_goals simp

@[simp] theorem registry_mutexHandOff : (mutexHandOff cfg k m t).registry = k.registry := by
  unfold mutexHandOff
  dsimp only
  split
  · exact registry_mutexWaiterRemove ..
  · simp

@[simp] theorem registry_mutexUnlock : (mutexUnlock cfg k m).1.registry = k.registry := by
  unfold mutexUnlock
  split
  · rfl
  · split
    · split
      · rfl
      · dsimp only
        cases (mutexRelease k _ m).waiters.head m <;> simp
    · rfl

@[simp] theorem registry_taskDelay (ticks : Word) :
    (taskDelay cfg k inIsr ticks).1.registry = k.registry := by
  unfold taskDelay
  split
  · rfl
  · split
    · rfl
    · split
      · rfl
      · dsimp only
        split <;> simp

@[simp] theorem registry_taskYield : (taskYield k inIsr).registry = k.registry := by
  cases inIsr <;> rfl

@[simp] theorem registry_tickExpire : (tickExpire cfg k t).registry = k.registry := by
  unfold tickExpire
  split
  · rfl
  · split <;> simp

@[simp] theorem registry_tickTimeouts : (tickTimeouts cfg k).registry = k.registry := by
  have scan : ∀ (l : List Nat) (k : Kernel), (l.foldl (tickExpire cfg) k).registry = k.registry := by
    intro l
    induction l with
    | nil => exact fun k => rfl
    | cons t l ih => exact fun k => (ih _).trans (registry_tickExpire k t)
  exact scan _ _

@[simp] theorem registry_tickRoundRobin : (tickRoundRobin cfg k).registry = k.registry := by
  unfold tickRoundRobin
  split <;> rfl

@[simp] theorem registry_kernelStart : (kernelStart cfg k).1.registry = k.registry := by
  unfold kernelStart
  split
  · rfl
  · dsimp only
    split
    · exact registry_selectNext k
    · exact registry_selectNext k

@[simp] theorem registry_unblockFromWaitMap :
    (unblockFromWaitMap cfg k w).1.registry = k.registry := by
  unfold unblockFromWaitMap
  split <;> simp

@[simp] theorem registry_semGiveCore (sem : Sem) (s : Nat) :
    (semGiveCore cfg k sem s).1.registry = k.registry := by
  unfold semGiveCore
  split
  · simp
  · split <;> rfl

@[simp] theorem registry_semTake (sem : Sem) (inIsr : Bool) (s : Nat) (ticks : Word) :
    (semTake cfg k sem inIsr s ticks).1.registry = k.registry := by
  unfold semTake
  dsimp only
  repeat' split
  all_goals simp

variable (memory : Memory) (queue : Queue) (q : Nat)

@[simp] theorem registry_queueCompleteWaitingReceive (item : Nat → UInt8) :
    (queueCompleteWaitingReceive cfg k memory queue q item).1.registry = k.registry := by
  unfold queueCompleteWaitingReceive
  split <;> simp

@[simp] theorem registry_queueCompleteWaitingSend :
    (queueCompleteWaitingSend cfg k memory queue q).1.registry = k.registry := by
  unfold queueCompleteWaitingSend
  split <;> simp

@[simp] theorem registry_queueTrySendLocked (item : Word) :
    (queueTrySendLocked cfg k memory queue q item).1.registry = k.registry := by
  unfold queueTrySendLocked
  split
  · simp
  · split <;> rfl

@[simp] theorem registry_queueSendCore (item : Word) :
    (queueSendCore cfg k memory queue q item).1.registry = k.registry := by
  unfold queueSendCore
  split <;> simp

@[simp] theorem registry_queueSend (inIsr : Bool) (item ticks : Word) :
    (queueSend cfg k memory queue inIsr q item ticks).1.registry = k.registry := by
  unfold queueSend
  dsimp only
  repeat' split
  all_goals simp

@[simp] theorem registry_queueReceive (inIsr : Bool) (item ticks : Word) :
    (queueReceive cfg k memory queue inIsr q item ticks).1.registry = k.registry := by
  unfold queueReceive
  dsimp only
  repeat' split
  all_goals simp

@[simp] theorem registry_eventSetCore (flags bits : Word) (e : Nat) :
    (eventSetCore cfg k flags e bits).1.registry = k.registry := by
  have visit : ∀ (snapshot : Word) (acc : Kernel × Word) (t : Nat),
      (eventVisit cfg snapshot acc t).1.registry = acc.1.registry := by
    intro snapshot acc t
    unfold eventVisit
    dsimp only
    split
    · rfl
    · split <;> simp
  have scan : ∀ (snapshot : Word) (l : List Nat) (acc : Kernel × Word),
      (l.foldl (eventVisit cfg snapshot) acc).1.registry = acc.1.registry := by
    intro snapshot l
    induction l with
    | nil => exact fun acc => rfl
    | cons t l ih => exact fun acc => (ih _).trans (visit snapshot acc t)
  exact scan _ _ _

@[simp] theorem registry_eventWait (flags : Word) (inIsr : Bool) (e : Nat) (mask options ticks : Word) :
    (eventWait cfg k flags inIsr e mask options ticks).1.registry = k.registry := by
  unfold eventWait
  dsimp only
  repeat' split
  all_goals simp

@[simp] theorem registry_notifyCore (value : Word) : (notifyCore cfg k t value).1.registry = k.registry := by
  unfold notifyCore
  split
  · rfl
  · dsimp only
    split <;> simp

@[simp] theorem registry_taskNotifyWait (clearOnEntry clearOnExit ticks : Word) :
    (taskNotifyWait cfg k inIsr clearOnEntry clearOnExit ticks).1.registry = k.registry := by
  unfold taskNotifyWait
  dsimp only
  repeat' split
  all_goals simp

@[simp] theorem registry_eventWaitResume : (eventWaitResume k t).1.registry = k.registry := by
  unfold eventWaitResume
  repeat' split
  all_goals simp

end Frame

end XSDK.Rtos
