import XSDK.Rtos.Core

/-! Semaphores, queues, event flags and task notifications. A function returns the
kernel, the object it works on and how the call ends. -/
namespace XSDK.Rtos

open Function (update)

variable (cfg : Config)

structure Sem where
  count : Nat
  maxCount : Nat
  deriving DecidableEq, Repr

def semInit (initialCount maxCount : Nat) : Except Return Sem :=
  if maxCount = 0 ∨ maxCount < initialCount then .error .invalidArgument
  else .ok ⟨initialCount, maxCount⟩

variable (k : Kernel)

def semGiveCore (sem : Sem) (s : Nat) : Kernel × Sem × Return :=
  if (k.waitMap (.sem s)).isEmpty cfg.bitmapWidth = false then
    -- the token passes to the woken task and count stays
    ((unblockFromWaitMap cfg k (.sem s)).1, sem, .ok)
  else if sem.count < sem.maxCount then (k, { sem with count := sem.count + 1 }, .ok)
  else (k, sem, .resourceFull)

def semTake (sem : Sem) (inIsr : Bool) (s : Nat) (timeoutTicks : Word) :
    Kernel × Sem × Outcome :=
  if k.scheduler.isStarted = false ∨ inIsr = true then (k, sem, .ret .invalidState)
  else if 0 < sem.count then (k, { sem with count := sem.count - 1 }, .ret .ok)
  else if timeoutTicks = noWait then (k, sem, .ret .wouldBlock)
  else
    match currentTask cfg k with
    | none => (k, sem, .ret .invalidState)
    | some taskId =>
      let (k, outcome) := blockOn cfg k taskId (.sem s) timeoutTicks none Payload.zero
      (k, sem, outcome)

/-- A ring of items in a byte array; every product below fits a word by the check of init. -/
structure Queue where
  storage : Nat → UInt8
  itemSize : Nat
  itemCount : Nat
  head : Nat
  tail : Nat
  used : Nat

/-- Every buffer of the application, by address. -/
abbrev Memory := Word → Nat → UInt8

def memcpy (dst : Nat → UInt8) (dstOffset : Nat) (src : Nat → UInt8) (srcOffset size : Nat) : Nat → UInt8 :=
  fun i => if dstOffset ≤ i ∧ i < dstOffset + size then src (srcOffset + (i - dstOffset)) else dst i

def queueInit (storage : Nat → UInt8) (itemSize itemCount : Nat) : Except Return Queue :=
  if itemSize = 0 ∨ itemCount = 0 then .error .invalidArgument
  else if 0xFFFFFFFF / itemSize < itemCount then .error .invalidArgument
  else .ok ⟨storage, itemSize, itemCount, 0, 0, 0⟩

def queueEnqueue (queue : Queue) (item : Nat → UInt8) : Queue :=
  { queue with
    storage := memcpy queue.storage (queue.tail * queue.itemSize) item 0 queue.itemSize
    tail := if queue.tail + 1 = queue.itemCount then 0 else queue.tail + 1
    used := queue.used + 1 }

def queueDequeue (queue : Queue) (item : Nat → UInt8) : Queue × (Nat → UInt8) :=
  let item := memcpy item 0 queue.storage (queue.head * queue.itemSize) queue.itemSize
  ({ queue with
    head := if queue.head + 1 = queue.itemCount then 0 else queue.head + 1
    used := queue.used - 1 }, item)

variable (memory : Memory)

def queueCompleteWaitingReceive (queue : Queue) (q : Nat)
    (item : Nat → UInt8) : Kernel × Memory :=
  match findHighestTaskInMap cfg k (k.waitMap (.queueRecv q)) with
  | none => (k, memory)
  | some receiver =>
    let dst := (k.task.blockPayload receiver).first
    let memory := update memory dst (memcpy (memory dst) 0 item 0 queue.itemSize)
    (unblock cfg (k.setPayload receiver Payload.zero) receiver .ok, memory)

def queueCompleteWaitingSend (queue : Queue) (q : Nat) : Kernel × Queue :=
  match findHighestTaskInMap cfg k (k.waitMap (.queueSend q)) with
  | none => (k, queue)
  | some sender =>
    let src := (k.task.blockPayload sender).first
    let queue := queueEnqueue queue (memory src)
    (unblock cfg (k.setPayload sender Payload.zero) sender .ok, queue)

def queueTrySendLocked (queue : Queue) (q : Nat) (item : Word) :
    Kernel × Memory × Queue × Return :=
  if (k.waitMap (.queueRecv q)).isEmpty cfg.bitmapWidth = false then
    let (k, memory) := queueCompleteWaitingReceive cfg k memory queue q (memory item)
    (k, memory, queue, .ok)
  else if queue.used < queue.itemCount then (k, memory, queueEnqueue queue (memory item), .ok)
  else (k, memory, queue, .resourceFull)

def queueSendCore (queue : Queue) (q : Nat) (item : Word) :
    Kernel × Memory × Queue × Return :=
  if item = 0#32 then (k, memory, queue, .nullPointer)
  else queueTrySendLocked cfg k memory queue q item

def queueSend (queue : Queue) (inIsr : Bool) (q : Nat) (item : Word)
    (timeoutTicks : Word) : Kernel × Memory × Queue × Outcome :=
  if item = 0#32 then (k, memory, queue, .ret .nullPointer)
  else if k.scheduler.isStarted = false ∨ inIsr = true then (k, memory, queue, .ret .invalidState)
  else
    let (k, memory, queue, fastRet) := queueTrySendLocked cfg k memory queue q item
    if fastRet = .ok then (k, memory, queue, .ret .ok)
    else if timeoutTicks = noWait then (k, memory, queue, .ret .wouldBlock)
    else
      match currentTask cfg k with
      | none => (k, memory, queue, .ret .invalidState)
      | some taskId =>
        let (k, outcome) := blockOn cfg k taskId (.queueSend q) timeoutTicks (some .payload) ⟨item, 0#32⟩
        (k, memory, queue, outcome)

def queueReceive (queue : Queue) (inIsr : Bool) (q : Nat) (item : Word)
    (timeoutTicks : Word) : Kernel × Memory × Queue × Outcome :=
  if item = 0#32 then (k, memory, queue, .ret .nullPointer)
  else if k.scheduler.isStarted = false ∨ inIsr = true then (k, memory, queue, .ret .invalidState)
  else if 0 < queue.used then
    let (queue, bytes) := queueDequeue queue (memory item)
    let memory := update memory item bytes
    let (k, queue) :=
      if (k.waitMap (.queueSend q)).isEmpty cfg.bitmapWidth = false
      then queueCompleteWaitingSend cfg k memory queue q else (k, queue)
    (k, memory, queue, .ret .ok)
  else if timeoutTicks = noWait then (k, memory, queue, .ret .wouldBlock)
  else
    match currentTask cfg k with
    | none => (k, memory, queue, .ret .invalidState)
    | some taskId =>
      let (k, outcome) := blockOn cfg k taskId (.queueRecv q) timeoutTicks (some .payload) ⟨item, 0#32⟩
      (k, memory, queue, outcome)

def eventWaitAny : Word := 1#32 <<< 0
def eventWaitAll : Word := 1#32 <<< 1
def eventClearOnExit : Word := 1#32 <<< 2
def eventWaitModeMask : Word := eventWaitAny ||| eventWaitAll
def eventOptionMask : Word := eventWaitModeMask ||| eventClearOnExit

def isConditionMet (currentFlags waitMask options : Word) : Bool :=
  if options &&& eventWaitAll ≠ 0#32 then decide (currentFlags &&& waitMask = waitMask)
  else decide (currentFlags &&& waitMask ≠ 0#32)

def eventWaitOptionsAreValid (options : Word) : Bool :=
  let waitMode := options &&& eventWaitModeMask
  let hasKnownMode := decide (waitMode = eventWaitAny ∨ waitMode = eventWaitAll)
  let hasNoUnknownOptions := decide (options &&& ~~~eventOptionMask = 0#32)
  hasKnownMode && hasNoUnknownOptions

/-- One waiter of the multicast; the pair is the kernel and the bits to clear so far. -/
def eventVisit (flagsSnapshot : Word) (acc : Kernel × Word) (taskId : Nat) : Kernel × Word :=
  let (k, clearMask) := acc
  match k.lookup cfg taskId with
  | none => (k, clearMask)
  | some taskId =>
    let payload := k.task.blockPayload taskId
    if isConditionMet flagsSnapshot payload.first payload.second = false then (k, clearMask)
    else
      let matched := flagsSnapshot &&& payload.first
      let clearMask := if payload.second &&& eventClearOnExit ≠ 0#32 then clearMask ||| matched else clearMask
      (unblock cfg (k.setPayload taskId ⟨matched, payload.second⟩) taskId .ok, clearMask)

def eventSetCore (flags : Word) (e : Nat) (bits : Word) : Kernel × Word :=
  let flagsSnapshot := flags ||| bits
  let scan := (k.waitMap (.event e)).scan cfg.bitmapWidth
  let (k, clearMask) := scan.foldl (eventVisit cfg flagsSnapshot) (k, 0#32)
  (k, flagsSnapshot &&& ~~~clearMask)

def eventClear (flags bits : Word) : Word := flags &&& ~~~bits

def eventWait (flags : Word) (inIsr : Bool) (e : Nat) (mask options timeoutTicks : Word) :
    Kernel × Word × Outcome :=
  if mask = 0#32 ∨ eventWaitOptionsAreValid options = false then (k, flags, .ret .invalidArgument)
  else if k.scheduler.isStarted = false ∨ inIsr = true then (k, flags, .ret .invalidState)
  else if isConditionMet flags mask options = true then
    let matched := flags &&& mask
    (k, if options &&& eventClearOnExit ≠ 0#32 then flags &&& ~~~matched else flags, .returned .ok matched)
  else if timeoutTicks = noWait then (k, flags, .ret .wouldBlock)
  else
    match currentTask cfg k with
    | none => (k, flags, .ret .invalidState)
    | some taskId =>
      let (k, outcome) := blockOn cfg k taskId (.event e) timeoutTicks (some .payload) ⟨mask, options⟩
      (k, flags, outcome)

variable (taskId : Nat)

def eventWaitResume : Kernel × Outcome :=
  if k.task.blockStatus taskId ≠ .ok then
    (k.setPayload taskId Payload.zero, .ret (k.task.blockStatus taskId))
  else if k.task.state taskId ≠ .blocked then
    (k.setPayload taskId Payload.zero, .returned .ok (k.task.blockPayload taskId).first)
  else (k, .ret .ok)

def Kernel.setNotify (t : Nat) (value : Word) (pending : Bool) : Kernel :=
  { k with task := { k.task with
    notifyValue := update k.task.notifyValue t value
    hasNotifyPending := update k.task.hasNotifyPending t pending } }

def notifyCore (value : Word) : Kernel × Return :=
  match k.lookup cfg taskId with
  | none => (k, .invalidArgument)
  | some taskId =>
    let k := k.setNotify taskId (k.task.notifyValue taskId ||| value) true
    if k.task.state taskId = .blocked ∧ (k.waitMap .notify).isSet taskId = true then
      let payload := k.task.blockPayload taskId
      let value := k.task.notifyValue taskId
      -- the waiter's copy is latched before the clear-on-exit mask applies
      let k := k.setPayload taskId ⟨value, payload.second⟩
      let k := k.setNotify taskId (value &&& ~~~payload.second) false
      (unblock cfg k taskId .ok, .ok)
    else (k, .ok)

def taskNotifyWait (inIsr : Bool) (clearOnEntry clearOnExit timeoutTicks : Word) :
    Kernel × Outcome :=
  if k.scheduler.isStarted = false ∨ inIsr = true then (k, .ret .invalidState)
  else
    match currentTask cfg k with
    | none => (k, .ret .invalidState)
    | some taskId =>
      let value := k.task.notifyValue taskId &&& ~~~clearOnEntry
      if k.task.hasNotifyPending taskId = true then
        (k.setNotify taskId (value &&& ~~~clearOnExit) false, .returned .ok value)
      else
        let k := k.setNotify taskId value false
        if timeoutTicks = noWait then (k, .ret .wouldBlock)
        else blockOn cfg k taskId .notify timeoutTicks none ⟨0#32, clearOnExit⟩

/-- What a woken notification waiter reads before it returns. -/
def notifyWaitResume : Outcome :=
  let result := k.task.blockStatus taskId
  if result = .ok then .returned result (k.task.blockPayload taskId).first else .ret result

end XSDK.Rtos
