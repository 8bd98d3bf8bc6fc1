import XSDK.Library.Runs
import XSDK.Rtos.Reprioritize
import XSDK.Rtos.SyncSteps
import XSDK.Rtos.System

/-! How far every task is with its blocking call. A step of the system wakes some
waiting tasks, or blocks the current one, or lets the current one return. -/
namespace XSDK.Rtos

open Function (update update_of_ne)

variable {cfg : Config}

def Call.target : Call → Option WaitObject
  | .delay => none
  | .semTake s => some (.sem s)
  | .mutexLock m => some (.mutex m)
  | .queueSend q _ => some (.queueSend q)
  | .queueReceive q _ => some (.queueRecv q)
  | .eventWait e _ _ => some (.event e)
  | .notifyWait _ => some .notify

def Call.payload : Call → Payload
  | .delay | .semTake _ | .mutexLock _ => Payload.zero
  | .queueSend _ item | .queueReceive _ item => ⟨item, 0#32⟩
  | .eventWait _ mask options => ⟨mask, options⟩
  | .notifyWait clearOnExit => ⟨0#32, clearOnExit⟩

/-- The call that an operation may block in, with its timeout. -/
def Op.call : Op → Option (Call × Word)
  | .taskDelay ticks => some (.delay, ticks)
  | .semTake s ticks => some (.semTake s, ticks)
  | .mutexLock m ticks => some (.mutexLock m, ticks)
  | .queueSend q item ticks => some (.queueSend q item, ticks)
  | .queueReceive q item ticks => some (.queueReceive q item, ticks)
  | .eventWait e mask options ticks => some (.eventWait e mask options, ticks)
  | .taskNotifyWait _ clearOnExit ticks => some (.notifyWait clearOnExit, ticks)
  | .daemon => some (.semTake timerSem, waitForever)
  | _ => none

def Op.wakes : Op → Option WaitObject
  | .semGive s => some (.sem s)
  | .tick => some (.sem timerSem)
  | .mutexUnlock m => some (.mutex m)
  | .queueSend q _ _ | .queueSendFromIsr q _ => some (.queueRecv q)
  | .queueReceive q _ _ => some (.queueSend q)
  | .eventSet e _ => some (.event e)
  | .taskNotify .. => some .notify
  | _ => none

/-- A task is in no blocking call, or waits in one, or has been woken in one. -/
inductive Progress where
  | free
  | waiting (call : Call) (deadline : Option Word)
  | ended (call : Call) (status : Return) (payload : Payload)
  deriving DecidableEq

def Progress.wake : Progress → Return → Payload → Progress
  | .waiting call _, status, payload => .ended call status payload
  | progress, _, _ => progress

/-- The outcome that a woken task returns from its call with. -/
def Call.result : Call → Return → Payload → Outcome
  | .delay, _, _ => .ret .ok
  | .semTake _, status, _ | .mutexLock _, status, _ | .queueSend .., status, _ | .queueReceive .., status, _ =>
    .ret status
  | .eventWait .., status, payload | .notifyWait _, status, payload =>
    if status = .ok then .returned status payload.first else .ret status

namespace System

def progress (S : System) (t : Nat) : Progress :=
  match S.call t with
  | none => .free
  | some call =>
    if S.kernel.task.state t = .blocked then
      .waiting call (if S.kernel.timeoutMap.isSet t = true then some (S.kernel.task.wakeTick t) else none)
    else .ended call (S.kernel.task.blockStatus t) (S.kernel.task.blockPayload t)

def Inside (S : System) (t : Nat) : Prop := S.call t ≠ none

variable (cfg) in
structure Inv (S : System) : Prop where
  kernel : S.kernel.Inv cfg
  inside : ∀ t, S.Inside t → S.kernel.taskTable t = true
  waiting : ∀ t, S.kernel.taskTable t = true → S.kernel.task.state t = .blocked →
    ∃ call, S.call t = some call ∧ S.kernel.task.waitMapPtr t = call.target ∧
      S.kernel.task.blockPayload t = call.payload
  ended : ∀ t, S.Inside t → S.kernel.task.state t ≠ .blocked →
    S.kernel.task.blockStatus t = .ok ∨ S.kernel.task.blockStatus t = .timeout

end System

structure Turns (inside : Nat → Prop) (k k' : Kernel) (woken : Nat → Option Return) : Prop where
  table : ∀ t, inside t → k'.taskTable t = k.taskTable t
  woke : ∀ t, woken t ≠ none → k.taskTable t = true ∧ k.task.state t = .blocked
  blocked : ∀ t, inside t → (k'.task.state t = .blocked ↔ k.task.state t = .blocked ∧ woken t = none)
  outside : ∀ t, ¬inside t → k'.taskTable t = true → k'.task.state t = .blocked →
    k.taskTable t = true ∧ k.task.state t = .blocked
  blockStatus : ∀ t, inside t → k'.task.blockStatus t = (woken t).getD (k.task.blockStatus t)
  waitMapPtr : ∀ t, inside t → woken t = none → k'.task.waitMapPtr t = k.task.waitMapPtr t
  blockPayload : ∀ t, inside t → woken t = none → k'.task.blockPayload t = k.task.blockPayload t
  wakeTick : ∀ t, inside t → k'.task.wakeTick t = k.task.wakeTick t
  timeout : ∀ t, inside t → k'.timeoutMap.isSet t = (k.timeoutMap.isSet t && decide (woken t = none))

section

variable {inside : Nat → Prop} {k k' k'' : Kernel} {woken woken' : Nat → Option Return} {t : Nat}

theorem Waits.turns (h : Waits k k' woken) (inside : Nat → Prop) : Turns inside k k' woken where
  table _ _ := by rw [h.taskTable]
  woke := h.woke
  blocked t _ := h.blocked t
  outside t _ reg blocked := ⟨by rwa [h.taskTable] at reg, ((h.blocked t).mp blocked).1⟩
  blockStatus t _ := h.blockStatus t
  waitMapPtr t _ := h.waitMapPtr t
  blockPayload t _ := h.blockPayload t
  wakeTick _ _ := by rw [h.wakeTick]
  timeout t _ := h.timeout t

namespace Turns

theorem congr (h : Turns inside k k' woken) (same : ∀ t, woken' t = woken t) : Turns inside k k' woken' := by
  rwa [funext same]

theorem of_same (table : ∀ t, inside t → k'.taskTable t = k.taskTable t)
    (state : ∀ t, inside t → k'.task.state t = k.task.state t)
    (outside : ∀ t, ¬inside t → k'.taskTable t = true → k'.task.state t = .blocked →
      k.taskTable t = true ∧ k.task.state t = .blocked)
    (blockStatus : ∀ t, inside t → k'.task.blockStatus t = k.task.blockStatus t)
    (waitMapPtr : ∀ t, inside t → k'.task.waitMapPtr t = k.task.waitMapPtr t)
    (blockPayload : ∀ t, inside t → k'.task.blockPayload t = k.task.blockPayload t)
    (wakeTick : ∀ t, inside t → k'.task.wakeTick t = k.task.wakeTick t)
    (timeout : ∀ t, inside t → k'.timeoutMap.isSet t = k.timeoutMap.isSet t) :
    Turns inside k k' fun _ => none where
  table := table
  woke _ ne := absurd rfl ne
  blocked t ht := by rw [state t ht]; simp
  outside := outside
  blockStatus := blockStatus
  waitMapPtr t ht _ := waitMapPtr t ht
  blockPayload t ht _ := blockPayload t ht
  wakeTick := wakeTick
  timeout t ht := by rw [timeout t ht]; simp

theorem refl (k : Kernel) : Turns inside k k fun _ => none :=
  of_same (fun _ _ => rfl) (fun _ _ => rfl) (fun _ _ reg blocked => ⟨reg, blocked⟩) (fun _ _ => rfl)
    (fun _ _ => rfl) (fun _ _ => rfl) (fun _ _ => rfl) fun _ _ => rfl

theorem setNotify (k : Kernel) (u : Nat) (value : Word) (pending : Bool) :
    Turns inside k (k.setNotify u value pending) fun _ => none :=
  of_same (fun _ _ => rfl) (fun _ _ => rfl) (fun _ _ reg blocked => ⟨reg, blocked⟩) (fun _ _ => rfl)
    (fun _ _ => rfl) (fun _ _ => rfl) (fun _ _ => rfl) fun _ _ => rfl

theorem ticked (k : Kernel) : Turns inside k (Rtos.ticked k) fun _ => none :=
  of_same (fun _ _ => rfl) (fun _ _ => rfl) (fun _ _ reg blocked => ⟨reg, blocked⟩) (fun _ _ => rfl)
    (fun _ _ => rfl) (fun _ _ => rfl) (fun _ _ => rfl) fun _ _ => rfl

theorem trans (h : Turns inside k k' woken) (h' : Turns inside k' k'' woken') :
    Turns inside k k'' fun t => (woken t).or (woken' t) := by
  have split : ∀ t, (woken t).or (woken' t) = none ↔ woken t = none ∧ woken' t = none := by
    intro t
    cases woken t <;> simp
  have apart : ∀ t, inside t → woken t ≠ none → woken' t = none := by
    intro t ht hw
    by_contra hw'
    have blocked := ((h.blocked t ht).mp (h'.woke t hw').2).2
    exact hw blocked
  refine ⟨?_, ?_, ?_, ?_, ?_, ?_, ?_, ?_, ?_⟩
  · exact fun t ht => (h'.table t ht).trans (h.table t ht)
  · intro t ht
    by_cases hw : woken t = none
    · have hw' : woken' t ≠ none := by simpa [hw] using ht
      obtain ⟨reg, blocked⟩ := h'.woke t hw'
      by_cases hin : inside t
      · exact ⟨by rwa [h.table t hin] at reg, ((h.blocked t hin).mp blocked).1⟩
      · exact h.outside t hin reg blocked
    · exact h.woke t hw
  · intro t ht
    rw [h'.blocked t ht, h.blocked t ht, split, and_assoc]
  · intro t ht reg blocked
    obtain ⟨reg', blocked'⟩ := h'.outside t ht reg blocked
    exact h.outside t ht reg' blocked'
  · intro t ht
    rw [h'.blockStatus t ht, h.blockStatus t ht]
    by_cases hw : woken t = none
    · simp [hw]
    · simp [apart t ht hw]
  · intro t ht none
    obtain ⟨hw, hw'⟩ := (split t).mp none
    rw [h'.waitMapPtr t ht hw', h.waitMapPtr t ht hw]
  · intro t ht none
    obtain ⟨hw, hw'⟩ := (split t).mp none
    rw [h'.blockPayload t ht hw', h.blockPayload t ht hw]
  · exact fun t ht => (h'.wakeTick t ht).trans (h.wakeTick t ht)
  · intro t ht
    rw [h'.timeout t ht, h.timeout t ht, Bool.and_assoc]
    congr 1
    by_cases hw : woken t = none
    · simp [hw]
    · simp [hw]

end Turns

theorem registerTask_turns (fresh : ¬inside t) (p : Nat) : Turns inside k (registerTask k t p) fun _ => none := by
  have ne : ∀ u, inside u → u ≠ t := fun u hu same => fresh (same ▸ hu)
  refine .of_same ?_ ?_ ?_ ?_ ?_ ?_ ?_ fun _ _ => rfl
  · exact fun u hu => update_of_ne (ne u hu) _ _
  · exact fun u hu => update_of_ne (ne u hu) _ _
  · intro u _ reg blocked
    by_cases hut : u = t
    · subst hut
      simp [registerTask, initTaskContext, readyAdd] at blocked
    · simp only [registerTask, initTaskContext, readyAdd, update_of_ne hut] at reg blocked
      exact ⟨reg, blocked⟩
  · exact fun u hu => update_of_ne (ne u hu) _ _
  · exact fun u hu => update_of_ne (ne u hu) _ _
  · exact fun u hu => update_of_ne (ne u hu) _ _
  · exact fun u hu => update_of_ne (ne u hu) _ _

theorem taskCreate_turns (fresh : ∀ u, inside u → k.taskTable u = true) (config : TaskConfig) :
    Turns inside k (taskCreate cfg k config).1 fun _ => none := by
  rcases taskCreate_cases cfg k config with ⟨ret, eq, _⟩ | ⟨_, _, free, pending, eq, _⟩
  · rw [eq]
    exact .refl k
  · rw [eq]
    have out : ¬inside config.taskId := by
      intro hin
      have reg := fresh _ hin
      rw [free] at reg
      cases reg
    have turns := registerTask_turns (k := k) out config.priority
    cases pending with
    | false => exact turns
    | true => exact (turns.trans ((setPending_waits _).turns inside)).congr fun _ => rfl

theorem taskCreate_tickCount (k : Kernel) (config : TaskConfig) :
    (taskCreate cfg k config).1.tickCount = k.tickCount := by
  rcases taskCreate_cases cfg k config with ⟨ret, eq, _⟩ | ⟨_, _, _, pending, eq, _⟩
  · rw [eq]
  · rw [eq]
    cases pending <;> rfl

theorem taskExit_turns (out : ¬inside k.scheduler.currentTaskId) : Turns inside k (taskExit cfg k) fun _ => none := by
  have ne : ∀ u, inside u → u ≠ k.scheduler.currentTaskId := fun u hu same => out (same ▸ hu)
  refine .of_same ?_ ?_ ?_ (fun _ _ => rfl) (fun _ _ => rfl) (fun _ _ => rfl) (fun _ _ => rfl) fun _ _ => rfl
  · exact fun u hu => update_of_ne (ne u hu) _ _
  · exact fun u hu => update_of_ne (ne u hu) _ _
  · intro u _ reg blocked
    by_cases hut : u = k.scheduler.currentTaskId
    · subst hut
      simp [taskExit, Kernel.setState, readyRemove, Kernel.setPending] at reg
    · simp only [taskExit, Kernel.setState, readyRemove, Kernel.setPending, update_of_ne hut]
        at reg blocked
      exact ⟨reg, blocked⟩

end

end XSDK.Rtos
