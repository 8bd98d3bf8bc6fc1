import Mathlib.Order.Bounds.Basic
import XSDK.Rtos.Ownership

/-! Priority inheritance in every reachable state: as long as no base priority is set
again, each task has the least of its base and what its waiters lend it. -/
namespace XSDK.Rtos

open Function (update update_self update_of_ne)
open Library

variable {cfg : Config} {k k' : Kernel} {S S' : System} {op : Op} {t m : Nat}

def Kernel.Inherits (cfg : Config) (k : Kernel) : Prop :=
  Settled (k.tasks cfg) (k.lender cfg) k.task.basePriority k.effectivePriority

theorem Kernel.Inherits.graph (h : k.Inherits cfg) (same : SameGraph k k') : k'.Inherits cfg := by
  unfold Kernel.Inherits
  rw [same.tasks, same.lender, same.basePriority, same.effectivePriority]
  exact h

theorem lender_congr (lists : ListsOk cfg k) (lists' : ListsOk cfg k')
    (waitingOn : k'.waiters.waitingOn = k.waiters.waitingOn)
    (owner : k'.owners.owner = k.owners.owner) : k'.lender cfg = k.lender cfg := by
  funext u
  apply Option.ext
  intro v
  rw [lists'.lender_eq_some, lists.lender_eq_some, waitingOn, owner]

theorem lender_update (lists : ListsOk cfg k) (lists' : ListsOk cfg k') (target : Option Nat)
    (waitingOn : k'.waiters.waitingOn = update k.waiters.waitingOn t target)
    (owner : k'.owners.owner = k.owners.owner) :
    k'.lender cfg = update (k.lender cfg) t (target.map k.owners.owner) := by
  funext u
  apply Option.ext
  intro v
  rw [lists'.lender_eq_some, waitingOn, owner]
  rcases eq_or_ne u t with rfl | hu
  · rw [update_self, update_self]
    cases target with
    | none => simp
    | some m => simp
  · rw [update_of_ne hu, update_of_ne hu, lists.lender_eq_some]

theorem lender_running (h : k.Inv cfg) (running : k.task.state t = .running) : k.lender cfg t = none := by
  have idle := (h.running_idle running).2
  simp [Kernel.lender, idle]

theorem tasks_card_le (k : Kernel) (p : Nat → Prop) [DecidablePred p] :
    ((k.tasks cfg).filter p).card ≤ cfg.maxTasks + 1 := by
  have le₁ := Finset.card_filter_le (k.tasks cfg) p
  have le₂ := Finset.card_filter_le (Finset.range cfg.maxTasks) fun t => k.taskTable t = true
  rw [Finset.card_range] at le₂
  exact (le₁.trans le₂).trans (Nat.le_succ _)

theorem recompute_lower (lists : ListsOk cfg k) (reg : k.taskTable t = true)
    (but : SettledBut (k.tasks cfg) (k.lender cfg) k.task.basePriority k.effectivePriority t)
    (below : lent (k.tasks cfg) (k.lender cfg) k.task.basePriority k.effectivePriority t ≤
      k.effectivePriority t) : (mutexRecomputeTaskPriority cfg k t).Inherits cfg := by
  obtain ⟨_, only, eff⟩ := recompute_spec lists reg
  unfold Kernel.Inherits
  rw [only.tasks, only.lender, only.task, eff]
  exact (settle_lower lists.lender_closed lists.lender_irrefl _ _ t (lists.mem_tasks.mpr reg) but below
    (tasks_card_le k _)).1

theorem recompute_raise (lists : ListsOk cfg k) (reg : k.taskTable t = true)
    (but : SettledBut (k.tasks cfg) (k.lender cfg) k.task.basePriority k.effectivePriority t)
    (above : k.effectivePriority t ≤
      lent (k.tasks cfg) (k.lender cfg) k.task.basePriority k.effectivePriority t) :
    (mutexRecomputeTaskPriority cfg k t).Inherits cfg := by
  obtain ⟨_, only, eff⟩ := recompute_spec lists reg
  unfold Kernel.Inherits
  rw [only.tasks, only.lender, only.task, eff]
  exact (settle_raise lists.lender_closed lists.lender_irrefl _ _ t (lists.mem_tasks.mpr reg) but above
    (tasks_card_le k _)).1

/-- The recursion of a task that may have to move either way reaches the fixed point
when the task lends to nobody. -/
theorem recompute_root (lists : ListsOk cfg k) (reg : k.taskTable t = true) (root : k.lender cfg t = none)
    (but : SettledBut (k.tasks cfg) (k.lender cfg) k.task.basePriority k.effectivePriority t) :
    (mutexRecomputeTaskPriority cfg k t).Inherits cfg := by
  obtain ⟨_, only, eff⟩ := recompute_spec lists reg
  unfold Kernel.Inherits
  rw [only.tasks, only.lender, only.task, eff, settle_root root (Nat.succ_pos _)]
  exact settled_root root but

theorem recompute_settled (h : k.Inherits cfg) (lists : ListsOk cfg k) (reg : k.taskTable t = true) :
    (mutexRecomputeTaskPriority cfg k t).effectivePriority = k.effectivePriority := by
  obtain ⟨_, _, eff⟩ := recompute_spec lists reg
  rw [eff]
  exact settle_of_settled (h t (lists.mem_tasks.mpr reg)) _

/-- The operation that gives a task a new base priority. -/
def Op.setsBase : Op → Bool
  | .taskSetPriority .. => true
  | _ => false

/- The life of a task. -/

theorem Kernel.cleared_inherits : Kernel.cleared.Inherits cfg := by
  intro t ht
  have reg := (Kernel.mem_tasks.mp ht).2
  cases reg

theorem registerTask_inherits (h : k.Inv cfg) (inherits : k.Inherits cfg) {id priority : Nat}
    (free : k.taskTable id = false) (lt : id < cfg.maxTasks) (bound : priority < cfg.maxPriorities) :
    (registerTask k id priority).Inherits cfg := by
  have inv := registerTask_inv h free lt bound
  have eq := initTaskContext_eq h free priority
  have waitingOn : (registerTask k id priority).waiters.waitingOn = k.waiters.waitingOn := by
    unfold registerTask
    rw [eq]
    rfl
  have owner : (registerTask k id priority).owners.owner = k.owners.owner := by
    unfold registerTask
    rw [eq]
    rfl
  have lender := lender_congr h.lists inv.lists waitingOn owner
  have tasks : (registerTask k id priority).tasks cfg = insert id (k.tasks cfg) := by
    ext u
    rw [Finset.mem_insert, Kernel.mem_tasks, Kernel.mem_tasks]
    change u < cfg.maxTasks ∧ update k.taskTable id true u = true ↔ _
    rcases eq_or_ne u id with rfl | hu
    · simp [lt]
    · simp [hu]
  have fresh : id ∉ k.tasks cfg := by
    intro mem
    have reg := (Kernel.mem_tasks.mp mem).2
    rw [free] at reg
    cases reg
  have unregistered : ∀ m, k.owners.owner m ≠ id := by
    intro m own
    have valid : k.owners.owner m ≠ invalidTaskId := by
      have word := cfg.tasks_word
      rw [own]
      unfold invalidTaskId
      omega
    have reg := (h.lists.owner m valid).1
    rw [own, free] at reg
    cases reg
  have root : k.lender cfg id = none := by
    cases hw : k.lender cfg id with
    | none => rfl
    | some v =>
      obtain ⟨m, waiting, _⟩ := h.lists.lender_eq_some.mp hw
      have reg := (h.lists.waiter id m waiting).1
      rw [free] at reg
      cases reg
  have leaf : ∀ c ∈ k.tasks cfg, k.lender cfg c ≠ some id := by
    intro c _ hc
    obtain ⟨m, _, own⟩ := h.lists.lender_eq_some.mp hc
    exact unregistered m own
  unfold Kernel.Inherits
  rw [tasks, lender]
  exact settled_insert inherits fresh root leaf

theorem taskCreate_inherits (h : k.Inv cfg) (inherits : k.Inherits cfg) (config : TaskConfig) :
    (taskCreate cfg k config).1.Inherits cfg := by
  rcases taskCreate_cases cfg k config with ⟨ret, eq, _⟩ | ⟨lt, bound, free, pending, eq, _⟩
  · rw [eq]
    exact inherits
  · have registered := registerTask_inherits h inherits free lt bound
    rw [eq]
    cases pending with
    | true => exact registered.graph (Calm.setPending _).toSameGraph
    | false => exact registered

/-- The task that ends waits for nothing, so it lends to nobody. -/
theorem taskExit_inherits (h : k.Inv cfg) (inherits : k.Inherits cfg)
    (reg : k.taskTable k.scheduler.currentTaskId = true) (running : k.task.state k.scheduler.currentTaskId = .running)
    (holds : k.owners.head k.scheduler.currentTaskId = none) : (taskExit cfg k).Inherits cfg := by
  have inv := taskExit_inv h reg running holds
  have lender := lender_congr h.lists inv.lists rfl rfl
  have tasks : (taskExit cfg k).tasks cfg = (k.tasks cfg).erase k.scheduler.currentTaskId := by
    ext u
    rw [Finset.mem_erase, Kernel.mem_tasks, Kernel.mem_tasks]
    change u < cfg.maxTasks ∧ update k.taskTable k.scheduler.currentTaskId false u = true ↔ _
    rcases eq_or_ne u k.scheduler.currentTaskId with rfl | hu
    · simp
    · simp [hu]
  unfold Kernel.Inherits
  rw [tasks, lender]
  exact settled_erase inherits (lender_running h running)

/- Waiting for a mutex. -/

theorem mutexBlock_inherits (h : k.Inv cfg) (inherits : k.Inherits cfg) (r : Runs cfg k t)
    (owned : k.owners.owner m ≠ invalidTaskId) (other : k.owners.owner m ≠ t) (ticks : Word) :
    (mutexBlock cfg k t m (k.owners.owner m) ticks).1.Inherits cfg := by
  obtain ⟨eq, inv, only, blocks, eff, owners, waitingOn⟩ := mutexBlock_spec h r owned other ticks
  obtain ⟨lists, joined, _⟩ := contended_spec h r owned other ticks
  have pre := prepared_eq k t ticks (some (.mutexWaiter m)) Payload.zero
  have contends := contended_eq cfg k t m ticks
  have frame : (contended cfg k t m ticks).taskTable = k.taskTable ∧
      (contended cfg k t m ticks).owners = k.owners ∧
      (contended cfg k t m ticks).task.basePriority = k.task.basePriority ∧
      (contended cfg k t m ticks).effectivePriority = k.effectivePriority := by
    rw [contends, pre]
    exact ⟨rfl, rfl, rfl, rfl⟩
  obtain ⟨fTable, fOwners, fBase, fEff⟩ := frame
  have tasks : (contended cfg k t m ticks).tasks cfg = k.tasks cfg := by
    unfold Kernel.tasks
    rw [fTable]
  have lender := lender_update h.lists lists (some m) joined (congrArg OwnerLists.owner fOwners)
  have ownerReg := (h.lists.owner m owned).1
  have attached := settledBut_attach inherits (lender_running h r.running) (h.lists.mem_tasks.mpr ownerReg)
  have settled : (mutexRecomputeTaskPriority cfg (contended cfg k t m ticks) (k.owners.owner m)).Inherits cfg := by
    apply recompute_lower lists (by rwa [fTable])
    · rw [tasks, lender, fBase, fEff]
      exact attached.1
    · rw [tasks, lender, fBase, fEff]
      exact attached.2
  rw [eq]
  apply settled.graph
  refine ⟨?_, ?_, ?_, ?_, eff⟩
  · rw [blocks.taskTable, only.taskTable, fTable]
  · rw [owners, only.owners, fOwners]
  · rw [waitingOn, only.waitingOn, joined]
  · rw [blocks.basePriority, only.task, fBase]

theorem expire_inherits (h : k.Inv cfg) (inherits : k.Inherits cfg) (reg : k.taskTable t = true)
    (blocked : k.task.state t = .blocked) :
    (unblock cfg (blockCleanup cfg k t) t .timeout).Inherits cfg := by
  rcases blockCleanup_cases h reg blocked with ⟨m, waiting, hook⟩ | ⟨_, payload, hook⟩
  · obtain ⟨lists, left, _, _⟩ := mutexWaiterRemove_spec h.lists waiting
    obtain ⟨fTask, fOwners, fTable, _, _, fEff, _⟩ := mutexWaiterRemove_frame waiting
    obtain ⟨_, _, foreign, owned⟩ := h.lists.waiter t m waiting
    have ownerReg := (h.lists.owner m owned).1
    have lender := lender_update h.lists lists none left (congrArg OwnerLists.owner fOwners)
    have tasks : (mutexWaiterRemove k m t).tasks cfg = k.tasks cfg := by
      unfold Kernel.tasks
      rw [fTable]
    have child : k.lender cfg t = some (k.owners.owner m) := h.lists.lender_eq_some.mpr ⟨m, waiting, rfl⟩
    have detached := settledBut_detach inherits child (Ne.symm foreign) (h.lists.mem_tasks.mpr ownerReg)
    have settled : (mutexRecomputeTaskPriority cfg (mutexWaiterRemove k m t) (k.owners.owner m)).Inherits cfg := by
      apply recompute_raise lists (by rwa [fTable])
      · rw [tasks, lender, fTask, fEff]
        exact detached.1
      · rw [tasks, lender, fTask, fEff]
        exact detached.2
    obtain ⟨lists', only, _⟩ := recompute_spec lists (t := k.owners.owner m) (by rwa [fTable])
    have found := lists'.lookup (t := t) (by rw [only.taskTable, fTable]; exact reg)
    rw [hook]
    exact settled.graph (Calm.unblock found .timeout).toSameGraph
  · have found := (h.setPayload t payload).lists.lookup (t := t) reg
    rw [hook]
    exact inherits.graph ((Calm.setPayload k t payload).trans (.unblock found .timeout)).toSameGraph

theorem tickTimeouts_inherits (h : k.Inv cfg) (inherits : k.Inherits cfg) : (tickTimeouts cfg k).Inherits cfg := by
  apply tickTimeouts_induction (P := fun k' => k'.Inherits cfg) _ h
  · exact inherits.graph ⟨rfl, rfl, rfl, rfl, rfl⟩
  · intro k' t inv reg blocked _ inherits
    exact expire_inherits inv inherits reg blocked

/- Passing a mutex on. -/

theorem acquire_inherits (h : k.Inv cfg) (inherits : k.Inherits cfg)
    (free : k.owners.owner m = invalidTaskId) (reg : k.taskTable t = true) (bound : m < cfg.mutexCount) :
    (mutexAcquire k t m).Inherits cfg := by
  have inv := acquire_inv h free reg bound
  have lender : (mutexAcquire k t m).lender cfg = k.lender cfg := by
    funext u
    apply Option.ext
    intro v
    rw [inv.lists.lender_eq_some, h.lists.lender_eq_some, owner_acquire]
    apply exists_congr
    intro n
    apply and_congr_right
    intro waiting
    have owned := (h.lists.waiter u n waiting).2.2.2
    have ne : n ≠ m := by
      rintro rfl
      exact owned free
    rw [update_of_ne ne]
  unfold Kernel.Inherits
  rw [lender]
  exact inherits

theorem release_inherits (h : k.Inv cfg) (inherits : k.Inherits cfg) (own : k.owners.owner m = t)
    (reg : k.taskTable t = true) (waiters : ∀ u, k.waiters.waitingOn u ≠ some m) :
    (mutexRecomputeTaskPriority cfg (mutexRelease k t m) t).Inherits cfg := by
  obtain ⟨inv, _, only, _⟩ := release_spec h own reg waiters
  have lender : (mutexRelease k t m).lender cfg = k.lender cfg := by
    funext u
    apply Option.ext
    intro v
    rw [inv.lists.lender_eq_some, h.lists.lender_eq_some, owner_release]
    apply exists_congr
    intro n
    apply and_congr_right
    intro waiting
    have ne : n ≠ m := by
      rintro rfl
      exact waiters u waiting
    rw [update_of_ne ne]
  have released : (mutexRelease k t m).Inherits cfg := by
    unfold Kernel.Inherits
    rw [lender]
    exact inherits
  have eff := recompute_settled released inv.lists (t := t) reg
  apply released.graph
  exact ⟨only.taskTable, only.owners, only.waitingOn, congrArg Tasks.basePriority only.task, eff⟩

theorem handOff_inherits (h : k.Inv cfg) (inherits : k.Inherits cfg) (own : k.owners.owner m = t)
    (reg : k.taskTable t = true) (running : k.task.state t = .running) {w : Nat} (head : k.waiters.head m = some w) :
    (mutexRecomputeTaskPriority cfg
      (mutexRecomputeTaskPriority cfg (unblock cfg (passed k t m w) w .ok) w) t).Inherits cfg := by
  obtain ⟨waiting, first⟩ := h.lists.waiters.head_some head
  obtain ⟨regW, _, foreign, _⟩ := h.lists.waiter w m waiting
  have ne : w ≠ t := fun e => foreign (own.trans e.symm)
  obtain ⟨lists, owner, waitingOn, _⟩ := passed_spec h.lists own reg waiting
  obtain ⟨inv₁, inv₂, _, only₂, _, _⟩ := handOff_spec h own reg waiting
  have eq := passed_eq (t := t) waiting
  have table : (passed k t m w).taskTable = k.taskTable := by rw [eq]
  have base : (passed k t m w).task.basePriority = k.task.basePriority := by rw [eq]
  have effPassed : (passed k t m w).effectivePriority = k.effectivePriority := by rw [eq]
  have tasks : (passed k t m w).tasks cfg = k.tasks cfg := by
    unfold Kernel.tasks
    rw [table]
  have child : k.lender cfg w = some t := h.lists.lender_eq_some.mpr ⟨m, waiting, own⟩
  have moved : ∀ c ∈ k.tasks cfg, (c ≠ w ∧ (passed k t m w).lender cfg c = k.lender cfg c) ∨
      (k.lender cfg c = some t ∧ ((c = w ∧ (passed k t m w).lender cfg c = none) ∨
        ((passed k t m w).lender cfg c = some w ∧ k.effectivePriority w ≤ k.effectivePriority c))) := by
    intro c _
    rcases eq_or_ne c w with rfl | hc
    · refine .inr ⟨child, .inl ⟨rfl, ?_⟩⟩
      have idle : (passed k t m c).waiters.waitingOn c = none := by rw [waitingOn, update_self]
      simp [Kernel.lender, idle]
    · have kept : (passed k t m w).waiters.waitingOn c = k.waiters.waitingOn c := by
        rw [waitingOn, update_of_ne hc]
      by_cases waits : k.waiters.waitingOn c = some m
      · refine .inr ⟨h.lists.lender_eq_some.mpr ⟨m, waits, own⟩, .inr ⟨?_, first c waits⟩⟩
        exact lists.lender_eq_some.mpr ⟨m, kept.trans waits, by rw [owner, update_self]⟩
      · refine .inl ⟨hc, Option.ext fun v => ?_⟩
        rw [lists.lender_eq_some, h.lists.lender_eq_some, kept, owner]
        apply exists_congr
        intro n
        apply and_congr_right
        intro waitsN
        have nm : n ≠ m := by
          rintro rfl
          exact waits waitsN
        rw [update_of_ne nm]
  have but := settledBut_handOver inherits child ne moved
  have found := lists.lookup (t := w) (by rw [table]; exact regW)
  have woken : SameGraph (passed k t m w) (unblock cfg (passed k t m w) w .ok) := (Calm.unblock found .ok).toSameGraph
  have reg₁ : (unblock cfg (passed k t m w) w .ok).taskTable w = true := by rw [woken.taskTable, table]; exact regW
  have but₁ : SettledBut ((unblock cfg (passed k t m w) w .ok).tasks cfg)
      ((unblock cfg (passed k t m w) w .ok).lender cfg) (unblock cfg (passed k t m w) w .ok).task.basePriority
      (unblock cfg (passed k t m w) w .ok).effectivePriority t := by
    rw [woken.tasks, woken.lender, woken.basePriority, woken.effectivePriority, tasks, base, effPassed]
    exact but
  obtain ⟨_, _, eff₂⟩ := recompute_spec inv₁.lists reg₁
  rw [settle_of_settled (but₁ w (inv₁.lists.mem_tasks.mpr reg₁) ne)] at eff₂
  have running₂ : k.waiters.waitingOn t = none := (h.running_idle running).2
  apply recompute_root inv₂.lists (t := t)
  · rw [only₂.taskTable, woken.taskTable, table]
    exact reg
  · have idle : (mutexRecomputeTaskPriority cfg (unblock cfg (passed k t m w) w .ok) w).waiters.waitingOn t = none := by
      rw [only₂.waitingOn, woken.waitingOn, waitingOn, update_of_ne (Ne.symm ne)]
      exact running₂
    simp [Kernel.lender, idle]
  · rw [only₂.tasks, only₂.lender, only₂.task, eff₂]
    exact but₁

namespace System

theorem mutexLock_inherits (inv : S.Inv cfg) (inherits : S.kernel.Inherits cfg) {inIsr : Bool} {ticks : Word}
    (may : S.mayCall cfg inIsr = true) (bound : m < cfg.mutexCount) :
    (S.run cfg inIsr (.mutexLock m ticks)).1.kernel.Inherits cfg := by
  rw [mutexLock_kernel]
  rcases mutexLock_cases inv.kernel (mayCall_called may) m ticks with
    eq | ⟨_, _, eq⟩ | ⟨caller, free, eq⟩ | ⟨caller, owned, foreign, _, eq⟩
  · rw [eq]
    exact inherits
  · rw [eq]
    exact inherits
  · rw [eq]
    exact acquire_inherits inv.kernel inherits free caller.reg bound
  · rw [eq]
    exact mutexBlock_inherits inv.kernel inherits caller.toRuns owned foreign ticks

theorem mutexUnlock_inherits (inv : S.Inv cfg) (inherits : S.kernel.Inherits cfg) (may : S.mayCall cfg false = true) :
    (S.run cfg false (.mutexUnlock m)).1.kernel.Inherits cfg := by
  change (mutexUnlock cfg S.kernel m).1.Inherits cfg
  by_cases mine : S.kernel.Unlocks m
  · obtain ⟨own, started, reg⟩ := mine
    have running := (mayCall_called may started rfl).running
    rcases mutexUnlock_cases inv.kernel started rfl reg own with ⟨none, eq⟩ | ⟨w, head, _, eq⟩
    · rw [eq]
      exact release_inherits inv.kernel inherits own reg (inv.kernel.lists.waiters.head_none none)
    · rw [eq]
      exact handOff_inherits inv.kernel inherits own reg running head
  · rw [mutexUnlock_refused mine]
    exact inherits

theorem run_inherits (inv : S.Inv cfg) (inherits : S.kernel.Inherits cfg) {inIsr : Bool}
    (allowed : S.Allowed cfg inIsr op) (fixed : op.setsBase = false) :
    (S.run cfg inIsr op).1.kernel.Inherits cfg := by
  cases (run_step inv allowed).effect with
  | calm calm => exact inherits.graph calm.toSameGraph
  | blocks graph => exact inherits.graph graph
  | special special =>
    cases op with
    | kernelStart => exact inherits.graph (kernelStart_graph inv.kernel)
    | taskCreate config => exact taskCreate_inherits inv.kernel inherits config
    | taskExit =>
      obtain ⟨runs, _, _, holds⟩ := allowed
      have called := (taskRuns_iff.mp runs).1
      exact taskExit_inherits inv.kernel inherits called.reg called.running holds
    | taskSetPriority t p => cases fixed
    | tick =>
      obtain ⟨_, frees, _⟩ := tick_frees inv
      exact (tickTimeouts_inherits inv.kernel inherits).graph frees.calm.toSameGraph
    | contextSwitch => exact inherits.graph (contextSwitch_graph inv.kernel allowed)
    | mutexLock m ticks => exact mutexLock_inherits inv inherits allowed.1 allowed.2
    | mutexUnlock m =>
      obtain ⟨may, rfl⟩ := allowed
      exact mutexUnlock_inherits inv inherits may
    | _ => exact special.elim

theorem Boot.inherits (boot : Boot cfg S) : S.kernel.Inherits cfg := by
  obtain ⟨words, tickCount, eq, _⟩ := boot.kernel
  have created := taskCreate_inherits (Kernel.cleared_inv : Kernel.cleared.Inv cfg) Kernel.cleared_inherits
    { taskId := cfg.timerTaskId, priority := cfg.timerTaskPriority, hasEntry := true, hasStack := true,
      stackWords := words }
  rw [eq]
  exact created.graph ⟨rfl, rfl, rfl, rfl, rfl⟩

end System

/-- What bounds the priority of a task: its base, and the priorities of the tasks that wait
for a mutex it holds. -/
def Kernel.bids (k : Kernel) (t : Nat) : Set Nat :=
  {k.task.basePriority t} ∪
    {p | ∃ m u, k.owners.owner m = t ∧ k.WaitsOn u (.mutex m) ∧ p = k.effectivePriority u}

theorem Kernel.Inv.inherits_iff (h : k.Inv cfg) :
    k.Inherits cfg ↔ ∀ t, k.taskTable t = true → IsLeast (k.bids t) (k.effectivePriority t) := by
  have lends : ∀ u v, k.lender cfg u = some v ↔ ∃ m, k.owners.owner m = v ∧ k.WaitsOn u (.mutex m) := by
    intro u v
    rw [h.lists.lender_eq_some]
    apply exists_congr
    intro m
    rw [(h.task u).waiting m]
    exact And.comm
  have bound : ∀ t x, x ∈ lowerBounds (k.bids t) ↔
      x ≤ lent (k.tasks cfg) (k.lender cfg) k.task.basePriority k.effectivePriority t := by
    intro t x
    rw [le_lent]
    constructor
    · intro lower
      refine ⟨lower (.inl rfl), fun c _ hc => ?_⟩
      obtain ⟨m, own, waits⟩ := (lends c t).mp hc
      exact lower (Set.mem_union_right _ ⟨m, c, own, waits, rfl⟩)
    · rintro ⟨base, children⟩ p (bid | ⟨m, u, own, waits, rfl⟩)
      · exact base.trans_eq (Set.mem_singleton_iff.mp bid).symm
      · exact children u (h.lists.mem_tasks.mpr waits.1) ((lends u t).mpr ⟨m, own, waits⟩)
  have attained : ∀ t, lent (k.tasks cfg) (k.lender cfg) k.task.basePriority k.effectivePriority t ∈ k.bids t := by
    intro t
    have cases : lent (k.tasks cfg) (k.lender cfg) k.task.basePriority k.effectivePriority t =
        k.task.basePriority t ∨ ∃ c ∈ k.tasks cfg, k.lender cfg c = some t ∧
          lent (k.tasks cfg) (k.lender cfg) k.task.basePriority k.effectivePriority t =
            k.effectivePriority c := lent_attained _ t
    rcases cases with base | ⟨c, _, hc, value⟩
    · exact .inl base
    · obtain ⟨m, own, waits⟩ := (lends c t).mp hc
      exact .inr ⟨m, c, own, waits, value⟩
  constructor
  · intro inherits t reg
    rw [inherits t (h.lists.mem_tasks.mpr reg)]
    exact ⟨attained t, (bound t _).mpr le_rfl⟩
  · intro least t ht
    obtain ⟨mem, lower⟩ := least t (h.lists.mem_tasks.mp ht)
    exact le_antisymm ((bound t _).mp lower) ((bound t _).mpr le_rfl mem)

theorem Run.inherits {S₀ : System} {trace : Trace} (run : Run cfg S₀ trace S)
    (fixed : ∀ tr ∈ trace, tr.input.op.setsBase = false) :
    S.Inv cfg ∧ S.kernel.Inherits cfg := by
  refine run.2.invariant_of (P := fun T => T.Inv cfg ∧ T.kernel.Inherits cfg) fixed
    ⟨run.1.inv, run.1.inherits⟩ ?_
  rintro T request ⟨inv, inherits⟩ allowed fixed
  exact ⟨inv.run allowed, System.run_inherits inv inherits allowed fixed⟩

/-- The inheritance equation, in every run that sets no base priority anew. -/
theorem priority_inherited {S₀ : System} {trace : Trace} (run : Run cfg S₀ trace S)
    (fixed : ∀ tr ∈ trace, tr.input.op.setsBase = false) :
    ∀ t, S.kernel.taskTable t = true → IsLeast (S.kernel.bids t) (S.kernel.effectivePriority t) := by
  obtain ⟨inv, inherits⟩ := run.inherits fixed
  exact inv.kernel.inherits_iff.mp inherits

/-- A task waits for a mutex, and its more urgent priority reaches the owner. -/
def sampleInherits : List Request := sampleLocks.take 13

theorem priority_inherited_sample :
    ((machine sample).play sampleStart sampleInherits).kernel.effectivePriority 0 = 5 ∧
      ∀ t, ((machine sample).play sampleStart sampleInherits).kernel.taskTable t = true →
        IsLeast (((machine sample).play sampleStart sampleInherits).kernel.bids t)
          (((machine sample).play sampleStart sampleInherits).kernel.effectivePriority t) := by
  refine ⟨by decide +kernel, priority_inherited (run_of_permits sampleStart_boot (by decide +kernel)) ?_⟩
  apply (Machine.forall_transitions fun request : Request => request.op.setsBase = false).mpr
  decide

end XSDK.Rtos
