import XSDK.Rtos.Wake

/-! Switching, starting, creating and ending tasks, and changing a base priority, all
keep the kernel invariant. -/
namespace XSDK.Rtos

open Function (update update_self update_of_ne)
open Library

variable {cfg : Config} {k k' : Kernel} {t : Nat}

def Resting (k : Kernel) : Prop := ∀ t, k.taskTable t = true → k.task.state t ≠ .running

def promoted (k : Kernel) (n : Nat) (isStarted isSchedulePending : Bool) : Kernel := { k with
  ready := k.ready.removeAtPriority n (k.effectivePriority n)
  task := { k.task with state := update k.task.state n .running }
  scheduler := { k.scheduler with
    currentTaskId := n
    currentPriority := k.effectivePriority n
    isStarted := isStarted
    isSchedulePending := isSchedulePending } }

theorem promoted_inv (h : k.Inv cfg) (resting : Resting k) (reg : k.taskTable t = true)
    (ready : k.task.state t = .ready) (pending : Bool) : (promoted k t true pending).Inv cfg := by
  obtain ⟨l, tasks⟩ := h
  refine ⟨⟨ReadyLists.removeAtPriority_ok l.ready t, l.waiters, l.owners, l.lt, l.eff, l.base, l.waiter,
    l.owner⟩, fun u => ?_⟩
  have ok := tasks u
  by_cases hu : u = t
  · subst hu
    have noWait : ∀ w, (k.waitMap w).isSet u = false := by
      intro w
      rw [← Bool.not_eq_true, ok.wait w, ready]
      exact fun e => nomatch e.2.1
    have noBlock : k.scheduler.blockedMap.isSet u = false := by
      rw [← Bool.not_eq_true, ok.blocked, ready]
      exact fun e => nomatch e.2
    have noTimeout : k.timeoutMap.isSet u = false := by
      rw [← Bool.not_eq_true]
      intro e
      have := (ok.timeout e).2
      rw [ready] at this
      cases this
    have noMutex : ∀ m, k.waiters.waitingOn u ≠ some m := by
      intro m e
      have := ((ok.waiting m).mp e).2.1
      rw [ready] at this
      cases this
    have idle := ok.idle reg (by rw [ready]; exact nofun)
    refine ⟨?_, ?_, ?_, ?_, ?_, ?_, ?_, ?_, ?_⟩
    · simp [promoted]
    · simp [promoted]
    · simp [promoted, noBlock]
    · simp [promoted]
    · simp [promoted, noWait]
    · exact fun _ _ => idle
    · simp [promoted, noTimeout]
    · simp [promoted, noMutex]
    · simp [promoted]
  · refine ok.congr ⟨rfl, ?_, rfl, rfl, ?_, rfl, fun _ => rfl, rfl, rfl⟩ ?_
    · simp [promoted, hu]
    · simp [promoted, hu]
    · exact fun regU running => absurd running (resting u regU)

theorem preSwitch_eq (h : k.Inv cfg) :
    (∃ c, k.scheduler.currentTaskId = c ∧ k.taskTable c = true ∧ k.task.state c = .running ∧
      preSwitch cfg k = { k with
        ready := k.ready.insertTail c (k.effectivePriority c)
        task := { k.task with state := update k.task.state c .ready } }) ∨
    Resting k ∧ preSwitch cfg k = k := by
  unfold preSwitch
  cases hc : currentTask cfg k with
  | none =>
    refine .inr ⟨fun t reg running => ?_, rfl⟩
    have current := ((h.task t).running reg running).2.1
    unfold currentTask at hc
    rw [current, h.lists.lookup reg] at hc
    cases hc
  | some c =>
    obtain ⟨current, _, reg⟩ := Kernel.lookup_eq_some.mp hc
    dsimp only
    by_cases running : k.task.state c = .running
    · rw [if_pos running]
      exact .inl ⟨c, current, current ▸ reg, running, rfl⟩
    · rw [if_neg running]
      refine .inr ⟨fun t regT runs => ?_, rfl⟩
      have here := ((h.task t).running regT runs).2.1
      rw [← here, current] at runs
      exact running runs

structure Parked (cfg : Config) (k k' : Kernel) : Prop where
  inv : k'.Inv cfg
  resting : Resting k'
  waits : Waits k k' fun _ => none
  ready : ∀ t, k.taskTable t = true →
    (k'.task.state t = .ready ↔ k.task.state t = .ready ∨ k.task.state t = .running)
  effectivePriority : k'.effectivePriority = k.effectivePriority
  owners : k'.owners = k.owners
  waiters : k'.waiters = k.waiters
  basePriority : k'.task.basePriority = k.task.basePriority
  taskByPriority : k'.taskByPriority = k.taskByPriority
  scheduler : k'.scheduler = k.scheduler

theorem preSwitch_spec (h : k.Inv cfg) : Parked cfg k (preSwitch cfg k) := by
  rcases preSwitch_eq h with ⟨c, current, reg, running, eq⟩ | ⟨resting, eq⟩
  · rw [eq]
    have notReady : k.ready.map.isSet c = false := by
      rw [← Bool.not_eq_true, (h.task c).ready, running]
      exact fun e => nomatch e.2
    have single : ∀ u, k.taskTable u = true → k.task.state u = .running → u = c :=
      fun u regU runs => ((h.task u).running regU runs).2.1.symm.trans current
    refine ⟨⟨⟨ReadyLists.insertTail_ok h.lists.ready notReady, h.lists.waiters, h.lists.owners, h.lists.lt,
      h.lists.eff, h.lists.base, h.lists.waiter, h.lists.owner⟩, fun u => ?_⟩, ?_, ?_, ?_, rfl, rfl, rfl, rfl,
      rfl, rfl⟩
    · have ok := h.task u
      by_cases hu : u = c
      · subst hu
        have noWait : ∀ w, (k.waitMap w).isSet u = false := by
          intro w
          rw [← Bool.not_eq_true, ok.wait w, running]
          exact fun e => nomatch e.2.1
        have noBlock : k.scheduler.blockedMap.isSet u = false := by
          rw [← Bool.not_eq_true, ok.blocked, running]
          exact fun e => nomatch e.2
        have noTimeout : k.timeoutMap.isSet u = false := by
          rw [← Bool.not_eq_true]
          intro e
          have := (ok.timeout e).2
          rw [running] at this
          cases this
        have noMutex : ∀ m, k.waiters.waitingOn u ≠ some m := by
          intro m e
          have := ((ok.waiting m).mp e).2.1
          rw [running] at this
          cases this
        have idle := ok.idle reg (by rw [running]; exact nofun)
        refine ⟨?_, ?_, ?_, ?_, ?_, ?_, ?_, ?_, ?_⟩
        · simp
        · simp [reg]
        · simp [noBlock]
        · simp
        · simp [noWait]
        · exact fun _ _ => idle
        · simp [noTimeout]
        · simp [noMutex]
        · simp
      · refine ok.congr ⟨rfl, ?_, rfl, rfl, ?_, rfl, fun _ => rfl, rfl, rfl⟩ ok.running
        · simp [hu]
        · simp [hu]
    · intro u regU
      by_cases hu : u = c
      · simp [hu]
      · dsimp only
        rw [update_of_ne hu]
        exact fun runs => hu (single u regU runs)
    · refine ⟨rfl, rfl, rfl, rfl, rfl, fun _ e => absurd rfl e, ?_, fun _ => rfl, fun _ _ => rfl, fun _ _ => rfl,
        fun u => by simp⟩
      intro u
      by_cases hu : u = c
      · simp [hu, running]
      · simp [hu]
    · intro u regU
      by_cases hu : u = c
      · simp [hu, running]
      · dsimp only
        rw [update_of_ne hu]
        exact ⟨.inl, fun e => e.resolve_right fun runs => hu (single u regU runs)⟩
  · rw [eq]
    refine ⟨h, resting, .of_task rfl rfl rfl rfl, ?_, rfl, rfl, rfl, rfl, rfl, rfl⟩
    exact fun u regU => ⟨.inl, fun e => e.resolve_right (resting u regU)⟩

theorem preSwitch_resting (h : k.Inv cfg) (resting : Resting k) : preSwitch cfg k = k := by
  rcases preSwitch_eq h with ⟨c, _, reg, running, _⟩ | ⟨_, eq⟩
  · exact absurd running (resting c reg)
  · exact eq

theorem selectNext_cases (h : k.Inv cfg) :
    (selectNext cfg k = (k, .noTasksReady) ∧ ∀ t, k.taskTable t = true → k.task.state t ≠ .ready) ∨
    ∃ n, k.taskTable n = true ∧ k.task.state n = .ready ∧
      (∀ t, k.taskTable t = true → k.task.state t = .ready →
        k.effectivePriority n ≤ k.effectivePriority t) ∧
      selectNext cfg k = ({ k with scheduler := { k.scheduler with
        nextTaskId := n, nextPriority := k.effectivePriority n } }, .ok) := by
  unfold selectNext
  cases hf : k.ready.priorityMap.findFirstSet cfg.bitmapWidth with
  | none =>
    refine .inl ⟨rfl, fun t reg ready => ?_⟩
    have bit := ((h.task t).ready).mpr ⟨reg, ready⟩
    have bound := (h.lists.eff t reg).trans_le cfg.priorities_le_width
    obtain ⟨p, hp⟩ := h.lists.ready.first_isSome bit bound
    rw [hf] at hp
    cases hp
  | some p =>
    obtain ⟨n, head, bit, prio, least⟩ := h.lists.ready.first hf
    obtain ⟨reg, ready⟩ := ((h.task n).ready).mp bit
    dsimp only
    rw [head]
    refine .inr ⟨n, reg, ready, fun t regT readyT => ?_, rfl⟩
    rw [prio]
    exact least t (((h.task t).ready).mpr ⟨regT, readyT⟩)

theorem Kernel.Inv.setNext (h : k.Inv cfg) (n p : Nat) :
    Kernel.Inv cfg { k with scheduler := { k.scheduler with nextTaskId := n, nextPriority := p } } := by
  obtain ⟨l, tasks⟩ := h
  refine ⟨⟨l.ready, l.waiters, l.owners, l.lt, l.eff, l.base, l.waiter, l.owner⟩, fun u => ?_⟩
  exact (tasks u).congr ⟨rfl, rfl, rfl, rfl, rfl, rfl, fun _ => rfl, rfl, rfl⟩ (tasks u).running

theorem contextSwitch_cases (h : k.Inv cfg) (started : k.scheduler.isStarted = true) :
    (contextSwitch cfg k = k ∧ Resting k) ∨
    ∃ k₁ n, Parked cfg k k₁ ∧ k.taskTable n = true ∧
      (k.task.state n = .ready ∨ k.task.state n = .running) ∧
      (∀ t, k.taskTable t = true → k.task.state t = .ready ∨ k.task.state t = .running →
        k.effectivePriority n ≤ k.effectivePriority t) ∧
      contextSwitch cfg k = promoted { k₁ with scheduler := { k₁.scheduler with
        nextTaskId := n, nextPriority := k.effectivePriority n } } n true false := by
  have parked := preSwitch_spec h
  have table := parked.waits.taskTable
  unfold contextSwitch
  dsimp only
  rcases selectNext_cases parked.inv with ⟨none, idle⟩ | ⟨n, reg, ready, least, some⟩
  · rw [none]
    refine .inl ⟨?_, ?_⟩
    · rw [if_neg nofun]
      rcases preSwitch_eq h with ⟨c, _, reg, running, eq⟩ | ⟨_, eq⟩
      · have nope := idle c (by rw [table]; exact reg)
        exact absurd ((parked.ready c reg).mpr (.inr running)) nope
      · exact eq
    · intro t reg running
      exact idle t (by rw [table]; exact reg) ((parked.ready t reg).mpr (.inr running))
  · rw [some]
    rw [table] at reg
    refine .inr ⟨preSwitch cfg k, n, parked, reg, (parked.ready n reg).mp ready, ?_, ?_⟩
    · intro t regT active
      have := least t (by rw [table]; exact regT) ((parked.ready t regT).mpr active)
      rwa [parked.effectivePriority] at this
    · rw [if_pos rfl]
      unfold switch
      dsimp only
      have still := preSwitch_resting (parked.inv.setNext n ((preSwitch cfg k).effectivePriority n))
        parked.resting
      rw [still, parked.effectivePriority]
      simp only [promoted, readyRemove, Kernel.setState]
      rw [parked.scheduler, started]

theorem promoted_waits (ready : k.task.state t = .ready) (isStarted pending : Bool) :
    Waits k (promoted k t isStarted pending) fun _ => none := by
  refine ⟨rfl, rfl, rfl, rfl, rfl, fun _ e => absurd rfl e, ?_, fun _ => rfl, fun _ _ => rfl, fun _ _ => rfl,
    fun u => by simp [promoted]⟩
  intro u
  by_cases hu : u = t
  · simp [promoted, hu, ready]
  · simp [promoted, hu]

section

variable (h : k.Inv cfg)
include h

theorem contextSwitch_spec (started : k.scheduler.isStarted = true) :
    (contextSwitch cfg k).Inv cfg ∧ Waits k (contextSwitch cfg k) fun _ => none := by
  rcases contextSwitch_cases h started with ⟨eq, _⟩ | ⟨k₁, n, parked, reg, active, _, eq⟩
  · rw [eq]
    exact ⟨h, .of_task rfl rfl rfl rfl⟩
  · rw [eq]
    have reg₁ : k₁.taskTable n = true := by rw [parked.waits.taskTable]; exact reg
    have ready := (parked.ready n reg).mpr active
    refine ⟨promoted_inv (parked.inv.setNext n _) parked.resting reg₁ ready false, ?_⟩
    have next : Waits k₁ { k₁ with scheduler := { k₁.scheduler with
        nextTaskId := n, nextPriority := k.effectivePriority n } } fun _ => none :=
      .of_task rfl rfl rfl rfl
    refine (parked.waits.trans next).trans (promoted_waits ?_ true false)
    exact ready

theorem Kernel.Inv.resting (idle : k.scheduler.isStarted = false) : Resting k := by
  intro t reg running
  have := ((h.task t).running reg running).1
  rw [idle] at this
  cases this

theorem kernelStart_cases :
    (∃ ret, kernelStart cfg k = (k, ret) ∧ ret ≠ .ok) ∨
    ∃ n, k.taskTable n = true ∧ k.task.state n = .ready ∧
      (∀ t, k.taskTable t = true → k.task.state t = .ready →
        k.effectivePriority n ≤ k.effectivePriority t) ∧
      kernelStart cfg k = (promoted { k with scheduler := { k.scheduler with
        nextTaskId := n, nextPriority := k.effectivePriority n } } n true
          k.scheduler.isSchedulePending, .ok) := by
  unfold kernelStart
  cases k.taskByPriority cfg.idlePriority with
  | none => exact .inl ⟨_, rfl, nofun⟩
  | some i =>
    rcases selectNext_cases h with ⟨none, _⟩ | ⟨n, reg, ready, least, some⟩
    · rw [none]
      exact .inl ⟨_, rfl, nofun⟩
    · rw [some]
      exact .inr ⟨n, reg, ready, least, rfl⟩

theorem kernelStart_spec (idle : k.scheduler.isStarted = false) :
    (kernelStart cfg k).1.Inv cfg ∧ Waits k (kernelStart cfg k).1 fun _ => none := by
  rcases kernelStart_cases h with ⟨ret, eq, _⟩ | ⟨n, reg, ready, _, eq⟩
  · rw [eq]
    exact ⟨h, .of_task rfl rfl rfl rfl⟩
  · rw [eq]
    refine ⟨promoted_inv (h.setNext n _) (h.resting idle) reg ready _, ?_⟩
    have next : Waits k { k with scheduler := { k.scheduler with
        nextTaskId := n, nextPriority := k.effectivePriority n } } fun _ => none :=
      .of_task rfl rfl rfl rfl
    refine next.trans (promoted_waits ?_ true _)
    exact ready

theorem initTaskContext_eq {id : Nat} (free : k.taskTable id = false) (priority : Nat) :
    initTaskContext k id priority = { k with
      effectivePriority := update k.effectivePriority id priority
      task := (initTaskContext k id priority).task } := by
  have notReady : k.ready.map.isSet id = false := by
    rw [← Bool.not_eq_true, (h.task id).ready, free]
    exact fun e => nomatch e.1
  have idle : k.waiters.waitingOn id = none := by
    cases hw : k.waiters.waitingOn id with
    | none => rfl
    | some m =>
      have := (((h.task id).waiting m).mp hw).1
      rw [free] at this
      cases this
  obtain ⟨readyLists, held⟩ := h.lists.ready
  obtain ⟨waitLists, heldW, _⟩ := h.lists.waiters
  obtain ⟨ownerLists, heldO⟩ := h.lists.owners
  have loose := held.loose id notReady
  have looseW := heldW.loose id idle
  have head : k.owners.head id = none := by
    have first := (heldO.threads id).head
    have none : ownerLists id = [] := by
      refine List.eq_nil_iff_forall_not_mem.mpr fun m hm => ?_
      obtain ⟨valid, own⟩ := (heldO.mem id m).mp hm
      have := (h.lists.owner m (own ▸ valid)).1
      rw [own, free] at this
      cases this
    rw [none] at first
    exact first
  have same : ∀ f : Nat → Option Nat, f id = none → update f id none = f := by
    intro f hf
    rw [← hf, Function.update_eq_self]
  simp [initTaskContext, same _ loose.1, same _ loose.2, same _ looseW.1, same _ looseW.2, same _ idle, same _ head]

theorem registerTask_inv {id priority : Nat} (free : k.taskTable id = false)
    (lt : id < cfg.maxTasks) (bound : priority < cfg.maxPriorities) :
    (registerTask k id priority).Inv cfg := by
  have notReady : k.ready.map.isSet id = false := by
    rw [← Bool.not_eq_true, (h.task id).ready, free]
    exact fun e => nomatch e.1
  have idle : ∀ m, k.waiters.waitingOn id ≠ some m := by
    intro m hw
    have := (((h.task id).waiting m).mp hw).1
    rw [free] at this
    cases this
  have noWait : ∀ w, (k.waitMap w).isSet id = false := by
    intro w
    rw [← Bool.not_eq_true, (h.task id).wait w, free]
    exact fun e => nomatch e.1
  have noBlock : k.scheduler.blockedMap.isSet id = false := by
    rw [← Bool.not_eq_true, (h.task id).blocked, free]
    exact fun e => nomatch e.1
  have noTimeout : k.timeoutMap.isSet id = false := by
    rw [← Bool.not_eq_true]
    intro e
    have := ((h.task id).timeout e).1
    rw [free] at this
    cases this
  have priorityKept : ∀ u, u ≠ id → update k.effectivePriority id priority u = k.effectivePriority u :=
    fun u hu => update_of_ne hu _ _
  have table : ∀ u, update k.taskTable id true u = true → u = id ∨ k.taskTable u = true := by
    intro u hu
    by_cases e : u = id
    · exact .inl e
    · rw [update_of_ne e] at hu
      exact .inr hu
  have readyOk : (k.ready.insertTail id priority).Ok (update k.effectivePriority id priority) := by
    have moved : k.ready.Ok (update k.effectivePriority id priority) := by
      refine h.lists.ready.congr fun u hu => priorityKept u ?_
      rintro rfl
      rw [notReady] at hu
      cases hu
    have inserted := ReadyLists.insertTail_ok moved notReady
    rwa [update_self] at inserted
  unfold registerTask
  rw [initTaskContext_eq h free]
  unfold readyAdd
  dsimp only
  rw [update_self]
  refine ⟨⟨readyOk, ?_, h.lists.owners, ?_, ?_, ?_, ?_, ?_⟩, fun u => ?_⟩
  · refine h.lists.waiters.congr fun u hu => priorityKept u ?_
    rintro rfl
    cases hw : k.waiters.waitingOn u with
    | none => exact hu hw
    | some m => exact idle m hw
  · intro u hu
    rcases table u hu with rfl | hu
    · exact lt
    · exact h.lists.lt u hu
  · intro u hu
    dsimp only at hu ⊢
    by_cases e : u = id
    · rwa [e, update_self]
    · rw [update_of_ne e] at hu ⊢
      exact h.lists.eff u hu
  · intro u hu
    dsimp only [initTaskContext] at hu ⊢
    by_cases e : u = id
    · rwa [e, update_self]
    · rw [update_of_ne e] at hu ⊢
      exact h.lists.base u hu
  · intro u m hu
    obtain ⟨reg, rest⟩ := h.lists.waiter u m hu
    refine ⟨?_, rest⟩
    dsimp only
    by_cases e : u = id
    · rw [e, update_self]
    · rwa [update_of_ne e]
  · intro m hm
    obtain ⟨reg, rest⟩ := h.lists.owner m hm
    refine ⟨?_, rest⟩
    dsimp only
    by_cases e : k.owners.owner m = id
    · rw [e, update_self]
    · rwa [update_of_ne e]
  · by_cases hu : u = id
    · subst hu
      refine ⟨?_, ?_, ?_, ?_, ?_, ?_, ?_, ?_, ?_⟩
      · simp [initTaskContext]
      · simp [initTaskContext]
      · simp [initTaskContext, noBlock]
      · simp [initTaskContext]
      · simp [initTaskContext, noWait]
      · simp [initTaskContext]
      · simp [noTimeout]
      · simp [initTaskContext, idle]
      · simp [initTaskContext]
    · refine (h.task u).congr ⟨?_, ?_, ?_, ?_, ?_, rfl, fun _ => rfl, rfl, rfl⟩ ?_
      · simp [hu]
      · simp [initTaskContext, hu]
      · simp [initTaskContext, hu]
      · simp [initTaskContext, hu]
      · simp [hu]
      · intro reg running
        have := (h.task u).running reg running
        simpa [hu] using this

end

theorem validate_ok {config : TaskConfig} (ok : validateTaskConfig cfg config = .ok) :
    config.taskId < cfg.maxTasks ∧ config.priority < cfg.maxPriorities ∧
      (config.taskId = cfg.idleTaskId ↔ config.priority = cfg.idlePriority) := by
  unfold validateTaskConfig at ok
  by_cases h₁ : cfg.maxTasks ≤ config.taskId
  · simp [h₁] at ok
  · by_cases h₂ : cfg.maxPriorities ≤ config.priority
    · simp [h₁, h₂] at ok
    · refine ⟨by omega, by omega, ?_⟩
      by_contra ne
      have differ : decide (config.taskId = cfg.idleTaskId) ≠ decide (config.priority = cfg.idlePriority) := by
        rwa [ne_eq, decide_eq_decide]
      rw [if_neg h₁, if_neg h₂, if_pos differ] at ok
      cases ok

theorem taskCreate_cases (cfg : Config) (k : Kernel) (config : TaskConfig) :
    (∃ ret, taskCreate cfg k config = (k, ret) ∧ ret ≠ .ok) ∨
    (config.taskId < cfg.maxTasks ∧ config.priority < cfg.maxPriorities ∧
      k.taskTable config.taskId = false ∧
      ∃ pending, taskCreate cfg k config =
        ((if pending = true then (registerTask k config.taskId config.priority).setPending
          else registerTask k config.taskId config.priority), .ok) ∧
        (pending = true ↔ k.scheduler.isStarted = true ∧ k.scheduler.currentTaskId ≠ invalidTaskId ∧
          config.priority < k.scheduler.currentPriority)) := by
  unfold taskCreate
  by_cases valid : validateTaskConfig cfg config = .ok
  · rw [valid]
    dsimp only
    rw [if_neg (not_not_intro rfl)]
    by_cases taken : k.taskTable config.taskId = true
    · rw [if_pos taken]
      exact .inl ⟨_, rfl, by rintro ⟨⟩⟩
    · rw [if_neg taken]
      obtain ⟨lt, bound, _⟩ := validate_ok valid
      refine .inr ⟨lt, bound, by simpa using taken, ?_⟩
      have eff : (registerTask k config.taskId config.priority).effectivePriority config.taskId =
          config.priority := by
        simp [registerTask, readyAdd, initTaskContext]
      have sched : (registerTask k config.taskId config.priority).scheduler = k.scheduler := rfl
      rw [eff, sched]
      by_cases wants : k.scheduler.isStarted = true ∧ k.scheduler.currentTaskId ≠ invalidTaskId ∧
          config.priority < k.scheduler.currentPriority
      · exact ⟨true, by rw [if_pos wants, if_pos rfl], by simp [wants]⟩
      · refine ⟨false, by rw [if_neg wants, if_neg (by rintro ⟨⟩)], ?_⟩
        exact ⟨by rintro ⟨⟩, fun e => absurd e wants⟩
  · refine .inl ⟨validateTaskConfig cfg config, ?_, valid⟩
    dsimp only
    rw [if_pos valid]

theorem taskCreate_inv (h : k.Inv cfg) (config : TaskConfig) : (taskCreate cfg k config).1.Inv cfg := by
  rcases taskCreate_cases cfg k config with
    ⟨ret, eq, _⟩ | ⟨lt, bound, free, pending, eq, _⟩
  · rw [eq]
    exact h
  · rw [eq]
    have inv := registerTask_inv h free lt bound
    cases pending with
    | true => exact inv.setPending
    | false => exact inv

theorem taskExit_inv (h : k.Inv cfg) (reg : k.taskTable k.scheduler.currentTaskId = true)
    (running : k.task.state k.scheduler.currentTaskId = .running)
    (holds : k.owners.head k.scheduler.currentTaskId = none) : (taskExit cfg k).Inv cfg := by
  set t := k.scheduler.currentTaskId with ht
  have ok := h.task t
  have notReady : k.ready.map.isSet t = false := by
    rw [← Bool.not_eq_true, ok.ready, running]
    exact fun e => nomatch e.2
  have noWait : ∀ w, (k.waitMap w).isSet t = false := by
    intro w
    rw [← Bool.not_eq_true, ok.wait w, running]
    exact fun e => nomatch e.2.1
  have noBlock : k.scheduler.blockedMap.isSet t = false := by
    rw [← Bool.not_eq_true, ok.blocked, running]
    exact fun e => nomatch e.2
  have noTimeout : k.timeoutMap.isSet t = false := by
    rw [← Bool.not_eq_true]
    intro e
    have := (ok.timeout e).2
    rw [running] at this
    cases this
  have noMutex : ∀ m, k.waiters.waitingOn t ≠ some m := by
    intro m e
    have := ((ok.waiting m).mp e).2.1
    rw [running] at this
    cases this
  have noOwner : ∀ m, k.owners.owner m ≠ t := by
    intro m own
    obtain ⟨lists, held⟩ := h.lists.owners
    have mem := (held.mem t m).mpr ⟨h.lists.valid reg, own⟩
    have first := (held.threads t).head
    have none : lists t = [] := List.head?_eq_none_iff.mp (first.symm.trans holds)
    rw [none] at mem
    cases mem
  have removed : k.ready.removeAtPriority t (k.effectivePriority t) = k.ready := by
    simp [ReadyLists.removeAtPriority, notReady]
  have result : taskExit cfg k = { k with
      task := { k.task with state := update k.task.state t .terminated }
      taskTable := update k.taskTable t false
      taskByPriority := (taskExit cfg k).taskByPriority
      scheduler := { k.scheduler with isSchedulePending := true } } := by
    simp only [taskExit, Kernel.setState, readyRemove, Kernel.setPending, ← ht, removed]
  rw [result]
  have gone : ∀ u, update k.taskTable t false u = true → u ≠ t ∧ k.taskTable u = true := by
    intro u hu
    have hut : u ≠ t := by
      rintro rfl
      rw [update_self] at hu
      cases hu
    exact ⟨hut, by rwa [update_of_ne hut] at hu⟩
  refine ⟨⟨h.lists.ready, h.lists.waiters, h.lists.owners, ?_, ?_, ?_, ?_, ?_⟩, fun u => ?_⟩
  · exact fun u hu => h.lists.lt u (gone u hu).2
  · exact fun u hu => h.lists.eff u (gone u hu).2
  · exact fun u hu => h.lists.base u (gone u hu).2
  · intro u m hu
    obtain ⟨regU, rest⟩ := h.lists.waiter u m hu
    refine ⟨?_, rest⟩
    dsimp only
    have hut : u ≠ t := by
      rintro rfl
      exact noMutex m hu
    rwa [update_of_ne hut]
  · intro m hm
    obtain ⟨regM, rest⟩ := h.lists.owner m hm
    refine ⟨?_, rest⟩
    dsimp only
    rwa [update_of_ne (noOwner m)]
  · by_cases hu : u = t
    · rw [hu]
      refine ⟨?_, ?_, ?_, ?_, ?_, ?_, ?_, ?_, ?_⟩
      · simp
      · simp [notReady]
      · simp [noBlock]
      · simp
      · simp [noWait]
      · simp
      · simp [noTimeout]
      · simp [noMutex]
      · simp
    · refine (h.task u).congr ⟨?_, ?_, rfl, rfl, rfl, rfl, fun _ => rfl, rfl, rfl⟩ (h.task u).running
      · simp [hu]
      · simp [hu]

end XSDK.Rtos
