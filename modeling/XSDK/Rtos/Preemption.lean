import XSDK.Rtos.Inheritance

/-! When a switch is requested. Every operation but two asks for a switch when it leaves
a ready task in front of the running one; an unlock and the timeout of a mutex waiter
do so under a condition on the state they start from. -/
namespace XSDK.Rtos

open Function (update update_self update_of_ne)
open Library

variable {cfg : Config} {k k' : Kernel} {S S' : System} {op : Op} {t m : Nat}

/-- A ready task that is more urgent than the running one has a switch pending. -/
def Kernel.Preempts (k : Kernel) : Prop :=
  ∀ c, k.Running c → ∀ u, k.taskTable u = true → k.task.state u = .ready →
    k.effectivePriority u < k.scheduler.currentPriority → k.scheduler.isSchedulePending = true

theorem Kernel.Preempts.pending (h : k.scheduler.isSchedulePending = true) : k.Preempts :=
  fun _ _ _ _ _ _ => h

theorem Kernel.Preempts.calm (h : k.Preempts) (calm : Calm k k') : k'.Preempts := by
  rintro c ⟨regC, current, running⟩ u regU ready urgent
  have before : k.Running c :=
    ⟨by rwa [calm.taskTable] at regC, calm.currentTaskId.symm.trans current, calm.running c running⟩
  rw [calm.taskTable] at regU
  rw [calm.effectivePriority, calm.currentPriority] at urgent
  rcases calm.ready u ready with readyU | asks
  · exact calm.pending (h c before u regU readyU urgent)
  · exact asks urgent

theorem promoted_preempts {n : Nat} (regs : k'.taskTable = k.taskTable)
    (eff : k'.effectivePriority = k.effectivePriority)
    (least : ∀ u, k.taskTable u = true → k'.task.state u = .ready → k.effectivePriority n ≤ k.effectivePriority u)
    (isStarted pending : Bool) : (promoted k' n isStarted pending).Preempts := by
  intro c _ u reg ready urgent
  have other : u ≠ n := by
    rintro rfl
    simp [promoted] at ready
  have readyU : k'.task.state u = .ready := by simpa [promoted, other] using ready
  have le := least u (by rw [← regs]; exact reg) readyU
  have lt : k'.effectivePriority u < k'.effectivePriority n := urgent
  rw [eff] at lt
  omega

theorem contextSwitch_preempts (h : k.Inv cfg) (started : k.scheduler.isStarted = true) :
    (contextSwitch cfg k).Preempts := by
  rcases contextSwitch_cases h started with ⟨eq, resting⟩ | ⟨k₁, n, parked, _, _, least, eq⟩
  · rw [eq]
    rintro c ⟨reg, _, running⟩
    exact absurd running (resting c reg)
  · rw [eq]
    refine promoted_preempts (k := k) parked.waits.taskTable parked.effectivePriority ?_ true false
    intro u reg ready
    exact least u reg ((parked.ready u reg).mp ready)

theorem kernelStart_preempts (h : k.Inv cfg) (preempts : k.Preempts) : (kernelStart cfg k).1.Preempts := by
  rcases kernelStart_cases h with ⟨ret, eq, _⟩ | ⟨n, _, _, least, eq⟩
  · rw [eq]
    exact preempts
  · rw [eq]
    exact promoted_preempts (k := k) rfl rfl least true _

theorem taskCreate_preempts (h : k.Inv cfg) (preempts : k.Preempts) (config : TaskConfig) :
    (taskCreate cfg k config).1.Preempts := by
  rcases taskCreate_cases cfg k config with ⟨ret, eq, _⟩ | ⟨lt, bound, free, pending, eq, asks⟩
  · rw [eq]
    exact preempts
  · rw [eq]
    cases pending with
    | true => exact .pending rfl
    | false =>
      rintro c ⟨regC, current, running⟩ u regU ready urgent
      have quiet : ¬(k.scheduler.isStarted = true ∧ k.scheduler.currentTaskId ≠ invalidTaskId ∧
          config.priority < k.scheduler.currentPriority) := fun e => nomatch asks.mpr e
      change update k.taskTable config.taskId true c = true at regC
      change update k.taskTable config.taskId true u = true at regU
      change update k.task.state config.taskId .ready c = .running at running
      change update k.task.state config.taskId .ready u = .ready at ready
      change update k.effectivePriority config.taskId config.priority u < k.scheduler.currentPriority at urgent
      have old : c ≠ config.taskId := by
        rintro rfl
        simp at running
      rw [update_of_ne old] at regC running
      rcases eq_or_ne u config.taskId with rfl | hu
      · rw [update_self] at urgent
        obtain ⟨started, now, _⟩ := (h.task c).running regC running
        exact absurd ⟨started, by rw [now]; exact h.lists.valid regC, urgent⟩ quiet
      · rw [update_of_ne hu] at regU ready urgent
        exact preempts c ⟨regC, current, running⟩ u regU ready urgent

theorem taskExit_preempts : (taskExit cfg k).Preempts := .pending rfl

theorem taskSetPriority_preempts (h : k.Inv cfg) (preempts : k.Preempts) (p : Nat) :
    (taskSetPriority cfg k t p).1.Preempts := by
  rcases taskSetPriority_cases cfg k t p with ⟨ret, eq, -⟩ | ⟨reg, hp, _, pending, eq, asks⟩
  · rw [eq]
    exact preempts
  · obtain ⟨inv, _⟩ := rebased_spec h reg hp
    rw [eq]
    cases pending with
    | true => exact .pending rfl
    | false =>
      intro c _ u regU ready urgent
      rcases selectNext_cases inv with ⟨_, none⟩ | ⟨n, _, _, least, selected⟩
      · rw [if_neg nofun] at regU ready
        have same : (selectNext cfg (rebased cfg k t p)).1 = rebased cfg k t p := by
          rw [‹selectNext cfg (rebased cfg k t p) = _›]
        rw [same] at regU ready
        exact absurd ready (none u regU)
      · rw [if_neg nofun, selected] at regU ready urgent
        rw [selected] at asks
        have le := least u regU ready
        have due : (rebased cfg k t p).effectivePriority n < (rebased cfg k t p).scheduler.currentPriority :=
          lt_of_le_of_lt le urgent
        exact nomatch asks.mpr due

/- Unlocking. -/

/-- What bounds the priority of a task apart from the waiters of one mutex. -/
def Kernel.bidsBut (k : Kernel) (t m : Nat) : Set Nat :=
  {k.task.basePriority t} ∪
    {p | ∃ n u, n ≠ m ∧ k.owners.owner n = t ∧ k.WaitsOn u (.mutex n) ∧ p = k.effectivePriority u}

/-- A switch is pending already, or the caller stays in front of every ready task and of the
waiters of the mutex without what they lend it. -/
def Kernel.UnlockYields (k : Kernel) (m : Nat) : Prop :=
  k.scheduler.isSchedulePending = true ∨
    ((∀ u, k.taskTable u = true → k.task.state u = .ready →
        ∃ p ∈ k.bidsBut k.scheduler.currentTaskId m, p ≤ k.effectivePriority u) ∧
      ∀ u, k.WaitsOn u (.mutex m) → ∀ q, q = k.effectivePriority u ∨ q ∈ k.bids u →
        ∃ p ∈ k.bidsBut k.scheduler.currentTaskId m, p ≤ q)

theorem Kernel.Inv.waitsOn_mutex (h : k.Inv cfg) : k.waiters.waitingOn t = some m ↔ k.WaitsOn t (.mutex m) :=
  (h.task t).waiting m

theorem recompute_le (lists : ListsOk cfg k) (reg : k.taskTable t = true) (root : k.lender cfg t = none) {p : Nat}
    (bid : p = k.task.basePriority t ∨ ∃ u, k.taskTable u = true ∧ k.lender cfg u = some t ∧
      p = k.effectivePriority u) :
    (mutexRecomputeTaskPriority cfg k t).effectivePriority t ≤ p := by
  obtain ⟨_, _, eff⟩ := recompute_spec lists reg
  rw [eff, settle_root root (Nat.succ_pos _), update_self]
  rcases bid with rfl | ⟨u, regU, child, rfl⟩
  · exact lent_le_base _ t
  · exact lent_le_child _ _ (lists.mem_tasks.mpr regU) child

theorem recompute_other (lists : ListsOk cfg k) (reg : k.taskTable t = true) (root : k.lender cfg t = none)
    {u : Nat} (ne : u ≠ t) :
    (mutexRecomputeTaskPriority cfg k t).effectivePriority u = k.effectivePriority u := by
  obtain ⟨_, _, eff⟩ := recompute_spec lists reg
  rw [eff, settle_root root (Nat.succ_pos _), update_of_ne ne]

theorem lender_idle {u : Nat} (idle : k.waiters.waitingOn u = none) : k.lender cfg u = none := by
  simp [Kernel.lender, idle]

theorem release_preempts (h : k.Inv cfg) (own : k.owners.owner m = t)
    (runs : k.Running t) (waiters : ∀ u, k.waiters.waitingOn u ≠ some m) (yields : k.UnlockYields m) :
    (mutexRecomputeTaskPriority cfg (mutexRelease k t m) t).Preempts := by
  obtain ⟨reg, current, running⟩ := runs
  obtain ⟨inv, inv', only, _⟩ := release_spec h own reg waiters
  rcases yields with pending | ⟨ready, _⟩
  · apply Kernel.Preempts.pending
    rw [only.isSchedulePending]
    exact pending
  · have root : (mutexRelease k t m).lender cfg t = none := lender_idle (h.running_idle running).2
    rintro c ⟨regC, currentC, runningC⟩ u regU readyU urgent
    exfalso
    have priority := ((inv'.task c).running regC runningC).2.2
    rw [only.currentTaskId] at currentC
    have hc : c = t := currentC.symm.trans current
    rw [only.taskTable] at regU
    rw [only.task] at readyU
    have other : u ≠ t := by
      rintro rfl
      have readyK : k.task.state u = .ready := readyU
      rw [running] at readyK
      cases readyK
    obtain ⟨p, bid, le⟩ := ready u regU readyU
    rw [current] at bid
    have sinks : (mutexRecomputeTaskPriority cfg (mutexRelease k t m) t).effectivePriority t ≤ p := by
      apply recompute_le inv.lists reg root
      rcases bid with base | ⟨n, v, ne, owned, waits, rfl⟩
      · exact .inl base
      · refine .inr ⟨v, waits.1, inv.lists.lender_eq_some.mpr ⟨n, h.waitsOn_mutex.mpr waits, ?_⟩, rfl⟩
        rw [owner_release, update_of_ne ne]
        exact owned
    rw [priority, hc, recompute_other inv.lists reg root other] at urgent
    exact absurd (lt_of_lt_of_le urgent sinks) (Nat.not_lt.mpr le)

theorem handOff_preempts (h : k.Inv cfg) (own : k.owners.owner m = t) (runs : k.Running t) {w : Nat}
    (waiting : k.waiters.waitingOn w = some m) (yields : k.UnlockYields m) :
    (mutexRecomputeTaskPriority cfg
      (mutexRecomputeTaskPriority cfg (unblock cfg (passed k t m w) w .ok) w) t).Preempts := by
  obtain ⟨reg, current, running⟩ := runs
  obtain ⟨inv₁, inv₂, inv₃, only₂, only₃, wakes⟩ := handOff_spec h own reg waiting
  rcases yields with pending | ⟨ready, others⟩
  · exact .pending (wakes.pending pending)
  · obtain ⟨regW, _, foreign, _⟩ := h.lists.waiter w m waiting
    have ne : w ≠ t := fun e => foreign (own.trans e.symm)
    obtain ⟨lists, owner, waitingOn, _⟩ := passed_spec h.lists own reg waiting
    have eq := passed_eq (t := t) waiting
    have table : (passed k t m w).taskTable = k.taskTable := by rw [eq]
    have base : (passed k t m w).task.basePriority = k.task.basePriority := by rw [eq]
    have effPassed : (passed k t m w).effectivePriority = k.effectivePriority := by rw [eq]
    have graph := (Calm.unblock (lists.lookup (t := w) (by rw [table]; exact regW)) .ok).toSameGraph
    generalize hk₁ : unblock cfg (passed k t m w) w .ok = k₁ at *
    have table₁ : k₁.taskTable = k.taskTable := graph.taskTable.trans table
    have waitingOn₁ : k₁.waiters.waitingOn = update k.waiters.waitingOn w none := graph.waitingOn.trans waitingOn
    have eff₁ : k₁.effectivePriority = k.effectivePriority := graph.effectivePriority.trans effPassed
    have base₁ : k₁.task.basePriority = k.task.basePriority := graph.basePriority.trans base
    have owner₁ : k₁.owners.owner = update k.owners.owner m w := by rw [graph.owners]; exact owner
    have idleT : k₁.waiters.waitingOn t = none := by
      rw [waitingOn₁, update_of_ne (Ne.symm ne)]
      exact (h.running_idle running).2
    have rootW : k₁.lender cfg w = none := lender_idle (by rw [waitingOn₁, update_self])
    have rootT : k₁.lender cfg t = none := lender_idle idleT
    have regW₁ : k₁.taskTable w = true := by rw [table₁]; exact regW
    have regT₁ : k₁.taskTable t = true := by rw [table₁]; exact reg
    have rootT₂ : (mutexRecomputeTaskPriority cfg k₁ w).lender cfg t = none :=
      lender_idle (by rw [only₂.waitingOn]; exact idleT)
    have regT₂ : (mutexRecomputeTaskPriority cfg k₁ w).taskTable t = true := by rw [only₂.taskTable]; exact regT₁
    -- The caller sinks to what it still holds.
    have sinks : ∀ p ∈ k.bidsBut t m, (mutexRecomputeTaskPriority cfg
        (mutexRecomputeTaskPriority cfg k₁ w) t).effectivePriority t ≤ p := by
      intro p bid
      apply recompute_le inv₂.lists regT₂ rootT₂
      rcases bid with bid | ⟨n, v, nm, owned, waits, rfl⟩
      · refine .inl (bid.trans ?_)
        rw [only₂.task, base₁]
      · have hv : v ≠ w := by
          rintro rfl
          have on := h.waitsOn_mutex.mpr waits
          rw [waiting] at on
          exact nm (Option.some.inj on).symm
        have waits₂ : (mutexRecomputeTaskPriority cfg k₁ w).waiters.waitingOn v = some n := by
          rw [only₂.waitingOn, waitingOn₁, update_of_ne hv]
          exact h.waitsOn_mutex.mpr waits
        have owned₂ : (mutexRecomputeTaskPriority cfg k₁ w).owners.owner n = t := by
          rw [only₂.owners, owner₁, update_of_ne nm]
          exact owned
        refine .inr ⟨v, ?_, inv₂.lists.lender_eq_some.mpr ⟨n, waits₂, owned₂⟩, ?_⟩
        · rw [only₂.taskTable, table₁]
          exact waits.1
        · rw [recompute_other inv₁.lists regW₁ rootW hv, eff₁]
    -- The new owner has its base, or what a task lends that waits for one of its mutexes.
    have rises : ∃ q, (mutexRecomputeTaskPriority cfg k₁ w).effectivePriority w = q ∧
        ∃ u, k.WaitsOn u (.mutex m) ∧ (q = k.effectivePriority u ∨ q ∈ k.bids u) := by
      refine ⟨_, rfl, ?_⟩
      obtain ⟨_, _, eff₂⟩ := recompute_spec inv₁.lists regW₁
      rw [eff₂, settle_root rootW (Nat.succ_pos _), update_self]
      have attained : lent (k₁.tasks cfg) (k₁.lender cfg) k₁.task.basePriority k₁.effectivePriority w =
          k₁.task.basePriority w ∨ ∃ c ∈ k₁.tasks cfg, k₁.lender cfg c = some w ∧
            lent (k₁.tasks cfg) (k₁.lender cfg) k₁.task.basePriority k₁.effectivePriority w =
              k₁.effectivePriority c := lent_attained _ w
      rcases attained with own | ⟨c, _, child, value⟩
      · exact ⟨w, h.waitsOn_mutex.mp waiting, .inr (.inl (own.trans (by rw [base₁])))⟩
      · obtain ⟨n, on, owned⟩ := inv₁.lists.lender_eq_some.mp child
        have hcw : c ≠ w := by
          rintro rfl
          rw [waitingOn₁, update_self] at on
          cases on
        rw [waitingOn₁, update_of_ne hcw] at on
        rw [value, eff₁]
        rcases eq_or_ne n m with rfl | nm
        · exact ⟨c, h.waitsOn_mutex.mp on, .inl rfl⟩
        · rw [owner₁, update_of_ne nm] at owned
          exact ⟨w, h.waitsOn_mutex.mp waiting, .inr (.inr ⟨n, c, owned, h.waitsOn_mutex.mp on, rfl⟩)⟩
    rintro c ⟨regC, currentC, runningC⟩ u regU readyU urgent
    exfalso
    have priority := ((inv₃.task c).running regC runningC).2.2
    have hc : c = t := by
      rw [wakes.currentTaskId] at currentC
      exact currentC.symm.trans current
    rw [priority, hc] at urgent
    have regU' : k.taskTable u = true := by rw [← wakes.taskTable]; exact regU
    rw [wakes.state u] at readyU
    have other : u ≠ t := by
      rintro rfl
      rw [wokenBy_of_ne (Ne.symm ne), if_pos rfl, running] at readyU
      cases readyU
    rw [recompute_other inv₂.lists regT₂ rootT₂ other] at urgent
    rw [current] at ready others
    rcases eq_or_ne u w with rfl | hu
    · obtain ⟨q, value, v, waits, bid⟩ := rises
      obtain ⟨p, mem, le⟩ := others v waits q bid
      rw [value] at urgent
      exact absurd (lt_of_lt_of_le urgent (sinks p mem)) (Nat.not_lt.mpr le)
    · rw [wokenBy_of_ne hu, if_pos rfl] at readyU
      obtain ⟨p, mem, le⟩ := ready u regU' readyU
      rw [recompute_other inv₁.lists regW₁ rootW hu, eff₁] at urgent
      exact absurd (lt_of_lt_of_le urgent (sinks p mem)) (Nat.not_lt.mpr le)

/- Timeouts. -/

theorem expire_preempts_plain (h : k.Inv cfg) (preempts : k.Preempts) (reg : k.taskTable t = true)
    (blocked : k.task.state t = .blocked) (free : ∀ m, k.task.waitMapPtr t ≠ some (.mutex m)) :
    (unblock cfg (blockCleanup cfg k t) t .timeout).Preempts := by
  rcases blockCleanup_cases h reg blocked with ⟨m, waiting, _⟩ | ⟨_, payload, hook⟩
  · exact absurd (((h.task t).waiting m).mp waiting).2.2 (free m)
  · have found := (h.setPayload t payload).lists.lookup (t := t) reg
    rw [hook]
    exact preempts.calm ((Calm.setPayload k t payload).trans (.unblock found .timeout))

theorem expire_preempts (h : k.Inv cfg) (inherits : k.Inherits cfg) (preempts : k.Preempts)
    (reg : k.taskTable t = true) (blocked : k.task.state t = .blocked) :
    (unblock cfg (blockCleanup cfg k t) t .timeout).Preempts := by
  rcases blockCleanup_cases h reg blocked with ⟨m, waiting, hook⟩ | ⟨free, _⟩
  swap
  · exact expire_preempts_plain h preempts reg blocked free
  obtain ⟨inv, wakes, _⟩ := expire_spec h reg blocked
  obtain ⟨lists, left, _, _⟩ := mutexWaiterRemove_spec h.lists waiting
  obtain ⟨fTask, fOwners, fTable, _, _, fEff, fSched, _⟩ := mutexWaiterRemove_frame waiting
  obtain ⟨_, _, foreign, owned⟩ := h.lists.waiter t m waiting
  have ownerReg := (h.lists.owner m owned).1
  have lender := lender_update h.lists lists none left (congrArg OwnerLists.owner fOwners)
  have tasks : (mutexWaiterRemove k m t).tasks cfg = k.tasks cfg := by
    unfold Kernel.tasks
    rw [fTable]
  obtain ⟨lists₂, only, eff⟩ := recompute_spec lists (t := k.owners.owner m) (by rwa [fTable])
  have found := lists₂.lookup (t := t) (by rw [only.taskTable, fTable]; exact reg)
  rw [tasks, lender, fTask, fEff, Option.map_none] at eff
  have child : k.lender cfg t = some (k.owners.owner m) := h.lists.lender_eq_some.mpr ⟨m, waiting, rfl⟩
  have member := h.lists.mem_tasks.mpr ownerReg
  obtain ⟨but, above⟩ := settledBut_detach inherits child (Ne.symm foreign) member
  have closed : ∀ a ∈ k.tasks cfg, ∀ b, update (k.lender cfg) t none a = some b → b ∈ k.tasks cfg := by
    rw [← tasks, show update (k.lender cfg) t none = (mutexWaiterRemove k m t).lender cfg from lender.symm]
    exact lists.lender_closed
  have irrefl : ∀ a ∈ k.tasks cfg, update (k.lender cfg) t none a ≠ some a := by
    rw [← tasks, show update (k.lender cfg) t none = (mutexWaiterRemove k m t).lender cfg from lender.symm]
    exact lists.lender_irrefl
  have walk := (settle_raise closed irrefl (cfg.maxTasks + 1) k.effectivePriority _ member but above
    (tasks_card_le k _)).2
  rw [← eff] at walk
  rintro c ⟨regC, currentC, runningC⟩ u regU readyU urgent
  have priority := ((inv.task c).running regC runningC).2.2
  have stateC := wakes.state c
  rw [runningC] at stateC
  have wokenC : wokenBy t .timeout c = none := by
    by_contra woke
    rw [if_neg woke] at stateC
    cases stateC
  rw [if_pos wokenC] at stateC
  have hct : c ≠ t := wokenBy_eq_none.mp wokenC
  have runsC : k.Running c :=
    ⟨by rw [← wakes.taskTable]; exact regC, wakes.currentTaskId.symm.trans currentC, stateC.symm⟩
  have priorityC := ((h.task c).running runsC.1 runsC.2.2).2.2
  have rootC : update (k.lender cfg) t none c = none := by
    rw [update_of_ne hct]
    exact lender_running h runsC.2.2
  have rootT : update (k.lender cfg) t none t = none := update_self ..
  rw [hook] at urgent priority readyU regU ⊢
  rw [unblock_eq found] at urgent priority readyU regU ⊢
  dsimp only at urgent priority readyU regU ⊢
  rw [priority] at urgent
  have current₂ : (mutexRecomputeTaskPriority cfg (mutexWaiterRemove k m t) (k.owners.owner m)).scheduler.currentPriority =
      (mutexRecomputeTaskPriority cfg (mutexWaiterRemove k m t) (k.owners.owner m)).effectivePriority c := priority
  rw [Bool.or_eq_true, decide_eq_true_eq, current₂, only.isSchedulePending, fSched]
  rcases eq_or_ne u t with rfl | hut
  · exact .inr urgent
  · rcases walk c with same | ⟨valueC, raised⟩
    · -- The running task keeps its priority, so the ready one was in front of it before.
      rw [same] at urgent
      rw [update_of_ne hut, only.task, fTask] at readyU
      rw [only.taskTable, fTable] at regU
      have le : k.effectivePriority u ≤ (mutexRecomputeTaskPriority cfg (mutexWaiterRemove k m t)
          (k.owners.owner m)).effectivePriority u := by
        rcases walk u with sameU | ⟨value, lt⟩
        · exact sameU.ge
        · rw [value]
          exact lt.le
      refine .inl (preempts c runsC u regU readyU ?_)
      rw [priorityC]
      exact lt_of_le_of_lt le urgent
    · -- The running task sinks, so it had its priority from the waiter alone.
      have moved : k.effectivePriority (k.owners.owner m) ≠ lent (k.tasks cfg) (update (k.lender cfg) t none)
          k.task.basePriority k.effectivePriority (k.owners.owner m) := by
        intro stays
        rw [eff, settle_of_settled stays, valueC] at raised
        exact absurd raised (lt_irrefl _)
      have cause := lost_value (inherits _ member) (fun d _ hd hp => by rwa [update_of_ne hd]) moved above
      have roots : settle (k.tasks cfg) (update (k.lender cfg) t none) k.task.basePriority (cfg.maxTasks + 1)
            k.effectivePriority (k.owners.owner m) t = k.effectivePriority t ∨
          settle (k.tasks cfg) (update (k.lender cfg) t none) k.task.basePriority (cfg.maxTasks + 1)
            k.effectivePriority (k.owners.owner m) c = k.effectivePriority c :=
        settle_roots rootT rootC (Ne.symm hct) _ _ _
      rw [← eff] at roots
      rcases roots with sameT | sameC
      · refine .inr ?_
        rw [sameT, cause]
        exact raised
      · rw [sameC, valueC] at raised
        exact absurd raised (lt_irrefl _)

/-- A switch is pending already, or every priority is inherited, or no wait on a mutex ends. -/
def Kernel.TimeoutYields (k : Kernel) : Prop :=
  k.scheduler.isSchedulePending = true ∨
    (∀ t, k.taskTable t = true → IsLeast (k.bids t) (k.effectivePriority t)) ∨
    ∀ t m, expired (ticked k) t = true → k.task.waitMapPtr t ≠ some (.mutex m)

theorem tickTimeouts_preempts (h : k.Inv cfg) (preempts : k.Preempts) (yields : k.TimeoutYields) :
    (tickTimeouts cfg k).Preempts := by
  rcases yields with pending | least | free
  · obtain ⟨_, wakes⟩ := tickTimeouts_spec h
    exact .pending (wakes.pending pending)
  · have both : (tickTimeouts cfg k).Inherits cfg ∧ (tickTimeouts cfg k).Preempts := by
      apply tickTimeouts_induction (P := fun k' => k'.Inherits cfg ∧ k'.Preempts) _ h
      · exact ⟨(h.inherits_iff.mpr least).graph ⟨rfl, rfl, rfl, rfl, rfl⟩, preempts⟩
      · rintro k' t inv reg blocked _ ⟨inherits, preempts⟩
        exact ⟨expire_inherits inv inherits reg blocked, expire_preempts inv inherits preempts reg blocked⟩
    exact both.2
  · have both : (∀ t m, expired (tickTimeouts cfg k) t = true →
        (tickTimeouts cfg k).task.waitMapPtr t ≠ some (.mutex m)) ∧ (tickTimeouts cfg k).Preempts := by
      apply tickTimeouts_induction (P := fun k' => (∀ t m, expired k' t = true →
        k'.task.waitMapPtr t ≠ some (.mutex m)) ∧ k'.Preempts) _ h
      · exact ⟨free, preempts⟩
      · rintro k' t inv reg blocked due ⟨free, preempts⟩
        refine ⟨fun u n late => ?_, expire_preempts_plain inv preempts reg blocked fun n => free t n due⟩
        obtain ⟨_, wakes, _⟩ := expire_spec inv reg blocked
        unfold expired at late
        rw [wakes.timeout, wakes.tickCount, wakes.wakeTick] at late
        simp only [Bool.and_eq_true, decide_eq_true_eq] at late
        obtain ⟨⟨timed, asleep⟩, passed⟩ := late
        rw [wakes.waitMapPtr u asleep]
        exact free u n (by simp [expired, timed, passed])
    exact both.2

namespace System

theorem mutexUnlock_preempts (inv : S.Inv cfg) (preempts : S.kernel.Preempts) (may : S.mayCall cfg false = true)
    (yields : S.kernel.owners.owner m = S.current → S.kernel.UnlockYields m) :
    (S.run cfg false (.mutexUnlock m)).1.kernel.Preempts := by
  change (mutexUnlock cfg S.kernel m).1.Preempts
  by_cases mine : S.kernel.Unlocks m
  · obtain ⟨own, started, reg⟩ := mine
    have running := (mayCall_called may started rfl).running
    have runs : S.kernel.Running S.kernel.scheduler.currentTaskId := ⟨reg, rfl, running⟩
    rcases mutexUnlock_cases inv.kernel started rfl reg own with ⟨none, eq⟩ | ⟨w, _, waiting, eq⟩
    · rw [eq]
      exact release_preempts inv.kernel own runs (inv.kernel.lists.waiters.head_none none) (yields own)
    · rw [eq]
      exact handOff_preempts inv.kernel own runs waiting (yields own)
  · rw [mutexUnlock_refused mine]
    exact preempts

theorem mutexLock_preempts (inv : S.Inv cfg) (preempts : S.kernel.Preempts) {inIsr : Bool} {ticks : Word}
    (may : S.mayCall cfg inIsr = true) :
    (S.run cfg inIsr (.mutexLock m ticks)).1.kernel.Preempts := by
  rw [mutexLock_kernel]
  rcases mutexLock_cases inv.kernel (mayCall_called may) m ticks with
    eq | ⟨_, _, eq⟩ | ⟨caller, free, eq⟩ | ⟨caller, owned, foreign, _, eq⟩
  · rw [eq]
    exact preempts
  · rw [eq]
    exact preempts
  · rw [eq]
    exact preempts
  · obtain ⟨eqB, _, _, blocks, _⟩ := mutexBlock_spec inv.kernel caller.toRuns owned foreign ticks
    rw [eq, eqB]
    exact .pending blocks.pending

end System

variable (tr : Transition System Request Outcome)

/-- The condition under which a step asks for every switch that is due: an unlock by the
owner and a tick have one, every other step has none. -/
def YieldsDue : Prop :=
  match tr.input.op with
  | .mutexUnlock m => tr.pre.kernel.owners.owner m = tr.pre.current → tr.pre.kernel.UnlockYields m
  | .tick => tr.pre.kernel.TimeoutYields
  | _ => True

namespace System

theorem run_preempts (inv : S.Inv cfg) (preempts : S.kernel.Preempts) {inIsr : Bool}
    (allowed : S.Allowed cfg inIsr op) (due : YieldsDue ((machine cfg).take S ⟨op, inIsr⟩)) :
    (S.run cfg inIsr op).1.kernel.Preempts := by
  cases (run_step inv allowed).effect with
  | calm calm => exact preempts.calm calm
  | blocks graph pending => exact .pending pending
  | special special =>
    cases op with
    | kernelStart => exact kernelStart_preempts inv.kernel preempts
    | taskCreate config => exact taskCreate_preempts inv.kernel preempts config
    | taskExit => exact taskExit_preempts
    | taskSetPriority t p => exact taskSetPriority_preempts inv.kernel preempts p
    | tick =>
      obtain ⟨_, frees, _⟩ := tick_frees inv
      exact (tickTimeouts_preempts inv.kernel preempts due).calm frees.calm
    | contextSwitch => exact contextSwitch_preempts inv.kernel allowed
    | mutexLock m ticks => exact mutexLock_preempts inv preempts allowed.1
    | mutexUnlock m =>
      obtain ⟨may, rfl⟩ := allowed
      exact mutexUnlock_preempts inv preempts may due
    | _ => exact special.elim

theorem Boot.preempts (boot : Boot cfg S) : S.kernel.Preempts := by
  obtain ⟨words, tickCount, eq, _⟩ := boot.kernel
  rintro c ⟨reg, _, running⟩
  have inv := boot.inv.kernel
  have started := ((inv.task c).running reg running).1
  rw [eq] at started
  have idle := (kernelInit_unblocked cfg words c).2
  exact absurd (idle.symm.trans started) nofun

end System

/-- A task inherits through a mutex, hands it over and falls behind the new owner, but
nothing asks for the switch. -/
def sampleHandOff : List Request := sampleLocks.take 15

def pendingWhereDue : Bool :=
  match tr.input.op with
  | .mutexUnlock _ | .tick => tr.pre.kernel.scheduler.isSchedulePending
  | _ => true

theorem yieldsDue_of_pending {tr : Transition System Request Outcome} (h : pendingWhereDue tr = true) :
    YieldsDue tr := by
  unfold pendingWhereDue at h
  unfold YieldsDue
  split
  · rename_i op
    rw [op] at h
    exact fun _ => .inl h
  · rename_i op
    rw [op] at h
    exact .inl h
  · trivial

/-- A task yields, and takes the tick and its unlock before the switch comes. -/
def sampleYields : List Request :=
  sampleLocks.take 6 ++ [⟨.mutexLock 0 0#32, false⟩, ⟨.taskYield, false⟩, ⟨.tick, true⟩, ⟨.mutexUnlock 0, false⟩]

end XSDK.Rtos
