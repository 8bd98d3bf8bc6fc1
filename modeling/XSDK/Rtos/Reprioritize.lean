import XSDK.Rtos.Block
import XSDK.Rtos.Lifecycle

/-! A new base priority, and the timeouts of a tick. -/
namespace XSDK.Rtos

open Function (update update_self update_of_ne)
open Library

variable {cfg : Config} {k k' : Kernel} {t : Nat}

theorem Kernel.Inv.mirror (h : k.Inv cfg) (idle : k.task.state t ≠ .running) (p : Nat) :
    (mirrorPriority k t p).Inv cfg := by
  obtain ⟨l, tasks⟩ := h
  refine ⟨⟨l.ready, l.waiters, l.owners, l.lt, l.eff, l.base, l.waiter, l.owner⟩, fun u => ?_⟩
  refine (tasks u).congr ⟨rfl, rfl, rfl, rfl, rfl, rfl, fun _ => rfl, rfl, rfl⟩ fun reg running => ?_
  obtain ⟨started, current, priority⟩ := (tasks u).running reg running
  refine ⟨started, current, ?_⟩
  have other : k.scheduler.currentTaskId ≠ t := by
    rintro rfl
    rw [current] at idle
    exact idle running
  dsimp only [mirrorPriority]
  rw [if_neg other]
  exact priority

theorem mirror_only (idle : k.task.state t ≠ .running) (p : Nat) : PriorityOnly k (mirrorPriority k t p) := by
  refine ⟨rfl, rfl, rfl, rfl, rfl, rfl, rfl, rfl, fun _ => rfl, rfl, rfl, rfl, rfl, rfl, ?_⟩
  intro running same
  have other : k.scheduler.currentTaskId ≠ t := by
    rintro rfl
    exact idle running
  dsimp only [mirrorPriority]
  rw [if_neg other]
  exact same

def moved (cfg : Config) (k : Kernel) (t p : Nat) : Kernel :=
  mutexWaiterPriorityChanged cfg
    (if k.task.state t = .ready then
      readyAdd { readyRemove k t with effectivePriority := update k.effectivePriority t p } t
    else { k with effectivePriority := update k.effectivePriority t p })
    t (k.effectivePriority t)

theorem moved_eq (h : k.Inv cfg) (reg : k.taskTable t = true) (p : Nat) :
    ∃ R W, moved cfg k t p =
        { k with ready := R, waiters := W, effectivePriority := update k.effectivePriority t p } ∧
      R.Ok (update k.effectivePriority t p) ∧ (∀ u, R.map.isSet u = k.ready.map.isSet u) ∧
      W.Ok (update k.effectivePriority t p) ∧ W.waitingOn = k.waiters.waitingOn := by
  have bound : ∀ u m, k.waiters.waitingOn u = some m → u < cfg.maxTasks :=
    fun u m hu => h.lists.lt u (h.lists.waiter u m hu).1
  have bit : ∀ m, k.waiters.waitingOn t = some m → (k.waitMap (.mutex m)).isSet t = true :=
    fun m hm => (h.lists.waiter t m hm).2.1
  unfold moved
  by_cases ready : k.task.state t = .ready
  · rw [if_pos ready]
    have inList : k.ready.map.isSet t = true := ((h.task t).ready).mpr ⟨reg, ready⟩
    obtain ⟨okR, bits⟩ := readyMoved h.lists.ready (p := p) inList
    have step : readyAdd { readyRemove k t with effectivePriority := update k.effectivePriority t p } t =
        { k with
          ready := (k.ready.removeAtPriority t (k.effectivePriority t)).insertTail t p
          effectivePriority := update k.effectivePriority t p } := by
      simp [readyAdd, readyRemove]
    rw [step]
    obtain ⟨W, hW, waitingW, okW⟩ := priorityChanged_spec cfg (t := t) (p := p)
      (k := { k with
        ready := (k.ready.removeAtPriority t (k.effectivePriority t)).insertTail t p
        effectivePriority := update k.effectivePriority t p })
      rfl h.lists.waiters bound bit
    exact ⟨_, W, hW, okR, bits, okW, waitingW⟩
  · rw [if_neg ready]
    obtain ⟨W, hW, waitingW, okW⟩ := priorityChanged_spec cfg (t := t) (p := p)
      (k := { k with effectivePriority := update k.effectivePriority t p })
      rfl h.lists.waiters bound bit
    refine ⟨k.ready, W, hW, ?_, fun _ => rfl, okW, waitingW⟩
    refine h.lists.ready.congr fun u hu => ?_
    refine update_of_ne ?_ _ _
    rintro rfl
    exact ready (((h.task u).ready).mp hu).2

variable {p : Nat} {P : Kernel → Prop}

theorem moved_lists (h : k.Inv cfg) (reg : k.taskTable t = true) (hp : p < cfg.maxPriorities) :
    ListsOk cfg (moved cfg k t p) := by
  obtain ⟨R, W, eq, okR, _, okW, waitingW⟩ := moved_eq h reg p
  rw [eq]
  refine ⟨okR, okW, h.lists.owners, h.lists.lt, ?_, h.lists.base, ?_, h.lists.owner⟩
  · intro u hu
    dsimp only
    by_cases hut : u = t
    · rwa [hut, update_self]
    · rw [update_of_ne hut]
      exact h.lists.eff u hu
  · intro u m hu
    exact h.lists.waiter u m (by rw [← waitingW]; exact hu)

theorem applyEffective_eq (p : Nat) :
    applyEffective cfg k t p =
      mirrorPriority (mutexOwnerRecompute cfg (moved cfg k t p) t (k.effectivePriority t)) t p := by
  unfold applyEffective moved
  by_cases ready : k.task.state t = .ready
  · simp only [if_pos ready]
    rfl
  · simp only [if_neg ready]

theorem mutexOwnerRecompute_eq (lists : ListsOk cfg k) {old : Nat} :
    mutexOwnerRecompute cfg k t old =
      match k.waiters.waitingOn t with
      | none => k
      | some m =>
        if old = k.effectivePriority t then k else mutexRecomputeTaskPriority cfg k (k.owners.owner m) := by
  unfold mutexOwnerRecompute
  cases hw : k.waiters.waitingOn t with
  | none => rfl
  | some m =>
    have reg := (lists.owner m (lists.waiter t m hw).2.2.2).1
    dsimp only
    unfold mutexRecomputeOwnerPriority
    rw [lists.lookup reg]

theorem applyEffective_spec (h : k.Inv cfg) (reg : k.taskTable t = true) (hp : p < cfg.maxPriorities) :
    (applyEffective cfg k t p).Inv cfg ∧ PriorityOnly k (applyEffective cfg k t p) := by
  have lists := moved_lists h reg hp
  obtain ⟨R, W, eq, okR, bits, okW, waitingW⟩ := moved_eq h reg p
  rw [applyEffective_eq, mutexOwnerRecompute_eq lists]
  have waiting : (moved cfg k t p).waiters.waitingOn t = k.waiters.waitingOn t := by
    rw [eq]
    exact congrFun waitingW t
  rw [waiting]
  cases hw : k.waiters.waitingOn t with
  | none =>
    dsimp only
    have only : PriorityOnly k (mirrorPriority (moved cfg k t p) t p) := by
      rw [eq]
      refine ⟨rfl, rfl, rfl, rfl, rfl, rfl, rfl, waitingW, bits, rfl, rfl, rfl, rfl, rfl, ?_⟩
      intro _ same
      dsimp only [mirrorPriority]
      by_cases hc : k.scheduler.currentTaskId = t
      · rw [if_pos hc, hc, update_self]
      · rw [if_neg hc, update_of_ne hc]
        exact same
    refine ⟨h.priorityOnly only ?_, only⟩
    exact ⟨lists.ready, lists.waiters, lists.owners, lists.lt, lists.eff, lists.base, lists.waiter, lists.owner⟩
  | some m =>
    obtain ⟨_, blocked, _⟩ := ((h.task t).waiting m).mp hw
    have idle : k.task.state t ≠ .running := by
      rw [blocked]
      exact nofun
    have only₁ : PriorityOnly k (moved cfg k t p) := by
      rw [eq]
      refine ⟨rfl, rfl, rfl, rfl, rfl, rfl, rfl, waitingW, bits, rfl, rfl, rfl, rfl, rfl, ?_⟩
      intro running same
      have other : k.scheduler.currentTaskId ≠ t := by
        rintro rfl
        exact idle running
      dsimp only
      rw [update_of_ne other]
      exact same
    have inv₁ := h.priorityOnly only₁ lists
    have ownerReg : (moved cfg k t p).taskTable ((moved cfg k t p).owners.owner m) = true := by
      rw [only₁.taskTable, only₁.owners]
      exact (h.lists.owner m (h.lists.waiter t m hw).2.2.2).1
    obtain ⟨lists₂, only₂, _⟩ := recompute_spec lists ownerReg
    dsimp only
    split
    · have idle₁ : (moved cfg k t p).task.state t ≠ .running := by
        rw [only₁.task]
        exact idle
      exact ⟨inv₁.mirror idle₁ p, only₁.trans (mirror_only idle₁ p)⟩
    · have idle₂ : (mutexRecomputeTaskPriority cfg (moved cfg k t p)
          ((moved cfg k t p).owners.owner m)).task.state t ≠ .running := by
        rw [only₂.task, only₁.task]
        exact idle
      exact ⟨(inv₁.priorityOnly only₂ lists₂).mirror idle₂ p, (only₁.trans only₂).trans (mirror_only idle₂ p)⟩

theorem setBasePriority_inv (h : k.Inv cfg) (hp : p < cfg.maxPriorities) : (setBasePriority cfg k t p).Inv cfg := by
  obtain ⟨l, tasks⟩ := h
  refine ⟨⟨l.ready, l.waiters, l.owners, l.lt, l.eff, ?_, l.waiter, l.owner⟩, fun u => ?_⟩
  · intro u hu
    dsimp only [setBasePriority]
    by_cases hut : u = t
    · rwa [hut, update_self]
    · rw [update_of_ne hut]
      exact l.base u hu
  · exact (tasks u).congr ⟨rfl, rfl, rfl, rfl, rfl, rfl, fun _ => rfl, rfl, rfl⟩ (tasks u).running

theorem newEffective_lt (h : ListsOk cfg k) (reg : k.taskTable t = true) {oldBase p : Nat}
    (hp : p < cfg.maxPriorities) : newEffective k t oldBase p < cfg.maxPriorities := by
  unfold newEffective
  dsimp only
  split
  · exact h.eff t reg
  · exact hp

def rebased (cfg : Config) (k : Kernel) (t p : Nat) : Kernel :=
  let effective := newEffective k t (k.task.basePriority t) p
  if effective = (setBasePriority cfg k t p).effectivePriority t then setBasePriority cfg k t p
  else applyEffective cfg (setBasePriority cfg k t p) t effective

theorem rebased_spec (h : k.Inv cfg) (reg : k.taskTable t = true) (hp : p < cfg.maxPriorities) :
    (rebased cfg k t p).Inv cfg ∧ PriorityOnly (setBasePriority cfg k t p) (rebased cfg k t p) := by
  have base := setBasePriority_inv (t := t) h hp
  unfold rebased
  dsimp only
  split
  · exact ⟨base, PriorityOnly.refl _⟩
  · exact applyEffective_spec base reg (newEffective_lt h.lists reg hp)

theorem setBase_waits (cfg : Config) (k : Kernel) (t p : Nat) : Waits k (setBasePriority cfg k t p) fun _ => none := by
  refine ⟨rfl, rfl, rfl, rfl, rfl, fun _ e => absurd rfl e, fun u => ?_, fun _ => rfl, fun _ _ => rfl,
    fun _ _ => rfl, fun u => ?_⟩
  · simp [setBasePriority]
  · simp [setBasePriority]

/-- What a change of base priority comes to: a refusal, nothing, or the move followed by a
selection that may ask for a switch. -/
theorem taskSetPriority_cases (cfg : Config) (k : Kernel) (t p : Nat) :
    (∃ ret, taskSetPriority cfg k t p = (k, ret) ∧ (ret = .ok → k.task.basePriority t = p)) ∨
    (k.taskTable t = true ∧ p < cfg.maxPriorities ∧ k.task.basePriority t ≠ p ∧
      ∃ pending, taskSetPriority cfg k t p =
        ((if pending = true then (selectNext cfg (rebased cfg k t p)).1.setPending
          else (selectNext cfg (rebased cfg k t p)).1), .ok) ∧
        (pending = true ↔ (selectNext cfg (rebased cfg k t p)).1.scheduler.nextPriority <
          (selectNext cfg (rebased cfg k t p)).1.scheduler.currentPriority)) := by
  unfold taskSetPriority
  by_cases bad : cfg.maxTasks ≤ t ∨ cfg.maxPriorities ≤ p ∨ p = cfg.idlePriority
  · rw [if_pos bad]
    exact .inl ⟨_, rfl, nofun⟩
  · rw [if_neg bad]
    by_cases free : k.taskTable t = false
    · rw [if_pos free]
      exact .inl ⟨_, rfl, nofun⟩
    · rw [if_neg free]
      dsimp only
      by_cases same : k.task.basePriority t = p
      · rw [if_pos same]
        exact .inl ⟨_, rfl, fun _ => same⟩
      · rw [if_neg same]
        refine .inr ⟨by simpa using free, by omega, same, ?_⟩
        have fold : (if newEffective k t (k.task.basePriority t) p =
              (setBasePriority cfg k t p).effectivePriority t then setBasePriority cfg k t p
            else applyEffective cfg (setBasePriority cfg k t p) t
              (newEffective k t (k.task.basePriority t) p)) = rebased cfg k t p := rfl
        rw [fold]
        by_cases urgent : (selectNext cfg (rebased cfg k t p)).1.scheduler.nextPriority <
            (selectNext cfg (rebased cfg k t p)).1.scheduler.currentPriority
        · exact ⟨true, by rw [if_pos urgent, if_pos rfl], by simp [urgent]⟩
        · refine ⟨false, by rw [if_neg urgent, if_neg nofun], ?_⟩
          exact ⟨nofun, fun e => absurd e urgent⟩

theorem selectNext_spec (h : k.Inv cfg) :
    (selectNext cfg k).1.Inv cfg ∧ PriorityOnly { k with scheduler := { k.scheduler with
      nextTaskId := (selectNext cfg k).1.scheduler.nextTaskId } } (selectNext cfg k).1 := by
  rcases selectNext_cases h with ⟨eq, _⟩ | ⟨n, _, _, _, eq⟩
  · rw [eq]
    exact ⟨h, PriorityOnly.refl k⟩
  · rw [eq]
    exact ⟨h.setNext _ _, ⟨rfl, rfl, rfl, rfl, rfl, rfl, rfl, rfl, fun _ => rfl, rfl, rfl, rfl, rfl, rfl,
      fun _ e => e⟩⟩

theorem setPending_waits (k : Kernel) : Waits k k.setPending fun _ => none := .of_task rfl rfl rfl rfl

theorem taskSetPriority_spec (h : k.Inv cfg) (p : Nat) :
    (taskSetPriority cfg k t p).1.Inv cfg ∧ Waits k (taskSetPriority cfg k t p).1 fun _ => none := by
  rcases taskSetPriority_cases cfg k t p with
    ⟨ret, eq, -⟩ | ⟨reg, hp, _, pending, eq, _⟩
  · rw [eq]
    exact ⟨h, .of_task rfl rfl rfl rfl⟩
  · rw [eq]
    obtain ⟨inv, only⟩ := rebased_spec h reg hp
    obtain ⟨inv', only'⟩ := selectNext_spec inv
    have next : Waits (rebased cfg k t p) (selectNext cfg (rebased cfg k t p)).1 fun _ => none :=
      .of_task only'.task only'.taskTable only'.timeoutMap only'.tickCount
    have waits := ((setBase_waits cfg k t p).trans
      (Wakes.of_priorityOnly only).toWaits).trans next
    cases pending with
    | true => exact ⟨inv'.setPending, waits.trans (setPending_waits _)⟩
    | false => exact ⟨inv', waits⟩

def expired (k : Kernel) (t : Nat) : Bool :=
  k.timeoutMap.isSet t && tickHasExpired k.tickCount (k.task.wakeTick t)

theorem tickExpire_spec (h : k.Inv cfg) (timed : k.timeoutMap.isSet t = true) :
    (tickExpire cfg k t).Inv cfg ∧
      Wakes k (tickExpire cfg k t) fun u => if u = t ∧ expired k t = true then some .timeout else none := by
  obtain ⟨reg, blocked⟩ := (h.task t).timeout timed
  unfold tickExpire
  rw [h.lists.lookup reg]
  dsimp only
  by_cases due : tickHasExpired k.tickCount (k.task.wakeTick t) = true
  · rw [if_pos due]
    obtain ⟨inv, wakes, _⟩ := expire_spec h reg blocked
    refine ⟨inv, wakes.congr fun u => ?_⟩
    simp [wokenBy, expired, timed, due]
  · rw [if_neg due]
    refine ⟨h, (Wakes.refl k).congr fun u => ?_⟩
    simp [expired, due]

theorem expire_foldl (l : List Nat) (nodup : l.Nodup) (h : k.Inv cfg) (timed : ∀ t ∈ l, k.timeoutMap.isSet t = true) :
    (l.foldl (tickExpire cfg) k).Inv cfg ∧
      Wakes k (l.foldl (tickExpire cfg) k) fun u =>
        if u ∈ l ∧ expired k u = true then some .timeout else none := by
  induction l generalizing k with
  | nil => exact ⟨h, (Wakes.refl k).congr fun u => by simp⟩
  | cons t l ih =>
    have head := tickExpire_spec h (timed t List.mem_cons_self)
    have fresh := (List.nodup_cons.mp nodup).1
    have timed' : ∀ u ∈ l, (tickExpire cfg k t).timeoutMap.isSet u = true := by
      intro u hu
      have hut : u ≠ t := fun e => fresh (e ▸ hu)
      rw [head.2.timeout, timed u (List.mem_cons_of_mem t hu)]
      simp [hut]
    obtain ⟨inv, wakes⟩ := ih (List.nodup_cons.mp nodup).2 head.1 timed'
    refine ⟨inv, (head.2.trans wakes).congr fun u => ?_⟩
    by_cases hut : u = t
    · subst hut
      simp [fresh]
    · have same : expired (tickExpire cfg k t) u = expired k u := by
        unfold expired
        rw [head.2.timeout, head.2.tickCount, head.2.wakeTick]
        simp [hut]
      rw [same]
      simp [hut]

theorem expire_induction
    (step : ∀ k t, k.Inv cfg → k.taskTable t = true → k.task.state t = .blocked → expired k t = true → P k →
      P (unblock cfg (blockCleanup cfg k t) t .timeout))
    (l : List Nat) (nodup : l.Nodup) (h : k.Inv cfg) (timed : ∀ t ∈ l, k.timeoutMap.isSet t = true)
    (start : P k) : P (l.foldl (tickExpire cfg) k) := by
  induction l generalizing k with
  | nil => exact start
  | cons t l ih =>
    obtain ⟨fresh, nodup⟩ := List.nodup_cons.mp nodup
    have head := tickExpire_spec h (timed t List.mem_cons_self)
    have timed' : ∀ u ∈ l, (tickExpire cfg k t).timeoutMap.isSet u = true := by
      intro u hu
      have hut : u ≠ t := fun e => fresh (e ▸ hu)
      rw [head.2.timeout, timed u (List.mem_cons_of_mem t hu)]
      simp [hut]
    refine ih nodup head.1 timed' ?_
    obtain ⟨reg, blocked⟩ := (h.task t).timeout (timed t List.mem_cons_self)
    unfold tickExpire
    rw [h.lists.lookup reg]
    dsimp only
    split
    · rename_i due
      have isDue : expired k t = true := by simp [expired, timed t List.mem_cons_self, due]
      exact step k t h reg blocked isDue start
    · exact start

def ticked (k : Kernel) : Kernel := { k with tickCount := k.tickCount + 1#32 }

theorem Kernel.Inv.ticked (h : k.Inv cfg) : (Rtos.ticked k).Inv cfg := by
  obtain ⟨l, tasks⟩ := h
  refine ⟨⟨l.ready, l.waiters, l.owners, l.lt, l.eff, l.base, l.waiter, l.owner⟩, fun u => ?_⟩
  exact (tasks u).congr ⟨rfl, rfl, rfl, rfl, rfl, rfl, fun _ => rfl, rfl, rfl⟩ (tasks u).running

theorem tickTimeouts_spec (h : k.Inv cfg) :
    (tickTimeouts cfg k).Inv cfg ∧
      Wakes (ticked k) (tickTimeouts cfg k) fun u =>
        if expired (ticked k) u = true then some .timeout else none := by
  have timed : ∀ t ∈ k.timeoutMap.scan cfg.bitmapWidth, (ticked k).timeoutMap.isSet t = true :=
    fun t ht => (Bitmap.mem_scan.mp ht).2
  obtain ⟨inv, wakes⟩ := expire_foldl _ (Bitmap.nodup_scan _ _) h.ticked timed
  refine ⟨inv, wakes.congr fun u => ?_⟩
  have mem : expired (ticked k) u = true → u ∈ k.timeoutMap.scan cfg.bitmapWidth := by
    intro e
    have bit : k.timeoutMap.isSet u = true := (Bool.and_eq_true _ _ ▸ e).1
    have lt := h.lists.lt u ((h.task u).timeout bit).1
    exact Bitmap.mem_scan.mpr ⟨lt.trans_le cfg.tasks_le_width, bit⟩
  by_cases e : expired (ticked k) u = true
  · simp [e, mem e]
  · simp [e]

theorem tickTimeouts_induction
    (step : ∀ k t, k.Inv cfg → k.taskTable t = true → k.task.state t = .blocked → expired k t = true → P k →
      P (unblock cfg (blockCleanup cfg k t) t .timeout))
    (h : k.Inv cfg) (start : P (ticked k)) : P (tickTimeouts cfg k) :=
  expire_induction step _ (Bitmap.nodup_scan _ _) h.ticked (fun _ ht => (Bitmap.mem_scan.mp ht).2) start

theorem tickTimeouts_owners (h : k.Inv cfg) : (tickTimeouts cfg k).owners = k.owners := by
  refine tickTimeouts_induction (P := fun k' => k'.owners = k.owners) ?_ h rfl
  intro k' t inv reg blocked _ same
  exact (expire_spec inv reg blocked).2.2.trans same

end XSDK.Rtos
