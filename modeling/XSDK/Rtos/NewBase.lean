import XSDK.Rtos.Inheritance

/-! The inheritance equation under a new base priority. The code takes a task for boosted
when its effective priority is below its old base, and so overlooks waiters that have
not boosted it. -/
namespace XSDK.Rtos

open Function (update update_self update_of_ne)
open Library

variable {cfg : Config} {k : Kernel} {t p : Nat}

/-- Every task has the least of its base and of the effective priorities of the waiters
on the mutexes it holds. -/
def Kernel.Equation (k : Kernel) : Prop :=
  ∀ t, k.taskTable t = true → IsLeast (k.bids t) (k.effectivePriority t)

/-- A task that is not boosted gets a base that a waiter on one of its mutexes outranks. -/
def Kernel.Overlooked (k : Kernel) (t p : Nat) : Prop :=
  k.task.basePriority t ≠ p ∧ k.effectivePriority t = k.task.basePriority t ∧
    ∃ m u, k.owners.owner m = t ∧ k.WaitsOn u (.mutex m) ∧ k.effectivePriority u < p

/-- A task that waits, along mutexes and their owners, for itself. -/
def Kernel.Deadlocked (k : Kernel) (t : Nat) : Prop :=
  Relation.TransGen (fun u v => ∃ m, k.owners.owner m = v ∧ k.WaitsOn u (.mutex m)) t t

theorem Kernel.Inv.lender_iff (h : k.Inv cfg) {u v : Nat} :
    k.lender cfg u = some v ↔ ∃ m, k.owners.owner m = v ∧ k.WaitsOn u (.mutex m) := by
  rw [h.lists.lender_eq_some]
  apply exists_congr
  intro m
  rw [(h.task u).waiting m]
  exact And.comm

theorem applyEffective_settles (h : k.Inv cfg) (reg : k.taskTable t = true) {p : Nat}
    (hp : p < cfg.maxPriorities) (moves : k.effectivePriority t ≠ p) :
    (applyEffective cfg k t p).effectivePriority =
      match k.lender cfg t with
      | none => update k.effectivePriority t p
      | some o => settle (k.tasks cfg) (k.lender cfg) k.task.basePriority (cfg.maxTasks + 1)
          (update k.effectivePriority t p) o := by
  have lists := moved_lists h reg hp
  obtain ⟨R, W, eq, -, -, -, waitingW⟩ := moved_eq h reg p
  rw [applyEffective_eq, mutexOwnerRecompute_eq lists]
  have waiting : (moved cfg k t p).waiters.waitingOn t = k.waiters.waitingOn t := by
    rw [eq]
    exact congrFun waitingW t
  have eff : (moved cfg k t p).effectivePriority = update k.effectivePriority t p := by rw [eq]
  rw [waiting]
  cases hw : k.waiters.waitingOn t with
  | none =>
    have root : k.lender cfg t = none := by simp [Kernel.lender, hw]
    rw [root]
    exact eff
  | some m =>
    have up : k.lender cfg t = some (k.owners.owner m) := h.lists.lender_eq_some.mpr ⟨m, hw, rfl⟩
    have owners : (moved cfg k t p).owners = k.owners := by rw [eq]
    have table : (moved cfg k t p).taskTable = k.taskTable := by rw [eq]
    have base : (moved cfg k t p).task = k.task := by rw [eq]
    have graph : (moved cfg k t p).tasks cfg = k.tasks cfg ∧ (moved cfg k t p).lender cfg = k.lender cfg := by
      constructor
      · unfold Kernel.tasks
        rw [table]
      · funext u
        simp only [Kernel.lender, Kernel.lookup, owners, table]
        rw [eq]
        exact congrArg (Option.bind · _) (congrFun waitingW u)
    have reg' : (moved cfg k t p).taskTable (k.owners.owner m) = true := by
      rw [table]
      exact (h.lists.owner m (h.lists.waiter t m hw).2.2.2).1
    obtain ⟨-, -, walked⟩ := recompute_spec lists reg'
    have changed : k.effectivePriority t ≠ (moved cfg k t p).effectivePriority t := by
      rw [eff, update_self]
      exact moves
    rw [up, owners]
    dsimp only
    rw [if_neg changed]
    refine walked.trans ?_
    rw [graph.1, graph.2, base, eff]

def Kernel.lentWith (cfg : Config) (k : Kernel) (t p : Nat) : Nat :=
  lent (k.tasks cfg) (k.lender cfg) (update k.task.basePriority t p) k.effectivePriority t

theorem newEffective_right (h : k.Inv cfg) (inherits : k.Inherits cfg) (reg : k.taskTable t = true)
    (differs : k.task.basePriority t ≠ p) (seen : ¬k.Overlooked t p) :
    newEffective k t (k.task.basePriority t) p = k.lentWith cfg t p := by
  have own := inherits t (h.lists.mem_tasks.mpr reg)
  have children : ∀ c ∈ k.tasks cfg, k.lender cfg c = some t → k.effectivePriority t ≤ k.effectivePriority c := by
    intro c hc lends
    rw [own]
    exact lent_le_child _ _ hc lends
  have le : k.effectivePriority t ≤ k.task.basePriority t := by
    rw [own]
    exact lent_le_base _ t
  unfold newEffective Kernel.lentWith
  dsimp only
  apply eq_of_forall_le_iff
  intro x
  rw [le_lent, update_self]
  by_cases boosted : k.effectivePriority t < k.task.basePriority t
  · have attained : ∃ c ∈ k.tasks cfg, k.lender cfg c = some t ∧ k.effectivePriority t = k.effectivePriority c := by
      have cases : lent (k.tasks cfg) (k.lender cfg) k.task.basePriority k.effectivePriority t =
          k.task.basePriority t ∨ ∃ c ∈ k.tasks cfg, k.lender cfg c = some t ∧
            lent (k.tasks cfg) (k.lender cfg) k.task.basePriority k.effectivePriority t =
              k.effectivePriority c := lent_attained _ t
      rcases cases with base | ⟨c, hc, lends, value⟩
      · rw [own, base] at boosted
        exact absurd boosted (lt_irrefl _)
      · exact ⟨c, hc, lends, own.trans value⟩
    obtain ⟨c, hc, lends, value⟩ := attained
    by_cases outranks : k.effectivePriority t < p
    · rw [if_pos (by simp [boosted, outranks])]
      constructor
      · exact fun hx => ⟨hx.trans outranks.le, fun d hd lendsD => hx.trans (children d hd lendsD)⟩
      · exact fun hx => (hx.2 c hc lends).trans_eq value.symm
    · rw [if_neg (by simp [outranks])]
      constructor
      · exact fun hx => ⟨hx, fun d hd lendsD => (hx.trans (not_lt.mp outranks)).trans (children d hd lendsD)⟩
      · exact fun hx => hx.1
  · have plain := le_antisymm le (not_lt.mp boosted)
    rw [if_neg (by simp [boosted])]
    constructor
    · refine fun hx => ⟨hx, fun d hd lends => hx.trans (not_lt.mp fun lt => seen ⟨differs, plain, ?_⟩)⟩
      obtain ⟨m, holds, waits⟩ := h.lender_iff.mp lends
      exact ⟨m, d, holds, waits, lt⟩
    · exact fun hx => hx.1

/-- What the change does to the priorities: one round at the task with the code's value for
it, and the walk of its lender. -/
theorem rebased_effective (h : k.Inv cfg) (reg : k.taskTable t = true) (hp : p < cfg.maxPriorities) :
    (rebased cfg k t p).effectivePriority =
      if newEffective k t (k.task.basePriority t) p = k.effectivePriority t then k.effectivePriority
      else match k.lender cfg t with
        | none => update k.effectivePriority t (newEffective k t (k.task.basePriority t) p)
        | some o => settle (k.tasks cfg) (k.lender cfg) (update k.task.basePriority t p) (cfg.maxTasks + 1)
            (update k.effectivePriority t (newEffective k t (k.task.basePriority t) p)) o := by
  unfold rebased
  dsimp only
  by_cases stays : newEffective k t (k.task.basePriority t) p = k.effectivePriority t
  · rw [if_pos stays]
    refine (congrArg Kernel.effectivePriority (if_pos stays)).trans ?_
    rfl
  · rw [if_neg stays]
    refine (congrArg Kernel.effectivePriority (if_neg stays)).trans ?_
    exact applyEffective_settles (setBasePriority_inv h hp) reg (newEffective_lt h.lists reg hp) (Ne.symm stays)

theorem rebased_inherits (h : k.Inv cfg) (inherits : k.Inherits cfg) (reg : k.taskTable t = true)
    (hp : p < cfg.maxPriorities) (differs : k.task.basePriority t ≠ p) (seen : ¬k.Overlooked t p) :
    (rebased cfg k t p).Inherits cfg := by
  obtain ⟨-, only⟩ := rebased_spec h reg hp
  have right := newEffective_right h inherits reg differs seen
  have walk : (rebased cfg k t p).effectivePriority = settle (k.tasks cfg) (k.lender cfg)
      (update k.task.basePriority t p) (cfg.maxTasks + 1 + 1) k.effectivePriority t := by
    rw [rebased_effective h reg hp, right]
    by_cases stays : k.lentWith cfg t p = k.effectivePriority t
    · rw [if_pos stays]
      exact (settle_of_settled stays.symm _).symm
    · rw [if_neg stays, settle]
      refine Eq.trans ?_ (if_neg (Ne.symm stays)).symm
      cases k.lender cfg t with
      | none => rfl
      | some o => rfl
  have card : (k.tasks cfg).card ≤ cfg.maxTasks + 1 + 1 := by
    have le : ((k.tasks cfg).filter fun _ => True).card ≤ cfg.maxTasks + 1 := tasks_card_le k _
    rw [Finset.filter_true_of_mem fun _ _ => trivial] at le
    omega
  unfold Kernel.Inherits
  rw [only.tasks, only.lender, only.task, walk]
  exact settle_settles h.lists.lender_closed h.lists.lender_irrefl _ _ t (h.lists.mem_tasks.mpr reg)
    (settledBut_rebase inherits t p) card

/-- A waiter that is overlooked stays overlooked, unless the walk comes back to the task. -/
theorem rebased_overlooks (h : k.Inv cfg) (reg : k.taskTable t = true) (hp : p < cfg.maxPriorities)
    (free : ¬k.Deadlocked t) (overlooked : k.Overlooked t p) : ¬(rebased cfg k t p).Inherits cfg := by
  obtain ⟨differs, plain, m, u, holds, waits, lower⟩ := overlooked
  obtain ⟨-, only⟩ := rebased_spec h reg hp
  have lends : k.lender cfg u = some t := h.lender_iff.mpr ⟨m, holds, waits⟩
  have ring : ∀ {o}, k.lender cfg t = some o → ¬Relation.ReflTransGen (fun c b => k.lender cfg c = some b) o t := by
    intro o up path
    have cycle : Relation.TransGen (fun c b => k.lender cfg c = some b) t t := .head' up path
    exact free (cycle.lift id fun _ _ lends => h.lender_iff.mp lends)
  have ne : u ≠ t := by
    rintro rfl
    exact h.lists.lender_irrefl u (h.lists.mem_tasks.mpr reg) lends
  have value : newEffective k t (k.task.basePriority t) p = p := by
    unfold newEffective
    dsimp only
    rw [if_neg]
    simp [plain]
  have moves : p ≠ k.effectivePriority t := by
    rw [plain]
    exact Ne.symm differs
  have kept : (rebased cfg k t p).effectivePriority t = p ∧
      (rebased cfg k t p).effectivePriority u = k.effectivePriority u := by
    rw [rebased_effective h reg hp, value, if_neg moves]
    cases up : k.lender cfg t with
    | none => exact ⟨update_self .., update_of_ne ne _ _⟩
    | some o =>
      have offT := ring up
      have offU : ¬Relation.ReflTransGen (fun c b => k.lender cfg c = some b) o u :=
        fun path => offT (path.tail lends)
      constructor
      · exact (settle_unreached _ _ _ offT).trans (update_self ..)
      · exact (settle_unreached _ _ _ offU).trans (update_of_ne ne _ _)
  intro inherits
  have memT : t ∈ (rebased cfg k t p).tasks cfg := by
    rw [only.tasks]
    exact h.lists.mem_tasks.mpr reg
  have memU : u ∈ (rebased cfg k t p).tasks cfg := by
    rw [only.tasks]
    exact h.lists.mem_tasks.mpr waits.1
  have lends' : (rebased cfg k t p).lender cfg u = some t := by
    rw [only.lender]
    exact lends
  have own := inherits t memT
  have le := lent_le_child (rebased cfg k t p).task.basePriority (rebased cfg k t p).effectivePriority memU lends'
  rw [← own, kept.1, kept.2] at le
  exact absurd lower (not_lt.mpr le)

theorem selectNext_graph (h : k.Inv cfg) : SameGraph k (selectNext cfg k).1 := by
  rcases selectNext_cases h with ⟨eq, -⟩ | ⟨n, -, -, -, eq⟩
  · rw [eq]
    exact .refl k
  · rw [eq]
    exact ⟨rfl, rfl, rfl, rfl, rfl⟩

theorem taskSetPriority_inherits (h : k.Inv cfg) (inherits : k.Inherits cfg) (seen : ¬k.Overlooked t p) :
    (taskSetPriority cfg k t p).1.Inherits cfg := by
  rcases taskSetPriority_cases cfg k t p with ⟨ret, eq, -⟩ | ⟨reg, hp, differs, pending, eq, -⟩
  · rw [eq]
    exact inherits
  · have after := (rebased_inherits h inherits reg hp differs seen).graph
      (selectNext_graph (rebased_spec h reg hp).1)
    rw [eq]
    cases pending with
    | true => exact after.graph (Calm.setPending _).toSameGraph
    | false => exact after

theorem taskSetPriority_overlooks (h : k.Inv cfg) (accepted : (taskSetPriority cfg k t p).2 = .ok)
    (free : ¬k.Deadlocked t) (overlooked : k.Overlooked t p) : ¬(taskSetPriority cfg k t p).1.Inherits cfg := by
  rcases taskSetPriority_cases cfg k t p with ⟨ret, eq, same⟩ | ⟨reg, hp, -, pending, eq, -⟩
  · rw [eq] at accepted
    exact absurd (same accepted) overlooked.1
  · have wrong := rebased_overlooks h reg hp free overlooked
    have graph := selectNext_graph (rebased_spec h reg hp).1
    rw [eq]
    cases pending with
    | true => exact fun after => wrong (after.graph (graph.trans (Calm.setPending _).toSameGraph).symm)
    | false => exact fun after => wrong (after.graph graph.symm)

theorem taskSetPriority_base (h : k.Inv cfg) (accepted : (taskSetPriority cfg k t p).2 = .ok) :
    (taskSetPriority cfg k t p).1.task.basePriority = update k.task.basePriority t p := by
  rcases taskSetPriority_cases cfg k t p with ⟨ret, eq, same⟩ | ⟨reg, hp, -, pending, eq, -⟩
  · rw [eq] at accepted ⊢
    rw [← same accepted, Function.update_eq_self]
  · obtain ⟨inv, only⟩ := rebased_spec h reg hp
    have base : (selectNext cfg (rebased cfg k t p)).1.task.basePriority = update k.task.basePriority t p := by
      rw [(selectNext_graph inv).basePriority, only.task]
      rfl
    rw [eq]
    cases pending with
    | true => exact base
    | false => exact base

/-- A new base priority keeps the inheritance equation unless it overlooks a waiter; and it
fails then, unless the task waits for itself. -/
theorem new_base_inherited (h : k.Inv cfg) (equation : k.Equation)
    (accepted : (taskSetPriority cfg k t p).2 = .ok) :
    (taskSetPriority cfg k t p).1.task.basePriority = update k.task.basePriority t p ∧
      (¬k.Overlooked t p → (taskSetPriority cfg k t p).1.Equation) ∧
      (¬k.Deadlocked t → (taskSetPriority cfg k t p).1.Equation → ¬k.Overlooked t p) := by
  have inherits := h.inherits_iff.mpr equation
  have after := (taskSetPriority_spec h (t := t) p).1
  refine ⟨taskSetPriority_base h accepted, fun seen => ?_, fun free equation' overlooked => ?_⟩
  · exact after.inherits_iff.mp (taskSetPriority_inherits h inherits seen)
  · exact taskSetPriority_overlooks h accepted free overlooked (after.inherits_iff.mpr equation')

/-- The kernel of the sample system after some requests. -/
def sampleKernel (requests : List Request) : Kernel := ((machine sample).play sampleStart requests).kernel

theorem sampleKernel_spec {requests : List Request} (permitted : sampleStart.permitsAll sample requests = true)
    (fixed : ∀ request ∈ requests, request.op.setsBase = false) :
    (sampleKernel requests).Inv sample ∧ (sampleKernel requests).Equation := by
  have meets := (Machine.forall_transitions (M := machine sample) (s := sampleStart)
    fun request : Request => request.op.setsBase = false).mpr fixed
  obtain ⟨inv, inherits⟩ := Run.inherits (run_of_permits sampleStart_boot permitted) meets
  exact ⟨inv.kernel, inv.kernel.inherits_iff.mp inherits⟩

/-- The owner of a mutex, boosted to 5, gets the base 7 in place of 10. -/
theorem new_base_inherited_sample :
    (taskSetPriority sample (sampleKernel sampleInherits) 0 7).1.task.basePriority =
        update (sampleKernel sampleInherits).task.basePriority 0 7 ∧
      (¬(sampleKernel sampleInherits).Overlooked 0 7 →
        (taskSetPriority sample (sampleKernel sampleInherits) 0 7).1.Equation) ∧
      (¬(sampleKernel sampleInherits).Deadlocked 0 →
        (taskSetPriority sample (sampleKernel sampleInherits) 0 7).1.Equation →
          ¬(sampleKernel sampleInherits).Overlooked 0 7) := by
  obtain ⟨inv, equation⟩ := @sampleKernel_spec sampleInherits (by decide +kernel) (by decide)
  exact new_base_inherited inv equation (by decide +kernel)

/-- Task 0, at 2, holds a mutex that task 1, at 5, waits for. -/
def sampleLessUrgent : List Request :=
  [create 4 15, create 0 2, create 1 5, ⟨.kernelStart, false⟩, ⟨.daemon, false⟩, ⟨.contextSwitch, true⟩,
    ⟨.mutexLock 0 0#32, false⟩, ⟨.taskDelay 1#32, false⟩, ⟨.contextSwitch, true⟩, ⟨.mutexLock 0 5#32, false⟩]

/-- With the base 10 the owner ends up behind its waiter. -/
theorem waiter_overlooked :
    ∃ k : Kernel, k.Inv sample ∧ k.Equation ∧ (taskSetPriority sample k 0 10).2 = .ok ∧
      ¬(taskSetPriority sample k 0 10).1.Equation := by
  obtain ⟨inv, equation⟩ := @sampleKernel_spec sampleLessUrgent (by decide +kernel) (by decide)
  refine ⟨sampleKernel sampleLessUrgent, inv, equation, by decide +kernel, fun after => ?_⟩
  have value : (taskSetPriority sample (sampleKernel sampleLessUrgent) 0 10).1.effectivePriority 0 = 10 := by
    decide +kernel
  have bid : 5 ∈ (taskSetPriority sample (sampleKernel sampleLessUrgent) 0 10).1.bids 0 := by
    refine .inr ⟨0, 1, by decide +kernel, ⟨?_, ?_, ?_⟩, ?_⟩ <;> decide +kernel
  have least := (after 0 (by decide +kernel)).2 bid
  rw [value] at least
  exact absurd least (by decide)

end XSDK.Rtos
