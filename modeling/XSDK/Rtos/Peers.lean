import XSDK.Rtos.Reachable
import XSDK.Rtos.ReadyOrder

/-! Tasks of one priority that take turns. Whatever happens between two switches, they keep
their order, unless a ready one of them has to compute its priority again. -/
namespace XSDK.Rtos

open Function (update update_self update_of_ne)
open Library

variable {cfg : Config} {k k' : Kernel} {ring : Finset Nat} {p t : Nat} {line : List Nat}

/-- Tasks of one effective priority that are not blocked; every other task that is not
blocked is less urgent. -/
structure Kernel.Peers (k : Kernel) (ring : Finset Nat) (p : Nat) : Prop where
  registered : ∀ t ∈ ring, k.taskTable t = true
  priority : ∀ t ∈ ring, k.effectivePriority t = p
  active : ∀ t ∈ ring, k.task.state t ≠ .blocked
  others : ∀ t, k.taskTable t = true → t ∉ ring → k.task.state t ≠ .blocked → p < k.effectivePriority t

/-- The task lends to no ready peer, neither directly nor through owners that wait themselves. -/
def Kernel.Unlent (cfg : Config) (k : Kernel) (ring : Finset Nat) (t : Nat) : Prop :=
  ∀ c ∈ ring, k.task.state c = .ready → ¬Relation.TransGen (k.LendsTo cfg) t c

/-- The operation makes no ready peer compute its priority again. -/
def System.Undisturbed (cfg : Config) (S : System) (ring : Finset Nat) : Op → Prop
  | .tick => ∀ t, expired (ticked S.kernel) t = true → S.kernel.Unlent cfg ring t
  | .taskSetPriority t _ => S.kernel.Unlent cfg ring t
  | _ => True

structure System.Serving (cfg : Config) (S : System) (ring : Finset Nat) (p : Nat) (line : List Nat) : Prop where
  inv : S.Inv cfg
  peers : S.kernel.Peers ring p
  current : S.current ∈ ring
  running : S.kernel.task.state S.current = .running
  line : S.kernel.Lined ring p line

section Peers

variable {S : System} {inIsr : Bool} {op : Op} {w : WaitObject}

theorem Kernel.Peers.out (peers : k.Peers ring p) (waits : k.WaitsOn t w) : t ∉ ring :=
  fun mem => peers.active t mem waits.2.1

theorem Kernel.Unlent.clear (inv : k.Inv cfg) (unlent : k.Unlent cfg ring t) :
    ∀ c ∈ ring, Relation.TransGen (k.LendsTo cfg) t c → k.ready.map.isSet c = false := by
  intro c mem reach
  rw [← Bool.not_eq_true, (inv.task c).ready]
  exact fun ready => unlent c mem ready.2 reach

theorem Kernel.Peers.not_blocks (after : k'.Peers ring p) (mem : t ∈ ring) {target : Option WaitObject}
    {payload : Payload} {ticks : Word} (blocks : Blocks k k' t target payload ticks) : False := by
  refine after.active t mem ?_
  rw [blocks.state, update_self]

theorem registerTask_still (inv : k.Inv cfg) (fresh : k.taskTable t = false) (out : t ∉ ring) (q : Nat) :
    Still ring k (registerTask k t q) := by
  have notReady : k.ready.map.isSet t = false := by
    rw [← Bool.not_eq_true, (inv.task t).ready, fresh]
    exact fun e => nomatch e.1
  have links : ∀ r line, k.Lined ring r line → k.ready.next t = none ∧ k.ready.prev t = none := by
    rintro r line ⟨lists, held, -⟩
    exact held.loose t notReady
  refine ⟨fun r line lined => ?_, fun c mem => ?_, rfl⟩
  · obtain ⟨next, prev⟩ := links r line lined
    unfold registerTask
    dsimp only
    refine readyAdd_lined (lined.congr ?_ fun u ready => ?_) out ?_
    · unfold initTaskContext
      dsimp only
      rw [← next, Function.update_eq_self]
      conv_lhs => rw [next, ← prev, Function.update_eq_self]
    · refine update_of_ne ?_ _ _
      rintro rfl
      rw [notReady] at ready
      cases ready
    · exact notReady
  · refine update_of_ne ?_ _ _
    rintro rfl
    exact out mem

theorem selectNext_still (k : Kernel) : Still ring k (selectNext cfg k).1 := by
  unfold selectNext
  split
  · exact .refl k
  · split
    · exact .refl k
    · exact .of_eq rfl rfl rfl rfl

end Peers

section Move

theorem moved_lined {line : List Nat} {r : Nat} (inv : k.Inv cfg) (reg : k.taskTable t = true) (out : t ∉ ring)
    (q : Nat) (h : k.Lined ring r line) : (moved cfg k t q).Lined ring r line := by
  have changed : ∀ k₁ : Kernel, k₁.Lined ring r line →
      (mutexWaiterPriorityChanged cfg k₁ t (k.effectivePriority t)).Lined ring r line := by
    intro k₁ lined
    obtain ⟨ready, eff⟩ := priorityChanged_ready cfg k₁ t (k.effectivePriority t)
    exact lined.congr ready fun u _ => by rw [eff]
  unfold moved
  refine changed _ ?_
  by_cases ready : k.task.state t = .ready
  · rw [if_pos ready]
    have left : (readyRemove k t).Lined ring r line := h.erase out rfl rfl
    have gone : (readyRemove k t).ready.map.isSet t = false := by simp [readyRemove]
    refine readyAdd_lined (left.congr rfl fun u inside => ?_) out gone
    refine update_of_ne ?_ _ _
    rintro rfl
    rw [gone] at inside
    cases inside
  · rw [if_neg ready]
    refine h.congr rfl fun u inside => ?_
    refine update_of_ne ?_ _ _
    rintro rfl
    exact ready (((inv.task u).ready).mp inside).2

theorem applyEffective_still (inv : k.Inv cfg) (reg : k.taskTable t = true) (out : t ∉ ring)
    (unlent : k.Unlent cfg ring t) {q : Nat} (bound : q < cfg.maxPriorities) :
    Still ring k (applyEffective cfg k t q) := by
  obtain ⟨-, only⟩ := applyEffective_spec inv reg bound
  refine ⟨fun r line lined => ?_, fun c _ => by rw [only.task], only.currentTaskId⟩
  have lists := moved_lists inv reg bound
  have first := moved_lined inv reg out q lined
  obtain ⟨R, W, eq, -, bits, -, waitingW⟩ := moved_eq inv reg q
  have mirrored : ∀ k₁ : Kernel, k₁.Lined ring r line → (mirrorPriority k₁ t q).Lined ring r line :=
    fun k₁ lined => lined.congr rfl fun _ _ => rfl
  rw [applyEffective_eq, mutexOwnerRecompute_eq lists]
  refine mirrored _ ?_
  have waiting : (moved cfg k t q).waiters.waitingOn = k.waiters.waitingOn := by
    rw [eq]
    exact waitingW
  have owners : (moved cfg k t q).owners = k.owners := by rw [eq]
  rw [waiting]
  cases hw : k.waiters.waitingOn t with
  | none => exact first
  | some m =>
    dsimp only
    split
    · exact first
    · rw [owners]
      have ownerReg := (inv.lists.owner m (inv.lists.waiter t m hw).2.2.2).1
      have up : k.LendsTo cfg t (k.owners.owner m) := inv.lists.lender_eq_some.mpr ⟨m, hw, rfl⟩
      have same : (moved cfg k t q).LendsTo cfg = k.LendsTo cfg := by
        funext a b
        refine propext ?_
        unfold Kernel.LendsTo
        rw [lists.lender_eq_some, inv.lists.lender_eq_some, waiting, owners]
      refine recompute_lined lists ?_ (fun c mem reach => ?_) first (cfg.maxTasks + 1)
      · rw [eq]
        exact ownerReg
      · rw [same] at reach
        have clear := unlent.clear inv c mem (Relation.TransGen.head' up reach)
        rw [eq]
        exact (bits c).trans clear

theorem applyEffective_peer (inv : k.Inv cfg) (peers : k.Peers ring p) (mem : t ∈ ring) (q : Nat) :
    (applyEffective cfg k t q).effectivePriority t = q := by
  have alone : k.waiters.waitingOn t = none := by
    cases waiting : k.waiters.waitingOn t with
    | none => rfl
    | some m => exact absurd (((inv.task t).waiting m).mp waiting).2.1 (peers.active t mem)
  obtain ⟨R, W, eq, -, -, -, waitingW⟩ := moved_eq inv (peers.registered t mem) q
  rw [applyEffective_eq]
  unfold mutexOwnerRecompute
  have still : (moved cfg k t q).waiters.waitingOn t = none := by
    rw [eq]
    exact (congrFun waitingW t).trans alone
  rw [still, eq]
  exact update_self ..

theorem taskSetPriority_still (inv : k.Inv cfg) (peers : k.Peers ring p) (unlent : k.Unlent cfg ring t) {q : Nat}
    (after : (taskSetPriority cfg k t q).1.Peers ring p) : Still ring k (taskSetPriority cfg k t q).1 := by
  rcases taskSetPriority_cases cfg k t q with ⟨ret, eq, -⟩ | ⟨reg, bound, -, pending, eq, -⟩
  · rw [eq]
    exact .refl k
  · have ends : ∀ k₁ : Kernel, Still ring k₁ (if pending = true then (selectNext cfg k₁).1.setPending
        else (selectNext cfg k₁).1) := by
      intro k₁
      have picked : Still ring k₁ (selectNext cfg k₁).1 := selectNext_still k₁
      split
      · exact picked.trans (.of_eq rfl rfl rfl rfl)
      · exact picked
    have priorities : ∀ k₁ : Kernel, (if pending = true then (selectNext cfg k₁).1.setPending
        else (selectNext cfg k₁).1).effectivePriority = k₁.effectivePriority := by
      intro k₁
      have picked : (selectNext cfg k₁).1.effectivePriority = k₁.effectivePriority := by
        unfold selectNext
        split
        · rfl
        · split <;> rfl
      split <;> exact picked
    rw [eq] at after ⊢
    have based : Still ring k (setBasePriority cfg k t q) := .of_eq rfl rfl rfl rfl
    have inv₁ : (setBasePriority cfg k t q).Inv cfg := setBasePriority_inv inv bound
    refine Still.trans ?_ (ends _)
    unfold rebased
    dsimp only
    split
    · exact based
    · rename_i differs
      by_cases mem : t ∈ ring
      · have peers₁ : (setBasePriority cfg k t q).Peers ring p :=
          ⟨peers.registered, peers.priority, peers.active, peers.others⟩
        have high := after.priority t mem
        dsimp only at high
        rw [priorities] at high
        unfold rebased at high
        dsimp only at high
        rw [if_neg differs, applyEffective_peer inv₁ peers₁ mem] at high
        exact absurd (high.trans (peers.priority t mem).symm) differs
      · exact based.trans (applyEffective_still inv₁ reg mem unlent (newEffective_lt inv.lists reg bound))

end Move

namespace System

variable {S : System} {inIsr : Bool} {op : Op} {line : List Nat}

theorem leave_kernel (S : System) (call : Call) (outcome : Outcome) : (S.leave call outcome).1.kernel = S.kernel := by
  unfold leave
  split <;> rfl

theorem semGive_still (inv : S.kernel.Inv cfg) (awake : ∀ c ∈ ring, S.kernel.task.state c ≠ .blocked) (s : Nat) :
    Still ring S.kernel (S.semGive cfg s).1.kernel := by
  unfold semGive
  rcases semGiveCore_cases inv (S.sem s) s with ⟨u, first, eq⟩ | ⟨-, ⟨-, eq⟩ | ⟨-, eq⟩⟩
  · rw [eq]
    have notReady : S.kernel.ready.map.isSet u = false := by
      rw [← Bool.not_eq_true, (inv.task u).ready, first.1.2.1]
      exact fun e => nomatch e.2
    exact .unblock (inv.lists.lookup first.1.1) (fun mem => awake u mem first.1.2.1) notReady .ok
  · rw [eq]
    exact .refl _
  · rw [eq]
    exact .refl _

theorem trySend_still (inv : S.kernel.Inv cfg) (peers : S.kernel.Peers ring p) (q : Nat) (item : Word) :
    Still ring S.kernel (queueTrySendLocked cfg S.kernel S.memory (S.queue q) q item).1 := by
  rcases queueTrySendLocked_cases inv S.memory (S.queue q) q item with ⟨u, first, eq⟩ | ⟨-, ⟨-, eq⟩ | ⟨-, eq⟩⟩
  · rw [eq]
    exact .wake inv first.1 (peers.out first.1) Payload.zero .ok
  · rw [eq]
    exact .refl _
  · rw [eq]
    exact .refl _

theorem eventVisit_still (inv : k.Inv cfg) {e : Nat} (waits : k.WaitsOn t (.event e)) (out : t ∉ ring)
    (snapshot start : Word) : Still ring k (eventVisit cfg snapshot (k, start) t).1 := by
  unfold eventVisit
  dsimp only
  rw [inv.lists.lookup waits.1]
  dsimp only
  split
  · exact .refl k
  · exact .wake inv waits out _ .ok

theorem eventVisits_still {e : Nat} (snapshot : Word) (l : List Nat) (nodup : l.Nodup) (start : Word) (inv : k.Inv cfg)
    (waits : ∀ u ∈ l, k.WaitsOn u (.event e)) (out : ∀ u ∈ l, u ∉ ring) :
    Still ring k (l.foldl (eventVisit cfg snapshot) (k, start)).1 := by
  induction l generalizing k start with
  | nil => exact .refl k
  | cons t l ih =>
    obtain ⟨fresh, nodup⟩ := List.nodup_cons.mp nodup
    have head := eventVisit_spec inv (waits t List.mem_cons_self) snapshot start
    have first := eventVisit_still inv (waits t List.mem_cons_self) (out t List.mem_cons_self) snapshot start
    refine first.trans (ih nodup _ head.frees.inv (fun u mem => ?_) fun u mem => out u (List.mem_cons_of_mem t mem))
    obtain ⟨reg, blocked, ptr⟩ := waits u (List.mem_cons_of_mem t mem)
    have other : u ≠ t := fun same => fresh (same ▸ mem)
    have wakes := head.frees.wakes
    have asleep : (if u ∈ [t] ∧ eventMet k snapshot u = true then some Return.ok else none) = none := by
      simp [other]
    exact ⟨by rw [wakes.taskTable]; exact reg, (wakes.blocked u).mpr ⟨blocked, asleep⟩,
      by rw [wakes.waitMapPtr u asleep]; exact ptr⟩

theorem eventSet_still (inv : k.Inv cfg) (peers : k.Peers ring p) (flags : Word) (e : Nat) (bits : Word) :
    Still ring k (eventSetCore cfg k flags e bits).1 := by
  have mem : ∀ u, u ∈ (k.waitMap (.event e)).scan cfg.bitmapWidth → k.WaitsOn u (.event e) :=
    fun u hu => ((inv.task u).wait _).mp (Bitmap.mem_scan.mp hu).2
  exact eventVisits_still (flags ||| bits) _ (Bitmap.nodup_scan _ _) 0#32 inv mem fun u hu => peers.out (mem u hu)

theorem mutexUnlock_still (inv : k.Inv cfg) (peers : k.Peers ring p) (current : k.scheduler.currentTaskId ∈ ring)
    (running : k.task.state k.scheduler.currentTaskId = .running) (m : Nat) :
    Still ring k (mutexUnlock cfg k m).1 := by
  have reg := peers.registered _ current
  have started := ((inv.task _).running reg running).1
  have notReady : k.ready.map.isSet k.scheduler.currentTaskId = false := by
    rw [← Bool.not_eq_true, (inv.task _).ready, running]
    exact fun e => nomatch e.2
  have alone : k.waiters.waitingOn k.scheduler.currentTaskId = none := by
    cases waiting : k.waiters.waitingOn k.scheduler.currentTaskId with
    | none => rfl
    | some n => exact absurd (((inv.task _).waiting n).mp waiting).2.1 (peers.active _ current)
  by_cases own : k.owners.owner m = k.scheduler.currentTaskId
  · rcases mutexUnlock_cases inv started rfl reg own with ⟨none, eq⟩ | ⟨w, -, waiting, eq⟩
    · rw [eq]
      obtain ⟨inv₁, -⟩ := release_spec inv own reg (inv.lists.waiters.head_none none)
      have released : Still ring k (mutexRelease k k.scheduler.currentTaskId m) := .of_eq rfl rfl rfl rfl
      exact released.trans (.recompute_alone inv₁.lists reg alone fun _ => notReady)
    · rw [eq]
      obtain ⟨regW, blockedW, -⟩ := ((inv.task w).waiting m).mp waiting
      have out : w ∉ ring := fun mem => peers.active w mem blockedW
      obtain ⟨lists, -, waitingOn, -⟩ := passed_spec inv.lists own reg waiting
      obtain ⟨inv₁, inv₂, -, only₂, -, wakes⟩ := handOff_spec inv own reg waiting
      have eqP := passed_eq (t := k.scheduler.currentTaskId) waiting
      have passes : Still ring k (passed k k.scheduler.currentTaskId m w) := by
        rw [eqP]
        exact .of_eq rfl rfl rfl rfl
      have regP : (passed k k.scheduler.currentTaskId m w).taskTable w = true := by
        rw [eqP]
        exact regW
      have freshP : (passed k k.scheduler.currentTaskId m w).ready.map.isSet w = false := by
        rw [eqP, ← Bool.not_eq_true]
        dsimp only
        rw [(inv.task w).ready, blockedW]
        exact fun e => nomatch e.2
      have found := lists.lookup regP
      have woken := unblock_eq found .ok
      have aloneW : (unblock cfg (passed k k.scheduler.currentTaskId m w) w .ok).waiters.waitingOn w = none := by
        rw [woken]
        exact (congrFun waitingOn w).trans (update_self ..)
      have aloneC : (unblock cfg (passed k k.scheduler.currentTaskId m w) w .ok).waiters.waitingOn
          k.scheduler.currentTaskId = none := by
        rw [woken]
        refine (congrFun waitingOn _).trans ?_
        rw [update_of_ne (by rintro rfl; exact out current)]
        exact alone
      have restC : (unblock cfg (passed k k.scheduler.currentTaskId m w) w .ok).ready.map.isSet
          k.scheduler.currentTaskId = false := by
        rw [woken, eqP]
        dsimp only
        rw [ReadyLists.isSet_insertTail, notReady, Bool.or_false]
        exact decide_eq_false (by rintro rfl; exact out current)
      have reg₁ : ∀ u, k.taskTable u = true →
          (unblock cfg (passed k k.scheduler.currentTaskId m w) w .ok).taskTable u = true := by
        intro u hu
        rw [woken, eqP]
        exact hu
      refine ((passes.trans (.unblock found out freshP .ok)).trans
        (.recompute_alone inv₁.lists (reg₁ w regW) aloneW fun mem => absurd mem out)).trans ?_
      refine .recompute_alone inv₂.lists ?_ ?_ fun _ => ?_
      · rw [only₂.taskTable]
        exact reg₁ _ reg
      · rw [only₂.waitingOn]
        exact aloneC
      · rw [only₂.readyBits]
        exact restC
  · rw [mutexUnlock_refused fun mine => own mine.1]
    exact .refl k

end System

namespace System

variable {S : System} {inIsr : Bool} {op : Op} {line : List Nat}

theorem semTake_still (inv : S.kernel.Inv cfg) (current : S.current ∈ ring)
    (called : CalledBy cfg S.kernel inIsr S.current) (s : Nat) (ticks : Word)
    (after : (S.semTake cfg inIsr s ticks).1.kernel.Peers ring p) :
    Still ring S.kernel (S.semTake cfg inIsr s ticks).1.kernel := by
  unfold semTake at after ⊢
  dsimp only at after ⊢
  rw [leave_kernel] at after ⊢
  rcases semTake_cases inv called (S.sem s) s ticks with ⟨ret, -, eq⟩ | ⟨-, eq⟩ | ⟨-, -, runs, k', eq, enters⟩
  · rw [eq]
    exact .refl _
  · rw [eq]
    exact .refl _
  · rw [eq] at after
    exact (after.not_blocks current enters.blocks).elim

theorem run_still (serving : S.Serving cfg ring p line) (allowed : S.Allowed cfg inIsr op)
    (undisturbed : S.Undisturbed cfg ring op) (notTick : op ≠ .tick) (notSwitch : op ≠ .contextSwitch)
    (after : (S.run cfg inIsr op).1.kernel.Peers ring p) : Still ring S.kernel (S.run cfg inIsr op).1.kernel := by
  obtain ⟨inv, peers, current, running, -⟩ := serving
  have reg := peers.registered _ current
  have started := ((inv.kernel.task _).running reg running).1
  have called : S.mayCall cfg inIsr = true → CalledBy cfg S.kernel inIsr S.current := mayCall_called
  have same : ∀ T : System, T.kernel = S.kernel → Still ring S.kernel T.kernel := by
    intro T eq
    rw [eq]
    exact .refl _
  unfold run at after ⊢
  cases op with
  | tick => exact absurd rfl notTick
  | contextSwitch => exact absurd rfl notSwitch
  | kernelStart =>
    rw [allowed.1] at started
    cases started
  | taskCreate config =>
    rcases taskCreate_cases cfg S.kernel config with ⟨ret, eq, -⟩ | ⟨-, -, fresh, pending, eq, -⟩
    · dsimp only
      rw [eq]
      exact .refl _
    · have out : config.taskId ∉ ring := by
        intro mem
        rw [peers.registered _ mem] at fresh
        cases fresh
      have entered := registerTask_still inv.kernel fresh out config.priority
      dsimp only
      rw [eq]
      cases pending with
      | true => exact entered.trans (.of_eq rfl rfl rfl rfl)
      | false => exact entered
  | taskExit =>
    have gone := after.registered _ current
    change update S.kernel.taskTable S.current false S.current = true at gone
    rw [update_self] at gone
    cases gone
  | taskYield =>
    cases inIsr with
    | true => exact .refl _
    | false => exact .of_eq rfl rfl rfl rfl
  | taskSetPriority t q => exact taskSetPriority_still inv.kernel peers undisturbed after
  | taskDelay ticks =>
    dsimp only at after ⊢
    rw [leave_kernel] at after ⊢
    rcases (called allowed.1).cases with refused | ⟨accepted, runs⟩
    · have eq : Rtos.taskDelay cfg S.kernel inIsr ticks = (S.kernel, .ret .invalidState) := by
        unfold Rtos.taskDelay
        rw [if_pos refused]
      rw [eq]
      exact .refl _
    · by_cases zero : ticks = 0#32
      · unfold Rtos.taskDelay
        rw [if_neg accepted, runs.currentTask]
        dsimp only
        rw [if_pos zero]
        exact .of_eq rfl rfl rfl rfl
      · have task : inIsr = false := runs.task
        subst task
        obtain ⟨k', eq, -, blocks, -⟩ := taskDelay_enters inv.kernel runs.toRuns zero
        rw [eq] at after
        exact (after.not_blocks current blocks).elim
  | resume =>
    dsimp only
    split
    · exact .refl _
    · rename_i call _
      unfold resume
      cases call with
      | eventWait e mask options =>
        dsimp only
        unfold eventWaitResume
        split
        · exact .of_eq rfl rfl rfl rfl
        · split
          · exact .of_eq rfl rfl rfl rfl
          · exact .refl _
      | semTake s =>
        dsimp only
        split <;> exact .refl _
      | _ => exact .refl _
  | semGive s => exact semGive_still inv.kernel peers.active s
  | semTake s ticks => exact semTake_still inv.kernel current (called allowed.1) s ticks after
  | mutexLock m ticks =>
    dsimp only at after ⊢
    rw [leave_kernel] at after ⊢
    rcases mutexLock_cases inv.kernel (called allowed.1) m ticks with
      eq | ⟨-, -, eq⟩ | ⟨-, -, eq⟩ | ⟨runs, owned, foreign, -, eq⟩
    · rw [eq]
      exact .refl _
    · rw [eq]
      exact .refl _
    · rw [eq]
      exact .of_eq rfl rfl rfl rfl
    · obtain ⟨eqB, -, -, blocks, -⟩ := mutexBlock_spec inv.kernel runs.toRuns owned foreign ticks
      rw [eq, eqB] at after
      exact (after.not_blocks current blocks).elim
  | mutexUnlock m => exact mutexUnlock_still inv.kernel peers current running m
  | queueSend q item ticks =>
    dsimp only at after ⊢
    rw [leave_kernel] at after ⊢
    rcases queueSend_cases inv.kernel (called allowed.1) S.memory (S.queue q) q item ticks with
      ⟨ret, -, eq⟩ | ⟨k', memory, queue, sent, eq⟩ | ⟨-, -, -, -, runs, k', eq, enters⟩
    · rw [eq]
      exact .refl _
    · have still := trySend_still inv.kernel peers q item
      rw [sent] at still
      rw [eq]
      exact still
    · rw [eq] at after
      exact (after.not_blocks current enters.blocks).elim
  | queueSendFromIsr q item =>
    dsimp only
    rcases queueSendCore_cases cfg S.kernel S.memory (S.queue q) q item with eq | eq
    · rw [eq]
      exact .refl _
    · rw [eq]
      exact trySend_still inv.kernel peers q item
  | queueReceive q item ticks =>
    dsimp only at after ⊢
    rw [leave_kernel] at after ⊢
    rcases queueReceive_cases inv.kernel (called allowed.1) S.memory (S.queue q) q item ticks with
      ⟨ret, -, eq⟩ | ⟨memory, queue, -, -, -, -, ⟨-, eq⟩ | ⟨u, first, eq⟩⟩ | ⟨-, -, -, runs, k', eq, enters⟩
    · rw [eq]
      exact .refl _
    · rw [eq]
      exact .refl _
    · rw [eq]
      exact .wake inv.kernel first.1 (peers.out first.1) Payload.zero .ok
    · rw [eq] at after
      exact (after.not_blocks current enters.blocks).elim
  | eventSet e bits => exact eventSet_still inv.kernel peers (S.flags e) e bits
  | eventClear e bits => exact .refl _
  | eventWait e mask options ticks =>
    dsimp only at after ⊢
    rw [leave_kernel] at after ⊢
    rcases eventWait_cases inv.kernel (called allowed) (S.flags e) e mask options ticks with
      ⟨ret, -, eq⟩ | ⟨-, -, eq⟩ | ⟨-, -, -, runs, k', eq, enters⟩
    · rw [eq]
      exact .refl _
    · rw [eq]
      exact .refl _
    · rw [eq] at after
      exact (after.not_blocks current enters.blocks).elim
  | taskNotify u value =>
    dsimp only
    rcases notifyCore_cases inv.kernel u value with ⟨-, eq⟩ | ⟨-, -, eq⟩ | ⟨waits, eq⟩
    · rw [eq]
      exact .refl _
    · rw [eq]
      exact .of_eq rfl rfl rfl rfl
    · rw [eq]
      have latched := inv.kernel.setNotify u
        ((S.kernel.task.notifyValue u ||| value) &&& ~~~(S.kernel.task.blockPayload u).second) false
      have noted : Still ring S.kernel (S.kernel.setNotify u
          ((S.kernel.task.notifyValue u ||| value) &&& ~~~(S.kernel.task.blockPayload u).second) false) :=
        .of_eq rfl rfl rfl rfl
      exact noted.trans (.wake latched (w := .notify) waits (peers.out waits) _ .ok)
  | taskNotifyWait clearOnEntry clearOnExit ticks =>
    dsimp only at after ⊢
    rw [leave_kernel] at after ⊢
    rcases taskNotifyWait_cases inv.kernel (called allowed) clearOnEntry clearOnExit ticks with
      ⟨ret, -, -, eq⟩ | ⟨-, -, eq⟩ | ⟨-, -, -, eq⟩ | ⟨runs, -, -, k', eq, enters⟩
    · rw [eq]
      exact .refl _
    · rw [eq]
      exact .of_eq rfl rfl rfl rfl
    · rw [eq]
      exact .of_eq rfl rfl rfl rfl
    · rw [eq] at after
      exact (after.not_blocks current enters.blocks).elim
  | timerInit timerId period isPeriodic => exact .refl _
  | timerStart timerId => exact .refl _
  | timerStop timerId => exact .refl _
  | write buffer bytes => exact .refl _
  | daemon =>
    have runs : CalledBy cfg S.kernel false S.current := fun _ _ => (taskRuns_iff.mp allowed.1).1
    dsimp only at after ⊢
    unfold daemonStep at after ⊢
    cases hd : S.daemon with
    | top =>
      rw [hd] at after
      have kernel : ∀ T : System × Outcome,
          (if T.2 = .blocked then T.1 else { T.1 with daemon := .taken }).kernel = T.1.kernel := by
        intro T
        split <;> rfl
      dsimp only at after ⊢
      rw [kernel] at after ⊢
      exact semTake_still inv.kernel current runs timerSem waitForever after
    | taken => exact .refl _
    | callback timerId rest currentTick => exact .refl _
    | gone => exact .refl _

end System

/-- The timeouts of a tick keep the peers in order, unless a ready one has to compute its priority. -/
theorem tickTimeouts_still (inv : k.Inv cfg) (peers : k.Peers ring p)
    (undisturbed : ∀ t, expired (ticked k) t = true → k.Unlent cfg ring t) : Still ring k (tickTimeouts cfg k) := by
  have all : Still ring k (tickTimeouts cfg k) ∧
      (∀ a b, (tickTimeouts cfg k).LendsTo cfg a b → k.LendsTo cfg a b) ∧
      ∀ t, expired (tickTimeouts cfg k) t = true → expired (ticked k) t = true := by
    refine tickTimeouts_induction (P := fun k' => Still ring k k' ∧
      (∀ a b, k'.LendsTo cfg a b → k.LendsTo cfg a b) ∧ ∀ t, expired k' t = true → expired (ticked k) t = true)
      ?_ inv ⟨.of_eq rfl rfl rfl rfl, fun a b => id, fun t => id⟩
    rintro k' t inv' reg blocked late ⟨still, lends, expires⟩
    have out : t ∉ ring := by
      intro mem
      rw [still.state t mem] at blocked
      exact peers.active t mem blocked
    have clear : ∀ c ∈ ring, Relation.TransGen (k'.LendsTo cfg) t c → k'.ready.map.isSet c = false := by
      intro c mem reach
      rw [← Bool.not_eq_true, (inv'.task c).ready, still.state c mem]
      exact fun ready => undisturbed t (expires t late) c mem ready.2 (Relation.TransGen.mono lends _ _ reach)
    obtain ⟨inv'', wakes, owners⟩ := expire_spec inv' reg blocked
    refine ⟨still.trans (.expire inv' reg blocked out clear), fun a b up => lends a b ?_, fun u due => expires u ?_⟩
    · obtain ⟨m, waiting, own⟩ := inv''.lists.lender_eq_some.mp up
      obtain ⟨regA, blockedA, ptr⟩ := ((inv''.task a).waiting m).mp waiting
      obtain ⟨before, asleep⟩ := (wakes.blocked a).mp blockedA
      rw [wakes.taskTable] at regA
      rw [wakes.waitMapPtr a asleep] at ptr
      rw [owners] at own
      exact inv'.lists.lender_eq_some.mpr ⟨m, ((inv'.task a).waiting m).mpr ⟨regA, before, ptr⟩, own⟩
    · unfold expired at due ⊢
      rw [wakes.timeout, wakes.tickCount, wakes.wakeTick] at due
      simp only [Bool.and_eq_true] at due ⊢
      exact ⟨due.1.1, due.2⟩
  exact all.1

theorem tickRoundRobin_pending (robin : cfg.roundRobin = true) (inv : k.Inv cfg) {c : Nat}
    (reg : k.taskTable c = true) (running : k.task.state c = .running) (priority : k.effectivePriority c = p)
    (lined : k.Lined ring p line) (someone : line ≠ []) :
    (tickRoundRobin cfg k).scheduler.isSchedulePending = true := by
  obtain ⟨lists, held, order⟩ := lined
  obtain ⟨started, -, current⟩ := (inv.task c).running reg running
  have head : k.ready.head k.scheduler.currentPriority ≠ none := by
    rw [current, priority]
    intro empty
    have first := (held.links p).head
    change k.ready.head p = _ at first
    rw [empty] at first
    rw [List.head?_eq_none_iff.mp first.symm] at order
    exact someone order.symm
  unfold tickRoundRobin
  rw [if_pos ⟨robin, started, head⟩]
  rfl

theorem Kernel.Peers.whole (peers : k.Peers ring p) (inv : k.Inv cfg) {lists : Nat → List Nat}
    (held : k.ready.Holds k.effectivePriority lists) : (lists p).filter (· ∈ ring) = lists p := by
  refine List.filter_eq_self.mpr fun t mem => decide_eq_true ?_
  obtain ⟨bit, priority⟩ := (held.mem p t).mp mem
  obtain ⟨reg, ready⟩ := ((inv.task t).ready).mp bit
  by_contra out
  have less := peers.others t reg out (by rw [ready]; exact nofun)
  rw [priority] at less
  exact Nat.lt_irrefl p less

theorem contextSwitch_rotates (inv : k.Inv cfg) (peers : k.Peers ring p)
    (current : k.scheduler.currentTaskId ∈ ring) (running : k.task.state k.scheduler.currentTaskId = .running)
    (lined : k.Lined ring p line) :
    ∃ c rest, line ++ [k.scheduler.currentTaskId] = c :: rest ∧
      (contextSwitch cfg k).scheduler.currentTaskId = c ∧ (contextSwitch cfg k).task.state c = .running ∧
      (contextSwitch cfg k).Lined ring p rest := by
  have parked := preSwitch_spec inv
  rcases preSwitch_eq inv with ⟨c₀, same, reg, runs, eq⟩ | ⟨resting, -⟩
  · subst same
    obtain ⟨lists, held, order⟩ := lined
    rw [peers.whole inv held] at order
    have priority := peers.priority _ current
    have notReady : k.ready.map.isSet k.scheduler.currentTaskId = false := by
      rw [← Bool.not_eq_true, (inv.task _).ready, runs]
      exact fun e => nomatch e.2
    rw [eq] at parked
    obtain ⟨inv₁, resting, -, ready₁, -⟩ := parked
    generalize hk : ({ k with
      ready := k.ready.insertTail k.scheduler.currentTaskId (k.effectivePriority k.scheduler.currentTaskId)
      task := { k.task with state := update k.task.state k.scheduler.currentTaskId .ready } } : Kernel) = k₁
      at eq inv₁ resting ready₁
    have eff : k₁.effectivePriority = k.effectivePriority := by rw [← hk]
    have table : k₁.taskTable = k.taskTable := by rw [← hk]
    have held₁ : k₁.ready.Holds k₁.effectivePriority (update lists p (line ++ [k.scheduler.currentTaskId])) := by
      have added := ReadyLists.insertTail_holds held notReady
      rw [priority, order] at added
      rw [← hk]
      dsimp only
      rw [priority]
      exact added
    have here : update lists p (line ++ [k.scheduler.currentTaskId]) p = line ++ [k.scheduler.currentTaskId] :=
      update_self ..
    have bit : k₁.ready.map.isSet k.scheduler.currentTaskId = true :=
      ((held₁.mem p _).mp (by rw [here]; simp)).1
    have bound : k₁.effectivePriority k.scheduler.currentTaskId < cfg.bitmapWidth := by
      rw [eff]
      exact (inv.lists.eff _ reg).trans_le cfg.priorities_le_width
    obtain ⟨q, hq⟩ := inv₁.lists.ready.first_isSome bit bound
    obtain ⟨n, head, bitN, prioN, least⟩ := inv₁.lists.ready.first hq
    obtain ⟨regN, readyN⟩ := ((inv₁.task n).ready).mp bitN
    have memN : n ∈ ring := by
      by_contra out
      rw [table] at regN
      have awake : k.task.state n ≠ .blocked := by
        rcases (ready₁ n regN).mp readyN with was | was
        · rw [was]
          exact nofun
        · rw [was]
          exact nofun
      have less := peers.others n regN out awake
      have most := least _ bit
      rw [eff, priority, ← prioN, eff] at most
      exact absurd less (Nat.not_lt.mpr most)
    have isP : q = p := by
      rw [← prioN, eff]
      exact peers.priority n memN
    subst isP
    have first := (held₁.links q).head
    change k₁.ready.head q = _ at first
    rw [head, here] at first
    obtain ⟨rest, split⟩ : ∃ rest, line ++ [k.scheduler.currentTaskId] = n :: rest := by
      cases whole : line ++ [k.scheduler.currentTaskId] with
      | nil => rw [whole] at first; cases first
      | cons a rest =>
        rw [whole] at first
        cases first
        exact ⟨rest, rfl⟩
    have switched : contextSwitch cfg k = promoted { k₁ with scheduler := { k₁.scheduler with
        nextTaskId := n, nextPriority := k₁.effectivePriority n } } n k.scheduler.isStarted false := by
      have picked : selectNext cfg k₁ = ({ k₁ with scheduler := { k₁.scheduler with
          nextTaskId := n, nextPriority := k₁.effectivePriority n } }, .ok) := by
        unfold selectNext
        rw [hq]
        dsimp only
        rw [head]
      unfold contextSwitch
      dsimp only
      rw [eq, picked, if_pos rfl]
      unfold switch
      dsimp only
      rw [preSwitch_resting (inv₁.setNext n (k₁.effectivePriority n)) resting]
      rw [← hk]
      rfl
    refine ⟨n, rest, split, by rw [switched]; rfl, by rw [switched]; exact update_self .., ?_⟩
    have left := ReadyLists.removeAtPriority_holds held₁ bitN
    rw [prioN, here, split, List.erase_cons_head] at left
    rw [switched]
    refine ⟨update (update lists q (line ++ [k.scheduler.currentTaskId])) q rest, ?_, ?_⟩
    · rw [split]
      have same : k₁.effectivePriority n = q := prioN
      dsimp only [promoted]
      rw [same]
      exact left
    · rw [update_self]
      refine List.filter_eq_self.mpr fun t mem => decide_eq_true ?_
      have inside : t ∈ line ++ [k.scheduler.currentTaskId] := by
        rw [split]
        exact List.mem_cons_of_mem n mem
      rcases List.mem_append.mp inside with old | new
      · have whole := peers.whole inv held
        rw [order] at whole
        rw [← whole] at old
        exact of_decide_eq_true (List.mem_filter.mp old).2
      · rw [List.mem_singleton.mp new]
        exact current
  · exact absurd running (resting _ (peers.registered _ current))

end XSDK.Rtos
