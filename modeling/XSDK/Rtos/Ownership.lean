import XSDK.Rtos.Reachable

/-! The scheduler's and the mutexes' lists and maps represent the states of the tasks
in every reachable state. -/
namespace XSDK.Rtos

open Library

variable {cfg : Config} {S : System} {k : Kernel}

/-- The doubly linked list that starts at a head holds exactly the given elements. -/
structure Chain (head tail : Option Nat) (next prev : Nat → Option Nat) (l : List Nat) : Prop where
  nodup : l.Nodup
  head : head = l.head?
  tail : tail = l.getLast?
  links : Seg next prev none l none

def Kernel.Running (k : Kernel) (t : Nat) : Prop :=
  k.taskTable t = true ∧ k.scheduler.currentTaskId = t ∧ k.task.state t = .running

/-- What the ready lists and the bitmaps say about the tasks. -/
structure Represents (k : Kernel) : Prop where
  lists : ∀ p, ∃ l, Chain (k.ready.head p) (k.ready.tail p) k.ready.next k.ready.prev l ∧
    (∀ t, t ∈ l ↔ k.taskTable t = true ∧ k.ready.map.isSet t = true ∧ k.effectivePriority t = p) ∧
    (k.ready.priorityMap.isSet p = true ↔ l ≠ [])
  ready : ∀ t, k.ready.map.isSet t = true ↔ k.taskTable t = true ∧ k.task.state t = .ready
  blocked : ∀ t, k.scheduler.blockedMap.isSet t = true ↔ k.taskTable t = true ∧ k.task.state t = .blocked
  running : ∀ t, k.Running t ↔ k.taskTable t = true ∧ k.task.state t = .running
  wait : ∀ t w, (k.waitMap w).isSet t = true ↔
    k.taskTable t = true ∧ k.scheduler.blockedMap.isSet t = true ∧ k.task.waitMapPtr t = some w
  apart : ∀ t, ¬(k.ready.map.isSet t = true ∧ k.scheduler.blockedMap.isSet t = true) ∧
    ¬(k.Running t ∧ k.ready.map.isSet t = true) ∧ ¬(k.Running t ∧ k.scheduler.blockedMap.isSet t = true)
  somewhere : ∀ t, k.taskTable t = true →
    k.Running t ∨ k.ready.map.isSet t = true ∨ k.scheduler.blockedMap.isSet t = true

theorem Kernel.Inv.lists_represent (h : k.Inv cfg) (p : Nat) :
    ∃ l, Chain (k.ready.head p) (k.ready.tail p) k.ready.next k.ready.prev l ∧
      (∀ t, t ∈ l ↔ k.taskTable t = true ∧ k.ready.map.isSet t = true ∧ k.effectivePriority t = p) ∧
      (k.ready.priorityMap.isSet p = true ↔ l ≠ []) := by
  obtain ⟨lists, held⟩ := h.lists.ready
  have links := held.links p
  refine ⟨lists p, ⟨links.nodup, links.head, links.tail, links.seg⟩, fun t => ?_, held.priority p⟩
  rw [held.mem]
  constructor
  · rintro ⟨bit, prio⟩
    exact ⟨((h.task t).ready.mp bit).1, bit, prio⟩
  · rintro ⟨_, bit, prio⟩
    exact ⟨bit, prio⟩

theorem Kernel.Inv.running_iff (h : k.Inv cfg) (t : Nat) :
    k.Running t ↔ k.taskTable t = true ∧ k.task.state t = .running := by
  constructor
  · rintro ⟨reg, _, running⟩
    exact ⟨reg, running⟩
  · rintro ⟨reg, running⟩
    exact ⟨reg, ((h.task t).running reg running).2.1, running⟩

theorem Kernel.Inv.represents (h : k.Inv cfg) : Represents k := by
  have ready := fun t => (h.task t).ready
  have blocked := fun t => (h.task t).blocked
  refine ⟨h.lists_represent, ready, blocked, h.running_iff, ?_, ?_, ?_⟩
  · intro t w
    rw [(h.task t).wait w, blocked t]
    constructor
    · rintro ⟨reg, state, ptr⟩
      exact ⟨reg, ⟨reg, state⟩, ptr⟩
    · rintro ⟨reg, ⟨_, state⟩, ptr⟩
      exact ⟨reg, state, ptr⟩
  · intro t
    rw [ready t, blocked t, h.running_iff t]
    have differ : ∀ a b : TaskState, a ≠ b →
        ¬((k.taskTable t = true ∧ k.task.state t = a) ∧ k.taskTable t = true ∧ k.task.state t = b) := by
      rintro a b ne ⟨⟨_, ha⟩, _, hb⟩
      exact ne (ha.symm.trans hb)
    exact ⟨differ _ _ nofun, differ _ _ nofun, differ _ _ nofun⟩
  · intro t reg
    rw [ready t, blocked t, h.running_iff t]
    rcases (h.task t).live reg with state | state | state
    · exact .inr (.inl ⟨reg, state⟩)
    · exact .inl ⟨reg, state⟩
    · exact .inr (.inr ⟨reg, state⟩)

/-- The representation holds in every reachable state. -/
theorem scheduler_represents (reachable : Reachable cfg S) : Represents S.kernel :=
  reachable.inv.kernel.represents

/- A state with a running, a ready and a blocked task. -/
theorem scheduler_represents_sample :
    Represents ((machine sample).play sampleStart
      [create 4 15, create 0 10, create 1 5, ⟨.kernelStart, false⟩, ⟨.daemon, false⟩, ⟨.contextSwitch, true⟩,
        ⟨.taskDelay 3#32, false⟩, ⟨.contextSwitch, true⟩]).kernel :=
  scheduler_represents ⟨sampleStart, _, run_of_permits sampleStart_boot (by decide +kernel)⟩

end XSDK.Rtos

/-! Who owns a mutex, in every reachable state: only a lock and an unlock change it, and
what a lock call returns agrees with it. -/
namespace XSDK.Rtos

open Function (update update_self update_of_ne)
open Library

variable {cfg : Config} {k : Kernel} {S S' : System} {op : Op} {t m : Nat}

theorem taskCreate_owners (h : k.Inv cfg) (config : TaskConfig) : (taskCreate cfg k config).1.owners = k.owners := by
  rcases taskCreate_cases cfg k config with ⟨ret, eq, _⟩ | ⟨_, _, free, pending, eq, _⟩
  · rw [eq]
  · have registered : (registerTask k config.taskId config.priority).owners = k.owners := by
      unfold registerTask
      rw [initTaskContext_eq h free]
      rfl
    rw [eq]
    cases pending with
    | true => exact registered
    | false => exact registered

theorem taskSetPriority_owners (h : k.Inv cfg) (p : Nat) : (taskSetPriority cfg k t p).1.owners = k.owners := by
  rcases taskSetPriority_cases cfg k t p with ⟨ret, eq, -⟩ | ⟨reg, hp, _, pending, eq, _⟩
  · rw [eq]
  · obtain ⟨inv, only⟩ := rebased_spec h reg hp
    have selected := (selectNext_spec inv).2.owners
    rw [eq]
    cases pending with
    | true => exact selected.trans only.owners
    | false => exact selected.trans only.owners

def Op.PassesMutex : Op → Prop
  | .mutexLock .. | .mutexUnlock _ => True
  | _ => False

namespace System

variable {inIsr : Bool}

theorem run_owners (inv : S.Inv cfg) (allowed : S.Allowed cfg inIsr op)
    (other : ¬op.PassesMutex) : (S.run cfg inIsr op).1.kernel.owners = S.kernel.owners := by
  cases (run_step inv allowed).effect with
  | calm calm => exact calm.owners
  | blocks graph => exact graph.owners
  | special special =>
    cases op with
    | kernelStart => exact (kernelStart_graph inv.kernel).owners
    | taskCreate config => exact taskCreate_owners inv.kernel config
    | taskExit => rfl
    | taskSetPriority t p => exact taskSetPriority_owners inv.kernel p
    | tick =>
      obtain ⟨_, frees, _⟩ := tick_frees inv
      exact frees.calm.owners.trans (tickTimeouts_owners inv.kernel)
    | contextSwitch => exact (contextSwitch_graph inv.kernel allowed).owners
    | mutexLock m ticks => exact absurd trivial other
    | mutexUnlock m => exact absurd trivial other
    | _ => exact special.elim

theorem mutexLock_owners (m : Nat) (ticks : Word) (inv : S.Inv cfg) (may : S.mayCall cfg inIsr = true) :
    let post := S.run cfg inIsr (.mutexLock m ticks)
    (post.2 = .ret .invalidState ∧ post.1.kernel = S.kernel) ∨
    (post.2 = .ret .wouldBlock ∧ post.1.kernel = S.kernel ∧ Caller cfg S.kernel inIsr S.current ∧
      S.kernel.owners.owner m ≠ S.current) ∨
    (post.2 = .blocked ∧ post.1.kernel.owners = S.kernel.owners) ∨
    (post.2 = .ret .ok ∧ S.call S.current = none ∧ S.kernel.owners.owner m = invalidTaskId ∧
      post.1.kernel.owners.owner = update S.kernel.owners.owner m S.current) := by
  intro post
  have called := mayCall_called may
  have eq₀ : post = S.run cfg inIsr (.mutexLock m ticks) := rfl
  unfold run at eq₀
  dsimp only at eq₀
  rcases mutexLock_cases inv.kernel called m ticks with
    eq | ⟨caller, foreign, eq⟩ | ⟨caller, free, eq⟩ | ⟨caller, owned, foreign, _, eq⟩
  · rw [eq, leave_returned] at eq₀
    rw [eq₀]
    exact .inl ⟨rfl, rfl⟩
  · rw [eq, leave_returned] at eq₀
    rw [eq₀]
    exact .inr (.inl ⟨rfl, rfl, caller, foreign⟩)
  · rw [eq, leave_returned] at eq₀
    rw [eq₀]
    exact .inr (.inr (.inr ⟨rfl, mayCall_idle may caller.started caller.task, free, owner_acquire _ _ _⟩))
  · obtain ⟨eqB, _, _, _, _, owners, _⟩ := mutexBlock_spec inv.kernel caller.toRuns owned foreign ticks
    rw [eq, eqB, leave_blocked] at eq₀
    rw [eq₀]
    exact .inr (.inr (.inl ⟨rfl, owners⟩))

theorem mutexUnlock_owners (inv : S.Inv cfg) (may : S.mayCall cfg false = true) :
    let post := S.run cfg false (.mutexUnlock m)
    (post.1.kernel.owners.owner = S.kernel.owners.owner ∧ post.1.kernel.task.state = S.kernel.task.state) ∨
    (S.call S.current = none ∧ S.kernel.owners.owner m = S.current ∧
      ((post.1.kernel.owners.owner = update S.kernel.owners.owner m invalidTaskId ∧
          ∀ u, post.1.kernel.task.state u = S.kernel.task.state u) ∨
        ∃ w, S.kernel.waiters.waitingOn w = some m ∧
          post.1.kernel.owners.owner = update S.kernel.owners.owner m w ∧
          ∀ u, post.1.kernel.task.state u = if u = w then .ready else S.kernel.task.state u)) := by
  intro post
  by_cases mine : S.kernel.Unlocks m
  · obtain ⟨own, started, reg⟩ := mine
    have idle := mayCall_idle may started rfl
    refine .inr ⟨idle, own, ?_⟩
    rcases mutexUnlock_cases inv.kernel started rfl reg own with ⟨none, eq⟩ | ⟨w, _, waiting, eq⟩
    · obtain ⟨_, _, only, wakes⟩ := release_spec inv.kernel own reg (inv.kernel.lists.waiters.head_none none)
      have run : post.1.kernel = mutexRecomputeTaskPriority cfg
          (mutexRelease S.kernel S.kernel.scheduler.currentTaskId m) S.kernel.scheduler.currentTaskId :=
        congrArg Prod.fst eq
      rw [run]
      refine .inl ⟨?_, fun u => wakes.state u⟩
      rw [only.owners]
      exact owner_release _ _ _
    · obtain ⟨_, _, _, only₂, only₃, wakes⟩ := handOff_spec inv.kernel own reg waiting
      have regW := (((inv.kernel.task w).waiting m).mp waiting).1
      obtain ⟨lists, owner, _⟩ := passed_spec inv.kernel.lists own reg waiting
      have table : (passed S.kernel S.kernel.scheduler.currentTaskId m w).taskTable w = true := by
        rw [passed_eq waiting]
        exact regW
      have run : post.1.kernel = mutexRecomputeTaskPriority cfg (mutexRecomputeTaskPriority cfg
          (unblock cfg (passed S.kernel S.kernel.scheduler.currentTaskId m w) w .ok) w)
            S.kernel.scheduler.currentTaskId := congrArg Prod.fst eq
      rw [run]
      refine .inr ⟨w, waiting, ?_, fun u => ?_⟩
      · rw [only₃.owners, only₂.owners, unblock_eq (lists.lookup table)]
        exact owner
      · rw [wakes.state u]
        by_cases hu : u = w
        · simp [hu]
        · simp [hu, wokenBy_of_ne hu]
  · have run : post.1.kernel = S.kernel := congrArg Prod.fst (mutexUnlock_refused mine)
    rw [run]
    exact .inl ⟨rfl, rfl⟩

/-- A task that has been woken in a lock call owns the mutex exactly when it was woken
with success. -/
def HandedOver (S : System) : Prop :=
  ∀ t m status payload, S.progress t = .ended (.mutexLock m) status payload →
    (status = .ok ↔ S.kernel.owners.owner m = t)

theorem Inv.waiter_foreign (inv : S.Inv cfg) {deadline : Option Word}
    (h : S.progress t = .waiting (.mutexLock m) deadline) : S.kernel.owners.owner m ≠ t ∧
      S.kernel.waiters.waitingOn t = some m := by
  obtain ⟨reg, blocked, ptr, _⟩ := inv.progress_waiting h
  have waiting := ((inv.kernel.task t).waiting m).mpr ⟨reg, blocked, ptr⟩
  exact ⟨(inv.kernel.lists.waiter t m waiting).2.2.1, waiting⟩

theorem Op.wakes_mutex (h : op.wakes = some (.mutex m)) : op = .mutexUnlock m := by
  cases op <;> cases h
  rfl

theorem owner_kept (inv : S.Inv cfg) (allowed : S.Allowed cfg inIsr op) {call : Call}
    {status : Return} {payload : Payload} (h : S.progress t = .ended call status payload) (m : Nat) :
    (S.run cfg inIsr op).1.kernel.owners.owner m = t ↔ S.kernel.owners.owner m = t := by
  obtain ⟨hc, awake, _⟩ := progress_ended h
  have reg := inv.inside t (by rw [Inside, hc]; rintro ⟨⟩)
  have valid := inv.kernel.lists.valid reg
  have elsewhere : S.call S.current = none → t ≠ S.current := by
    rintro idle rfl
    rw [idle] at hc
    cases hc
  -- Only the owner of one mutex changes, and neither the old nor the new one is the task.
  have moved : ∀ n v, S.kernel.owners.owner n ≠ t → v ≠ t →
      (update S.kernel.owners.owner n v m = t ↔ S.kernel.owners.owner m = t) := by
    intro n v before after
    by_cases hm : m = n
    · subst hm
      rw [update_self]
      exact ⟨fun e => absurd e after, fun e => absurd e before⟩
    · rw [update_of_ne hm]
  by_cases passes : op.PassesMutex
  · cases op with
    | mutexLock n ticks =>
      rcases mutexLock_owners n ticks inv allowed.1 with
        ⟨_, same⟩ | ⟨_, same, _⟩ | ⟨_, same⟩ | ⟨_, idle, free, owner⟩
      · rw [same]
      · rw [same]
      · rw [same]
      · rw [owner]
        exact moved n _ (by rw [free]; exact valid.symm) (elsewhere idle).symm
    | mutexUnlock n =>
      obtain ⟨may, rfl⟩ := allowed
      rcases mutexUnlock_owners (m := n) inv may with
        ⟨same, _⟩ | ⟨idle, own, ⟨owner, _⟩ | ⟨w, waiting, owner, _⟩⟩
      · rw [same]
      · rw [owner]
        exact moved n _ (by rw [own]; exact (elsewhere idle).symm) valid.symm
      · rw [owner]
        refine moved n _ (by rw [own]; exact (elsewhere idle).symm) ?_
        rintro rfl
        exact awake (((inv.kernel.task w).waiting n).mp waiting).2.1
    | _ => exact passes.elim
  · rw [run_owners inv allowed passes]

theorem HandedOver.run (handed : S.HandedOver) (inv : S.Inv cfg)
    (allowed : S.Allowed cfg inIsr op) : (S.run cfg inIsr op).1.HandedOver := by
  intro t m status payload h
  cases (run_step inv allowed).moves inv t with
  | stays same =>
    rw [same] at h
    rw [owner_kept inv allowed h m]
    exact handed t m status payload h
  | enters call ticks here may nonzero blocked runs pre post =>
    rw [post] at h
    cases h
  | woken call deadline w pre target wakes post =>
    rw [post] at h
    cases h
    cases target
    obtain rfl := Op.wakes_mutex wakes
    obtain ⟨may, rfl⟩ := allowed
    obtain ⟨_, blocked, _⟩ := progress_waiting pre
    obtain ⟨_, awake, _⟩ := progress_ended post
    refine ⟨fun _ => ?_, fun _ => rfl⟩
    rcases mutexUnlock_owners (m := m) inv may with
      ⟨_, state⟩ | ⟨_, _, ⟨_, state⟩ | ⟨w, _, owner, state⟩⟩
    · rw [state] at awake
      exact absurd blocked awake
    · rw [state t] at awake
      exact absurd blocked awake
    · by_cases ht : t = w
      · rw [owner, ht, update_self]
      · rw [state t, if_neg ht] at awake
        exact absurd blocked awake
  | late call wake pre tick expired post =>
    rw [post] at h
    cases h
    subst tick
    rw [run_owners inv allowed (fun e => e)]
    exact ⟨fun e => (nomatch e), fun own => absurd own (inv.waiter_foreign pre).1⟩
  | returns call status payload here resume pre result post =>
    rw [post] at h
    cases h

end System

variable {S₀ : System} {trace : Trace}

theorem Run.handedOver (run : Run cfg S₀ trace S) : S.HandedOver := by
  have both : S.Inv cfg ∧ S.HandedOver := by
    refine run.2.invariant (P := fun S => S.Inv cfg ∧ S.HandedOver) ⟨run.1.inv, ?_⟩ ?_
    · intro t m status payload h
      rw [System.progress_free.mpr (run.1.call t)] at h
      cases h
    · rintro s i ⟨inv, handed⟩ allowed
      exact ⟨inv.run allowed, handed.run inv allowed⟩
  exact both.2

/-- The owner lists, the waiter lists and the wait maps of all mutexes. -/
structure MutexesOwned (k : Kernel) : Prop where
  held : ∃ lists : Nat → List Nat, (∀ t, (lists t).Nodup ∧ k.owners.head t = (lists t).head? ∧
      Seg k.owners.next k.owners.prev none (lists t) none) ∧
    (∀ t m, t ≠ invalidTaskId → (k.owners.owner m = t ↔ (lists t).count m = 1)) ∧
    ∀ t u m, m ∈ lists t → m ∈ lists u → t = u
  waiters : ∀ m, ∃ l, Chain (k.waiters.head m) (k.waiters.tail m) k.waiters.next k.waiters.prev l ∧
    (∀ t, t ∈ l ↔ k.waiters.waitingOn t = some m) ∧
    l.Pairwise fun a b => k.effectivePriority a ≤ k.effectivePriority b
  wait : ∀ m t, k.waiters.waitingOn t = some m ↔ (k.waitMap (.mutex m)).isSet t = true
  free : ∀ m, k.owners.owner m = invalidTaskId → ∀ t, k.waiters.waitingOn t ≠ some m

theorem Kernel.Inv.mutexesOwned (h : k.Inv cfg) : MutexesOwned k := by
  refine ⟨?_, fun m => ?_, fun m t => ?_, fun m free t waiting => ?_⟩
  · obtain ⟨lists, held⟩ := h.lists.owners
    refine ⟨lists, fun t => ⟨(held.threads t).nodup, (held.threads t).head, (held.threads t).seg⟩, ?_,
      fun t u m ht hu => held.apart ht hu⟩
    intro t m valid
    have mem : m ∈ lists t ↔ (lists t).count m = 1 := by
      constructor
      · exact List.count_eq_one_of_mem (held.threads t).nodup
      · exact fun one => List.count_pos_iff.mp (by omega)
    rw [← mem, held.mem]
    exact ⟨fun own => ⟨valid, own⟩, fun both => both.2⟩
  · obtain ⟨lists, held, sorted⟩ := h.lists.waiters
    have links := held.links m
    exact ⟨lists m, ⟨links.nodup, links.head, links.tail, links.seg⟩, held.mem m, sorted m⟩
  · rw [(h.task t).waiting m, (h.task t).wait]
  · exact (h.lists.waiter t m waiting).2.2.2 free

/-- A transition in which a lock call ends leaves the caller as its return code says. -/
theorem mutexLock_returns (run : Run cfg S₀ trace S)
    {tr : Transition System Request Outcome} (mem : tr ∈ trace) {status : Return}
    (ends : Ends tr t (.mutexLock m) (.ret status)) :
    (status = .ok → tr.post.kernel.owners.owner m = t) ∧
    (status = .timeout ∨ status = .wouldBlock →
      tr.post.kernel.owners.owner m ≠ t ∧ tr.post.kernel.waiters.waitingOn t ≠ some m) := by
  obtain ⟨earlier, before, allowed, eq⟩ := run.2.reaches tr mem
  have inv : tr.pre.Inv cfg := Run.inv ⟨run.1, before⟩
  have handed : tr.pre.HandedOver := Run.handedOver ⟨run.1, before⟩
  obtain ⟨rfl, out, calls⟩ := ends
  have idle : tr.pre.kernel.task.state tr.pre.current = .running →
      tr.pre.kernel.waiters.waitingOn tr.pre.current ≠ some m := by
    intro running e
    rw [(inv.kernel.running_idle running).2] at e
    cases e
  have step : tr.post = (tr.pre.run cfg tr.input.inIsr tr.input.op).1 ∧
      tr.output = (tr.pre.run cfg tr.input.inIsr tr.input.op).2 :=
    ⟨congrArg Transition.post eq, congrArg Transition.output eq⟩
  change tr.pre.Allowed cfg tr.input.inIsr tr.input.op at allowed
  rw [step.2] at out
  rw [step.1]
  rcases (System.ending_cases calls).2 with ⟨ticks, may, _⟩ | ⟨resume, inside⟩
  · have lock : tr.input.op = .mutexLock m ticks := by
      cases h : tr.input.op <;> rw [h] at may <;> cases may
      rfl
    rw [lock] at out allowed ⊢
    rcases System.mutexLock_owners m ticks inv allowed.1 with
      ⟨code, same⟩ | ⟨code, same, caller, foreign⟩ | ⟨code, _⟩ | ⟨code, _, _, owner⟩
    · cases code.symm.trans out
      exact ⟨fun e => (nomatch e), fun e => by rcases e with e | e <;> cases e⟩
    · cases code.symm.trans out
      rw [same]
      exact ⟨fun e => (nomatch e), fun _ => ⟨foreign, idle caller.running⟩⟩
    · cases code.symm.trans out
    · cases code.symm.trans out
      refine ⟨fun _ => ?_, fun e => by rcases e with e | e <;> cases e⟩
      rw [owner, update_self]
  · rw [resume] at out allowed ⊢
    have running := allowed.2.2.1
    have ended := System.progress_of_awake inside (by rw [running]; exact nofun)
    have result := handed _ m _ _ ended
    have back : tr.pre.run cfg tr.input.inIsr .resume =
        ({ tr.pre with call := update tr.pre.call tr.pre.current none },
          .ret (tr.pre.kernel.task.blockStatus tr.pre.current)) := by
      unfold System.run
      rw [inside]
      rfl
    rw [back] at out ⊢
    cases out
    refine ⟨result.mp, fun bad => ⟨fun own => ?_, idle running⟩⟩
    rw [result.mpr own] at bad
    rcases bad with e | e <;> cases e

/-- Every lock call that ends in a run leaves its caller as its return code says. -/
def LocksAnswered (trace : Trace) : Prop :=
  ∀ tr ∈ trace, ∀ t m,
    (Ends tr t (.mutexLock m) (.ret .ok) → tr.post.kernel.owners.owner m = t) ∧
    (Ends tr t (.mutexLock m) (.ret .timeout) ∨ Ends tr t (.mutexLock m) (.ret .wouldBlock) →
      tr.post.kernel.owners.owner m ≠ t ∧ tr.post.kernel.waiters.waitingOn t ≠ some m)

/-- Mutex ownership over whole runs. -/
theorem mutex_ownership {S₀ : System} {trace : Trace} (run : Run cfg S₀ trace S) :
    MutexesOwned S.kernel ∧ LocksAnswered trace := by
  refine ⟨run.inv.kernel.mutexesOwned, fun tr mem t m => ⟨fun ends => ?_, fun ends => ?_⟩⟩
  · exact (mutexLock_returns run mem ends).1 rfl
  · rcases ends with ends | ends
    · exact (mutexLock_returns run mem ends).2 (.inl rfl)
    · exact (mutexLock_returns run mem ends).2 (.inr rfl)

/-- A task waits for a mutex that another one owns and is handed it. -/
def sampleLocks : List Request :=
  [create 4 15, create 0 10, create 1 5, ⟨.kernelStart, false⟩, ⟨.daemon, false⟩, ⟨.contextSwitch, true⟩,
    ⟨.taskDelay 1#32, false⟩, ⟨.contextSwitch, true⟩, ⟨.mutexLock 0 0#32, false⟩, ⟨.tick, true⟩,
    ⟨.contextSwitch, true⟩, ⟨.resume, false⟩, ⟨.mutexLock 0 5#32, false⟩, ⟨.contextSwitch, true⟩,
    ⟨.mutexUnlock 0, false⟩, ⟨.taskYield, false⟩, ⟨.contextSwitch, true⟩, ⟨.resume, false⟩]

theorem mutex_ownership_sample :
    MutexesOwned ((machine sample).play sampleStart sampleLocks).kernel ∧
      LocksAnswered ((machine sample).transitions sampleStart sampleLocks) :=
  mutex_ownership (run_of_permits sampleStart_boot (by decide +kernel))

/-- A mutex that is waited for goes to a most urgent waiter, and nobody else wakes. -/
theorem unlock_hands_over (reachable : Reachable cfg S) (running : S.kernel.Running t)
    (own : S.kernel.owners.owner m = t) (waited : ∃ u, S.kernel.waiters.waitingOn u = some m) :
    let k := (mutexUnlock cfg S.kernel m).1
    ∃ w, S.kernel.waiters.waitingOn w = some m ∧
      (∀ u, S.kernel.waiters.waitingOn u = some m → S.kernel.effectivePriority w ≤ S.kernel.effectivePriority u) ∧
      k.owners.owner = update S.kernel.owners.owner m w ∧
      k.waiters.waitingOn = update S.kernel.waiters.waitingOn w none ∧
      ∀ u, k.task.state u = if u = w then .ready else S.kernel.task.state u := by
  have inv := reachable.inv.kernel
  obtain ⟨reg, current, state⟩ := running
  have started := ((inv.task t).running reg state).1
  rcases mutexUnlock_cases inv started current reg own with ⟨none, -⟩ | ⟨w, head, waiting, eq⟩
  · obtain ⟨u, waits⟩ := waited
    exact absurd waits (inv.lists.waiters.head_none none u)
  · obtain ⟨-, -, -, only₂, only₃, wakes⟩ := handOff_spec inv own reg waiting
    obtain ⟨lists, owner, left, -⟩ := passed_spec inv.lists own reg waiting
    have table : (passed S.kernel t m w).taskTable w = true := by
      rw [passed_eq waiting]
      exact (((inv.task w).waiting m).mp waiting).1
    rw [eq]
    refine ⟨w, waiting, (inv.lists.waiters.head_some head).2, ?_, ?_, fun u => ?_⟩
    · rw [only₃.owners, only₂.owners, unblock_eq (lists.lookup table)]
      exact owner
    · rw [only₃.waitingOn, only₂.waitingOn, unblock_eq (lists.lookup table)]
      exact left
    · rw [wakes.state u]
      by_cases hu : u = w
      · simp [hu]
      · simp [hu, wokenBy_of_ne hu]

def sampleHeld : System := (machine sample).play sampleStart (sampleLocks.take 14)

theorem unlock_hands_over_sample : ∃ w, (mutexUnlock sample sampleHeld.kernel 0).1.task.state w = .ready := by
  have reachable : Reachable sample sampleHeld := ⟨sampleStart, _, run_of_permits sampleStart_boot (by decide +kernel)⟩
  have own : sampleHeld.kernel.owners.owner 0 = 0 := by decide +kernel
  obtain ⟨w, -, -, -, -, state⟩ :=
    unlock_hands_over reachable ⟨by decide +kernel, by decide +kernel, by decide +kernel⟩ own ⟨1, by decide +kernel⟩
  exact ⟨w, by rw [state, if_pos rfl]⟩

end XSDK.Rtos
