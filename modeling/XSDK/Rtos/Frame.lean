import XSDK.Rtos.Block
import XSDK.Rtos.Lifecycle

/-! What a step leaves alone: who may inherit from whom, and what the running task
can be preempted by. -/
namespace XSDK.Rtos

open Function (update)
open Library

variable {cfg : Config} {k k' k'' : Kernel} {t : Nat}

structure SameGraph (k k' : Kernel) : Prop where
  taskTable : k'.taskTable = k.taskTable
  owners : k'.owners = k.owners
  waitingOn : k'.waiters.waitingOn = k.waiters.waitingOn
  basePriority : k'.task.basePriority = k.task.basePriority
  effectivePriority : k'.effectivePriority = k.effectivePriority

namespace SameGraph

theorem refl (k : Kernel) : SameGraph k k := ⟨rfl, rfl, rfl, rfl, rfl⟩

variable (h : SameGraph k k')
include h

theorem symm : SameGraph k' k :=
  ⟨h.taskTable.symm, h.owners.symm, h.waitingOn.symm, h.basePriority.symm, h.effectivePriority.symm⟩

theorem trans (h' : SameGraph k' k'') : SameGraph k k'' :=
  ⟨h'.taskTable.trans h.taskTable, h'.owners.trans h.owners, h'.waitingOn.trans h.waitingOn,
    h'.basePriority.trans h.basePriority, h'.effectivePriority.trans h.effectivePriority⟩

theorem tasks : k'.tasks cfg = k.tasks cfg := by
  simp [Kernel.tasks, h.taskTable]

theorem lender : k'.lender cfg = k.lender cfg := by
  funext u
  simp [Kernel.lender, Kernel.lookup, h.taskTable, h.waitingOn, h.owners]

end SameGraph

/-- No priority moves and nobody starts to run; whoever gets ready in front of the
running task asks for a switch. -/
structure Calm (k k' : Kernel) : Prop extends SameGraph k k' where
  currentTaskId : k'.scheduler.currentTaskId = k.scheduler.currentTaskId
  currentPriority : k'.scheduler.currentPriority = k.scheduler.currentPriority
  pending : k.scheduler.isSchedulePending = true → k'.scheduler.isSchedulePending = true
  running : ∀ u, k'.task.state u = .running → k.task.state u = .running
  ready : ∀ u, k'.task.state u = .ready → k.task.state u = .ready ∨
    (k.effectivePriority u < k.scheduler.currentPriority → k'.scheduler.isSchedulePending = true)

namespace Calm

theorem refl (k : Kernel) : Calm k k := ⟨.refl k, rfl, rfl, id, fun _ => id, fun _ => .inl⟩

theorem trans (h : Calm k k') (h' : Calm k' k'') : Calm k k'' := by
  refine ⟨h.toSameGraph.trans h'.toSameGraph, h'.currentTaskId.trans h.currentTaskId,
    h'.currentPriority.trans h.currentPriority, fun e => h'.pending (h.pending e),
    fun u e => h.running u (h'.running u e), ?_⟩
  intro u ready
  rcases h'.ready u ready with before | urgent
  · rcases h.ready u before with before | urgent
    · exact .inl before
    · exact .inr fun lt => h'.pending (urgent lt)
  · refine .inr fun lt => urgent ?_
    rw [h.effectivePriority, h.currentPriority]
    exact lt

theorem setPending (k : Kernel) : Calm k k.setPending :=
  ⟨⟨rfl, rfl, rfl, rfl, rfl⟩, rfl, rfl, fun _ => rfl, fun _ => id, fun _ => .inl⟩

theorem setPayload (k : Kernel) (t : Nat) (payload : Payload) : Calm k (k.setPayload t payload) :=
  ⟨⟨rfl, rfl, rfl, rfl, rfl⟩, rfl, rfl, id, fun _ => id, fun _ => .inl⟩

theorem unblock (found : k.lookup cfg t = some t) (status : Return) : Calm k (Rtos.unblock cfg k t status) := by
  rw [unblock_eq found]
  refine ⟨⟨rfl, rfl, rfl, rfl, rfl⟩, rfl, rfl, ?_, ?_, ?_⟩
  · intro e
    simp [e]
  · intro u running
    by_cases hu : u = t
    · simp [hu] at running
    · simpa [hu] using running
  · intro u ready
    by_cases hu : u = t
    · subst hu
      refine .inr fun lt => ?_
      simp [lt]
    · exact .inl (by simpa [hu] using ready)

end Calm

theorem block_graph (r : Runs cfg k t) (target : Option WaitObject) (ticks : Word)
    (cleanup : Option Cleanup) (payload : Payload) :
    SameGraph k (blockCurrent cfg (prepared k t ticks cleanup payload) target).1 := by
  have eq := prepared_eq k t ticks cleanup payload
  have started : (prepared k t ticks cleanup payload).scheduler.isStarted = true := by
    rw [eq]
    exact r.started
  have found : (prepared k t ticks cleanup payload).lookup cfg
      (prepared k t ticks cleanup payload).scheduler.currentTaskId =
        some (prepared k t ticks cleanup payload).scheduler.currentTaskId := by
    rw [eq]
    exact Kernel.lookup_eq_some.mpr ⟨rfl, by rw [r.current]; exact r.lt, by rw [r.current]; exact r.reg⟩
  rw [blockCurrent_eq started found, eq]
  exact ⟨rfl, rfl, rfl, rfl, rfl⟩

theorem blockOn_graph (r : Runs cfg k t) (w : WaitObject) (ticks : Word) (cleanup : Option Cleanup)
    (payload : Payload) (blocked : (blockOn cfg k t w ticks cleanup payload).2 = .blocked) :
    SameGraph k (blockOn cfg k t w ticks cleanup payload).1 := by
  have graph := block_graph r (some w) ticks cleanup payload
  unfold blockOn at blocked ⊢
  change (if (blockCurrent cfg (prepared k t ticks cleanup payload) (some w)).2 = .ok then _ else _ :
    Kernel × Outcome).2 = .blocked at blocked
  change SameGraph k (if (blockCurrent cfg (prepared k t ticks cleanup payload) (some w)).2 = .ok
    then _ else _ : Kernel × Outcome).1
  split at blocked
  · rename_i ok
    rw [if_pos ok]
    exact graph
  · cases blocked

theorem contextSwitch_graph (h : k.Inv cfg) (started : k.scheduler.isStarted = true) :
    SameGraph k (contextSwitch cfg k) := by
  rcases contextSwitch_cases h started with ⟨eq, _⟩ | ⟨k₁, n, parked, _, _, _, eq⟩
  · rw [eq]
    exact .refl k
  · rw [eq]
    exact ⟨parked.waits.taskTable, parked.owners, congrArg WaitLists.waitingOn parked.waiters,
      parked.basePriority, parked.effectivePriority⟩

theorem kernelStart_graph (h : k.Inv cfg) : SameGraph k (kernelStart cfg k).1 := by
  rcases kernelStart_cases h with ⟨ret, eq, _⟩ | ⟨n, _, _, _, eq⟩
  · rw [eq]
    exact .refl k
  · rw [eq]
    exact ⟨rfl, rfl, rfl, rfl, rfl⟩

theorem taskDelay_enters (h : k.Inv cfg) (r : Runs cfg k t) {ticks : Word} (nonzero : ticks ≠ 0#32) :
    ∃ k', taskDelay cfg k false ticks = (k', .blocked) ∧ k'.Inv cfg ∧
      Blocks k k' t none Payload.zero ticks ∧ SameGraph k k' := by
  obtain ⟨ok, inv, blocks⟩ := block_spec h r none nofun ticks Payload.zero
  refine ⟨_, ?_, inv, blocks, block_graph r none ticks _ _⟩
  unfold taskDelay
  rw [if_neg (by simp [r.started]), r.currentTask]
  dsimp only
  rw [if_neg nonzero, ← prepared_zero]
  change (if (blockCurrent cfg (prepared k t ticks (cleanupOf none) Payload.zero) none).2 = .ok
    then _ else _) = _
  rw [if_pos ok]
  rfl

def Kernel.WaitsOn (k : Kernel) (t : Nat) (w : WaitObject) : Prop :=
  k.taskTable t = true ∧ k.task.state t = .blocked ∧ k.task.waitMapPtr t = some w

/-- A waiter such that no other one of the object is more urgent. -/
def Kernel.FirstWaiter (k : Kernel) (t : Nat) (w : WaitObject) : Prop :=
  k.WaitsOn t w ∧ ∀ u, k.WaitsOn u w → k.effectivePriority t ≤ k.effectivePriority u

variable {w : WaitObject}

theorem Kernel.Inv.no_waiter (h : k.Inv cfg) :
    (k.waitMap w).isEmpty cfg.bitmapWidth = true ↔ ∀ u, ¬k.WaitsOn u w := by
  rw [h.isEmpty_iff]
  constructor
  · exact fun none u waits => none u waits.1 waits.2.1 waits.2.2
  · exact fun none u reg blocked ptr => none u ⟨reg, blocked, ptr⟩

theorem Kernel.Inv.first_waiter (h : k.Inv cfg) (nonempty : (k.waitMap w).isEmpty cfg.bitmapWidth = false) :
    ∃ u, findHighestTaskInMap cfg k (k.waitMap w) = some u ∧ k.FirstWaiter u w := by
  obtain ⟨u, found, reg, blocked, ptr, least⟩ := h.highestWaiter nonempty
  exact ⟨u, found, ⟨reg, blocked, ptr⟩, fun v waits => least v waits.1 waits.2.1 waits.2.2⟩

structure Frees (cfg : Config) (k k' : Kernel) (woken : Nat → Option Return) : Prop where
  inv : k'.Inv cfg
  wakes : Wakes k k' woken
  calm : Calm k k'

namespace Frees

theorem refl (h : k.Inv cfg) : Frees cfg k k fun _ => none := ⟨h, .refl k, .refl k⟩

theorem trans {woken woken' : Nat → Option Return} (h : Frees cfg k k' woken)
    (h' : Frees cfg k' k'' woken') : Frees cfg k k'' fun u => (woken u).or (woken' u) :=
  ⟨h'.inv, h.wakes.trans h'.wakes, h.calm.trans h'.calm⟩

theorem setPending (h : k.Inv cfg) : Frees cfg k k.setPending fun _ => none :=
  ⟨h.setPending, .none_of_task rfl rfl rfl rfl rfl rfl rfl fun _ => rfl, .setPending k⟩

theorem wake (h : k.Inv cfg) (waits : k.WaitsOn t w) (free : ∀ m, w ≠ .mutex m)
    (payload : Payload) (status : Return) :
    Frees cfg k (Rtos.unblock cfg (k.setPayload t payload) t status) (wokenBy t status) := by
  obtain ⟨reg, blocked, ptr⟩ := waits
  obtain ⟨inv, woken⟩ := payload_wakes h reg blocked (fun m e => free m (Option.some.inj (ptr.symm.trans e))) payload status
  have found := (h.setPayload t payload).lists.lookup (t := t) reg
  exact ⟨inv, woken, (Calm.setPayload k t payload).trans (.unblock found status)⟩

theorem wake_payload (h : k.Inv cfg) (reg : k.taskTable t = true) (payload : Payload) (status : Return) :
    (Rtos.unblock cfg (k.setPayload t payload) t status).task.blockPayload t = payload := by
  rw [unblock_eq ((h.setPayload t payload).lists.lookup reg)]
  exact Function.update_self ..

theorem wake_plain (h : k.Inv cfg) (waits : k.WaitsOn t w) (free : ∀ m, w ≠ .mutex m)
    (status : Return) : Frees cfg k (Rtos.unblock cfg k t status) (wokenBy t status) := by
  obtain ⟨reg, blocked, ptr⟩ := waits
  have found := h.lists.lookup reg
  refine ⟨h.unblock reg blocked ?_ status, unblock_wakes found blocked status, .unblock found status⟩
  intro m e
  exact free m (Option.some.inj (ptr.symm.trans e))

end Frees

structure Enters (cfg : Config) (k k' : Kernel) (t : Nat) (target : Option WaitObject)
    (payload : Payload) (ticks : Word) : Prop where
  inv : k'.Inv cfg
  blocks : Blocks k k' t target payload ticks
  graph : SameGraph k k'

theorem blockOn_enters (h : k.Inv cfg) (r : Runs cfg k t) (w : WaitObject) (free : ∀ m, w ≠ .mutex m)
    (ticks : Word) (payload : Payload) :
    ∃ k', blockOn cfg k t w ticks (cleanupOf (some w)) payload = (k', .blocked) ∧
      Enters cfg k k' t (some w) payload ticks := by
  obtain ⟨k', eq, inv, blocks⟩ := blockOn_spec h r w free ticks payload
  have graph := blockOn_graph r w ticks (cleanupOf (some w)) payload (by rw [eq])
  rw [eq] at graph
  exact ⟨k', eq, inv, blocks, graph⟩

end XSDK.Rtos
