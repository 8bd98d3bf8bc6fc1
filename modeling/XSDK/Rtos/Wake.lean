import XSDK.Rtos.Core
import XSDK.Rtos.Invariant

/-! Waking tasks: the search for the most urgent waiter, the hand-off of a mutex and
the timeouts of a tick. Each of them keeps the invariant and changes the waiting
of the woken tasks only. -/
namespace XSDK.Rtos

open Function (update)

variable {cfg : Config} {k k' k'' : Kernel} {t u : Nat}

/-- What a step does to the waits of the tasks: some blocked tasks stop waiting, each
with a status, and no other wait changes. -/
structure Waits (k k' : Kernel) (woken : Nat → Option Return) : Prop where
  taskTable : k'.taskTable = k.taskTable
  wakeTick : k'.task.wakeTick = k.task.wakeTick
  notifyValue : k'.task.notifyValue = k.task.notifyValue
  hasNotifyPending : k'.task.hasNotifyPending = k.task.hasNotifyPending
  tickCount : k'.tickCount = k.tickCount
  woke : ∀ t, woken t ≠ none → k.taskTable t = true ∧ k.task.state t = .blocked
  blocked : ∀ t, k'.task.state t = .blocked ↔ k.task.state t = .blocked ∧ woken t = none
  blockStatus : ∀ t, k'.task.blockStatus t = (woken t).getD (k.task.blockStatus t)
  waitMapPtr : ∀ t, woken t = none → k'.task.waitMapPtr t = k.task.waitMapPtr t
  blockPayload : ∀ t, woken t = none → k'.task.blockPayload t = k.task.blockPayload t
  timeout : ∀ t, k'.timeoutMap.isSet t = (k.timeoutMap.isSet t && decide (woken t = none))

/-- A step that moves blocked tasks to the ready state, and does nothing else to the
states, the current task or the priority registry. -/
structure Wakes (k k' : Kernel) (woken : Nat → Option Return) : Prop extends Waits k k' woken where
  state : ∀ t, k'.task.state t = if woken t = none then k.task.state t else .ready
  taskByPriority : k'.taskByPriority = k.taskByPriority
  basePriority : k'.task.basePriority = k.task.basePriority
  currentTaskId : k'.scheduler.currentTaskId = k.scheduler.currentTaskId
  isStarted : k'.scheduler.isStarted = k.scheduler.isStarted
  pending : k.scheduler.isSchedulePending = true → k'.scheduler.isSchedulePending = true

def wokenBy (t : Nat) (status : Return) : Nat → Option Return := fun u => if u = t then some status else none

@[simp] theorem wokenBy_self (t : Nat) (status : Return) : wokenBy t status t = some status := if_pos rfl

theorem wokenBy_of_ne (h : u ≠ t) (status : Return) : wokenBy t status u = none := if_neg h

theorem wokenBy_eq_none {status : Return} : wokenBy t status u = none ↔ u ≠ t := by
  unfold wokenBy
  split <;> simp_all

theorem Waits.of_task (task : k'.task = k.task) (taskTable : k'.taskTable = k.taskTable)
    (timeoutMap : k'.timeoutMap = k.timeoutMap) (tickCount : k'.tickCount = k.tickCount) :
    Waits k k' fun _ => none := by
  refine ⟨taskTable, by rw [task], by rw [task], by rw [task], tickCount, fun t h => absurd rfl h, ?_, ?_, ?_, ?_, ?_⟩
  · intro t
    simp [task]
  · intro t
    simp [task]
  · intro t _
    rw [task]
  · intro t _
    rw [task]
  · intro t
    simp [timeoutMap]

variable {woken woken' : Nat → Option Return} {best : Nat × Nat} {map : Bitmap}

theorem Waits.trans (h : Waits k k' woken) (h' : Waits k' k'' woken') :
    Waits k k'' fun t => (woken t).or (woken' t) := by
  have apart : ∀ t, woken t ≠ none → woken' t = none := by
    intro t ht
    by_contra ht'
    exact ht ((h.blocked t).mp (h'.woke t ht').2).2
  have split : ∀ t, (woken t).or (woken' t) = none ↔ woken t = none ∧ woken' t = none := by
    intro t
    cases woken t <;> simp
  refine ⟨h'.taskTable.trans h.taskTable, h'.wakeTick.trans h.wakeTick, h'.notifyValue.trans h.notifyValue,
    h'.hasNotifyPending.trans h.hasNotifyPending, h'.tickCount.trans h.tickCount, ?_, ?_, ?_, ?_, ?_, ?_⟩
  · intro t ht
    by_cases hw : woken t = none
    · have ht' : woken' t ≠ none := by simpa [hw] using ht
      obtain ⟨reg, blocked⟩ := h'.woke t ht'
      exact ⟨by rwa [h.taskTable] at reg, ((h.blocked t).mp blocked).1⟩
    · exact h.woke t hw
  · intro t
    rw [h'.blocked, h.blocked, split, and_assoc]
  · intro t
    rw [h'.blockStatus, h.blockStatus]
    by_cases hw : woken t = none
    · simp [hw]
    · simp [apart t hw]
  · intro t ht
    have both := (split t).mp ht
    rw [h'.waitMapPtr t both.2, h.waitMapPtr t both.1]
  · intro t ht
    have both := (split t).mp ht
    rw [h'.blockPayload t both.2, h.blockPayload t both.1]
  · intro t
    rw [h'.timeout, h.timeout, Bool.and_assoc]
    congr 1
    by_cases hw : woken t = none
    · simp [hw]
    · simp [hw]

namespace Wakes

theorem none_of_task (task : k'.task = k.task) (taskTable : k'.taskTable = k.taskTable)
    (taskByPriority : k'.taskByPriority = k.taskByPriority) (timeoutMap : k'.timeoutMap = k.timeoutMap)
    (tickCount : k'.tickCount = k.tickCount) (currentTaskId : k'.scheduler.currentTaskId = k.scheduler.currentTaskId)
    (isStarted : k'.scheduler.isStarted = k.scheduler.isStarted)
    (pending : k.scheduler.isSchedulePending = true → k'.scheduler.isSchedulePending = true) :
    Wakes k k' fun _ => none := by
  refine ⟨.of_task task taskTable timeoutMap tickCount, ?_, taskByPriority, by rw [task], currentTaskId,
    isStarted, pending⟩
  intro t
  rw [if_pos rfl, task]

theorem refl (k : Kernel) : Wakes k k fun _ => none :=
  none_of_task rfl rfl rfl rfl rfl rfl rfl id

theorem of_priorityOnly (only : PriorityOnly k k') : Wakes k k' fun _ => none :=
  none_of_task only.task only.taskTable only.taskByPriority only.timeoutMap only.tickCount
    only.currentTaskId only.isStarted (fun h => by rw [only.isSchedulePending]; exact h)

/-- A woken task is ready, so a second step finds other tasks to wake. -/
theorem trans (h : Wakes k k' woken) (h' : Wakes k' k'' woken') : Wakes k k'' fun t => (woken t).or (woken' t) := by
  refine ⟨h.toWaits.trans h'.toWaits, ?_, h'.taskByPriority.trans h.taskByPriority,
    h'.basePriority.trans h.basePriority, h'.currentTaskId.trans h.currentTaskId,
    h'.isStarted.trans h.isStarted, fun e => h'.pending (h.pending e)⟩
  intro t
  rw [h'.state, h.state]
  cases woken t <;> cases woken' t <;> simp

theorem congr (h : Wakes k k' woken)
    (same : ∀ t, woken' t = woken t) : Wakes k k' woken' := by
  rwa [funext same]

end Wakes

theorem unblock_wakes (found : k.lookup cfg t = some t) (blocked : k.task.state t = .blocked)
    (status : Return) : Wakes k (unblock cfg k t status) (wokenBy t status) := by
  have reg := (Kernel.lookup_eq_some.mp found).2.2
  rw [unblock_eq found]
  have state : ∀ u, update k.task.state t .ready u =
      if wokenBy t status u = none then k.task.state u else .ready := by
    intro u
    by_cases hut : u = t
    · simp [hut]
    · simp [wokenBy_of_ne hut, hut]
  refine ⟨⟨rfl, rfl, rfl, rfl, rfl, ?_, ?_, ?_, ?_, fun _ _ => rfl, ?_⟩, state, rfl, rfl, rfl, rfl, ?_⟩
  · intro u hu
    have hut : u = t := by
      by_contra ne
      exact hu (wokenBy_of_ne ne status)
    exact hut ▸ ⟨reg, blocked⟩
  · intro u
    dsimp only
    rw [state]
    by_cases hw : wokenBy t status u = none
    · simp [hw]
    · simp [hw]
  · intro u
    by_cases hut : u = t
    · simp [hut]
    · simp [wokenBy_of_ne hut, hut]
  · intro u hu
    exact Function.update_of_ne (wokenBy_eq_none.mp hu) _ _
  · intro u
    rw [Bitmap.isSet_clear, Bool.and_comm]
    simp [wokenBy_eq_none]
  · intro h
    simp [h]

/- The search for the most urgent task in a map. -/

structure BestOf (cfg : Config) (k : Kernel) (seen : List Nat) (best : Nat × Nat) : Prop where
  found : best.1 ≠ invalidTaskId → best.1 ∈ seen ∧ best.1 < cfg.maxTasks ∧ k.taskTable best.1 = true ∧
    best.2 = k.effectivePriority best.1
  least : ∀ i ∈ seen, i < cfg.maxTasks → k.taskTable i = true →
    best.1 ≠ invalidTaskId ∧ best.2 ≤ k.effectivePriority i
  none : best.1 = invalidTaskId → best.2 = cfg.maxPriorities

section

variable (h : ListsOk cfg k)
include h

theorem better_spec {seen : List Nat} (known : BestOf cfg k seen best)
    (i : Nat) : BestOf cfg k (seen ++ [i]) (better cfg k best i) := by
  unfold better
  by_cases cand : i < cfg.maxTasks ∧ k.taskTable i = true
  · rw [if_pos cand]
    have valid := h.valid cand.2
    have small := h.eff i cand.2
    by_cases wins : k.effectivePriority i < best.2 ∨ k.effectivePriority i = best.2 ∧ i < best.1
    · rw [if_pos wins]
      refine ⟨fun _ => ⟨by simp, cand.1, cand.2, rfl⟩, ?_, fun e => absurd e valid⟩
      intro j hj ltJ regJ
      refine ⟨valid, ?_⟩
      rcases List.mem_append.mp hj with hj | hj
      · have := (known.least j hj ltJ regJ).2
        dsimp only
        omega
      · have : j = i := by simpa using hj
        rw [this]
    · rw [if_neg wins]
      refine ⟨fun e => ?_, ?_, known.none⟩
      · obtain ⟨mem, rest⟩ := known.found e
        exact ⟨by simp [mem], rest⟩
      · intro j hj ltJ regJ
        rcases List.mem_append.mp hj with hj | hj
        · exact known.least j hj ltJ regJ
        · have hji : j = i := by simpa using hj
          rw [hji]
          refine ⟨fun e => ?_, by omega⟩
          have := known.none e
          omega
  · rw [if_neg cand]
    refine ⟨fun e => ?_, ?_, known.none⟩
    · obtain ⟨mem, rest⟩ := known.found e
      exact ⟨by simp [mem], rest⟩
    · intro j hj ltJ regJ
      rcases List.mem_append.mp hj with hj | hj
      · exact known.least j hj ltJ regJ
      · have hji : j = i := by simpa using hj
        exact absurd ⟨hji ▸ ltJ, hji ▸ regJ⟩ cand

theorem better_foldl (rest seen : List Nat)
    (known : BestOf cfg k seen best) : BestOf cfg k (seen ++ rest) (rest.foldl (better cfg k) best) := by
  induction rest generalizing seen best with
  | nil => simpa using known
  | cons i rest ih =>
    have := ih (seen ++ [i]) (better_spec h known i)
    simpa using this

theorem findHighest_spec (map : Bitmap) :
    BestOf cfg k (map.setBits cfg.bitmapWidth)
      ((map.setBits cfg.bitmapWidth).foldl (better cfg k) (invalidTaskId, cfg.maxPriorities)) := by
  have start : BestOf cfg k [] (invalidTaskId, cfg.maxPriorities) :=
    ⟨fun e => absurd rfl e, fun i hi => absurd hi (by simp), fun _ => rfl⟩
  simpa using better_foldl h (map.setBits cfg.bitmapWidth) [] start

theorem findHighest_some (found : findHighestTaskInMap cfg k map = some t) :
    map.isSet t = true ∧ k.taskTable t = true ∧
      ∀ u, map.isSet u = true → k.taskTable u = true → k.effectivePriority t ≤ k.effectivePriority u := by
  have spec := findHighest_spec h map
  unfold findHighestTaskInMap at found
  dsimp only at found
  split at found
  · cases found
  · rename_i valid
    cases found
    obtain ⟨mem, _, reg, value⟩ := spec.found valid
    refine ⟨(Bitmap.mem_setBits.mp mem).2, reg, ?_⟩
    intro u bit regU
    have lt := h.lt u regU
    have inMap := Bitmap.mem_setBits.mpr ⟨lt.trans_le cfg.tasks_le_width, bit⟩
    rw [← value]
    exact (spec.least u inMap lt regU).2

theorem findHighest_none
    (none : findHighestTaskInMap cfg k map = none) (reg : k.taskTable t = true) :
    map.isSet t = false := by
  have spec := findHighest_spec h map
  unfold findHighestTaskInMap at none
  dsimp only at none
  split at none
  · rename_i invalid
    by_contra bit
    have lt := h.lt t reg
    have inMap := Bitmap.mem_setBits.mpr ⟨lt.trans_le cfg.tasks_le_width, by simpa using bit⟩
    exact (spec.least t inMap lt reg).1 invalid
  · cases none

end

theorem Kernel.Inv.isEmpty_iff (h : k.Inv cfg) (w : WaitObject) :
    (k.waitMap w).isEmpty cfg.bitmapWidth = true ↔
      ∀ t, k.taskTable t = true → k.task.state t = .blocked → k.task.waitMapPtr t ≠ some w := by
  rw [Bitmap.isEmpty_iff]
  constructor
  · intro empty t reg blocked ptr
    have lt := (h.lists.lt t reg).trans_le cfg.tasks_le_width
    have bit := ((h.task t).wait w).mpr ⟨reg, blocked, ptr⟩
    rw [empty t lt] at bit
    cases bit
  · intro all t _
    rw [← Bool.not_eq_true, (h.task t).wait w]
    exact fun ⟨reg, blocked, ptr⟩ => all t reg blocked ptr

theorem Kernel.Inv.highestWaiter (h : k.Inv cfg) {w : WaitObject}
    (nonempty : (k.waitMap w).isEmpty cfg.bitmapWidth = false) :
    ∃ t, findHighestTaskInMap cfg k (k.waitMap w) = some t ∧ k.taskTable t = true ∧
      k.task.state t = .blocked ∧ k.task.waitMapPtr t = some w ∧
      ∀ u, k.taskTable u = true → k.task.state u = .blocked → k.task.waitMapPtr u = some w →
        k.effectivePriority t ≤ k.effectivePriority u := by
  obtain ⟨u, ltU, bitU⟩ := Bitmap.not_isEmpty_iff.mp nonempty
  cases found : findHighestTaskInMap cfg k (k.waitMap w) with
  | none =>
    have reg := (((h.task u).wait w).mp bitU).1
    rw [findHighest_none h.lists found reg] at bitU
    cases bitU
  | some t =>
    obtain ⟨bit, reg, least⟩ := findHighest_some h.lists found
    obtain ⟨_, blocked, ptr⟩ := ((h.task t).wait w).mp bit
    refine ⟨t, rfl, reg, blocked, ptr, fun u regU blockedU ptrU => ?_⟩
    exact least u (((h.task u).wait w).mpr ⟨regU, blockedU, ptrU⟩) regU

end XSDK.Rtos
