import XSDK.Rtos.Reachable
import XSDK.Rtos.Registry
import XSDK.Library.Slots
import Mathlib.Data.Nat.Dist

/-! The three operations that change the registry, the rule for the idle task, and the
search for a free priority. -/
namespace XSDK.Rtos

open Function (update update_self update_of_ne)
open Library

variable {cfg : Config}

namespace Registry

structure Sound (cfg : Config) (r : Registry) : Prop where
  slotted : Slotted r.tasks r.base r.slots
  bound : ∀ t, r.tasks t = true → t < cfg.maxTasks

def IdleAlone (cfg : Config) (r : Registry) : Prop :=
  ∀ t, r.tasks t = true → (t = cfg.idleTaskId ↔ r.base t = cfg.idlePriority)

def create (r : Registry) (t p : Nat) : Registry where
  tasks := update r.tasks t true
  slots := if r.slots p = none then update r.slots p (some t) else r.slots
  base := update r.base t p

def exit (r : Registry) (t : Nat) (answer : Option Nat) : Registry where
  tasks := update r.tasks t false
  slots := update r.slots (r.base t) answer
  base := r.base

def move (r : Registry) (t p : Nat) (answer : Option Nat) : Registry where
  tasks := r.tasks
  slots :=
    let left := if r.slots (r.base t) = some t then update r.slots (r.base t) answer else r.slots
    if left p = none then update left p (some t) else left
  base := update r.base t p

variable {r : Registry} {t p : Nat} {answer : Option Nat}

theorem Sound.create (sound : r.Sound cfg) (lt : t < cfg.maxTasks) (fresh : r.tasks t = false) :
    (r.create t p).Sound cfg := by
  refine ⟨sound.slotted.insert fresh, fun u mem => ?_⟩
  dsimp only [Registry.create] at mem
  by_cases new : u = t
  · rw [new]
    exact lt
  · rw [update_of_ne new] at mem
    exact sound.bound u mem

theorem Sound.exit (sound : r.Sound cfg) (again : Found (update r.tasks t false) r.base (r.base t) answer) :
    (r.exit t answer).Sound cfg := by
  refine ⟨sound.slotted.erase again, fun u mem => ?_⟩
  dsimp only [Registry.exit] at mem
  by_cases gone : u = t
  · rw [gone, update_self] at mem
    cases mem
  · rw [update_of_ne gone] at mem
    exact sound.bound u mem

theorem Sound.move (sound : r.Sound cfg) (mem : r.tasks t = true)
    (again : Found (update r.tasks t false) r.base (r.base t) answer) : (r.move t p answer).Sound cfg :=
  ⟨sound.slotted.rekey mem again, sound.bound⟩

theorem IdleAlone.create (alone : r.IdleAlone cfg) (valid : t = cfg.idleTaskId ↔ p = cfg.idlePriority) :
    (r.create t p).IdleAlone cfg := by
  intro u mem
  dsimp only [Registry.create] at mem ⊢
  by_cases new : u = t
  · subst new
    rw [update_self]
    exact valid
  · rw [update_of_ne new] at mem
    rw [update_of_ne new]
    exact alone u mem

theorem IdleAlone.exit (alone : r.IdleAlone cfg) : (r.exit t answer).IdleAlone cfg := by
  intro u mem
  dsimp only [Registry.exit] at mem ⊢
  by_cases gone : u = t
  · rw [gone, update_self] at mem
    cases mem
  · rw [update_of_ne gone] at mem
    exact alone u mem

theorem IdleAlone.move (alone : r.IdleAlone cfg) (other : t ≠ cfg.idleTaskId) (user : p ≠ cfg.idlePriority) :
    (r.move t p answer).IdleAlone cfg := by
  intro u mem
  dsimp only [Registry.move] at mem ⊢
  by_cases moved : u = t
  · subst moved
    rw [update_self]
    exact ⟨fun e => absurd e other, fun e => absurd e user⟩
  · rw [update_of_ne moved]
    exact alone u mem

end Registry

section Operations

variable {k : Kernel}

theorem taskFindFirst_found {member : Nat → Bool} {p : Nat} {exclude : Option Nat}
    (sees : ∀ i, (k.taskTable i && decide (some i ≠ exclude)) = member i)
    (bound : ∀ t, member t = true → t < cfg.maxTasks) :
    Found member k.task.basePriority p (taskFindFirstAtBasePriority cfg k p exclude) := by
  constructor
  · intro t found
    have test := List.find?_some found
    rw [sees, Bool.and_eq_true, decide_eq_true_eq] at test
    exact test
  · intro none_found t mem same
    have test := List.find?_eq_none.mp none_found t (List.mem_range.mpr (bound t mem))
    rw [sees, mem, same] at test
    simp at test

theorem taskCreate_registry (config : TaskConfig) :
    (taskCreate cfg k config).1.registry = k.registry ∨
      (config.taskId < cfg.maxTasks ∧ k.registry.tasks config.taskId = false ∧
        (config.taskId = cfg.idleTaskId ↔ config.priority = cfg.idlePriority) ∧
        (taskCreate cfg k config).1.registry = k.registry.create config.taskId config.priority) := by
  unfold taskCreate
  dsimp only
  by_cases valid : validateTaskConfig cfg config = .ok
  · rw [if_neg (not_not_intro valid)]
    by_cases taken : k.taskTable config.taskId = true
    · rw [if_pos taken]
      exact .inl rfl
    · rw [if_neg taken]
      obtain ⟨lt, -, rule⟩ := validate_ok valid
      refine .inr ⟨lt, Bool.eq_false_iff.mpr taken, rule, ?_⟩
      have entered : (registerTask k config.taskId config.priority).registry =
          k.registry.create config.taskId config.priority := by
        unfold registerTask Registry.create
        dsimp only
        rw [registry_readyAdd]
        unfold Kernel.registry initTaskContext
        dsimp only
        split
        · rename_i free
          rw [if_pos free]
        · rename_i u taken
          rw [if_neg (by rw [taken]; exact nofun)]
      split <;> exact entered
  · rw [if_pos valid]
    exact .inl rfl

theorem taskExit_registry (bound : ∀ t, k.taskTable t = true → t < cfg.maxTasks) :
    ∃ t answer, Found (update k.registry.tasks t false) k.registry.base (k.registry.base t) answer ∧
      (taskExit cfg k).registry = k.registry.exit t answer := by
  refine ⟨k.scheduler.currentTaskId, taskFindFirstAtBasePriority cfg { k with
    taskTable := update k.taskTable k.scheduler.currentTaskId false }
    (k.task.basePriority k.scheduler.currentTaskId) none,
    taskFindFirst_found (k := { k with taskTable := update k.taskTable k.scheduler.currentTaskId false })
      (fun i => ?_) fun t mem => ?_, rfl⟩
  · simp [Kernel.registry]
  · by_cases gone : t = k.scheduler.currentTaskId
    · rw [gone, update_self] at mem
      cases mem
    · rw [update_of_ne gone] at mem
      exact bound t mem

theorem taskSetPriority_registry (bound : ∀ t, k.taskTable t = true → t < cfg.maxTasks) (t p : Nat) :
    ((taskSetPriority cfg k t p).1.registry = k.registry ∧
        (k.taskTable t = true → p < cfg.maxPriorities → p ≠ cfg.idlePriority → k.registry.base t = p)) ∨
      (k.registry.tasks t = true ∧ p < cfg.maxPriorities ∧ p ≠ cfg.idlePriority ∧
        ∃ answer, Found (update k.registry.tasks t false) k.registry.base (k.registry.base t) answer ∧
          (taskSetPriority cfg k t p).1.registry = k.registry.move t p answer) := by
  unfold taskSetPriority
  by_cases refused : cfg.maxTasks ≤ t ∨ cfg.maxPriorities ≤ p ∨ p = cfg.idlePriority
  · rw [if_pos refused]
    refine .inl ⟨rfl, fun reg lt user => ?_⟩
    rcases refused with high | high | idle
    · exact absurd (bound t reg) (Nat.not_lt.mpr high)
    · exact absurd lt (Nat.not_lt.mpr high)
    · exact absurd idle user
  · rw [if_neg refused]
    simp only [not_or, Nat.not_le] at refused
    obtain ⟨-, lt, user⟩ := refused
    by_cases absent : k.taskTable t = false
    · rw [if_pos absent]
      refine .inl ⟨rfl, fun reg => ?_⟩
      rw [absent] at reg
      cases reg
    · rw [if_neg absent]
      have reg : k.taskTable t = true := by simpa using absent
      dsimp only
      by_cases same : k.task.basePriority t = p
      · rw [if_pos same]
        exact .inl ⟨rfl, fun _ _ _ => same⟩
      · rw [if_neg same]
        refine .inr ⟨reg, lt, user, taskFindFirstAtBasePriority cfg k (k.task.basePriority t) (some t),
          taskFindFirst_found (fun i => ?_) fun u mem => ?_, ?_⟩
        · by_cases gone : i = t
          · simp [gone]
          · simp [gone, Kernel.registry]
        · by_cases gone : u = t
          · rw [gone, update_self] at mem
            cases mem
          · rw [update_of_ne gone] at mem
            exact bound u mem
        · have applied : ∀ k e, (applyEffective cfg k t e).registry = k.registry := by
            intro k e
            unfold applyEffective
            dsimp only
            rw [registry_mirrorPriority, registry_mutexOwnerRecompute, registry_mutexWaiterPriorityChanged]
            split <;> rfl
          have entered : (setBasePriority cfg k t p).registry = k.registry.move t p
              (taskFindFirstAtBasePriority cfg k (k.task.basePriority t) (some t)) := rfl
          generalize newEffective k t (k.task.basePriority t) p = e
          by_cases stays : e = (setBasePriority cfg k t p).effectivePriority t
          · rw [if_pos stays]
            split
            · exact (registry_selectNext _).trans entered
            · exact (registry_selectNext _).trans entered
          · rw [if_neg stays]
            split
            · exact ((registry_selectNext _).trans (applied _ _)).trans entered
            · exact ((registry_selectNext _).trans (applied _ _)).trans entered

end Operations

/- Every step and every run. -/

namespace System

variable {S : System} {op : Op} {inIsr : Bool}

def MovesIdle (cfg : Config) (S : System) : Op → Prop
  | .taskSetPriority t p => t = cfg.idleTaskId ∧ S.kernel.taskTable t = true ∧ p < cfg.maxPriorities ∧
      p ≠ cfg.idlePriority
  | _ => False

theorem leave_registry (S : System) (call : Call) (outcome : Outcome) :
    (S.leave call outcome).1.kernel.registry = S.kernel.registry := by
  unfold leave
  split <;> rfl

theorem semTake_registry (S : System) (s : Nat) (ticks : Word) :
    (S.semTake cfg inIsr s ticks).1.kernel.registry = S.kernel.registry := by
  unfold semTake
  exact (leave_registry ..).trans (registry_semTake ..)

theorem tick_registry (S : System) : (S.tick cfg).kernel.registry = S.kernel.registry := by
  have signal : ∀ T : System, (T.signalTimers cfg).kernel.registry = T.kernel.registry := by
    intro T
    unfold signalTimers
    split
    · exact registry_semGiveCore ..
    · rfl
  unfold tick
  exact (registry_tickRoundRobin _).trans ((signal _).trans (registry_tickTimeouts _))

theorem daemonStep_registry (S : System) : (S.daemonStep cfg).1.kernel.registry = S.kernel.registry := by
  unfold daemonStep
  split
  · dsimp only
    split
    · exact semTake_registry ..
    · exact semTake_registry ..
  · rfl
  · rfl
  · rfl

theorem resume_registry (S : System) (call : Call) : (S.resume call).1.kernel.registry = S.kernel.registry := by
  unfold resume
  dsimp only
  split
  · rfl
  · split <;> rfl
  · rfl
  · rfl
  · rfl
  · exact registry_eventWaitResume ..
  · rfl

theorem run_registry_other (create : ∀ config, op ≠ .taskCreate config) (exit : op ≠ .taskExit)
    (move : ∀ t p, op ≠ .taskSetPriority t p) :
    (S.run cfg inIsr op).1.kernel.registry = S.kernel.registry := by
  unfold run
  cases op with
  | taskCreate config => exact absurd rfl (create config)
  | taskExit => exact absurd rfl exit
  | taskSetPriority t p => exact absurd rfl (move t p)
  | kernelStart => exact registry_kernelStart _
  | taskYield => exact registry_taskYield ..
  | taskDelay ticks => exact (leave_registry ..).trans (registry_taskDelay ..)
  | tick => exact tick_registry S
  | contextSwitch => exact registry_contextSwitch _
  | resume =>
    dsimp only
    split
    · rfl
    · exact resume_registry ..
  | semGive s => exact registry_semGiveCore ..
  | semTake s ticks => exact semTake_registry ..
  | mutexLock m ticks => exact (leave_registry ..).trans (registry_mutexLock ..)
  | mutexUnlock m => exact registry_mutexUnlock ..
  | queueSend q item ticks => exact (leave_registry ..).trans (registry_queueSend ..)
  | queueSendFromIsr q item => exact registry_queueSendCore ..
  | queueReceive q item ticks => exact (leave_registry ..).trans (registry_queueReceive ..)
  | eventSet e bits => exact registry_eventSetCore ..
  | eventClear e bits => rfl
  | eventWait e mask options ticks => exact (leave_registry ..).trans (registry_eventWait ..)
  | taskNotify t value => exact registry_notifyCore ..
  | taskNotifyWait entry exit ticks => exact (leave_registry ..).trans (registry_taskNotifyWait ..)
  | timerInit timerId period isPeriodic => rfl
  | timerStart timerId => rfl
  | timerStop timerId => rfl
  | daemon => exact daemonStep_registry S
  | write buffer bytes => rfl

theorem run_registry (sound : S.kernel.registry.Sound cfg) :
    (S.run cfg inIsr op).1.kernel.registry.Sound cfg ∧
      (S.kernel.registry.IdleAlone cfg → ¬S.MovesIdle cfg op →
        (S.run cfg inIsr op).1.kernel.registry.IdleAlone cfg) := by
  by_cases created : ∃ config, op = .taskCreate config
  · obtain ⟨config, rfl⟩ := created
    rcases @taskCreate_registry cfg S.kernel config with same | ⟨lt, fresh, rule, made⟩
    · exact ⟨same ▸ sound, fun alone _ => same ▸ alone⟩
    · exact ⟨made ▸ sound.create lt fresh, fun alone _ => made ▸ alone.create rule⟩
  by_cases exits : op = .taskExit
  · subst exits
    obtain ⟨t, answer, again, left⟩ := taskExit_registry (k := S.kernel) sound.bound
    exact ⟨left ▸ sound.exit again, fun alone _ => left ▸ alone.exit⟩
  by_cases moves : ∃ t p, op = .taskSetPriority t p
  · obtain ⟨t, p, rfl⟩ := moves
    rcases taskSetPriority_registry (k := S.kernel) sound.bound t p with
      ⟨same, -⟩ | ⟨reg, lt, user, answer, again, moved⟩
    · exact ⟨same ▸ sound, fun alone _ => same ▸ alone⟩
    · refine ⟨moved ▸ sound.move reg again, fun alone still => moved ▸ alone.move (fun idle => ?_) user⟩
      exact still ⟨idle, reg, lt, user⟩
  · have same : (S.run cfg inIsr op).1.kernel.registry = S.kernel.registry :=
      run_registry_other (fun config e => created ⟨config, e⟩) exits fun t p e => moves ⟨t, p, e⟩
    exact ⟨same ▸ sound, fun alone _ => same ▸ alone⟩

theorem movesIdle_breaks (sound : S.kernel.registry.Sound cfg) (moves : S.MovesIdle cfg op) :
    ¬(S.run cfg inIsr op).1.kernel.registry.IdleAlone cfg := by
  cases op with
  | taskSetPriority t p =>
    obtain ⟨idle, reg, lt, user⟩ := moves
    intro alone
    rcases taskSetPriority_registry (k := S.kernel) sound.bound t p with
      ⟨same, stays⟩ | ⟨-, -, -, answer, -, moved⟩
    · have kept : S.kernel.registry.IdleAlone cfg := same ▸ alone
      exact user ((stays reg lt user).symm.trans ((kept t reg).mp idle))
    · have kept : (S.kernel.registry.move t p answer).IdleAlone cfg := moved ▸ alone
      have base := (kept t reg).mp idle
      dsimp only [Registry.move] at base
      rw [update_self] at base
      exact user base
  | _ => exact moves.elim

theorem Boot.registry (boot : Boot cfg S) : S.kernel.registry.Sound cfg ∧ S.kernel.registry.IdleAlone cfg := by
  obtain ⟨words, tickCount, eq, -⟩ := boot.kernel
  have same : S.kernel.registry = (kernelInit cfg words).1.registry := by
    rw [eq]
    rfl
  have sound : Kernel.cleared.registry.Sound cfg :=
    ⟨⟨fun p t e => (nomatch e), fun p e t mem => (nomatch mem)⟩, nofun⟩
  have alone : Kernel.cleared.registry.IdleAlone cfg := nofun
  rw [same, kernelInit]
  rcases @taskCreate_registry cfg Kernel.cleared
      ⟨cfg.timerTaskId, cfg.timerTaskPriority, true, true, words⟩ with
    same | ⟨lt, fresh, rule, made⟩
  · rw [same]
    exact ⟨sound, alone⟩
  · rw [made]
    exact ⟨sound.create lt fresh, alone.create rule⟩

end System

/- The search for a free priority. -/

def PrioritySearchMode.Covers (cfg : Config) (preferred : Nat) : PrioritySearchMode → Nat → Prop
  | .exact, p => p = preferred
  | .towardHigher, p => p ≤ preferred
  | .towardLower, p => preferred ≤ p ∧ p ≤ cfg.lowestUserPriority

def Kernel.FreePriority (k : Kernel) (p : Nat) : Prop := ∀ t, k.taskTable t = true → k.task.basePriority t ≠ p

/-- The nearest free priority of those that the search covers, or none of them is free. -/
def SearchSound (cfg : Config) (k : Kernel) (preferred : Nat) (mode : PrioritySearchMode) : Prop :=
  match priorityFindFree cfg k preferred mode with
  | .ok p => mode.Covers cfg preferred p ∧ p ≠ cfg.idlePriority ∧ k.FreePriority p ∧
      ∀ q, mode.Covers cfg preferred q → k.FreePriority q → Nat.dist preferred p ≤ Nat.dist preferred q
  | .error e => e = .priorityInUse ∧ ∀ q, mode.Covers cfg preferred q → ¬k.FreePriority q

section Search

variable {k : Kernel}

theorem findFreeTowardHigher_spec (n : Nat) :
    match findFreeTowardHigher k n with
    | some p => p ≤ n ∧ k.taskByPriority p = none ∧ ∀ q, q ≤ n → k.taskByPriority q = none → q ≤ p
    | none => ∀ q, q ≤ n → k.taskByPriority q ≠ none := by
  induction n with
  | zero =>
    unfold findFreeTowardHigher
    by_cases free : k.taskByPriority 0 = none
    · rw [if_pos free]
      exact ⟨Nat.le_refl 0, free, fun q le _ => le⟩
    · rw [if_neg free]
      intro q le
      rw [Nat.le_zero.mp le]
      exact free
  | succ n ih =>
    unfold findFreeTowardHigher
    by_cases free : k.taskByPriority (n + 1) = none
    · rw [if_pos free]
      exact ⟨Nat.le_refl _, free, fun q le _ => le⟩
    · rw [if_neg free]
      have below : ∀ q, q ≤ n + 1 → k.taskByPriority q = none → q ≤ n := by
        intro q le empty
        refine Nat.lt_succ_iff.mp (Nat.lt_of_le_of_ne le fun same => ?_)
        rw [same] at empty
        exact free empty
      cases answer : findFreeTowardHigher k n with
      | none =>
        rw [answer] at ih
        exact fun q le empty => ih q (below q le empty) empty
      | some p =>
        rw [answer] at ih
        obtain ⟨le, empty, most⟩ := ih
        exact ⟨Nat.le_succ_of_le le, empty, fun q le empty => most q (below q le empty) empty⟩

theorem findFreeTowardLower_spec (left p : Nat) :
    match findFreeTowardLower k left p with
    | some q => p ≤ q ∧ q < p + left ∧ k.taskByPriority q = none ∧
        ∀ r, p ≤ r → r < p + left → k.taskByPriority r = none → q ≤ r
    | none => ∀ q, p ≤ q → q < p + left → k.taskByPriority q ≠ none := by
  induction left generalizing p with
  | zero => exact fun q above below => absurd below (Nat.not_lt.mpr above)
  | succ left ih =>
    unfold findFreeTowardLower
    by_cases free : k.taskByPriority p = none
    · rw [if_pos free]
      exact ⟨Nat.le_refl p, by omega, free, fun r above _ _ => above⟩
    · rw [if_neg free]
      have beyond : ∀ q, p ≤ q → k.taskByPriority q = none → p + 1 ≤ q := by
        intro q above empty
        refine Nat.lt_of_le_of_ne above fun same => ?_
        rw [same] at free
        exact free empty
      have rest := ih (p + 1)
      cases answer : findFreeTowardLower k left (p + 1) with
      | none =>
        rw [answer] at rest
        exact fun q above below empty => rest q (beyond q above empty) (by omega) empty
      | some q =>
        rw [answer] at rest
        obtain ⟨above, below, empty, least⟩ := rest
        exact ⟨by omega, by omega, empty, fun r low high free => least r (beyond r low free) (by omega) free⟩

variable {preferred : Nat}

theorem priorityFindFree_sound (sound : k.registry.Sound cfg)
    (user : preferred ≤ cfg.lowestUserPriority) (mode : PrioritySearchMode) :
    SearchSound cfg k preferred mode := by
  have free : ∀ p, k.FreePriority p ↔ k.taskByPriority p = none := fun p => (sound.slotted.free_iff p).symm
  have idle : cfg.lowestUserPriority < cfg.idlePriority := by
    have two := cfg.priorities_ok
    simp only [Config.lowestUserPriority, Config.idlePriority]
    omega
  unfold SearchSound priorityFindFree
  rw [if_neg (Nat.not_lt.mpr user)]
  simp only [free]
  cases mode with
  | exact =>
    dsimp only [PrioritySearchMode.Covers]
    by_cases empty : k.taskByPriority preferred = none
    · rw [if_pos empty]
      refine ⟨rfl, Nat.ne_of_lt (Nat.lt_of_le_of_lt user idle), empty, fun q same _ => ?_⟩
      rw [same]
    · rw [if_neg empty]
      refine ⟨rfl, fun q same => ?_⟩
      rw [same]
      exact empty
  | towardHigher =>
    dsimp only [PrioritySearchMode.Covers]
    have spec := @findFreeTowardHigher_spec k preferred
    cases answer : findFreeTowardHigher k preferred with
    | none =>
      rw [answer] at spec
      exact ⟨rfl, spec⟩
    | some p =>
      rw [answer] at spec
      obtain ⟨le, empty, most⟩ := spec
      refine ⟨le, by omega, empty, fun q below free => ?_⟩
      have nearer := most q below free
      simp only [Nat.dist]
      omega
  | towardLower =>
    dsimp only [PrioritySearchMode.Covers]
    have spec := @findFreeTowardLower_spec k (cfg.lowestUserPriority + 1 - preferred) preferred
    cases answer : findFreeTowardLower k (cfg.lowestUserPriority + 1 - preferred) preferred with
    | none =>
      rw [answer] at spec
      exact ⟨rfl, fun q covers => spec q covers.1 (by omega)⟩
    | some p =>
      rw [answer] at spec
      obtain ⟨above, below, empty, least⟩ := spec
      refine ⟨⟨above, by omega⟩, by omega, empty, fun q covers free => ?_⟩
      have nearer := least q covers.1 (by omega) free
      simp only [Nat.dist]
      omega

theorem priorityFindFree_refused (beyond : cfg.lowestUserPriority < preferred)
    (mode : PrioritySearchMode) : priorityFindFree cfg k preferred mode = .error .invalidArgument := by
  unfold priorityFindFree
  rw [if_pos beyond]

end Search

/-- What the registry promises: the slots, the idle task's rule and the search. -/
structure RegistryLaws (cfg : Config) (k : Kernel) : Prop where
  slots : ∀ p, k.taskByPriority p ≠ none ↔ ∃ t, k.taskTable t = true ∧ k.task.basePriority t = p
  holder : ∀ p t, k.taskByPriority p = some t → k.taskTable t = true ∧ k.task.basePriority t = p
  idle : ∀ t, k.taskTable t = true → (t = cfg.idleTaskId ↔ k.task.basePriority t = cfg.idlePriority)
  search : ∀ preferred mode, preferred ≤ cfg.lowestUserPriority → SearchSound cfg k preferred mode
  refused : ∀ preferred mode, cfg.lowestUserPriority < preferred →
    priorityFindFree cfg k preferred mode = .error .invalidArgument

theorem registryLaws_iff {k : Kernel} (sound : k.registry.Sound cfg) :
    RegistryLaws cfg k ↔ k.registry.IdleAlone cfg :=
  ⟨fun laws => laws.idle, fun alone => ⟨sound.slotted.taken_iff, sound.slotted.sound, alone,
    fun _ mode user => priorityFindFree_sound sound user mode, fun _ mode beyond => priorityFindFree_refused beyond mode⟩⟩

theorem registry_sound {S₀ S : System} {trace : Trace} (run : Run cfg S₀ trace S) : S.kernel.registry.Sound cfg :=
  run.2.invariant (P := fun T => T.kernel.registry.Sound cfg) run.1.registry.1
    fun _ _ sound _ => (System.run_registry sound).1

/-- The laws hold in every state of a run exactly when no step moves the idle task. -/
theorem registry_laws_iff {S₀ S : System} {trace : Trace} (run : Run cfg S₀ trace S) :
    (RegistryLaws cfg S₀.kernel ∧ ∀ tr ∈ trace, RegistryLaws cfg tr.post.kernel) ↔
      ∀ tr ∈ trace, ¬tr.pre.MovesIdle cfg tr.input.op := by
  obtain ⟨boot, run⟩ := run
  have reached : ∀ tr ∈ trace, tr.pre.kernel.registry.Sound cfg ∧
      tr.post = (tr.pre.run cfg tr.input.inIsr tr.input.op).1 := by
    intro tr mem
    obtain ⟨earlier, before, -, same⟩ := run.reaches tr mem
    have post : tr.post = ((machine cfg).take tr.pre tr.input).post := congrArg Transition.post same
    exact ⟨registry_sound ⟨boot, before⟩, post⟩
  constructor
  · rintro ⟨-, laws⟩ tr mem moves
    obtain ⟨sound, post⟩ := reached tr mem
    have holds := laws tr mem
    rw [post] at holds
    exact System.movesIdle_breaks sound moves holds.idle
  · intro still
    refine ⟨(registryLaws_iff boot.registry.1).mpr boot.registry.2, ?_⟩
    have all := run.throughout (P := fun T => T.kernel.registry.Sound cfg ∧ T.kernel.registry.IdleAlone cfg)
      (R := fun tr => RegistryLaws cfg tr.post.kernel) still boot.registry ?_
    · exact all.2
    · rintro T request ⟨sound, alone⟩ - unmoved
      obtain ⟨sound, keeps⟩ := @System.run_registry cfg T request.op request.inIsr sound
      have alone := keeps alone unmoved
      exact ⟨⟨sound, alone⟩, (registryLaws_iff sound).mpr alone⟩

/-- Two tasks of one base priority move away one after the other. -/
def sampleMoves : List Request :=
  [create 4 15, create 0 5, create 1 5, ⟨.taskSetPriority 0 7, false⟩, ⟨.kernelStart, false⟩,
    ⟨.taskSetPriority 1 7, true⟩]

theorem registry_laws_sample :
    RegistryLaws sample sampleStart.kernel ∧
      ∀ tr ∈ (machine sample).transitions sampleStart sampleMoves, RegistryLaws sample tr.post.kernel := by
  refine (registry_laws_iff (run_of_permits sampleStart_boot (by decide +kernel))).mpr fun tr mem moves => ?_
  have inputs : ∀ tr ∈ (machine sample).transitions sampleStart sampleMoves,
      ∀ p, tr.input.op ≠ .taskSetPriority sample.idleTaskId p := by
    refine (Machine.forall_transitions fun request : Request =>
      ∀ p, request.op ≠ .taskSetPriority sample.idleTaskId p).mpr fun request mem p => ?_
    simp only [sampleMoves, create, List.mem_cons, List.not_mem_nil, or_false] at mem
    rcases mem with rfl | rfl | rfl | rfl | rfl | rfl <;> intro e <;> cases e
  unfold System.MovesIdle at moves
  split at moves
  · rename_i t p op
    exact inputs tr mem p (op.trans (congrArg (Op.taskSetPriority · p) moves.1))
  · exact moves

def sampleIdleMove : List Request := [create 4 15, ⟨.taskSetPriority 4 5, false⟩]

theorem idle_moved : ∃ S, Reachable sample S ∧ ¬RegistryLaws sample S.kernel := by
  refine ⟨(machine sample).play sampleStart sampleIdleMove,
    ⟨_, _, run_of_permits sampleStart_boot (by decide +kernel)⟩, fun laws => ?_⟩
  have registered : ((machine sample).play sampleStart sampleIdleMove).kernel.taskTable 4 = true := by
    decide +kernel
  have base := (laws.idle 4 registered).mp rfl
  have moved : ((machine sample).play sampleStart sampleIdleMove).kernel.task.basePriority 4 = 5 := by
    decide +kernel
  rw [moved] at base
  cases base

end XSDK.Rtos
