import XSDK.Rtos.Progress

/-! Every step of the system keeps the kernel's invariant, and is one of three kinds:
it wakes waiting tasks, it blocks the current task, or the current task returns. -/
namespace XSDK.Rtos

open Function (update)

variable {cfg : Config}

def Op.clock : Op → Word
  | .tick => 1#32
  | _ => 0#32

theorem Op.clock_of_ne {op : Op} (other : op ≠ .tick) : op.clock = 0#32 := by
  cases op with
  | tick => exact absurd rfl other
  | _ => rfl

namespace System

inductive Turn (cfg : Config) (S S' : System) (op : Op) (outcome : Outcome) : Prop
  | wakes (woken : Nat → Option Return) (ends : outcome ≠ .blocked) (call : S'.call = S.call)
      (turns : Turns S.Inside S.kernel S'.kernel woken)
      (ok : ∀ t r, woken t = some r → r ≠ .timeout →
        r = .ok ∧ ∃ w, op.wakes = some w ∧ S.kernel.task.waitMapPtr t = some w)
      (late : ∀ t, woken t = some .timeout ↔ op = .tick ∧ expired (ticked S.kernel) t = true)
  | blocks (call : Call) (ticks : Word) (k : Kernel) (may : op.call = some (call, ticks))
      (nonzero : ticks ≠ noWait) (blocked : outcome = .blocked) (runs : Runs cfg S.kernel S.current)
      (idle : S.call S.current = none)
      (start : k = S.kernel ∨ ∃ value, k = S.kernel.setNotify S.current value false)
      (blocks : Blocks k S'.kernel S.current call.target call.payload ticks)
      (calls : S'.call = update S.call S.current (some call))
  | returns (call : Call) (resume : op = .resume) (inside : S.call S.current = some call)
      (running : S.kernel.task.state S.current = .running)
      (result : outcome = call.result (S.kernel.task.blockStatus S.current)
        (S.kernel.task.blockPayload S.current))
      (calls : S'.call = update S.call S.current none)
      (kernel : S'.kernel = S.kernel ∨ S'.kernel = S.kernel.setPayload S.current Payload.zero)

def Special : Op → Prop
  | .kernelStart | .taskCreate _ | .taskExit | .taskSetPriority .. | .tick | .contextSwitch | .mutexLock ..
  | .mutexUnlock _ => True
  | _ => False

inductive Effect (k k' : Kernel) (op : Op) : Prop
  | calm (calm : Calm k k')
  | blocks (graph : SameGraph k k') (pending : k'.scheduler.isSchedulePending = true)
  | special (special : Special op)

variable (cfg) in
structure Step (S S' : System) (op : Op) (outcome : Outcome) : Prop where
  kernel : S'.kernel.Inv cfg
  turn : Turn cfg S S' op outcome
  effect : Effect S.kernel S'.kernel op
  clock : S'.kernel.tickCount = S.kernel.tickCount + op.clock

variable {S S' : System} {op : Op} {outcome : Outcome} {k : Kernel}

theorem Step.quiet (kernel : S'.kernel.Inv cfg) (ends : outcome ≠ .blocked) (call : S'.call = S.call)
    (turns : Turns S.Inside S.kernel S'.kernel fun _ => none) (effect : Effect S.kernel S'.kernel op)
    (clock : S'.kernel.tickCount = S.kernel.tickCount) (other : op ≠ .tick) : Step cfg S S' op outcome := by
  refine ⟨kernel, .wakes _ ends call turns nofun fun t => ?_, effect, ?_⟩
  · exact ⟨nofun, fun e => absurd e.1 other⟩
  · rw [clock, Op.clock_of_ne other, BitVec.add_zero]

theorem Step.same (inv : S.Inv cfg) (kernel : S'.kernel = S.kernel) (ends : outcome ≠ .blocked)
    (call : S'.call = S.call) (other : op ≠ .tick) : Step cfg S S' op outcome :=
  .quiet (by rw [kernel]; exact inv.kernel) ends call (by rw [kernel]; exact .refl _)
    (.calm (by rw [kernel]; exact .refl _)) (by rw [kernel]) other

theorem Step.wake {u : Nat} {w : WaitObject} (kernel : S'.kernel.Inv cfg) (ends : outcome ≠ .blocked)
    (call : S'.call = S.call) (turns : Turns S.Inside S.kernel S'.kernel (wokenBy u .ok))
    (ptr : S.kernel.task.waitMapPtr u = some w) (wakes : op.wakes = some w)
    (effect : Effect S.kernel S'.kernel op) (clock : S'.kernel.tickCount = S.kernel.tickCount)
    (other : op ≠ .tick) : Step cfg S S' op outcome := by
  refine ⟨kernel, .wakes _ ends call turns (fun t r e _ => ?_) (fun t => ?_), effect, ?_⟩
  · by_cases ht : t = u
    · subst ht
      rw [wokenBy_self] at e
      exact ⟨(Option.some.inj e).symm, w, wakes, ptr⟩
    · rw [wokenBy_of_ne ht] at e
      cases e
  · refine ⟨fun e => ?_, fun e => absurd e.1 other⟩
    by_cases ht : t = u
    · rw [ht, wokenBy_self] at e
      cases e
    · rw [wokenBy_of_ne ht] at e
      cases e
  · rw [clock, Op.clock_of_ne other, BitVec.add_zero]

/- The contexts in which a call may come. -/

theorem taskRuns_iff : S.taskRuns cfg = true ↔ Runs cfg S.kernel S.current ∧ S.call S.current = none := by
  unfold taskRuns
  simp only [Bool.and_eq_true, decide_eq_true_eq, Option.isSome_iff_exists]
  constructor
  · rintro ⟨⟨⟨started, u, found⟩, running⟩, idle⟩
    obtain ⟨_, lt, reg⟩ := Kernel.lookup_eq_some.mp found
    exact ⟨⟨started, rfl, lt, reg, running⟩, idle⟩
  · rintro ⟨runs, idle⟩
    exact ⟨⟨⟨runs.started, _, runs.currentTask⟩, runs.running⟩, idle⟩

variable {inIsr : Bool} {ticks : Word} {q : Nat}

theorem mayCall_cases (may : S.mayCall cfg inIsr = true) :
    inIsr = true ∨ S.kernel.scheduler.isStarted = false ∨ (S.taskRuns cfg = true ∧ S.daemonRuns cfg = false) := by
  unfold mayCall at may
  simp only [Bool.or_eq_true, Bool.and_eq_true, Bool.not_eq_true'] at may
  rcases may with (isr | early) | task
  · exact .inl isr
  · exact .inr (.inl early)
  · exact .inr (.inr task)

theorem mayCall_called (may : S.mayCall cfg inIsr = true) : CalledBy cfg S.kernel inIsr S.current := by
  intro started task
  rcases mayCall_cases may with isr | early | runs
  · rw [isr] at task
    cases task
  · rw [early] at started
    cases started
  · exact (taskRuns_iff.mp runs.1).1

theorem mayCall_idle (may : S.mayCall cfg inIsr = true)
    (started : S.kernel.scheduler.isStarted = true) (task : inIsr = false) : S.call S.current = none := by
  rcases mayCall_cases may with isr | early | runs
  · rw [isr] at task
    cases task
  · rw [early] at started
    cases started
  · exact (taskRuns_iff.mp runs.1).2

theorem leave_returned (S : System) (call : Call) (status : Return) (value : Word) :
    S.leave call (.returned status value) = (S, .returned status value) := by
  simp [leave]

theorem leave_blocked (S : System) (call : Call) :
    S.leave call .blocked = ({ S with call := update S.call S.current (some call) }, .blocked) := by
  simp [leave]

theorem Step.enter {call : Call} {w : Option WaitObject} {payload : Payload}
    (may : op.call = some (call, ticks)) (nonzero : ticks ≠ noWait) (runs : Runs cfg S.kernel S.current)
    (idle : S.call S.current = none) (start : k = S.kernel ∨ ∃ value, k = S.kernel.setNotify S.current value false)
    (inv : S'.kernel.Inv cfg) (blocks : Blocks k S'.kernel S.current w payload ticks)
    (target : w = call.target) (left : payload = call.payload) (calls : S'.call = S.call)
    (effect : Effect S.kernel S'.kernel op) : Step cfg S (S'.leave call .blocked).1 op (S'.leave call .blocked).2 := by
  subst target
  subst left
  have current : S'.current = S.current := by
    have same := blocks.currentTaskId
    rcases start with rfl | ⟨value, rfl⟩
    · exact same
    · exact same
  have notTick : op ≠ .tick := by
    rintro rfl
    cases may
  rw [leave_blocked]
  refine ⟨inv, .blocks call ticks k may nonzero rfl runs idle start blocks ?_, effect, ?_⟩
  · dsimp only
    rw [current, calls]
  · rw [Op.clock_of_ne notTick, BitVec.add_zero]
    have stands := blocks.tickCount
    rcases start with rfl | ⟨value, rfl⟩
    · exact stands
    · exact stands

/- One lemma for each operation. -/

theorem semGive_spec (inv : S.kernel.Inv cfg) (s : Nat) : ∃ woken,
    Frees cfg S.kernel (S.semGive cfg s).1.kernel woken ∧ (S.semGive cfg s).1.call = S.call ∧
    (S.semGive cfg s).2 ≠ .blocked ∧ (woken = (fun _ => none) ∨
      ∃ u, S.kernel.WaitsOn u (.sem s) ∧ woken = wokenBy u .ok) := by
  unfold semGive
  rcases semGiveCore_cases inv (S.sem s) s with ⟨u, first, eq⟩ | ⟨_, ⟨_, eq⟩ | ⟨_, eq⟩⟩
  · rw [eq]
    exact ⟨_, Frees.wake_plain inv first.1 nofun .ok, rfl, fun e => (nomatch e), .inr ⟨u, first.1, rfl⟩⟩
  · rw [eq]
    exact ⟨_, .refl inv, rfl, fun e => (nomatch e), .inl rfl⟩
  · rw [eq]
    exact ⟨_, .refl inv, rfl, fun e => (nomatch e), .inl rfl⟩

theorem semGive_step (inv : S.Inv cfg) (s : Nat) :
    Step cfg S (S.semGive cfg s).1 (.semGive s) (S.semGive cfg s).2 := by
  obtain ⟨woken, frees, call, ends, rfl | ⟨u, waits, rfl⟩⟩ := semGive_spec inv.kernel s
  · exact .quiet frees.inv ends call (frees.wakes.turns _) (.calm frees.calm) frees.wakes.tickCount
      nofun
  · exact .wake frees.inv ends call (frees.wakes.turns _) waits.2.2 rfl (.calm frees.calm)
      frees.wakes.tickCount nofun

theorem semTake_step (inv : S.Inv cfg) {s : Nat} (called : CalledBy cfg S.kernel inIsr S.current)
    (idle : Caller cfg S.kernel inIsr S.current → S.call S.current = none)
    (may : op.call = some (.semTake s, ticks)) (other : op ≠ .tick) :
    Step cfg S (S.semTake cfg inIsr s ticks).1 op (S.semTake cfg inIsr s ticks).2 := by
  unfold semTake
  rcases semTake_cases inv.kernel called (S.sem s) s ticks with
    ⟨ret, _, eq⟩ | ⟨_, eq⟩ | ⟨_, nonzero, runs, k', eq, enters⟩
  · rw [eq]
    dsimp only
    rw [leave_returned]
    exact .same inv rfl nofun rfl other
  · rw [eq]
    dsimp only
    rw [leave_returned]
    exact .same inv rfl nofun rfl other
  · rw [eq]
    dsimp only
    exact .enter may nonzero runs.toRuns (idle runs) (.inl rfl) enters.inv enters.blocks rfl rfl rfl
      (.blocks enters.graph enters.blocks.pending)

theorem taskDelay_step (inv : S.Inv cfg) (called : CalledBy cfg S.kernel inIsr S.current)
    (idle : Caller cfg S.kernel inIsr S.current → S.call S.current = none) :
    Step cfg S (S.run cfg inIsr (.taskDelay ticks)).1 (.taskDelay ticks)
      (S.run cfg inIsr (.taskDelay ticks)).2 := by
  unfold run
  rcases called.cases with refused | ⟨accepted, runs⟩
  · have eq : Rtos.taskDelay cfg S.kernel inIsr ticks = (S.kernel, .ret .invalidState) := by
      unfold Rtos.taskDelay
      rw [if_pos refused]
    dsimp only
    rw [eq, leave_returned]
    exact .same inv rfl nofun rfl nofun
  · have task : inIsr = false := by simpa using (not_or.mp accepted).2
    subst task
    by_cases zero : ticks = 0#32
    · have eq : Rtos.taskDelay cfg S.kernel false ticks = (S.kernel.setPending, .ret .ok) := by
        unfold Rtos.taskDelay
        rw [if_neg accepted, runs.currentTask]
        dsimp only
        rw [if_pos zero]
      dsimp only
      rw [eq, leave_returned]
      exact .quiet inv.kernel.setPending nofun rfl ((setPending_waits _).turns _)
        (.calm (.setPending _)) rfl nofun
    · obtain ⟨k', eq, kernel, blocks, graph⟩ := taskDelay_enters inv.kernel runs.toRuns zero
      dsimp only
      rw [eq]
      exact .enter rfl zero runs.toRuns (idle runs) (.inl rfl) kernel blocks rfl rfl rfl
        (.blocks graph blocks.pending)

theorem mutexLock_step (inv : S.Inv cfg) {m : Nat} (bound : m < cfg.mutexCount)
    (called : CalledBy cfg S.kernel inIsr S.current)
    (idle : Caller cfg S.kernel inIsr S.current → S.call S.current = none) :
    Step cfg S (S.run cfg inIsr (.mutexLock m ticks)).1 (.mutexLock m ticks)
      (S.run cfg inIsr (.mutexLock m ticks)).2 := by
  unfold run
  rcases mutexLock_cases inv.kernel called m ticks with
    eq | ⟨_, _, eq⟩ | ⟨runs, free, eq⟩ | ⟨runs, owned, foreign, nonzero, eq⟩
  · dsimp only
    rw [eq, leave_returned]
    exact .same inv rfl nofun rfl nofun
  · dsimp only
    rw [eq, leave_returned]
    exact .same inv rfl nofun rfl nofun
  · dsimp only
    rw [eq, leave_returned]
    have waits : Waits S.kernel (mutexAcquire S.kernel S.current m) fun _ => none := .of_task rfl rfl rfl rfl
    exact .quiet (acquire_inv inv.kernel free runs.reg bound) nofun rfl (waits.turns _)
      (.special trivial) rfl nofun
  · obtain ⟨eqB, kernel, _, blocks, _⟩ := mutexBlock_spec inv.kernel runs.toRuns owned foreign ticks
    dsimp only
    rw [eq, eqB]
    exact .enter rfl nonzero runs.toRuns (idle runs) (.inl rfl) kernel blocks rfl rfl rfl
      (.special trivial)

theorem mutexLock_kernel {m : Nat} {ticks : Word} :
    (S.run cfg inIsr (.mutexLock m ticks)).1.kernel = (mutexLock cfg S.kernel inIsr m ticks).1 := by
  unfold run leave
  dsimp only
  split <;> rfl

theorem mutexUnlock_step (inv : S.Inv cfg) {m : Nat} :
    Step cfg S (S.run cfg false (.mutexUnlock m)).1 (.mutexUnlock m) (S.run cfg false (.mutexUnlock m)).2 := by
  unfold run
  by_cases mine : S.kernel.Unlocks m
  · obtain ⟨own, started, reg⟩ := mine
    rcases mutexUnlock_cases inv.kernel started rfl reg own with ⟨none, eq⟩ | ⟨w, _, waiting, eq⟩
    · obtain ⟨_, kernel, _, wakes⟩ := release_spec inv.kernel own reg (inv.kernel.lists.waiters.head_none none)
      dsimp only
      rw [eq]
      exact .quiet kernel nofun rfl (wakes.turns _) (.special trivial) wakes.tickCount
        nofun
    · obtain ⟨_, _, kernel, _, _, wakes⟩ := handOff_spec inv.kernel own reg waiting
      have ptr := (((inv.kernel.task w).waiting m).mp waiting).2.2
      dsimp only
      rw [eq]
      exact .wake kernel nofun rfl (wakes.turns _) ptr rfl (.special trivial)
        wakes.tickCount nofun
  · dsimp only
    rw [mutexUnlock_refused mine]
    exact .same inv rfl nofun rfl nofun

variable {item : Word} {memory : Memory} {queue : Queue} {ret : Return}

section

variable (inv : S.Inv cfg)
include inv

theorem trySend_spec
    (eq : queueTrySendLocked cfg S.kernel S.memory (S.queue q) q item = (k, memory, queue, ret)) :
    ∃ woken, Frees cfg S.kernel k woken ∧ (woken = (fun _ => none) ∨
      ∃ u, S.kernel.WaitsOn u (.queueRecv q) ∧ woken = wokenBy u .ok) := by
  rcases queueTrySendLocked_cases inv.kernel S.memory (S.queue q) q item with
    ⟨u, first, try_eq⟩ | ⟨_, ⟨_, try_eq⟩ | ⟨_, try_eq⟩⟩
  · rw [try_eq] at eq
    cases eq
    exact ⟨_, Frees.wake inv.kernel first.1 nofun Payload.zero .ok, .inr ⟨u, first.1, rfl⟩⟩
  · rw [try_eq] at eq
    cases eq
    exact ⟨_, .refl inv.kernel, .inl rfl⟩
  · rw [try_eq] at eq
    cases eq
    exact ⟨_, .refl inv.kernel, .inl rfl⟩

theorem trySend_step
    (eq : queueTrySendLocked cfg S.kernel S.memory (S.queue q) q item = (S'.kernel, memory, queue, ret))
    (ends : outcome ≠ .blocked) (call : S'.call = S.call) (wakes : op.wakes = some (.queueRecv q))
    (other : op ≠ .tick) : Step cfg S S' op outcome := by
  obtain ⟨woken, frees, rfl | ⟨u, waits, rfl⟩⟩ := trySend_spec inv eq
  · exact .quiet frees.inv ends call (frees.wakes.turns _) (.calm frees.calm) frees.wakes.tickCount other
  · exact .wake frees.inv ends call (frees.wakes.turns _) waits.2.2 wakes (.calm frees.calm)
      frees.wakes.tickCount other

theorem queueSend_step {item ticks : Word} (called : CalledBy cfg S.kernel inIsr S.current)
    (idle : Caller cfg S.kernel inIsr S.current → S.call S.current = none) :
    Step cfg S (S.run cfg inIsr (.queueSend q item ticks)).1 (.queueSend q item ticks)
      (S.run cfg inIsr (.queueSend q item ticks)).2 := by
  unfold run
  rcases queueSend_cases inv.kernel called S.memory (S.queue q) q item ticks with
    ⟨ret, _, eq⟩ | ⟨k', memory, queue, try_eq, eq⟩ | ⟨_, _, _, nonzero, runs, k', eq, enters⟩
  · dsimp only
    rw [eq, leave_returned]
    exact .same inv rfl nofun rfl nofun
  · dsimp only
    rw [eq, leave_returned]
    exact trySend_step inv try_eq nofun rfl rfl nofun
  · dsimp only
    rw [eq]
    exact .enter rfl nonzero runs.toRuns (idle runs) (.inl rfl) enters.inv enters.blocks rfl rfl rfl
      (.blocks enters.graph enters.blocks.pending)

theorem queueSendFromIsr_step :
    Step cfg S (S.run cfg inIsr (.queueSendFromIsr q item)).1 (.queueSendFromIsr q item)
      (S.run cfg inIsr (.queueSendFromIsr q item)).2 := by
  unfold run
  rcases queueSendCore_cases cfg S.kernel S.memory (S.queue q) q item with eq | eq
  · dsimp only
    rw [eq]
    exact .same inv rfl nofun rfl nofun
  · dsimp only
    rw [eq]
    exact trySend_step inv rfl nofun rfl rfl nofun

theorem queueReceive_step {item ticks : Word} (called : CalledBy cfg S.kernel inIsr S.current)
    (idle : Caller cfg S.kernel inIsr S.current → S.call S.current = none) :
    Step cfg S (S.run cfg inIsr (.queueReceive q item ticks)).1 (.queueReceive q item ticks)
      (S.run cfg inIsr (.queueReceive q item ticks)).2 := by
  unfold run
  rcases queueReceive_cases inv.kernel called S.memory (S.queue q) q item ticks with
    ⟨ret, _, eq⟩ | ⟨memory, queue, _, _, _, _, ⟨_, eq⟩ | ⟨u, first, eq⟩⟩ |
      ⟨_, _, nonzero, runs, k', eq, enters⟩
  · dsimp only
    rw [eq, leave_returned]
    exact .same inv rfl nofun rfl nofun
  · dsimp only
    rw [eq, leave_returned]
    exact .same inv rfl nofun rfl nofun
  · have frees := Frees.wake inv.kernel first.1 nofun Payload.zero .ok
    dsimp only
    rw [eq, leave_returned]
    exact .wake frees.inv nofun rfl (frees.wakes.turns _) first.1.2.2 rfl (.calm frees.calm)
      frees.wakes.tickCount nofun
  · dsimp only
    rw [eq]
    exact .enter rfl nonzero runs.toRuns (idle runs) (.inl rfl) enters.inv enters.blocks rfl rfl rfl
      (.blocks enters.graph enters.blocks.pending)

theorem eventSet_step {e : Nat} {bits : Word} :
    Step cfg S (S.run cfg inIsr (.eventSet e bits)).1 (.eventSet e bits)
      (S.run cfg inIsr (.eventSet e bits)).2 := by
  obtain ⟨frees, _, _⟩ := eventSetCore_spec inv.kernel (S.flags e) e bits
  refine ⟨frees.inv, .wakes _ nofun rfl (frees.wakes.turns _) (fun t r woken _ => ?_)
    (fun t => ⟨fun woken => ?_, fun e => nomatch e.1⟩), .calm frees.calm,
    frees.wakes.tickCount.trans (BitVec.add_zero _).symm⟩
  · split at woken
    · rename_i waits
      exact ⟨(Option.some.inj woken).symm, _, rfl, waits.2.2.1⟩
    · cases woken
  · split at woken <;> cases woken

theorem eventWait_step {e : Nat} {mask options ticks : Word} (called : CalledBy cfg S.kernel inIsr S.current)
    (idle : Caller cfg S.kernel inIsr S.current → S.call S.current = none) :
    Step cfg S (S.run cfg inIsr (.eventWait e mask options ticks)).1 (.eventWait e mask options ticks)
      (S.run cfg inIsr (.eventWait e mask options ticks)).2 := by
  unfold run
  rcases eventWait_cases inv.kernel called (S.flags e) e mask options ticks with
    ⟨ret, _, eq⟩ | ⟨_, _, eq⟩ | ⟨_, _, nonzero, runs, k', eq, enters⟩
  · dsimp only
    rw [eq, leave_returned]
    exact .same inv rfl nofun rfl nofun
  · dsimp only
    rw [eq, leave_returned]
    exact .same inv rfl nofun rfl nofun
  · dsimp only
    rw [eq]
    exact .enter rfl nonzero runs.toRuns (idle runs) (.inl rfl) enters.inv enters.blocks rfl rfl rfl
      (.blocks enters.graph enters.blocks.pending)

theorem taskNotify_step {u : Nat} {value : Word} :
    Step cfg S (S.run cfg inIsr (.taskNotify u value)).1 (.taskNotify u value)
      (S.run cfg inIsr (.taskNotify u value)).2 := by
  unfold run
  rcases notifyCore_cases inv.kernel u value with ⟨_, eq⟩ | ⟨_, _, eq⟩ | ⟨waits, eq⟩
  · dsimp only
    rw [eq]
    exact .same inv rfl nofun rfl nofun
  · dsimp only
    rw [eq]
    exact .quiet (inv.kernel.setNotify u _ true) nofun rfl (.setNotify _ u _ true)
      (.calm (.setNotify _ u _ true)) rfl nofun
  · have latched := inv.kernel.setNotify u
      ((S.kernel.task.notifyValue u ||| value) &&& ~~~(S.kernel.task.blockPayload u).second) false
    have frees := Frees.wake latched (t := u) (w := .notify) waits nofun
      ⟨S.kernel.task.notifyValue u ||| value, (S.kernel.task.blockPayload u).second⟩ .ok
    dsimp only
    rw [eq]
    refine .wake frees.inv nofun rfl ?_ waits.2.2 rfl
      (.calm ((Calm.setNotify S.kernel u _ false).trans frees.calm)) frees.wakes.tickCount
      nofun
    exact ((Turns.setNotify S.kernel u _ false).trans (frees.wakes.turns _)).congr fun _ => rfl

theorem taskNotifyWait_step {clearOnEntry clearOnExit ticks : Word} (called : CalledBy cfg S.kernel inIsr S.current)
    (idle : Caller cfg S.kernel inIsr S.current → S.call S.current = none) :
    Step cfg S (S.run cfg inIsr (.taskNotifyWait clearOnEntry clearOnExit ticks)).1
      (.taskNotifyWait clearOnEntry clearOnExit ticks)
      (S.run cfg inIsr (.taskNotifyWait clearOnEntry clearOnExit ticks)).2 := by
  unfold run
  rcases taskNotifyWait_cases inv.kernel called clearOnEntry clearOnExit ticks with
    ⟨ret, _, _, eq⟩ | ⟨_, _, eq⟩ | ⟨_, _, _, eq⟩ | ⟨runs, _, nonzero, k', eq, enters⟩
  · dsimp only
    rw [eq, leave_returned]
    exact .same inv rfl nofun rfl nofun
  · dsimp only
    rw [eq, leave_returned]
    exact .quiet (inv.kernel.setNotify _ _ false) nofun rfl (.setNotify _ _ _ false)
      (.calm (.setNotify _ _ _ false)) rfl nofun
  · dsimp only
    rw [eq, leave_returned]
    exact .quiet (inv.kernel.setNotify _ _ false) nofun rfl (.setNotify _ _ _ false)
      (.calm (.setNotify _ _ _ false)) rfl nofun
  · dsimp only
    rw [eq]
    exact .enter rfl nonzero runs.toRuns (idle runs) (.inr ⟨_, rfl⟩) enters.inv enters.blocks rfl rfl rfl
      (.blocks ((Calm.setNotify _ _ _ _).toSameGraph.trans enters.graph) enters.blocks.pending)

end

theorem signalTimers_spec (inv : S.kernel.Inv cfg) : ∃ woken,
    Frees cfg S.kernel (S.signalTimers cfg).kernel woken ∧ (S.signalTimers cfg).call = S.call ∧
      ∀ t r, woken t = some r → r = .ok ∧ S.kernel.WaitsOn t (.sem timerSem) := by
  unfold signalTimers
  by_cases due : timerDue cfg S.timers S.kernel.tickCount = true
  · rw [if_pos due]
    obtain ⟨woken, frees, call, _, rfl | ⟨u, waits, rfl⟩⟩ := semGive_spec inv timerSem
    · exact ⟨_, frees, call, nofun⟩
    · refine ⟨_, frees, call, fun t r e => ?_⟩
      by_cases ht : t = u
      · subst ht
        rw [wokenBy_self] at e
        exact ⟨(Option.some.inj e).symm, waits⟩
      · rw [wokenBy_of_ne ht] at e
        cases e
  · rw [if_neg due]
    exact ⟨_, .refl inv, rfl, nofun⟩

theorem tickRoundRobin_spec (inv : k.Inv cfg) : Frees cfg k (tickRoundRobin cfg k) fun _ => none := by
  unfold tickRoundRobin
  split
  · exact .setPending inv
  · exact .refl inv

theorem tick_frees (inv : S.Inv cfg) : ∃ woken, Frees cfg (tickTimeouts cfg S.kernel) (S.tick cfg).kernel woken ∧
    (S.tick cfg).call = S.call ∧
    ∀ t r, woken t = some r → r = .ok ∧ (tickTimeouts cfg S.kernel).WaitsOn t (.sem timerSem) := by
  obtain ⟨kernel₁, _⟩ := tickTimeouts_spec inv.kernel
  obtain ⟨woken, frees, call, signal⟩ :=
    signalTimers_spec (S := { S with kernel := tickTimeouts cfg S.kernel }) kernel₁
  have path := frees.trans (tickRoundRobin_spec frees.inv)
  refine ⟨woken, ⟨path.inv, path.wakes.congr fun t => ?_, path.calm⟩, call, signal⟩
  rw [Option.or_none]

theorem tickTimeouts_turns (inv : k.Inv cfg) (inside : Nat → Prop) :
    Turns inside k (tickTimeouts cfg k) fun t => if expired (ticked k) t = true then some .timeout else none := by
  obtain ⟨_, wakes⟩ := tickTimeouts_spec inv
  exact ((Turns.ticked k).trans (wakes.toWaits.turns inside)).congr fun t => rfl

variable (inv : S.Inv cfg)
include inv

theorem tick_step : Step cfg S (S.tick cfg) .tick (.ret .ok) := by
  have turns := tickTimeouts_turns inv.kernel S.Inside
  obtain ⟨_, timeouts⟩ := tickTimeouts_spec inv.kernel
  obtain ⟨woken, frees, call, signal⟩ := tick_frees inv
  refine ⟨frees.inv, .wakes _ nofun call (turns.trans (frees.wakes.turns _)) ?_ (fun t => ?_),
    .special trivial, frees.wakes.tickCount.trans timeouts.tickCount⟩
  · intro t r e notLate
    by_cases due : expired (ticked S.kernel) t = true
    · simp only [due, if_true, Option.some_or, Option.some.injEq] at e
      exact absurd e.symm notLate
    · simp only [due, Bool.false_eq_true, if_false, Option.none_or] at e
      obtain ⟨ok, waits⟩ := signal t r e
      have ptr := timeouts.waitMapPtr t (if_neg due)
      exact ⟨ok, _, rfl, ptr.symm.trans waits.2.2⟩
  · by_cases due : expired (ticked S.kernel) t = true
    · simp [due]
    · simp only [due, Bool.false_eq_true, if_false, Option.none_or, and_false, iff_false]
      intro e
      exact nomatch (signal t .timeout e).1

theorem resume_step (running : S.kernel.task.state S.current = .running) (inside : S.call S.current ≠ none) :
    Step cfg S (S.run cfg inIsr .resume).1 .resume (S.run cfg inIsr .resume).2 := by
  unfold run
  cases hc : S.call S.current with
  | none => exact absurd hc inside
  | some call =>
    dsimp only
    have back : ∀ T : System, T.kernel = S.kernel → T.call = update S.call S.current none →
        Step cfg S T .resume (call.result (S.kernel.task.blockStatus S.current)
          (S.kernel.task.blockPayload S.current)) := by
      intro T kernel calls
      refine ⟨by rw [kernel]; exact inv.kernel, .returns call rfl hc running rfl calls (.inl kernel), ?_, ?_⟩
      · exact .calm (by rw [kernel]; exact .refl _)
      · rw [kernel]
        exact (BitVec.add_zero _).symm
    cases call with
    | delay => exact back _ rfl rfl
    | semTake s =>
      unfold resume
      dsimp only
      split
      · exact back _ rfl rfl
      · exact back _ rfl rfl
    | mutexLock m => exact back _ rfl rfl
    | queueSend q item => exact back _ rfl rfl
    | queueReceive q item => exact back _ rfl rfl
    | notifyWait clearOnExit =>
      have result : notifyWaitResume S.kernel S.current = (Call.notifyWait clearOnExit).result
          (S.kernel.task.blockStatus S.current) (S.kernel.task.blockPayload S.current) := rfl
      unfold resume
      dsimp only
      rw [result]
      exact back _ rfl rfl
    | eventWait e mask options =>
      have result : eventWaitResume S.kernel S.current =
          (S.kernel.setPayload S.current Payload.zero, (Call.eventWait e mask options).result
            (S.kernel.task.blockStatus S.current) (S.kernel.task.blockPayload S.current)) := by
        unfold eventWaitResume Call.result
        dsimp only
        by_cases ok : S.kernel.task.blockStatus S.current = .ok
        · rw [if_neg (not_not_intro ok), if_pos (by rw [running]; exact nofun), if_pos ok, ok]
        · rw [if_pos ok, if_neg ok]
      unfold resume
      dsimp only
      rw [result]
      exact ⟨inv.kernel.setPayload _ _, .returns _ rfl hc running rfl rfl (.inr rfl), .calm (.setPayload _ _ _),
        (BitVec.add_zero _).symm⟩

theorem daemon_step (runs : S.taskRuns cfg = true) :
    Step cfg S (S.run cfg inIsr .daemon).1 .daemon (S.run cfg inIsr .daemon).2 := by
  unfold run daemonStep
  obtain ⟨called, idle⟩ := taskRuns_iff.mp runs
  cases hd : S.daemon with
  | top =>
    have step : Step cfg S (S.semTake cfg false timerSem waitForever).1 .daemon
        (S.semTake cfg false timerSem waitForever).2 :=
      semTake_step inv (fun _ _ => called) (fun _ => idle) rfl nofun
    dsimp only
    split
    · exact step
    · refine ⟨step.kernel, ?_, step.effect, step.clock⟩
      cases step.turn with
      | wakes woken ends call turns ok late => exact .wakes woken ends call turns ok late
      | blocks call ticks k may nonzero blocked => exact absurd blocked ‹_›
      | returns call resume => exact (nomatch resume)
  | taken => exact .same inv rfl nofun rfl nofun
  | callback timerId rest currentTick => exact .same inv rfl nofun rfl nofun
  | gone => exact .same inv rfl nofun rfl nofun

theorem taskExit_step (runs : S.taskRuns cfg = true) (holds : S.kernel.owners.head S.current = none) :
    Step cfg S (S.run cfg inIsr .taskExit).1 .taskExit (S.run cfg inIsr .taskExit).2 := by
  obtain ⟨called, idle⟩ := taskRuns_iff.mp runs
  refine .quiet (taskExit_inv inv.kernel called.reg called.running holds) nofun rfl
    (taskExit_turns ?_) (.special trivial) rfl nofun
  exact fun inside => inside idle

theorem taskYield_step : Step cfg S (S.run cfg inIsr .taskYield).1 .taskYield (S.run cfg inIsr .taskYield).2 := by
  cases inIsr with
  | true => exact .same inv rfl nofun rfl nofun
  | false =>
    exact .quiet inv.kernel.setPending nofun rfl ((setPending_waits _).turns _)
      (.calm (.setPending _)) rfl nofun

theorem run_step (allowed : S.Allowed cfg inIsr op) :
    Step cfg S (S.run cfg inIsr op).1 op (S.run cfg inIsr op).2 := by
  have called : S.mayCall cfg inIsr = true → CalledBy cfg S.kernel inIsr S.current := mayCall_called
  have idle : S.mayCall cfg inIsr = true → Caller cfg S.kernel inIsr S.current → S.call S.current = none :=
    fun may caller => mayCall_idle may caller.started caller.task
  cases op with
  | kernelStart =>
    obtain ⟨kernel, waits⟩ := kernelStart_spec inv.kernel allowed.1
    exact .quiet kernel nofun rfl (waits.turns _) (.special trivial) waits.tickCount
      nofun
  | taskCreate config =>
    exact .quiet (taskCreate_inv inv.kernel config) nofun rfl
      (taskCreate_turns inv.inside config) (.special trivial) (taskCreate_tickCount _ config) nofun
  | taskExit => exact taskExit_step inv allowed.1 allowed.2.2.2
  | taskYield => exact taskYield_step inv
  | taskSetPriority t p =>
    obtain ⟨kernel, waits⟩ := taskSetPriority_spec (t := t) inv.kernel p
    exact .quiet kernel nofun rfl (waits.turns _) (.special trivial) waits.tickCount
      nofun
  | contextSwitch =>
    obtain ⟨kernel, waits⟩ := contextSwitch_spec inv.kernel allowed
    exact .quiet kernel nofun rfl (waits.turns _) (.special trivial) waits.tickCount
      nofun
  | tick => exact tick_step inv
  | resume => exact resume_step inv allowed.2.2.1 allowed.2.2.2
  | semGive s => exact semGive_step inv s
  | mutexUnlock m =>
    obtain ⟨_, rfl⟩ := allowed
    exact mutexUnlock_step inv
  | queueSendFromIsr q item => exact queueSendFromIsr_step inv
  | eventSet e bits => exact eventSet_step inv
  | taskNotify u value => exact taskNotify_step inv
  | daemon => exact daemon_step inv allowed.1
  | taskDelay ticks => exact taskDelay_step inv (called allowed.1) (idle allowed.1)
  | semTake s ticks => exact semTake_step inv (called allowed.1) (idle allowed.1) rfl nofun
  | mutexLock m ticks => exact mutexLock_step inv allowed.2 (called allowed.1) (idle allowed.1)
  | queueSend q item ticks => exact queueSend_step inv (called allowed.1) (idle allowed.1)
  | queueReceive q item ticks => exact queueReceive_step inv (called allowed.1) (idle allowed.1)
  | eventWait e mask options ticks => exact eventWait_step inv (called allowed) (idle allowed)
  | taskNotifyWait clearOnEntry clearOnExit ticks =>
    exact taskNotifyWait_step inv (called allowed) (idle allowed)
  | eventClear e bits => exact .same inv rfl nofun rfl nofun
  | timerInit timerId period isPeriodic => exact .same inv rfl nofun rfl nofun
  | timerStart timerId => exact .same inv rfl nofun rfl nofun
  | timerStop timerId => exact .same inv rfl nofun rfl nofun
  | write buffer bytes => exact .same inv rfl nofun rfl nofun

end System

end XSDK.Rtos
