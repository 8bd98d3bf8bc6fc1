import Mathlib.Algebra.Ring.Nat
import XSDK.Rtos.Peers
import Mathlib.Data.List.Rotate

/-! Round robin: the tick interrupt turns the tasks of one priority by one place. -/
namespace XSDK.Rtos

open Library

variable {cfg : Config} {ring : Finset Nat} {p : Nat}

namespace System

variable {S S' : System} {inIsr : Bool} {op : Op} {line : List Nat}

theorem Serving.still (serving : S.Serving cfg ring p line) (inv : S'.Inv cfg) (after : S'.kernel.Peers ring p)
    (still : Still ring S.kernel S'.kernel) : S'.Serving cfg ring p line ∧ S'.current = S.current := by
  have current : S'.current = S.current := still.currentTaskId
  refine ⟨⟨inv, after, ?_, ?_, still.line p line serving.line⟩, current⟩
  · rw [current]
    exact serving.current
  · rw [current, still.state _ serving.current]
    exact serving.running

theorem Serving.members (serving : S.Serving cfg ring p line) :
    (S.current :: line).Nodup ∧ (S.current :: line).toFinset = ring := by
  obtain ⟨inv, peers, current, running, lists, held, order⟩ := serving
  have inLine : ∀ t, t ∈ line ↔ t ∈ ring ∧ S.kernel.task.state t = .ready := by
    intro t
    rw [← order, List.mem_filter, held.mem, (inv.kernel.task t).ready, decide_eq_true_eq]
    constructor
    · rintro ⟨⟨⟨-, ready⟩, -⟩, mem⟩
      exact ⟨mem, ready⟩
    · rintro ⟨mem, ready⟩
      exact ⟨⟨⟨peers.registered t mem, ready⟩, peers.priority t mem⟩, mem⟩
  have single : ∀ t ∈ ring, S.kernel.task.state t ≠ .ready → t = S.current := by
    intro t mem notReady
    rcases (inv.kernel.task t).live (peers.registered t mem) with ready | runs | blocked
    · exact absurd ready notReady
    · exact ((inv.kernel.task t).running (peers.registered t mem) runs).2.1.symm
    · exact absurd blocked (peers.active t mem)
  constructor
  · refine List.nodup_cons.mpr ⟨fun mem => ?_, ?_⟩
    · have ready := ((inLine _).mp mem).2
      rw [running] at ready
      cases ready
    · rw [← order]
      exact (held.links p).nodup.filter _
  · ext t
    rw [List.mem_toFinset, List.mem_cons, inLine]
    constructor
    · rintro (rfl | ⟨mem, -⟩)
      · exact current
      · exact mem
    · intro mem
      by_cases ready : S.kernel.task.state t = .ready
      · exact .inr ⟨mem, ready⟩
      · exact .inl (single t mem ready)

theorem Serving.start (inv : S.Inv cfg) (peers : S.kernel.Peers ring p) (current : S.current ∈ ring)
    (running : S.kernel.task.state S.current = .running) : ∃ line, S.Serving cfg ring p line := by
  obtain ⟨lists, held⟩ := inv.kernel.lists.ready
  exact ⟨_, inv, peers, current, running, lists, held, rfl⟩

/-- The tick interrupt with the switch that the port makes when the tick reports one. -/
def tickIsr (cfg : Config) (S : System) : System :=
  if (S.tick cfg).kernel.scheduler.isSchedulePending = true then ((S.tick cfg).run cfg true .contextSwitch).1
  else S.tick cfg

theorem signalTimers_still (inv : S.kernel.Inv cfg) (awake : ∀ c ∈ ring, S.kernel.task.state c ≠ .blocked) :
    Still ring S.kernel (S.signalTimers cfg).kernel := by
  unfold signalTimers
  split
  · exact semGive_still inv awake timerSem
  · exact .refl _

theorem tick_still (inv : S.kernel.Inv cfg) (peers : S.kernel.Peers ring p)
    (undisturbed : S.Undisturbed cfg ring .tick) :
    Still ring S.kernel ({ S with kernel := tickTimeouts cfg S.kernel }.signalTimers cfg).kernel := by
  have timeouts := tickTimeouts_still inv peers undisturbed
  obtain ⟨inv₁, -⟩ := tickTimeouts_spec inv
  refine timeouts.trans (signalTimers_still (S := { S with kernel := tickTimeouts cfg S.kernel }) inv₁ fun c mem => ?_)
  dsimp only
  rw [timeouts.state c mem]
  exact peers.active c mem

theorem tick_serves (robin : cfg.roundRobin = true) (serving : S.Serving cfg ring p line)
    (undisturbed : S.Undisturbed cfg ring .tick) (after : (S.tick cfg).kernel.Peers ring p) :
    ((S.tick cfg).Serving cfg ring p line ∧ (S.tick cfg).current = S.current) ∧
      ((S.tick cfg).kernel.scheduler.isSchedulePending = false → line = []) := by
  have first := tick_still serving.inv.kernel serving.peers undisturbed
  have last : ∀ k : Kernel, Still ring k (tickRoundRobin cfg k) := by
    intro k
    unfold tickRoundRobin
    split
    · exact .of_eq rfl rfl rfl rfl
    · exact .refl k
  have inv : (S.run cfg true .tick).1.Inv cfg := serving.inv.run rfl
  have stands := serving.still inv after (first.trans (last _))
  refine ⟨stands, fun calm => ?_⟩
  by_contra someone
  -- the last check sees the same lists as the tick leaves behind
  have before : ({ S with kernel := tickTimeouts cfg S.kernel }.signalTimers cfg).kernel.Inv cfg := by
    obtain ⟨inv₁, -⟩ := tickTimeouts_spec serving.inv.kernel
    obtain ⟨_, frees, -⟩ := signalTimers_spec (S := { S with kernel := tickTimeouts cfg S.kernel }) inv₁
    exact frees.inv
  have same : ∀ k : Kernel, (tickRoundRobin cfg k).taskTable = k.taskTable ∧
      (tickRoundRobin cfg k).effectivePriority = k.effectivePriority := by
    intro k
    unfold tickRoundRobin
    split <;> exact ⟨rfl, rfl⟩
  have asks := tickRoundRobin_pending robin before
    ((congrFun (same _).1 S.current).symm.trans (after.registered _ serving.current))
    ((first.state _ serving.current).trans serving.running)
    ((congrFun (same _).2 S.current).symm.trans (after.priority _ serving.current))
    (first.line p line serving.line) someone
  have asked : (S.tick cfg).kernel.scheduler.isSchedulePending = true := asks
  rw [asked] at calm
  cases calm

theorem tickIsr_rotates (robin : cfg.roundRobin = true) (serving : S.Serving cfg ring p line)
    (undisturbed : S.Undisturbed cfg ring .tick) (after : (S.tick cfg).kernel.Peers ring p) :
    ∃ rest, (S.tickIsr cfg).Serving cfg ring p rest ∧ (S.tickIsr cfg).current :: rest = line ++ [S.current] := by
  obtain ⟨⟨ticked, current⟩, calm⟩ := tick_serves robin serving undisturbed after
  unfold tickIsr
  by_cases pending : (S.tick cfg).kernel.scheduler.isSchedulePending = true
  · rw [if_pos pending]
    have started := ((ticked.inv.kernel.task _).running (ticked.peers.registered _ ticked.current) ticked.running).1
    obtain ⟨c, rest, split, runs, running, lined⟩ :=
      contextSwitch_rotates ticked.inv.kernel ticked.peers ticked.current ticked.running ticked.line
    have inv : ((S.tick cfg).run cfg true .contextSwitch).1.Inv cfg := ticked.inv.run started
    have graph := contextSwitch_graph ticked.inv.kernel started
    obtain ⟨-, waits⟩ := contextSwitch_spec ticked.inv.kernel started
    have peers : (contextSwitch cfg (S.tick cfg).kernel).Peers ring p := by
      have awake : ∀ t, (contextSwitch cfg (S.tick cfg).kernel).task.state t ≠ .blocked →
          (S.tick cfg).kernel.task.state t ≠ .blocked :=
        fun t active blocked => active ((waits.blocked t).mpr ⟨blocked, rfl⟩)
      refine ⟨fun t mem => ?_, fun t mem => ?_, fun t mem blocked => ?_, fun t reg out active => ?_⟩
      · rw [graph.taskTable]
        exact after.registered t mem
      · rw [graph.effectivePriority]
        exact after.priority t mem
      · exact after.active t mem ((waits.blocked t).mp blocked).1
      · rw [graph.taskTable] at reg
        rw [graph.effectivePriority]
        exact after.others t reg out (awake t active)
    have member : c ∈ ring := by
      have all := ticked.members.2
      rw [← all, List.mem_toFinset]
      have here : c ∈ line ++ [(S.tick cfg).current] := by
        rw [show line ++ [(S.tick cfg).current] = c :: rest from split]
        exact List.mem_cons_self
      rcases List.mem_append.mp here with old | new
      · exact List.mem_cons_of_mem _ old
      · rw [List.mem_singleton.mp new]
        exact List.mem_cons_self
    have current' : ((S.tick cfg).run cfg true .contextSwitch).1.current = c := runs
    refine ⟨rest, ⟨inv, peers, ?_, ?_, lined⟩, ?_⟩
    · rw [current']
      exact member
    · rw [current']
      exact running
    · rw [current', ← current]
      exact split.symm
  · rw [if_neg pending]
    have empty := calm (by simpa using pending)
    subst empty
    exact ⟨[], ticked, by rw [current]; rfl⟩

end System

/-- One round: the tick interrupt, and then what happens before the next one. The peers stay
peers all the time, and only the tick's interrupt switches. -/
structure Round (cfg : Config) (ring : Finset Nat) (p : Nat) (S : System) (gap : Trace) (S' : System) : Prop where
  ticked : (S.tick cfg).kernel.Peers ring p
  run : (machine cfg).Run (S.tickIsr cfg) gap S'
  calm : ∀ tr ∈ gap, tr.input.op ≠ .tick ∧ tr.input.op ≠ .contextSwitch
  peers : ∀ tr ∈ gap, tr.post.kernel.Peers ring p

/-- No step of a round makes a ready peer compute its priority again. -/
def RoundUndisturbed (cfg : Config) (ring : Finset Nat) (S : System) (gap : Trace) : Prop :=
  S.Undisturbed cfg ring .tick ∧ ∀ tr ∈ gap, tr.pre.Undisturbed cfg ring tr.input.op

def System.Serves (S : System) (t : Nat) : Prop := S.current = t ∧ S.kernel.task.state t = .running

/-- The tasks take their turns in a fixed cyclic order, and in every window of as many ticks as
there are tasks each of them has one turn. -/
structure Fair (ring : Finset Nat) (S : Nat → System) (n : Nat) : Prop where
  cycle : ∃ order : List Nat, order.Nodup ∧ order.toFinset = ring ∧
    ∀ i, i ≤ n → ∃ t, order[i % ring.card]? = some t ∧ (S i).Serves t
  window : ∀ i, i + ring.card ≤ n + 1 → ∀ t ∈ ring, ∃! j, j < ring.card ∧ (S (i + j)).Serves t

theorem head_rotate (l : List Nat) (i : Nat) : (l.rotate i).head? = l[i % l.length]? := by
  cases l with
  | nil => simp
  | cons a l =>
    rw [← List.rotate_mod, List.head?_rotate (Nat.mod_lt _ (by simp))]

theorem rotate_window {l : List Nat} (nodup : l.Nodup) {t : Nat} (mem : t ∈ l) (i : Nat) :
    ∃! j, j < l.length ∧ (l.rotate (i + j)).head? = some t := by
  have turned : ∀ j, j < l.length → (l.rotate (i + j)).head? = (l.rotate i)[j]? := by
    intro j lt
    rw [← List.rotate_rotate, List.head?_rotate (by rwa [List.length_rotate])]
  obtain ⟨j, lt, same⟩ := List.mem_iff_getElem.mp (List.mem_rotate.mpr mem : t ∈ l.rotate i)
  have bound : j < l.length := by rwa [List.length_rotate] at lt
  refine ⟨j, ⟨bound, ?_⟩, ?_⟩
  · rw [turned j bound, List.getElem?_eq_getElem lt, same]
  · rintro j' ⟨bound', front⟩
    have lt' : j' < (l.rotate i).length := by rwa [List.length_rotate]
    rw [turned j' bound', List.getElem?_eq_getElem lt', ← same] at front
    exact (List.Nodup.getElem_inj_iff (List.nodup_rotate.mpr nodup)).mp (Option.some.inj front)

section Rounds

variable {S : Nat → System} {gap : Nat → Trace} {n : Nat}

theorem gap_serves {A B : System} {trace : Trace} {line : List Nat} (serving : A.Serving cfg ring p line)
    (run : (machine cfg).Run A trace B) (calm : ∀ tr ∈ trace, tr.input.op ≠ .tick ∧ tr.input.op ≠ .contextSwitch)
    (peers : ∀ tr ∈ trace, tr.post.kernel.Peers ring p)
    (undisturbed : ∀ tr ∈ trace, tr.pre.Undisturbed cfg ring tr.input.op) :
    B.Serving cfg ring p line ∧ B.current = A.current := by
  refine run.invariant_of (P := fun T => T.Serving cfg ring p line ∧ T.current = A.current)
    (Q := fun tr => (tr.input.op ≠ .tick ∧ tr.input.op ≠ .contextSwitch) ∧ tr.post.kernel.Peers ring p ∧
      tr.pre.Undisturbed cfg ring tr.input.op) (fun tr mem => ⟨calm tr mem, peers tr mem, undisturbed tr mem⟩)
    ⟨serving, rfl⟩ ?_
  rintro T request ⟨serves, current⟩ allowed ⟨⟨notTick, notSwitch⟩, after, quiet⟩
  have still := System.run_still serves allowed quiet notTick notSwitch after
  obtain ⟨serves', same⟩ := serves.still (serves.inv.run allowed) after still
  exact ⟨serves', same.trans current⟩

theorem rounds_rotate (robin : cfg.roundRobin = true) {line : List Nat} (serving : (S 0).Serving cfg ring p line)
    (rounds : ∀ i, i < n → Round cfg ring p (S i) (gap i) (S (i + 1)))
    (undisturbed : ∀ i, i < n → RoundUndisturbed cfg ring (S i) (gap i)) {i : Nat} (le : i ≤ n) :
    ∃ rest, (S i).Serving cfg ring p rest ∧ (S i).current :: rest = ((S 0).current :: line).rotate i := by
  induction i with
  | zero => exact ⟨line, serving, (List.rotate_zero _).symm⟩
  | succ i ih =>
    obtain ⟨here, serves, turned⟩ := ih (Nat.le_of_succ_le le)
    have round := rounds i le
    obtain ⟨quietTick, quiet⟩ := undisturbed i le
    obtain ⟨rest, served, next⟩ := System.tickIsr_rotates robin serves quietTick round.ticked
    obtain ⟨serves', same⟩ := gap_serves served round.run round.calm round.peers quiet
    refine ⟨rest, serves', ?_⟩
    rw [same, next, ← List.rotate_rotate, ← turned, List.rotate_cons_succ, List.rotate_zero]

end Rounds

/-- A configuration with round robin: the daemon is task 4 and the idle task is task 5. -/
def turns : Config where
  maxTasks := 6
  maxPriorities := 16
  maxTimers := 3
  mutexCount := 2
  timerTaskPriority := 1
  minStackWords := 1
  roundRobin := true
  tasks_ok := by decide
  priorities_ok := sample.priorities_ok
  timers_ok := sample.timers_ok
  tasks_word := by decide
  priorities_word := sample.priorities_word

def turnsStart : System := .fresh turns 1 0#32 (fun _ => ⟨0, 1⟩) fun _ => ⟨fun _ => 0, 1, 1, 0, 0, 0⟩

theorem turnsStart_boot : System.Boot turns turnsStart :=
  System.fresh_boot (fun _ => ⟨0, 1, rfl⟩) rfl fun _ => ⟨fun _ => 0, 1, 1, rfl⟩

/-- Task 1 owns a mutex that task 3 waits for, some ticks long; then tasks 0, 1 and 2 take turns. -/
def turnsSetup (ticks : Word) : List Request :=
  [create 5 15, create 1 5, create 3 7, ⟨.kernelStart, false⟩, ⟨.daemon, false⟩, ⟨.contextSwitch, true⟩,
    ⟨.mutexLock 0 0#32, false⟩, ⟨.taskDelay 1#32, false⟩, ⟨.contextSwitch, true⟩, ⟨.mutexLock 0 ticks, false⟩,
    ⟨.contextSwitch, true⟩, ⟨.tick, true⟩, ⟨.contextSwitch, true⟩, ⟨.taskCreate ⟨0, 5, true, true, 1⟩, true⟩,
    ⟨.taskCreate ⟨2, 5, true, true, 1⟩, true⟩, ⟨.tick, true⟩, ⟨.contextSwitch, true⟩]

/-- The states before each tick when nothing but the ticks happens. -/
def turnsAt (ticks : Word) : Nat → System
  | 0 => (machine turns).play turnsStart (turnsSetup ticks)
  | i + 1 => (turnsAt ticks i).tickIsr turns

def Kernel.peersBelow (k : Kernel) (ring : Finset Nat) (p bound : Nat) : Bool :=
  (List.range bound).all fun t =>
    if t ∈ ring then k.taskTable t && decide (k.effectivePriority t = p) && decide (k.task.state t ≠ .blocked)
    else !k.taskTable t || decide (k.task.state t = .blocked) || decide (p < k.effectivePriority t)

theorem Kernel.Inv.peers {k : Kernel} (inv : k.Inv cfg) (inside : ∀ t ∈ ring, t < cfg.maxTasks)
    (all : k.peersBelow ring p cfg.maxTasks = true) : k.Peers ring p := by
  have each : ∀ t, t < cfg.maxTasks → _ := fun t lt => List.all_eq_true.mp all t (List.mem_range.mpr lt)
  have mine : ∀ t ∈ ring, (k.taskTable t = true ∧ k.effectivePriority t = p) ∧ k.task.state t ≠ .blocked := by
    intro t mem
    have test := each t (inside t mem)
    rw [if_pos mem] at test
    simpa using test
  refine ⟨fun t mem => (mine t mem).1.1, fun t mem => (mine t mem).1.2, fun t mem => (mine t mem).2,
    fun t reg out awake => ?_⟩
  have test := each t (inv.lists.lt t reg)
  rw [if_neg out] at test
  simpa [reg, awake] using test

theorem System.Inv.tickIsr {S : System} (inv : S.Inv cfg)
    (started : (S.tick cfg).kernel.scheduler.isStarted = true) : (S.tickIsr cfg).Inv cfg := by
  have ticked : (S.run cfg true .tick).1.Inv cfg := inv.run rfl
  unfold System.tickIsr
  split
  · exact System.Inv.run ticked started
  · exact ticked

/-- No timeout expires in a tick of which a test over the identifiers says so. -/
theorem System.Inv.undisturbed {S : System} (inv : S.Inv cfg)
    (calm : (List.range cfg.maxTasks).all (fun t => !expired (ticked S.kernel) t) = true) :
    S.Undisturbed cfg ring .tick := by
  intro t late
  obtain ⟨timed, -⟩ := expired_iff.mp late
  have lt := inv.kernel.lists.lt t ((inv.kernel.task t).timeout timed).1
  have quiet := List.all_eq_true.mp calm t (List.mem_range.mpr lt)
  rw [late] at quiet
  cases quiet

theorem turns_inv {ticks : Word} (permits : turnsStart.permitsAll turns (turnsSetup ticks) = true) (i : Nat)
    (started : ∀ j, j < i → ((turnsAt ticks j).tick turns).kernel.scheduler.isStarted = true) :
    (turnsAt ticks i).Inv turns := by
  induction i with
  | zero => exact Reachable.inv ⟨_, _, run_of_permits turnsStart_boot permits⟩
  | succ i ih => exact (ih fun j lt => started j (Nat.lt_succ_of_lt lt)).tickIsr (started i (Nat.lt_succ_self i))

theorem turns_round {ticks : Word} {i : Nat} (inv : (turnsAt ticks i).Inv turns) (inside : ∀ t ∈ ring, t < 6)
    (all : ((turnsAt ticks i).tick turns).kernel.peersBelow ring p 6 = true) :
    Round turns ring p (turnsAt ticks i) [] (turnsAt ticks (i + 1)) := by
  have ticked : ((turnsAt ticks i).run turns true .tick).1.Inv turns := inv.run rfl
  refine ⟨ticked.kernel.peers inside all, .nil, ?_, ?_⟩
  · exact fun tr mem => absurd mem List.not_mem_nil
  · exact fun tr mem => absurd mem List.not_mem_nil

end XSDK.Rtos
