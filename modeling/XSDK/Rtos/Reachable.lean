import XSDK.Rtos.Steps

/-! The system's invariant in every reachable state, and how each task gets on with
its blocking call in one step. -/
namespace XSDK.Rtos

open Function (update update_self update_of_ne)
open Library

variable {cfg : Config}

/-- The system as a machine: its inputs are the calls, interrupts and switches. -/
def machine (cfg : Config) : Machine System Request Outcome :=
  ⟨fun S request => S.Allowed cfg request.inIsr request.op, fun S request => S.run cfg request.inIsr request.op⟩

abbrev Trace := List (Transition System Request Outcome)

def Run (cfg : Config) (S₀ : System) (trace : Trace) (S : System) : Prop :=
  System.Boot cfg S₀ ∧ (machine cfg).Run S₀ trace S

def Reachable (cfg : Config) (S : System) : Prop := ∃ S₀ trace, Run cfg S₀ trace S

/-- The blocking call that a step brings to its end, at once or after a wait. The daemon's
code calls at the top of its loop only. -/
def System.ending (S : System) (op : Op) (outcome : Outcome) : Option Call :=
  if outcome = .blocked then none
  else
    match op with
    | .resume => S.call S.current
    | .daemon => if S.daemon = .top then some (.semTake timerSem) else none
    | op => op.call.map Prod.fst

/-- A call of a task ends in a transition with an outcome. -/
def Ends (tr : Transition System Request Outcome) (t : Nat) (call : Call) (outcome : Outcome) : Prop :=
  tr.pre.current = t ∧ tr.output = outcome ∧ tr.pre.ending tr.input.op tr.output = some call

variable {call : Call}

theorem System.ending_cases {S : System} {op : Op} {outcome : Outcome}
    (h : S.ending op outcome = some call) : outcome ≠ .blocked ∧
      ((∃ ticks, op.call = some (call, ticks) ∧ (op = .daemon → S.daemon = .top)) ∨
        (op = .resume ∧ S.call S.current = some call)) := by
  unfold ending at h
  split at h
  · cases h
  · rename_i ends
    refine ⟨ends, ?_⟩
    split at h
    · exact .inr ⟨rfl, h⟩
    · split at h
      · rename_i top
        cases h
        exact .inl ⟨_, rfl, fun _ => top⟩
      · cases h
    · rename_i other
      obtain ⟨⟨c, ticks⟩, may, rfl⟩ := Option.map_eq_some_iff.mp h
      exact .inl ⟨ticks, may, fun e => absurd e other⟩

/- The initial state. -/

theorem Kernel.cleared_inv : Kernel.cleared.Inv cfg := by
  refine ⟨⟨⟨_, ReadyLists.empty_holds _⟩, ⟨_, WaitLists.empty_holds, fun m => List.Pairwise.nil⟩,
    ⟨_, OwnerLists.empty_holds⟩, fun t e => (nomatch e), fun t e => (nomatch e), fun t e => (nomatch e),
    fun t m e => (nomatch e), fun m e => absurd rfl e⟩, fun t => ?_⟩
  refine ⟨fun e => (nomatch e), ?_, ?_, fun e => (nomatch e), ?_, fun e => (nomatch e), ?_, ?_, fun e => (nomatch e)⟩
  · simp [Kernel.cleared, ReadyLists.empty]
  · simp [Kernel.cleared]
  · simp [Kernel.cleared]
  · simp [Kernel.cleared]
  · simp [Kernel.cleared, WaitLists.empty]

variable {k : Kernel}

theorem Kernel.Inv.setTick (h : k.Inv cfg) (tickCount : Word) : Kernel.Inv cfg { k with tickCount := tickCount } := by
  obtain ⟨l, tasks⟩ := h
  refine ⟨⟨l.ready, l.waiters, l.owners, l.lt, l.eff, l.base, l.waiter, l.owner⟩, fun u => ?_⟩
  exact (tasks u).congr ⟨rfl, rfl, rfl, rfl, rfl, rfl, fun _ => rfl, rfl, rfl⟩ (tasks u).running

theorem kernelInit_unblocked (cfg : Config) (words : Nat) (t : Nat) :
    ((kernelInit cfg words).1.taskTable t = true → (kernelInit cfg words).1.task.state t = .ready) ∧
      (kernelInit cfg words).1.scheduler.isStarted = false := by
  unfold kernelInit
  rcases taskCreate_cases cfg Kernel.cleared
      { taskId := cfg.timerTaskId, priority := cfg.timerTaskPriority, hasEntry := true, hasStack := true,
        stackWords := words } with ⟨ret, eq, _⟩ | ⟨_, _, _, pending, eq, _⟩
  · rw [eq]
    exact ⟨fun e => (nomatch e), rfl⟩
  · rw [eq]
    have state : ∀ u p, (registerTask Kernel.cleared u p).task.state t = .ready := by
      intro u p
      by_cases ht : t = u
      · simp [registerTask, initTaskContext, readyAdd, ht]
      · simp [registerTask, initTaskContext, readyAdd, Kernel.cleared]
    cases pending with
    | true => exact ⟨fun _ => state _ _, rfl⟩
    | false => exact ⟨fun _ => state _ _, rfl⟩

namespace System

variable {S S' : System} {op : Op} {outcome : Outcome}

theorem Boot.inv (boot : Boot cfg S) : S.Inv cfg := by
  obtain ⟨words, tickCount, eq, _⟩ := boot.kernel
  have kernel : S.kernel.Inv cfg := by
    rw [eq]
    exact (taskCreate_inv Kernel.cleared_inv _).setTick tickCount
  refine ⟨kernel, fun t inside => absurd (boot.call t) inside, fun t reg blocked => ?_,
    fun t inside => absurd (boot.call t) inside⟩
  rw [eq] at reg blocked
  have ready := (kernelInit_unblocked cfg words t).1 reg
  exact absurd (ready.symm.trans blocked) nofun

/- One step. -/

variable {woken : Nat → Option Return} {deadline : Option Word} {inIsr : Bool}

theorem Inv.turns (S' : System) (inv : S.Inv cfg) (kernel : S'.kernel.Inv cfg)
    (turns : Turns S.Inside S.kernel S'.kernel woken) (call : S'.call = S.call)
    (wakes : ∀ t r, woken t = some r → r = .ok ∨ r = .timeout) : S'.Inv cfg := by
  have same : ∀ t, S'.Inside t ↔ S.Inside t := fun t => by rw [Inside, Inside, call]
  refine ⟨kernel, fun t inside => ?_, fun t reg blocked => ?_, fun t inside awake => ?_⟩
  · have before := (same t).mp inside
    rw [turns.table t before]
    exact inv.inside t before
  · by_cases inside : S.Inside t
    · rw [turns.table t inside] at reg
      obtain ⟨blocked, asleep⟩ := (turns.blocked t inside).mp blocked
      obtain ⟨c, hc, ptr, payload⟩ := inv.waiting t reg blocked
      exact ⟨c, by rw [call]; exact hc, by rw [turns.waitMapPtr t inside asleep]; exact ptr,
        by rw [turns.blockPayload t inside asleep]; exact payload⟩
    · obtain ⟨reg, blocked⟩ := turns.outside t inside reg blocked
      obtain ⟨c, hc, _⟩ := inv.waiting t reg blocked
      exact absurd (by rw [Inside, hc]; exact nofun) inside
  · have before := (same t).mp inside
    rw [turns.blockStatus t before]
    cases hw : woken t with
    | some r => exact wakes t r hw
    | none =>
      refine inv.ended t before fun blocked => awake ?_
      exact (turns.blocked t before).mpr ⟨blocked, hw⟩

theorem Step.inv (inv : S.Inv cfg) (step : Step cfg S S' op outcome) : S'.Inv cfg := by
  cases step.turn with
  | wakes woken ends call turns ok late =>
    refine inv.turns S' step.kernel turns call fun t r e => ?_
    by_cases lateR : r = .timeout
    · exact .inr lateR
    · exact .inl (ok t r e lateR).1
  | blocks call ticks k may nonzero blocked runs idle start blocks calls =>
    have table : k.taskTable = S.kernel.taskTable := by
      rcases start with rfl | ⟨_, rfl⟩
      · rfl
      · rfl
    have task : k.task.state = S.kernel.task.state ∧ k.task.waitMapPtr = S.kernel.task.waitMapPtr ∧
        k.task.blockPayload = S.kernel.task.blockPayload ∧ k.task.blockStatus = S.kernel.task.blockStatus := by
      rcases start with rfl | ⟨_, rfl⟩
      · exact ⟨rfl, rfl, rfl, rfl⟩
      · exact ⟨rfl, rfl, rfl, rfl⟩
    obtain ⟨state, ptr, payload, status⟩ := task
    refine ⟨step.kernel, fun t inside => ?_, fun t reg isBlocked => ?_, fun t inside awake => ?_⟩
    · rw [blocks.taskTable, table]
      by_cases ht : t = S.current
      · rw [ht]
        exact runs.reg
      · rw [Inside, calls, update_of_ne ht] at inside
        exact inv.inside t inside
    · rw [blocks.taskTable, table] at reg
      rw [blocks.state, state] at isBlocked
      rw [calls, blocks.waitMapPtr, blocks.blockPayload, ptr, payload]
      by_cases ht : t = S.current
      · rw [ht]
        exact ⟨call, update_self .., update_self .., update_self ..⟩
      · rw [update_of_ne ht] at isBlocked
        rw [update_of_ne ht, update_of_ne ht, update_of_ne ht]
        exact inv.waiting t reg isBlocked
    · rw [blocks.state, state] at awake
      rw [blocks.blockStatus, status]
      by_cases ht : t = S.current
      · rw [ht, update_self] at awake
        exact absurd rfl awake
      · rw [Inside, calls, update_of_ne ht] at inside
        rw [update_of_ne ht] at awake ⊢
        exact inv.ended t inside awake
  | returns call resume inside running result calls kernel =>
    have same : S'.kernel.taskTable = S.kernel.taskTable ∧ S'.kernel.task.state = S.kernel.task.state ∧
        S'.kernel.task.waitMapPtr = S.kernel.task.waitMapPtr ∧
        S'.kernel.task.blockStatus = S.kernel.task.blockStatus := by
      rcases kernel with e | e
      · rw [e]
        exact ⟨rfl, rfl, rfl, rfl⟩
      · rw [e]
        exact ⟨rfl, rfl, rfl, rfl⟩
    obtain ⟨table, state, ptr, status⟩ := same
    have payload : ∀ t, t ≠ S.current → S'.kernel.task.blockPayload t = S.kernel.task.blockPayload t := by
      intro t ht
      rcases kernel with e | e
      · rw [e]
      · rw [e]
        exact update_of_ne ht _ _
    refine ⟨step.kernel, fun t inside => ?_, fun t reg blocked => ?_, fun t inside awake => ?_⟩
    · rw [table]
      by_cases ht : t = S.current
      · rw [Inside, calls, ht, update_self] at inside
        exact absurd rfl inside
      · rw [Inside, calls, update_of_ne ht] at inside
        exact inv.inside t inside
    · rw [state] at blocked
      rw [table] at reg
      have ht : t ≠ S.current := by
        rintro rfl
        rw [running] at blocked
        cases blocked
      rw [calls, update_of_ne ht, ptr, payload t ht]
      exact inv.waiting t reg blocked
    · rw [state] at awake
      rw [status]
      by_cases ht : t = S.current
      · rw [Inside, calls, ht, update_self] at inside
        exact absurd rfl inside
      · rw [Inside, calls, update_of_ne ht] at inside
        exact inv.ended t inside awake

inductive Moves (cfg : Config) (S S' : System) (op : Op) (outcome : Outcome) (t : Nat) : Prop
  | stays (same : S'.progress t = S.progress t)
  | enters (call : Call) (ticks : Word) (here : t = S.current) (may : op.call = some (call, ticks))
      (nonzero : ticks ≠ noWait) (blocked : outcome = .blocked) (runs : Runs cfg S.kernel t)
      (pre : S.progress t = .free)
      (post : S'.progress t = .waiting call
        (if ticks = waitForever then none else some (S.kernel.tickCount + ticks)))
  | woken (call : Call) (deadline : Option Word) (w : WaitObject) (pre : S.progress t = .waiting call deadline)
      (target : call.target = some w) (wakes : op.wakes = some w)
      (post : S'.progress t = .ended call .ok (S'.kernel.task.blockPayload t))
  | late (call : Call) (wake : Word) (pre : S.progress t = .waiting call (some wake)) (tick : op = .tick)
      (expired : tickHasExpired (S.kernel.tickCount + 1#32) wake = true)
      (post : S'.progress t = .ended call .timeout (S'.kernel.task.blockPayload t))
  | returns (call : Call) (status : Return) (payload : Payload) (here : t = S.current) (resume : op = .resume)
      (pre : S.progress t = .ended call status payload) (result : outcome = call.result status payload)
      (post : S'.progress t = .free)

variable {t : Nat}

theorem progress_waiting
    (h : S.progress t = .waiting call deadline) : S.call t = some call ∧ S.kernel.task.state t = .blocked ∧
      deadline = if S.kernel.timeoutMap.isSet t = true then some (S.kernel.task.wakeTick t) else none := by
  unfold progress at h
  cases hc : S.call t with
  | none =>
    rw [hc] at h
    cases h
  | some c =>
    rw [hc] at h
    dsimp only at h
    split at h
    · rename_i blocked
      cases h
      exact ⟨rfl, blocked, rfl⟩
    · cases h

theorem progress_ended {status : Return} {payload : Payload}
    (h : S.progress t = .ended call status payload) : S.call t = some call ∧
      S.kernel.task.state t ≠ .blocked ∧ S.kernel.task.blockStatus t = status ∧
      S.kernel.task.blockPayload t = payload := by
  unfold progress at h
  cases hc : S.call t with
  | none =>
    rw [hc] at h
    cases h
  | some c =>
    rw [hc] at h
    dsimp only at h
    split at h
    · cases h
    · rename_i awake
      cases h
      exact ⟨rfl, awake, rfl, rfl⟩

theorem progress_free : S.progress t = .free ↔ S.call t = none := by
  unfold progress
  cases hc : S.call t with
  | none => simp
  | some c =>
    dsimp only
    split <;> simp

theorem progress_of_blocked (hc : S.call t = some call)
    (blocked : S.kernel.task.state t = .blocked) : S.progress t = .waiting call
      (if S.kernel.timeoutMap.isSet t = true then some (S.kernel.task.wakeTick t) else none) := by
  unfold progress
  rw [hc]
  dsimp only
  rw [if_pos blocked]

theorem progress_of_awake (hc : S.call t = some call)
    (awake : S.kernel.task.state t ≠ .blocked) : S.progress t =
      .ended call (S.kernel.task.blockStatus t) (S.kernel.task.blockPayload t) := by
  unfold progress
  rw [hc]
  dsimp only
  rw [if_neg awake]

theorem Inv.progress_waiting (inv : S.Inv cfg)
    (h : S.progress t = .waiting call deadline) : S.kernel.taskTable t = true ∧
      S.kernel.task.state t = .blocked ∧ S.kernel.task.waitMapPtr t = call.target ∧
      S.kernel.task.blockPayload t = call.payload := by
  obtain ⟨hc, blocked, _⟩ := System.progress_waiting h
  have reg := inv.inside t (by rw [Inside, hc]; exact nofun)
  obtain ⟨c, hc', ptr, payload⟩ := inv.waiting t reg blocked
  rw [hc] at hc'
  cases hc'
  exact ⟨reg, blocked, ptr, payload⟩

theorem Inv.waitsOn_iff (inv : S.Inv cfg) {w : WaitObject} :
    S.kernel.WaitsOn t w ↔ ∃ call deadline, S.progress t = .waiting call deadline ∧ call.target = some w := by
  constructor
  · rintro ⟨reg, blocked, ptr⟩
    obtain ⟨c, hc, ptr', _⟩ := inv.waiting t reg blocked
    exact ⟨c, _, progress_of_blocked hc blocked, ptr'.symm.trans ptr⟩
  · rintro ⟨c, deadline, h, target⟩
    obtain ⟨reg, blocked, ptr, _⟩ := inv.progress_waiting h
    exact ⟨reg, blocked, ptr.trans target⟩

theorem expired_iff : expired (ticked k) t = true ↔
    k.timeoutMap.isSet t = true ∧ tickHasExpired (k.tickCount + 1#32) (k.task.wakeTick t) = true := by
  simp [expired, ticked]

theorem progress_turns (S' : System) (turns : Turns S.Inside S.kernel S'.kernel woken)
    (call : S'.call = S.call) (t : Nat) : S'.progress t = match woken t with
      | none => S.progress t
      | some r => (S.progress t).wake r (S'.kernel.task.blockPayload t) := by
  cases hc : S.call t with
  | none =>
    rw [progress_free.mpr hc, progress_free.mpr (by rw [call]; exact hc)]
    cases woken t <;> rfl
  | some c =>
    have inside : S.Inside t := by rw [Inside, hc]; exact nofun
    have hc' : S'.call t = some c := by rw [call]; exact hc
    cases hw : woken t with
    | none =>
      dsimp only
      by_cases blocked : S.kernel.task.state t = .blocked
      · rw [progress_of_blocked hc blocked,
          progress_of_blocked hc' ((turns.blocked t inside).mpr ⟨blocked, hw⟩), turns.timeout t inside,
          turns.wakeTick t inside]
        simp [hw]
      · have awake : S'.kernel.task.state t ≠ .blocked :=
          fun e => blocked ((turns.blocked t inside).mp e).1
        rw [progress_of_awake hc blocked, progress_of_awake hc' awake, turns.blockStatus t inside,
          turns.blockPayload t inside hw, hw]
        rfl
    | some r =>
      obtain ⟨reg, blocked⟩ := turns.woke t (by rw [hw]; exact nofun)
      have awake : S'.kernel.task.state t ≠ .blocked := by
        intro e
        have none := ((turns.blocked t inside).mp e).2
        rw [hw] at none
        cases none
      rw [progress_of_blocked hc blocked, progress_of_awake hc' awake, turns.blockStatus t inside, hw]
      rfl

theorem Step.moves (inv : S.Inv cfg) (step : Step cfg S S' op outcome) (t : Nat) : Moves cfg S S' op outcome t := by
  cases step.turn with
  | wakes woken ends call turns ok late =>
    have progress := progress_turns S' turns call t
    cases hw : woken t with
    | none =>
      rw [hw] at progress
      exact .stays progress
    | some r =>
      rw [hw] at progress
      obtain ⟨reg, blocked⟩ := turns.woke t (by rw [hw]; exact nofun)
      obtain ⟨c, hc, ptr, _⟩ := inv.waiting t reg blocked
      have pre := progress_of_blocked hc blocked
      have post : S'.progress t = .ended c r (S'.kernel.task.blockPayload t) := by
        rw [progress, pre]
        rfl
      by_cases lateR : r = .timeout
      · subst lateR
        obtain ⟨tick, due⟩ := (late t).mp hw
        obtain ⟨timed, due⟩ := expired_iff.mp due
        rw [if_pos timed] at pre
        exact .late c _ pre tick due post
      · obtain ⟨rfl, w, wakes, target⟩ := ok t r hw lateR
        exact .woken c _ w pre (ptr.symm.trans target) wakes post
  | blocks call ticks k may nonzero blocked runs idle start blocks calls =>
    have task : k.task.state = S.kernel.task.state ∧ k.task.blockStatus = S.kernel.task.blockStatus ∧
        k.task.blockPayload = S.kernel.task.blockPayload ∧ k.task.wakeTick = S.kernel.task.wakeTick ∧
        k.timeoutMap = S.kernel.timeoutMap ∧ k.tickCount = S.kernel.tickCount := by
      rcases start with rfl | ⟨_, rfl⟩
      · exact ⟨rfl, rfl, rfl, rfl, rfl, rfl⟩
      · exact ⟨rfl, rfl, rfl, rfl, rfl, rfl⟩
    obtain ⟨state, status, payload, wakeTick, timeoutMap, tickCount⟩ := task
    by_cases ht : t = S.current
    · subst ht
      refine .enters call ticks rfl may nonzero blocked runs (progress_free.mpr idle) ?_
      have untimed : S.kernel.timeoutMap.isSet S.current = false := by
        rw [← Bool.not_eq_true]
        intro e
        have isBlocked := ((inv.kernel.task _).timeout e).2
        rw [runs.running] at isBlocked
        cases isBlocked
      have entered : S'.call S.current = some call := by rw [calls, update_self]
      rw [progress_of_blocked entered (by rw [blocks.state, update_self]), blocks.timeout, blocks.wakeTick, timeoutMap, untimed,
        tickCount]
      by_cases forever : ticks = waitForever
      · simp [forever]
      · simp [forever]
    · refine .stays ?_
      have wake : S'.kernel.task.wakeTick t = S.kernel.task.wakeTick t := by
        rw [blocks.wakeTick, wakeTick]
        split
        · rfl
        · exact update_of_ne ht _ _
      unfold progress
      rw [calls, update_of_ne ht, blocks.state, blocks.blockStatus, blocks.blockPayload,
        blocks.timeout, update_of_ne ht, update_of_ne ht, update_of_ne ht, state,
        status, payload, timeoutMap, wake]
      simp only [ht, false_and, decide_false, Bool.or_false]
  | returns call resume inside running result calls kernel =>
    by_cases ht : t = S.current
    · subst ht
      refine .returns call _ _ rfl resume (progress_of_awake inside ?_) result ?_
      · rw [running]
        exact nofun
      · exact progress_free.mpr (by rw [calls, update_self])
    · refine .stays ?_
      unfold progress
      rw [calls, update_of_ne ht]
      rcases kernel with e | e
      · rw [e]
      · have kept : S'.kernel.task.blockPayload t = S.kernel.task.blockPayload t := by
          rw [e]
          exact update_of_ne ht _ _
        rw [kept, e]
        rfl

theorem Step.late (step : Step cfg S S' .tick outcome) {wake : Word} (pre : S.progress t = .waiting call (some wake))
    (due : tickHasExpired (S.kernel.tickCount + 1#32) wake = true) :
    S'.progress t = .ended call .timeout (S'.kernel.task.blockPayload t) := by
  obtain ⟨hc, blocked, deadline⟩ := System.progress_waiting pre
  have inside : S.Inside t := by rw [Inside, hc]; exact nofun
  have timed : S.kernel.timeoutMap.isSet t = true ∧ wake = S.kernel.task.wakeTick t := by
    split at deadline
    · rename_i timed
      exact ⟨timed, Option.some.inj deadline⟩
    · cases deadline
  cases step.turn with
  | wakes woken ends calls turns ok late =>
    have hw := (late t).mpr ⟨rfl, expired_iff.mpr ⟨timed.1, by rw [← timed.2]; exact due⟩⟩
    have awake : S'.kernel.task.state t ≠ .blocked := by
      intro e
      have none := ((turns.blocked t inside).mp e).2
      rw [hw] at none
      cases none
    rw [progress_of_awake (by rw [calls]; exact hc) awake, turns.blockStatus t inside, hw]
    rfl
  | blocks call ticks k may => exact nomatch may
  | returns call resume => exact nomatch resume

theorem Step.blocked (inv : S.Inv cfg) (step : Step cfg S S' op .blocked) :
    ∃ call ticks, op.call = some (call, ticks) ∧ ticks ≠ noWait ∧ Runs cfg S.kernel S.current ∧
      S.progress S.current = .free ∧ S'.progress S.current = .waiting call
        (if ticks = waitForever then none else some (S.kernel.tickCount + ticks)) := by
  cases step.turn with
  | wakes woken ends => exact absurd rfl ends
  | returns call resume inside running result =>
    cases call with
    | eventWait e mask options =>
      unfold Call.result at result
      dsimp only at result
      split at result <;> cases result
    | notifyWait clearOnExit =>
      unfold Call.result at result
      dsimp only at result
      split at result <;> cases result
    | delay => cases result
    | semTake s => cases result
    | mutexLock m => cases result
    | queueSend q item => cases result
    | queueReceive q item => cases result
  | blocks call ticks k may nonzero blocked runs idle start blocks calls =>
    cases step.moves inv S.current with
    | enters c n here may' nonzero' blocked' runs' pre post =>
      exact ⟨c, n, may', nonzero', runs', pre, post⟩
    | stays same =>
      rw [progress_free.mpr idle, progress_free, calls, update_self] at same
      cases same
    | woken c d w pre =>
      rw [progress_free.mpr idle] at pre
      cases pre
    | late c d pre =>
      rw [progress_free.mpr idle] at pre
      cases pre
    | returns c s p here resume pre =>
      rw [progress_free.mpr idle] at pre
      cases pre

theorem Inv.run (inv : S.Inv cfg) (allowed : S.Allowed cfg inIsr op) :
    (S.run cfg inIsr op).1.Inv cfg := (run_step inv allowed).inv inv

theorem resume_moves (inv : S.Inv cfg) (allowed : S.Allowed cfg inIsr .resume) :
    ∃ call status payload, S.progress S.current = .ended call status payload ∧
      (S.run cfg inIsr .resume).2 = call.result status payload ∧
      (S.run cfg inIsr .resume).1.progress S.current = .free ∧
      ∀ t, t ≠ S.current → (S.run cfg inIsr .resume).1.progress t = S.progress t := by
  have left : (S.run cfg inIsr .resume).1.call = update S.call S.current none := by
    unfold run
    cases hc : S.call S.current with
    | none => exact absurd hc allowed.2.2.2
    | some call =>
      cases call with
      | semTake s =>
        unfold resume
        dsimp only
        split <;> rfl
      | _ => rfl
  have free : (S.run cfg inIsr .resume).1.progress S.current = .free :=
    progress_free.mpr (by rw [left, update_self])
  have step := run_step inv allowed
  have others : ∀ t, t ≠ S.current → (S.run cfg inIsr .resume).1.progress t = S.progress t := by
    intro t ht
    cases step.moves inv t with
    | stays same => exact same
    | enters call ticks here may => exact nomatch may
    | woken call deadline w pre target wakes => exact nomatch wakes
    | late call wake pre tick => exact nomatch tick
    | returns call status payload here => exact absurd here ht
  cases step.moves inv S.current with
  | stays same =>
    rw [free] at same
    exact absurd (progress_free.mp same.symm) allowed.2.2.2
  | enters call ticks here may => exact nomatch may
  | woken call deadline w pre target wakes => exact nomatch wakes
  | late call wake pre tick => exact nomatch tick
  | returns call status payload here resume pre result => exact ⟨call, status, payload, pre, result, free, others⟩

end System

theorem Run.inv {S₀ S : System} {trace : Trace} (run : Run cfg S₀ trace S) : S.Inv cfg :=
  run.2.invariant run.1.inv fun _ _ inv allowed => inv.run allowed

theorem Reachable.inv {S : System} (reachable : Reachable cfg S) : S.Inv cfg := by
  obtain ⟨_, _, run⟩ := reachable
  exact run.inv

/- A system to start from. -/

/-- The system right after the initialisation of the kernel and of its objects. -/
def System.fresh (cfg : Config) (timerStackWords : Nat) (tickCount : Word) (sem : Nat → Sem)
    (queue : Nat → Queue) : System where
  kernel := { (kernelInit cfg timerStackWords).1 with tickCount := tickCount }
  sem := sem
  queue := queue
  flags _ := 0#32
  timers := Timers.none
  memory _ _ := 0
  call _ := none
  daemon := if (kernelInit cfg timerStackWords).2 = .ok then .top else .gone

theorem System.fresh_boot {words : Nat} {tickCount : Word} {sem : Nat → Sem} {queue : Nat → Queue}
    (sems : ∀ s, ∃ initialCount maxCount, semInit initialCount maxCount = .ok (sem s))
    (timer : semInit 0 1 = .ok (sem timerSem))
    (queues : ∀ q, ∃ storage itemSize itemCount, queueInit storage itemSize itemCount = .ok (queue q)) :
    Boot cfg (fresh cfg words tickCount sem queue) :=
  ⟨⟨words, tickCount, rfl, rfl⟩, sems, timer, queues, fun _ => rfl, rfl, fun _ => rfl⟩

/- A decision procedure for what is allowed in a sound state. -/

def Call.fills (buffer : Word) : Call → Bool
  | .queueReceive _ item => decide (item = buffer)
  | _ => false

def Call.uses (buffer : Word) : Call → Bool
  | .queueReceive _ item | .queueSend _ item => decide (item = buffer)
  | _ => false

namespace System

variable {S : System} {op : Op}

def permits (cfg : Config) (S : System) (inIsr : Bool) : Op → Bool
  | .kernelStart => !S.kernel.scheduler.isStarted && !inIsr
  | .tick => inIsr
  | .contextSwitch => S.kernel.scheduler.isStarted
  | .resume => S.kernel.scheduler.isStarted && (currentTask cfg S.kernel).isSome &&
      decide (S.kernel.task.state S.current = .running) && (S.call S.current).isSome
  | .daemon => S.taskRuns cfg && decide (S.current = cfg.timerTaskId) && decide (S.daemon ≠ .gone) && !inIsr
  | .taskExit => S.taskRuns cfg && !S.daemonRuns cfg && !inIsr && (S.kernel.owners.head S.current).isNone
  | .taskDelay ticks => S.mayCall cfg inIsr && decide (ticks ≠ waitForever)
  | .semGive s | .semTake s _ => S.mayCall cfg inIsr && decide (s ≠ timerSem)
  | .mutexLock m _ => S.mayCall cfg inIsr && decide (m < cfg.mutexCount)
  | .mutexUnlock _ => S.mayCall cfg inIsr && !inIsr
  | .queueSend _ item _ => S.mayCall cfg inIsr &&
      (List.range cfg.maxTasks).all fun t => (S.call t).all fun call => !call.fills item
  | .queueReceive _ buffer _ | .write buffer _ => S.mayCall cfg inIsr &&
      (List.range cfg.maxTasks).all fun t => (S.call t).all fun call => !call.uses buffer
  | .taskCreate _ | .taskYield | .taskSetPriority .. | .queueSendFromIsr .. | .eventSet .. | .eventClear ..
  | .eventWait .. | .taskNotify .. | .taskNotifyWait .. | .timerInit .. | .timerStart _ | .timerStop _ =>
    S.mayCall cfg inIsr

theorem Inv.all_calls (inv : S.Inv cfg) {p : Call → Bool}
    (all : ((List.range cfg.maxTasks).all fun t => (S.call t).all fun call => !p call) = true) (t : Nat)
    (hc : S.call t = some call) : p call = false := by
  have reg := inv.inside t (by rw [Inside, hc]; exact nofun)
  have mem := List.mem_range.mpr (inv.kernel.lists.lt t reg)
  have none := List.all_eq_true.mp all t mem
  rw [hc] at none
  simpa using none

theorem permits_allowed (inv : S.Inv cfg) {inIsr : Bool} (ok : S.permits cfg inIsr op = true) :
    S.Allowed cfg inIsr op := by
  cases op with
  | kernelStart => simpa [permits, Allowed] using ok
  | tick => exact ok
  | contextSwitch => exact ok
  | resume =>
    simp only [permits, Bool.and_eq_true, decide_eq_true_eq] at ok
    refine ⟨ok.1.1.1, ok.1.1.2, ok.1.2, fun none => ?_⟩
    rw [none] at ok
    cases ok.2
  | daemon => simpa [permits, Allowed, and_assoc] using ok
  | taskExit => simpa [permits, Allowed, and_assoc] using ok
  | taskDelay ticks => simpa [permits, Allowed] using ok
  | semGive s => simpa [permits, Allowed] using ok
  | semTake s ticks => simpa [permits, Allowed] using ok
  | mutexLock m ticks => simpa [permits, Allowed] using ok
  | mutexUnlock m => simpa [permits, Allowed] using ok
  | queueSend q item ticks =>
    obtain ⟨may, quiet⟩ := Bool.and_eq_true_iff.mp ok
    refine ⟨may, fun t r hc => ?_⟩
    have := inv.all_calls quiet t hc
    simp [Call.fills] at this
  | queueReceive q buffer ticks =>
    obtain ⟨may, unused⟩ := Bool.and_eq_true_iff.mp ok
    refine ⟨may, fun t r => ⟨fun hc => ?_, fun hc => ?_⟩⟩
    · have := inv.all_calls unused t hc
      simp [Call.uses] at this
    · have := inv.all_calls unused t hc
      simp [Call.uses] at this
  | write buffer bytes =>
    obtain ⟨may, unused⟩ := Bool.and_eq_true_iff.mp ok
    refine ⟨may, fun t r => ⟨fun hc => ?_, fun hc => ?_⟩⟩
    · have := inv.all_calls unused t hc
      simp [Call.uses] at this
    · have := inv.all_calls unused t hc
      simp [Call.uses] at this
  | taskCreate config => exact ok
  | taskYield => exact ok
  | taskSetPriority t p => exact ok
  | queueSendFromIsr q item => exact ok
  | eventSet e bits => exact ok
  | eventClear e bits => exact ok
  | eventWait e mask options ticks => exact ok
  | taskNotify t value => exact ok
  | taskNotifyWait clearOnEntry clearOnExit ticks => exact ok
  | timerInit timerId period isPeriodic => exact ok
  | timerStart timerId => exact ok
  | timerStop timerId => exact ok

def permitsAll (cfg : Config) : System → List Request → Bool
  | _, [] => true
  | S, request :: rest => S.permits cfg request.inIsr request.op &&
      permitsAll cfg (S.run cfg request.inIsr request.op).1 rest

theorem legal_of_permits (inv : S.Inv cfg) {requests : List Request}
    (ok : S.permitsAll cfg requests = true) : (machine cfg).Legal S requests := by
  induction requests generalizing S with
  | nil => trivial
  | cons request rest ih =>
    obtain ⟨first, rest⟩ := Bool.and_eq_true_iff.mp ok
    have allowed := permits_allowed inv first
    exact ⟨allowed, ih (inv.run allowed) rest⟩

end System

theorem run_of_permits {S₀ : System} (boot : System.Boot cfg S₀) {requests : List Request}
    (ok : S₀.permitsAll cfg requests = true) :
    Run cfg S₀ ((machine cfg).transitions S₀ requests) ((machine cfg).play S₀ requests) :=
  ⟨boot, Machine.run_of_legal (System.legal_of_permits boot.inv ok)⟩

/-- A small configuration: three tasks of the application beside the daemon and the idle task. -/
def sample : Config where
  maxTasks := 5
  maxPriorities := 16
  maxTimers := 3
  mutexCount := 2
  timerTaskPriority := 1
  minStackWords := 1
  roundRobin := false
  tasks_ok := by decide
  priorities_ok := by decide
  timers_ok := by decide
  tasks_word := by decide
  priorities_word := by decide

/-- The sample system: empty binary semaphores and queues of one byte. -/
def sampleStart : System := .fresh sample 1 0#32 (fun _ => ⟨0, 1⟩) fun _ => ⟨fun _ => 0, 1, 1, 0, 0, 0⟩

theorem sampleStart_boot : System.Boot sample sampleStart :=
  System.fresh_boot (fun _ => ⟨0, 1, rfl⟩) rfl fun _ => ⟨fun _ => 0, 1, 1, rfl⟩

def create (taskId priority : Nat) : Request := ⟨.taskCreate ⟨taskId, priority, true, true, 1⟩, false⟩

end XSDK.Rtos
