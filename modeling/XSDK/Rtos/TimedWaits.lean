import XSDK.Library.Clock
import XSDK.Rtos.Reachable

/-! Timed waits. The tick counter is a counter that wraps, and a wait of n ticks ends with
a timeout at the n-th tick unless it was ended with success before. -/
namespace XSDK.Rtos

open Function (update)
open Library

variable {cfg : Config} {S S' : System} {op : Op} {outcome : Outcome} {t : Nat}

def Op.isTick : Op → Bool
  | .tick => true
  | _ => false

def ticks (trace : Trace) : Nat := trace.countP fun tr => tr.input.op.isTick

theorem Op.isTick_iff : op.isTick = true ↔ op = .tick := by
  cases op <;> simp [isTick]

theorem ticks_append (first rest : Trace) : ticks (first ++ rest) = ticks first + ticks rest :=
  List.countP_append

theorem ticks_snoc_tick {trace : Trace} {tr : Transition System Request Outcome}
    (tick : tr.input.op = .tick) : ticks (trace ++ [tr]) = ticks trace + 1 := by
  rw [ticks_append]
  simp [ticks, tick, Op.isTick]

theorem ticks_snoc_other {trace : Trace} {tr : Transition System Request Outcome}
    (other : tr.input.op ≠ .tick) : ticks (trace ++ [tr]) = ticks trace := by
  have no : tr.input.op.isTick = false := by
    rw [Bool.eq_false_iff, ne_eq, Op.isTick_iff]
    exact other
  rw [ticks_append]
  simp [ticks, no]

theorem expired_after {start n : Word} {j : Nat} (inTime : j ≤ n.toNat) (range : n.toNat < 2 ^ 31) :
    tickHasExpired (start + BitVec.ofNat 32 j) (start + n) = true ↔ j = n.toNat := by
  have now : start + BitVec.ofNat 32 j = BitVec.ofInt 32 (start.toNat + j) := by
    rw [← ofInt_add_nat, ofInt_toNat]
  have due : start + n = BitVec.ofInt 32 (start.toNat + n.toNat) := by
    rw [← ofInt_add_nat, ofInt_toNat, BitVec.ofNat_toNat, BitVec.setWidth_eq]
  rw [now, due]
  change reached _ _ = true ↔ _
  rw [reached_ofInt]
  · omega
  · omega
  · omega

theorem clock_run {S₁ : System} {trace : Trace} (inv : S₁.Inv cfg) (run : (machine cfg).Run S₁ trace S) :
    S.Inv cfg ∧ S.kernel.tickCount = S₁.kernel.tickCount + BitVec.ofNat 32 (ticks trace) := by
  apply run.history (P := fun trace S => S.Inv cfg ∧
    S.kernel.tickCount = S₁.kernel.tickCount + BitVec.ofNat 32 (ticks trace))
  · exact ⟨inv, (BitVec.add_zero _).symm⟩
  · rintro trace S request ⟨inv, clock⟩ allowed
    have step := System.run_step inv allowed
    refine ⟨inv.run allowed, step.clock.trans ?_⟩
    rw [clock]
    by_cases tick : request.op = .tick
    · rw [ticks_snoc_tick tick, tick, BitVec.add_assoc]
      congr 1
      exact (BitVec.ofNat_add ..).symm
    · rw [ticks_snoc_other tick, Op.clock_of_ne tick, BitVec.add_zero]

/-- A wait that may last n ticks ends: by its n-th tick, or with success before that. -/
def EndsInTime (n : Nat) (waits : Trace) (last : Transition System Request Outcome) (status : Return) : Prop :=
  status = .timeout ∧ last.input.op = .tick ∧ ticks (waits ++ [last]) = n ∨
    status = .ok ∧ ticks (waits ++ [last]) < n

/-- The task returns from the call that its wait was in. -/
structure GoesOn (t : Nat) (call : Call) (status : Return) (payload : Payload)
    (back : Transition System Request Outcome) : Prop where
  resume : back.input.op = .resume
  current : back.pre.current = t
  result : back.output = call.result status payload
  free : back.post.progress t = .free

/-- How a wait of n ticks goes on: it is outstanding, or it has ended and the task is still
to return, or the task has returned. -/
inductive WaitCourse (t : Nat) (call : Call) (deadline : Word) (n : Nat) : Trace → System → Prop
  | outstanding {waits : Trace} {S : System}
      (waiting : ∀ tr ∈ waits, tr.post.progress t = .waiting call (some deadline))
      (now : S.progress t = .waiting call (some deadline)) (early : ticks waits < n) :
      WaitCourse t call deadline n waits S
  | ended {waits pending : Trace} {last : Transition System Request Outcome} {S : System}
      (status : Return) (payload : Payload)
      (waiting : ∀ tr ∈ waits, tr.post.progress t = .waiting call (some deadline))
      (exact : EndsInTime n waits last status)
      (settled : ∀ tr ∈ last :: pending, tr.post.progress t = .ended call status payload)
      (now : S.progress t = .ended call status payload) :
      WaitCourse t call deadline n (waits ++ last :: pending) S
  | returned {waits pending more : Trace} {last back : Transition System Request Outcome} {S : System}
      (status : Return) (payload : Payload)
      (waiting : ∀ tr ∈ waits, tr.post.progress t = .waiting call (some deadline))
      (exact : EndsInTime n waits last status)
      (settled : ∀ tr ∈ last :: pending, tr.post.progress t = .ended call status payload)
      (goesOn : GoesOn t call status payload back) :
      WaitCourse t call deadline n (waits ++ last :: pending ++ back :: more) S

namespace WaitCourse

variable {call : Call} {deadline : Word} {n : Nat} {trace : Trace}

theorem snoc {tr : Transition System Request Outcome} (course : WaitCourse t call deadline n trace tr.pre)
    (moves : System.Moves cfg tr.pre tr.post tr.input.op tr.output t)
    (late : tr.input.op = .tick → tr.pre.progress t = .waiting call (some deadline) → ticks trace + 1 = n →
      ∃ payload, tr.post.progress t = .ended call .timeout payload)
    (early : tr.input.op = .tick → ticks trace + 1 < n →
      tickHasExpired (tr.pre.kernel.tickCount + 1#32) deadline = false) :
    WaitCourse t call deadline n (trace ++ [tr]) tr.post := by
  cases course with
  | outstanding waiting now inTime =>
    by_cases due : tr.input.op = .tick ∧ ticks trace + 1 = n
    · obtain ⟨payload, post⟩ := late due.1 now due.2
      refine @ended _ _ _ _ _ [] _ _ .timeout payload waiting (.inl ⟨rfl, due.1, ?_⟩) ?_ post
      · rw [ticks_snoc_tick due.1, due.2]
      · intro tr' mem
        rw [List.mem_singleton.mp mem]
        exact post
    · have inTime' : ticks (trace ++ [tr]) < n := by
        by_cases tick : tr.input.op = .tick
        · rw [ticks_snoc_tick tick]
          have ne : ticks trace + 1 ≠ n := fun e => due ⟨tick, e⟩
          omega
        · rw [ticks_snoc_other tick]
          exact inTime
      cases moves with
      | stays same =>
        refine .outstanding ?_ (same.trans now) inTime'
        intro tr' mem
        rcases List.mem_append.mp mem with mem | mem
        · exact waiting tr' mem
        · rw [List.mem_singleton.mp mem]
          exact same.trans now
      | enters c ticks here may nonzero blocked runs pre post =>
        rw [now] at pre
        cases pre
      | woken c d w pre target wakes post =>
        rw [now] at pre
        cases pre
        refine @ended _ _ _ _ _ [] _ _ .ok _ waiting (.inr ⟨rfl, inTime'⟩) ?_ post
        intro tr' mem
        rw [List.mem_singleton.mp mem]
        exact post
      | late c wake pre tick expired post =>
        rw [now] at pre
        cases pre
        rw [ticks_snoc_tick tick] at inTime'
        rw [early tick inTime'] at expired
        cases expired
      | returns c status payload here resume pre result post =>
        rw [now] at pre
        cases pre
  | @ended waits pending last _ status payload waiting exact settled now =>
    cases moves with
    | stays same =>
      rw [List.append_assoc, List.cons_append]
      refine .ended status payload waiting exact ?_ (same.trans now)
      intro tr' mem
      rcases List.mem_cons.mp mem with rfl | mem
      · exact settled _ List.mem_cons_self
      · rcases List.mem_append.mp mem with mem | mem
        · exact settled tr' (List.mem_cons_of_mem _ mem)
        · rw [List.mem_singleton.mp mem]
          exact same.trans now
    | enters c ticks here may nonzero blocked runs pre post =>
      rw [now] at pre
      cases pre
    | woken c d w pre target wakes post =>
      rw [now] at pre
      cases pre
    | late c wake pre tick expired post =>
      rw [now] at pre
      cases pre
    | returns c status' payload' here resume pre result post =>
      rw [now] at pre
      cases pre
      exact @returned _ _ _ _ _ _ [] _ _ _ status payload waiting exact settled ⟨resume, here.symm, result, post⟩
  | @returned waits pending more last back _ status payload waiting exact settled goesOn =>
    rw [List.append_assoc, List.cons_append]
    exact .returned status payload waiting exact settled goesOn

end WaitCourse

namespace System

theorem Inv.timeoutBit (inv : S.Inv cfg) (t : Nat) : S.kernel.timeoutMap.isSet t = true ↔
    ∃ call deadline, S.progress t = .waiting call (some deadline) := by
  constructor
  · intro bit
    obtain ⟨reg, blocked⟩ := (inv.kernel.task t).timeout bit
    obtain ⟨call, hc, _⟩ := inv.waiting t reg blocked
    refine ⟨call, S.kernel.task.wakeTick t, ?_⟩
    rw [progress_of_blocked hc blocked, if_pos bit]
  · rintro ⟨call, deadline, waiting⟩
    obtain ⟨_, _, timed⟩ := System.progress_waiting waiting
    by_contra bit
    rw [if_neg bit] at timed
    cases timed

theorem tick_keeps (inv : S.Inv cfg) (awake : S.kernel.task.state t ≠ .blocked) :
    (S.tick cfg).kernel.task.state t = S.kernel.task.state t ∧
      (S.tick cfg).kernel.task.blockStatus t = S.kernel.task.blockStatus t := by
  obtain ⟨_, timeouts⟩ := tickTimeouts_spec inv.kernel
  obtain ⟨woken, frees, _⟩ := tick_frees inv
  have path := timeouts.trans frees.wakes
  have asleep : ((if expired (ticked S.kernel) t = true then some Return.timeout else none).or (woken t)) = none := by
    by_contra woke
    exact awake (path.woke t woke).2
  constructor
  · rw [path.state t, if_pos asleep]
    rfl
  · rw [path.blockStatus t, asleep]
    rfl

end System

/-- A timed wait from its entry on, in a run that goes on from there. -/
structure ExactWait (entry : Transition System Request Outcome) (call : Call) (n : Word) (after : Trace)
    (S : System) : Prop where
  entered : entry.post.progress entry.pre.current = .waiting call (some (entry.pre.kernel.tickCount + n))
  course : WaitCourse entry.pre.current call (entry.pre.kernel.tickCount + n) n.toNat after S
  timeoutBit : ∀ tr ∈ entry :: after, ∀ t, tr.post.kernel.timeoutMap.isSet t = true ↔
    ∃ call deadline, tr.post.progress t = .waiting call (some deadline)
  keeps : ∀ tr ∈ after, tr.input.op = .tick → ∀ t, tr.pre.kernel.task.state t ≠ .blocked →
    tr.post.kernel.task.state t = tr.pre.kernel.task.state t ∧
      tr.post.kernel.task.blockStatus t = tr.pre.kernel.task.blockStatus t

/-- Timed waits are exact, whatever the tick counter shows at the start. -/
theorem timed_wait_exact {S₁ : System} (reachable : Reachable cfg S₁) {inIsr : Bool} {call : Call} {n : Word}
    (allowed : S₁.Allowed cfg inIsr op) (may : op.call = some (call, n))
    (blocked : (S₁.run cfg inIsr op).2 = .blocked) (range : n.toNat < 2 ^ 31) {after : Trace}
    (later : (machine cfg).Run (S₁.run cfg inIsr op).1 after S) :
    ExactWait ((machine cfg).take S₁ ⟨op, inIsr⟩) call n after S := by
  have inv := reachable.inv
  have step := System.run_step inv allowed
  have finite : n ≠ waitForever := by
    rintro rfl
    revert range
    decide
  -- The step that enters the wait.
  rw [blocked] at step
  obtain ⟨c, m, may', nonzero, _, _, entered⟩ := step.blocked inv
  rw [may] at may'
  cases may'
  rw [if_neg finite] at entered
  have still : (S₁.run cfg inIsr op).1.kernel.tickCount = S₁.kernel.tickCount := by
    have other : op ≠ .tick := by
      rintro rfl
      cases may
    rw [step.clock, Op.clock_of_ne other, BitVec.add_zero]
  have positive : 0 < n.toNat := by
    have ne : n.toNat ≠ 0 := fun e => nonzero (BitVec.eq_of_toNat_eq e)
    omega
  have first := inv.run allowed
  have stepOf : ∀ tr ∈ after, tr.pre.Inv cfg ∧ tr.pre.Allowed cfg tr.input.inIsr tr.input.op ∧
      tr = (machine cfg).take tr.pre tr.input := by
    intro tr mem
    obtain ⟨earlier, before, allowed, eq⟩ := later.reaches tr mem
    exact ⟨(clock_run first before).1, allowed, eq⟩
  constructor
  · exact entered
  · -- The course is followed along the run, together with the clock.
    have both : S.Inv cfg ∧ S.kernel.tickCount = S₁.kernel.tickCount + BitVec.ofNat 32 (ticks after) ∧
        WaitCourse S₁.current call (S₁.kernel.tickCount + n) n.toNat after S := by
      clear stepOf
      induction later with
      | nil =>
        refine ⟨first, ?_, .outstanding (fun tr mem => absurd mem List.not_mem_nil) entered positive⟩
        rw [still]
        exact (BitVec.add_zero _).symm
      | @snoc trace s i run allowed ih =>
        obtain ⟨inv, clock, course⟩ := ih
        obtain ⟨inv', clock'⟩ := clock_run first (run.snoc allowed)
        have step := System.run_step inv allowed
        rw [still] at clock'
        refine ⟨inv', clock', ?_⟩
        have next : s.kernel.tickCount + 1#32 = S₁.kernel.tickCount + BitVec.ofNat 32 (ticks trace + 1) := by
          rw [clock, BitVec.add_assoc]
          congr 1
          exact (BitVec.ofNat_add ..).symm
        apply @WaitCourse.snoc _ _ _ _ _ _ ((machine cfg).take s i) course (step.moves inv _)
        · intro tick waiting due
          have op : i.op = .tick := tick
          rw [op] at step
          have expired : tickHasExpired (s.kernel.tickCount + 1#32) (S₁.kernel.tickCount + n) = true := by
            rw [next, expired_after (by omega) range]
            exact due
          have post := step.late waiting expired
          change ∃ payload, (s.run cfg i.inIsr i.op).1.progress S₁.current = _
          rw [op]
          exact ⟨_, post⟩
        · intro tick soon
          rw [Bool.eq_false_iff, ne_eq]
          change ¬tickHasExpired (s.kernel.tickCount + 1#32) (S₁.kernel.tickCount + n) = true
          rw [next, expired_after (by omega) range]
          omega
    exact both.2.2
  · intro tr mem t
    rcases List.mem_cons.mp mem with rfl | mem
    · exact first.timeoutBit t
    · obtain ⟨inv, allowed, eq⟩ := stepOf tr mem
      rw [eq]
      exact (inv.run allowed).timeoutBit t
  · intro tr mem tick t awake
    obtain ⟨inv, allowed, eq⟩ := stepOf tr mem
    have post : tr.post = (tr.pre.run cfg tr.input.inIsr tr.input.op).1 := congrArg Transition.post eq
    rw [post, tick]
    exact System.tick_keeps inv awake

/-- A take with a timeout of two ticks, with two ticks after it. -/
def sampleTimed : List Request :=
  [create 4 15, create 0 10, create 1 5, ⟨.kernelStart, false⟩, ⟨.daemon, false⟩, ⟨.contextSwitch, true⟩]

def sampleTimedAfter : List Request :=
  [⟨.contextSwitch, true⟩, ⟨.tick, true⟩, ⟨.tick, true⟩, ⟨.contextSwitch, true⟩, ⟨.resume, false⟩]

theorem timed_wait_exact_sample :
    let S₁ := (machine sample).play sampleStart sampleTimed
    let entry := (machine sample).take S₁ ⟨.semTake 1 2#32, false⟩
    ExactWait entry (.semTake 1) 2#32 ((machine sample).transitions entry.post sampleTimedAfter)
      ((machine sample).play entry.post sampleTimedAfter) := by
  intro S₁ entry
  have start : sampleStart.permitsAll sample sampleTimed = true := by decide +kernel
  have reached : Reachable sample S₁ := ⟨_, _, run_of_permits sampleStart_boot start⟩
  have allowed : S₁.Allowed sample false (.semTake 1 2#32) :=
    System.permits_allowed reached.inv (by decide +kernel)
  exact timed_wait_exact reached allowed rfl (by decide +kernel) (by decide)
    (Machine.run_of_legal (System.legal_of_permits (reached.inv.run allowed) (by decide +kernel)))

end XSDK.Rtos
