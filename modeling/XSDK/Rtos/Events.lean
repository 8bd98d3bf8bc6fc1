import XSDK.Rtos.Reachable

/-! Event flags over whole runs. A set decides about every waiter on one snapshot, so
nobody stays blocked whose condition holds. -/
namespace XSDK.Rtos

open Function (update update_self update_of_ne)
open Library

variable {cfg : Config} {k : Kernel} {S S' : System} {op : Op} {outcome : Outcome} {e t : Nat}

theorem isConditionMet_mono {flags less mask options : Word} (sub : less &&& flags = less)
    (met : isConditionMet less mask options = true) : isConditionMet flags mask options = true := by
  unfold isConditionMet at met ⊢
  split
  · rename_i all
    rw [if_pos all, decide_eq_true_eq] at met
    rw [decide_eq_true_eq]
    calc flags &&& mask = flags &&& (less &&& mask) := by rw [met]
      _ = less &&& flags &&& mask := by rw [← BitVec.and_assoc, BitVec.and_comm flags less]
      _ = mask := by rw [sub, met]
  · rename_i any
    rw [if_neg any, decide_eq_true_eq] at met
    rw [decide_eq_true_eq]
    intro none
    apply met
    calc less &&& mask = less &&& flags &&& mask := by rw [sub]
      _ = less &&& (flags &&& mask) := BitVec.and_assoc ..
      _ = 0#32 := by rw [none, BitVec.and_zero]

theorem isConditionMet_anti {flags less mask options : Word} (sub : less &&& flags = less)
    (unmet : isConditionMet flags mask options = false) : isConditionMet less mask options = false := by
  rw [← Bool.not_eq_true] at unmet ⊢
  exact fun met => unmet (isConditionMet_mono sub met)

theorem eventWait_met {flags mask options ticks : Word} (nonempty : mask ≠ 0#32)
    (valid : eventWaitOptionsAreValid options = true) (started : k.scheduler.isStarted = true)
    (met : isConditionMet flags mask options = true) :
    eventWait cfg k flags false e mask options ticks =
      (k, if options &&& eventClearOnExit ≠ 0#32 then flags &&& ~~~(flags &&& mask) else flags,
        .returned .ok (flags &&& mask)) := by
  unfold eventWait
  rw [if_neg (by simp [nonempty, valid]), if_neg (by simp [started]), if_pos met]

theorem eventVisit_order (h : k.Inv cfg) (snapshot : Word) {l m : List Nat} (perm : l.Perm m)
    (nodup : m.Nodup) (waits : ∀ u ∈ m, k.WaitsOn u (.event e)) :
    (l.foldl (eventVisit cfg snapshot) (k, 0#32)).2 = (m.foldl (eventVisit cfg snapshot) (k, 0#32)).2 ∧
      ∀ t, (l.foldl (eventVisit cfg snapshot) (k, 0#32)).1.task.blockPayload t =
          (m.foldl (eventVisit cfg snapshot) (k, 0#32)).1.task.blockPayload t ∧
        (l.foldl (eventVisit cfg snapshot) (k, 0#32)).1.task.state t =
          (m.foldl (eventVisit cfg snapshot) (k, 0#32)).1.task.state t := by
  have first := eventVisit_foldl snapshot l (perm.nodup_iff.mpr nodup) 0#32 h
    fun u hu => waits u (perm.mem_iff.mp hu)
  have second := eventVisit_foldl snapshot m nodup 0#32 h waits
  constructor
  · apply BitVec.eq_of_getLsbD_eq
    intro i _
    rw [Bool.eq_iff_iff, first.clear, second.clear]
    simp only [perm.mem_iff]
  · intro t
    constructor
    · by_cases woken : t ∈ m ∧ eventMet k snapshot t = true
      · rw [first.matched t (perm.mem_iff.mpr woken.1) woken.2, second.matched t woken.1 woken.2]
      · have woken' : ¬(t ∈ l ∧ eventMet k snapshot t = true) := by rwa [perm.mem_iff]
        rw [first.frees.wakes.blockPayload t (if_neg woken'), second.frees.wakes.blockPayload t (if_neg woken)]
    · rw [first.frees.wakes.state t, second.frees.wakes.state t]
      simp only [perm.mem_iff]

def Op.MovesFlags (e : Nat) : Op → Prop
  | .eventSet n _ | .eventClear n _ | .eventWait n .. => n = e
  | _ => False

theorem Call.target_event {call : Call} (h : call.target = some (.event e)) :
    ∃ mask options, call = .eventWait e mask options := by
  cases call <;> cases h
  exact ⟨_, _, rfl⟩

/-- A task that waits for an event passed a valid request, and its condition does not hold. -/
def System.Asleep (S : System) (e : Nat) : Prop :=
  ∀ t mask options deadline, S.progress t = .waiting (.eventWait e mask options) deadline →
    isConditionMet (S.flags e) mask options = false ∧ mask ≠ 0#32 ∧ eventWaitOptionsAreValid options = true

/-- What a set does: who is woken and with what, and which flags are left. -/
structure SetWakes (e : Nat) (bits : Word) (S S' : System) : Prop where
  woken : ∀ t mask options deadline, S.progress t = .waiting (.eventWait e mask options) deadline →
    isConditionMet (S.flags e ||| bits) mask options = true →
    S'.progress t = .ended (.eventWait e mask options) .ok ⟨(S.flags e ||| bits) &&& mask, options⟩
  others : ∀ t, (∀ mask options deadline, S.progress t = .waiting (.eventWait e mask options) deadline →
    isConditionMet (S.flags e ||| bits) mask options = false) → S'.progress t = S.progress t
  flags : ∀ i, (S'.flags e).getLsbD i = true ↔ (S.flags e ||| bits).getLsbD i = true ∧
    ∀ t mask options deadline, S.progress t = .waiting (.eventWait e mask options) deadline →
      isConditionMet (S.flags e ||| bits) mask options = true → options &&& eventClearOnExit ≠ 0#32 →
      ((S.flags e ||| bits) &&& mask).getLsbD i = false

theorem SetWakes.less {bits : Word} (set : SetWakes e bits S S') :
    S'.flags e &&& (S.flags e ||| bits) = S'.flags e := by
  apply BitVec.eq_of_getLsbD_eq
  intro i _
  rw [BitVec.getLsbD_and, Bool.eq_iff_iff, Bool.and_eq_true]
  constructor
  · exact fun both => both.1
  · intro bit
    exact ⟨bit, ((set.flags i).mp bit).1⟩

namespace System

theorem leave_flags (S : System) (call : Call) (outcome : Outcome) : (S.leave call outcome).1.flags = S.flags := by
  unfold leave
  dsimp only
  split <;> rfl

theorem run_flags (other : ¬op.MovesFlags e) (inIsr : Bool) : (S.run cfg inIsr op).1.flags e = S.flags e := by
  cases op with
  | eventSet n bits => exact update_of_ne (Ne.symm other) _ _
  | eventClear n bits => exact update_of_ne (Ne.symm other) _ _
  | eventWait n mask options ticks =>
    change (leave _ _ _).1.flags e = S.flags e
    rw [leave_flags]
    exact update_of_ne (Ne.symm other) _ _
  | tick =>
    change (signalTimers cfg _).flags e = S.flags e
    unfold signalTimers
    split <;> rfl
  | daemon =>
    unfold run daemonStep
    cases S.daemon with
    | top =>
      dsimp only
      split <;> exact congrFun (leave_flags ..) e
    | _ => rfl
  | resume =>
    unfold run
    cases S.call S.current with
    | none => rfl
    | some call =>
      cases call with
      | semTake n =>
        unfold resume
        dsimp only
        split <;> rfl
      | _ => rfl
  | taskDelay ticks => exact congrFun (leave_flags ..) e
  | semTake s ticks => exact congrFun (leave_flags ..) e
  | mutexLock m ticks => exact congrFun (leave_flags ..) e
  | queueSend q item ticks => exact congrFun (leave_flags ..) e
  | queueReceive q item ticks => exact congrFun (leave_flags ..) e
  | taskNotifyWait clearOnEntry clearOnExit ticks => exact congrFun (leave_flags ..) e
  | _ => rfl

theorem Moves.event {mask options : Word} {deadline : Option Word} (moves : Moves cfg S S' op outcome t)
    (waiting : S'.progress t = .waiting (.eventWait e mask options) deadline) :
    S.progress t = .waiting (.eventWait e mask options) deadline ∨
      ∃ ticks, op = .eventWait e mask options ticks ∧ outcome = .blocked := by
  cases moves with
  | stays same => exact .inl (same.symm.trans waiting)
  | enters call ticks here may nonzero blocked runs pre post =>
    rw [post] at waiting
    cases waiting
    right
    cases op <;> cases may
    exact ⟨_, rfl, blocked⟩
  | woken call deadline w pre target wakes post =>
    rw [post] at waiting
    cases waiting
  | late call wake pre tick expired post =>
    rw [post] at waiting
    cases waiting
  | returns call status payload here resume pre result post =>
    rw [post] at waiting
    cases waiting

theorem eventSet_wakes (inv : S.Inv cfg) (inIsr : Bool) (e : Nat) (bits : Word) :
    SetWakes e bits S (S.run cfg inIsr (.eventSet e bits)).1 := by
  obtain ⟨frees, matched, left⟩ := eventSetCore_spec inv.kernel (S.flags e) e bits
  have moved := progress_turns (S.run cfg inIsr (.eventSet e bits)).1 (frees.wakes.turns S.Inside) rfl
  -- What the kernel reads of a waiter is what the waiter asked for.
  have reads : ∀ {t mask options deadline}, S.progress t = .waiting (.eventWait e mask options) deadline →
      S.kernel.WaitsOn t (.event e) ∧ S.kernel.task.blockPayload t = ⟨mask, options⟩ := by
    intro t mask options deadline waiting
    obtain ⟨reg, blocked, ptr, payload⟩ := inv.progress_waiting waiting
    exact ⟨⟨reg, blocked, ptr⟩, payload⟩
  have asked : ∀ {t}, S.kernel.WaitsOn t (.event e) → ∃ mask options deadline,
      S.progress t = .waiting (.eventWait e mask options) deadline := by
    intro t waits
    obtain ⟨call, deadline, waiting, target⟩ := inv.waitsOn_iff.mp waits
    obtain ⟨mask, options, rfl⟩ := Call.target_event target
    exact ⟨mask, options, deadline, waiting⟩
  constructor
  · intro t mask options deadline waiting met
    obtain ⟨waits, payload⟩ := reads waiting
    have holds : eventMet S.kernel (S.flags e ||| bits) t = true := by
      unfold eventMet
      rw [payload]
      exact met
    have report := matched t waits holds
    rw [payload] at report
    rw [moved t, if_pos ⟨waits.1, waits.2.1, waits.2.2, holds⟩, waiting]
    exact congrArg _ report
  · intro t unmet
    rw [moved t, if_neg]
    rintro ⟨reg, blocked, ptr, holds⟩
    obtain ⟨mask, options, deadline, waiting⟩ := asked ⟨reg, blocked, ptr⟩
    unfold eventMet at holds
    rw [(reads waiting).2, unmet mask options deadline waiting] at holds
    cases holds
  · intro i
    have kept : (S.run cfg inIsr (.eventSet e bits)).1.flags e =
        (eventSetCore cfg S.kernel (S.flags e) e bits).2 := update_self ..
    rw [kept, left i]
    refine and_congr_right fun _ => ⟨fun all t mask options deadline waiting met clears => ?_,
      fun all u waits holds => ?_⟩
    · obtain ⟨waits, payload⟩ := reads waiting
      have none := all t waits (by unfold eventMet; rw [payload]; exact met)
      unfold eventClears at none
      rw [payload, if_pos clears] at none
      exact none
    · obtain ⟨mask, options, deadline, waiting⟩ := asked waits
      obtain ⟨_, payload⟩ := reads waiting
      unfold eventMet at holds
      rw [payload] at holds
      unfold eventClears
      rw [payload]
      split
      · rename_i clears
        exact all u mask options deadline waiting holds clears
      · exact BitVec.getLsbD_zero

theorem eventWait_run (cfg : Config) (S : System) (inIsr : Bool) (e : Nat) (mask options ticks : Word) :
    (S.run cfg inIsr (.eventWait e mask options ticks)).1.flags e =
        (Rtos.eventWait cfg S.kernel (S.flags e) inIsr e mask options ticks).2.1 ∧
      (S.run cfg inIsr (.eventWait e mask options ticks)).2 =
        (Rtos.eventWait cfg S.kernel (S.flags e) inIsr e mask options ticks).2.2 := by
  constructor
  · change (leave _ _ _).1.flags e = _
    rw [leave_flags]
    exact update_self ..
  · rfl

theorem eventWait_less (inv : S.Inv cfg) {inIsr : Bool} (may : S.mayCall cfg inIsr = true) (e : Nat)
    (mask options ticks : Word) :
    let post := S.run cfg inIsr (.eventWait e mask options ticks)
    (post.2 ≠ .blocked ∧ post.1.flags e &&& S.flags e = post.1.flags e) ∨
    (post.2 = .blocked ∧ post.1.flags e = S.flags e ∧ isConditionMet (S.flags e) mask options = false ∧
      mask ≠ 0#32 ∧ eventWaitOptionsAreValid options = true) := by
  intro post
  obtain ⟨flags, output⟩ := eventWait_run cfg S inIsr e mask options ticks
  rcases eventWait_cases inv.kernel (mayCall_called may) (S.flags e) e mask options ticks with
    ⟨ret, _, eq⟩ | ⟨_, _, eq⟩ | ⟨unmet, valid, _, _, k', eq, _⟩
  · rw [eq] at flags output
    left
    constructor
    · rw [output]
      exact nofun
    · rw [flags, BitVec.and_self]
  · rw [eq] at flags output
    left
    constructor
    · rw [output]
      exact nofun
    · rw [flags]
      dsimp only
      split
      · rw [BitVec.and_assoc, BitVec.and_comm _ (S.flags e), ← BitVec.and_assoc, BitVec.and_self]
      · exact BitVec.and_self
  · rw [eq] at flags output
    exact .inr ⟨output, flags, unmet, valid⟩

theorem Asleep.run (asleep : S.Asleep e) (inv : S.Inv cfg) {inIsr : Bool} (allowed : S.Allowed cfg inIsr op) :
    (S.run cfg inIsr op).1.Asleep e := by
  intro t mask options deadline waiting
  have step := run_step inv allowed
  rcases (step.moves inv t).event waiting with before | ⟨ticks, rfl, blocked⟩
  · obtain ⟨unmet, valid⟩ := asleep t mask options deadline before
    refine ⟨?_, valid⟩
    by_cases moves : op.MovesFlags e
    · cases op with
      | eventSet n bits =>
        have same : n = e := moves
        subst same
        have set := eventSet_wakes inv inIsr n bits
        -- whoever the set did not wake, its condition does not hold on the snapshot
        apply isConditionMet_anti set.less
        rw [← Bool.not_eq_true]
        intro met
        rw [set.woken t mask options deadline before met] at waiting
        cases waiting
      | eventClear n bits =>
        have same : n = e := moves
        subst same
        have flags : (S.run cfg inIsr (.eventClear n bits)).1.flags n = S.flags n &&& ~~~bits :=
          update_self ..
        rw [flags]
        apply isConditionMet_anti _ unmet
        rw [BitVec.and_assoc, BitVec.and_comm _ (S.flags n), ← BitVec.and_assoc, BitVec.and_self]
      | eventWait n wanted opts ticks =>
        have same : n = e := moves
        subst same
        rcases eventWait_less inv allowed n wanted opts ticks with ⟨_, less⟩ | ⟨_, flags, _⟩
        · exact isConditionMet_anti less unmet
        · rw [flags]
          exact unmet
      | _ => exact moves.elim
    · rw [run_flags moves]
      exact unmet
  · rcases eventWait_less inv allowed e mask options ticks with ⟨ends, _⟩ | ⟨_, flags, unmet, valid⟩
    · exact absurd blocked ends
    · rw [flags]
      exact ⟨unmet, valid⟩

end System

/-- Wait-then-set and set-then-wait: the single waiter of a state gets the same from a set
as a wait with its arguments gets after the set, and the same flags are left. -/
structure Commutes (cfg : Config) (e : Nat) (S : System) (t : Nat) (mask options : Word) (bits : Word)
    (setFirst : System) (ticks : Word) : Prop where
  flags : (S.run cfg true (.eventSet e bits)).1.flags e =
    (setFirst.run cfg false (.eventWait e mask options ticks)).1.flags e
  report : ∀ status payload,
    (S.run cfg true (.eventSet e bits)).1.progress t = .ended (.eventWait e mask options) status payload →
    (setFirst.run cfg false (.eventWait e mask options ticks)).2 =
      (Call.eventWait e mask options).result status payload
  unmet : (∀ status payload, (S.run cfg true (.eventSet e bits)).1.progress t ≠
      .ended (.eventWait e mask options) status payload) →
    ∀ matched, (setFirst.run cfg false (.eventWait e mask options ticks)).2 ≠ .returned .ok matched

/-- Events lose no wake-up in a run. -/
structure EventSound (cfg : Config) (e : Nat) (trace : Trace) (S : System) : Prop where
  asleep : ∀ u, S.kernel.WaitsOn u (.event e) → ∃ mask options deadline,
    S.progress u = .waiting (.eventWait e mask options) deadline ∧
      S.kernel.task.blockPayload u = ⟨mask, options⟩ ∧ isConditionMet (S.flags e) mask options = false
  sets : ∀ tr ∈ trace, ∀ bits, tr.input.op = .eventSet e bits → SetWakes e bits tr.pre tr.post
  order : ∀ tr ∈ trace, ∀ bits, tr.input.op = .eventSet e bits →
    ∀ l : List Nat, l.Perm ((tr.pre.kernel.waitMap (.event e)).scan cfg.bitmapWidth) →
      let scan := l.foldl (eventVisit cfg (tr.pre.flags e ||| bits)) (tr.pre.kernel, 0#32)
      tr.post.flags e = (tr.pre.flags e ||| bits) &&& ~~~scan.2 ∧
        ∀ t, tr.post.kernel.task.blockPayload t = scan.1.task.blockPayload t ∧
          tr.post.kernel.task.state t = scan.1.task.state t
  reports : ∀ tr ∈ trace, ∀ t mask options status payload,
    tr.pre.progress t = .ended (.eventWait e mask options) status payload →
    tr.post.progress t = tr.pre.progress t ∨ tr.pre.current = t ∧ tr.input.op = .resume ∧
      tr.output = (Call.eventWait e mask options).result status payload
  commutes : ∀ t mask options deadline, S.progress t = .waiting (.eventWait e mask options) deadline →
    (∀ u, u ≠ t → ¬S.kernel.WaitsOn u (.event e)) →
    ∀ T, Reachable cfg T → T.flags e = S.flags e → (∀ u, ¬T.kernel.WaitsOn u (.event e)) →
    ∀ bits setFirst ticks, Reachable cfg setFirst →
      setFirst.flags e = (T.run cfg true (.eventSet e bits)).1.flags e →
      setFirst.Allowed cfg false (.eventWait e mask options ticks) →
      setFirst.kernel.scheduler.isStarted = true →
      Commutes cfg e S t mask options bits setFirst ticks

theorem SetWakes.no_waiter {bits : Word} (set : SetWakes e bits S S')
    (none : ∀ t mask options deadline, S.progress t ≠ .waiting (.eventWait e mask options) deadline) :
    S'.flags e = S.flags e ||| bits := by
  apply BitVec.eq_of_getLsbD_eq
  intro i _
  rw [Bool.eq_iff_iff, set.flags i]
  constructor
  · exact fun both => both.1
  · exact fun bit => ⟨bit, fun t mask options deadline waiting => absurd waiting (none t mask options deadline)⟩

theorem SetWakes.single {bits mask options : Word} {deadline : Option Word} (set : SetWakes e bits S S')
    (waiting : S.progress t = .waiting (.eventWait e mask options) deadline)
    (alone : ∀ u mask options deadline, S.progress u = .waiting (.eventWait e mask options) deadline → u = t)
    (met : isConditionMet (S.flags e ||| bits) mask options = true) :
    S'.flags e = if options &&& eventClearOnExit ≠ 0#32
      then (S.flags e ||| bits) &&& ~~~((S.flags e ||| bits) &&& mask) else S.flags e ||| bits := by
  have only : ∀ u m o d, S.progress u = .waiting (.eventWait e m o) d → m = mask ∧ o = options := by
    intro u m o d other
    rw [alone u m o d other, waiting] at other
    cases other
    exact ⟨rfl, rfl⟩
  apply BitVec.eq_of_getLsbD_eq
  intro i inside
  rw [Bool.eq_iff_iff, set.flags i]
  split
  · rename_i clears
    rw [BitVec.getLsbD_and, BitVec.getLsbD_not, Bool.and_eq_true]
    simp only [inside, decide_true, Bool.true_and, Bool.not_eq_true']
    constructor
    · exact fun both => ⟨both.1, both.2 t mask options deadline waiting met clears⟩
    · rintro ⟨bit, out⟩
      refine ⟨bit, fun u m o d other _ _ => ?_⟩
      obtain ⟨rfl, rfl⟩ := only u m o d other
      exact out
  · rename_i keeps
    constructor
    · exact fun both => both.1
    · intro bit
      refine ⟨bit, fun u m o d other _ clears => ?_⟩
      obtain ⟨rfl, rfl⟩ := only u m o d other
      exact absurd clears keeps

theorem System.Inv.not_waiting (inv : S.Inv cfg) (none : ¬S.kernel.WaitsOn t (.event e)) :
    ∀ mask options deadline, S.progress t ≠ .waiting (.eventWait e mask options) deadline := by
  intro mask options deadline waiting
  exact none (inv.waitsOn_iff.mpr ⟨_, _, waiting, rfl⟩)

theorem commutes (inv : S.Inv cfg) (asleep : S.Asleep e) {mask options : Word} {deadline : Option Word}
    (waiting : S.progress t = .waiting (.eventWait e mask options) deadline)
    (alone : ∀ u, u ≠ t → ¬S.kernel.WaitsOn u (.event e)) {T : System} (invT : T.Inv cfg)
    (same : T.flags e = S.flags e) (none : ∀ u, ¬T.kernel.WaitsOn u (.event e)) {bits ticks : Word}
    {setFirst : System} (invF : setFirst.Inv cfg)
    (flags : setFirst.flags e = (T.run cfg true (.eventSet e bits)).1.flags e)
    (allowed : setFirst.Allowed cfg false (.eventWait e mask options ticks))
    (started : setFirst.kernel.scheduler.isStarted = true) :
    Commutes cfg e S t mask options bits setFirst ticks := by
  have set := System.eventSet_wakes inv true e bits
  have snapshot : setFirst.flags e = S.flags e ||| bits := by
    have setT := System.eventSet_wakes invT true e bits
    rw [flags, setT.no_waiter fun u => invT.not_waiting (none u), same]
  obtain ⟨_, nonempty, valid⟩ := asleep t mask options deadline waiting
  obtain ⟨waitFlags, waitOutput⟩ := System.eventWait_run cfg setFirst false e mask options ticks
  by_cases met : isConditionMet (S.flags e ||| bits) mask options = true
  · have woken := set.woken t mask options deadline waiting met
    rw [eventWait_met nonempty valid started (by rw [snapshot]; exact met), snapshot] at waitFlags waitOutput
    have left := set.single waiting (fun u m o d other => by
      by_contra apart
      exact inv.not_waiting (alone u apart) m o d other) met
    constructor
    · rw [left, waitFlags]
    · intro status payload ended
      rw [woken] at ended
      cases ended
      exact waitOutput
    · intro never
      exact absurd woken (never _ _)
  · have unmet : isConditionMet (S.flags e ||| bits) mask options = false := by simpa using met
    have still : (S.run cfg true (.eventSet e bits)).1.progress t = S.progress t := by
      apply set.others
      intro m o d other
      rw [waiting] at other
      cases other
      exact unmet
    have kept : (S.run cfg true (.eventSet e bits)).1.flags e = S.flags e ||| bits := by
      apply BitVec.eq_of_getLsbD_eq
      intro i _
      rw [Bool.eq_iff_iff, set.flags i]
      constructor
      · exact fun both => both.1
      · intro bit
        refine ⟨bit, fun u m o d other holds _ => ?_⟩
        have here : u = t := by
          by_contra apart
          exact inv.not_waiting (alone u apart) m o d other
        rw [here, waiting] at other
        cases other
        rw [unmet] at holds
        cases holds
    have waits := eventWait_cases invF.kernel (System.mayCall_called allowed) (setFirst.flags e) e mask options ticks
    rw [snapshot] at waits waitFlags waitOutput
    have blockedOrRefused : (setFirst.run cfg false (.eventWait e mask options ticks)).1.flags e = S.flags e ||| bits ∧
        ∀ matched, (setFirst.run cfg false (.eventWait e mask options ticks)).2 ≠ .returned .ok matched := by
      rw [waitFlags, waitOutput]
      rcases waits with ⟨ret, bad, eq⟩ | ⟨holds, _⟩ | ⟨_, _, _, _, k', eq, _⟩
      · rw [eq]
        refine ⟨rfl, fun matched e => ?_⟩
        cases e
        exact bad rfl
      · rw [unmet] at holds
        cases holds
      · rw [eq]
        exact ⟨rfl, nofun⟩
    constructor
    · rw [kept, blockedOrRefused.1]
    · intro status payload ended
      rw [still, waiting] at ended
      cases ended
    · exact fun _ => blockedOrRefused.2

theorem Run.asleep {S₀ : System} {trace : Trace} (run : Run cfg S₀ trace S) (e : Nat) : S.Asleep e := by
  have both : S.Inv cfg ∧ S.Asleep e := by
    apply run.2.invariant (P := fun S => S.Inv cfg ∧ S.Asleep e)
    · refine ⟨run.1.inv, fun t mask options deadline waiting => ?_⟩
      rw [System.progress_free.mpr (run.1.call t)] at waiting
      cases waiting
    · rintro S request ⟨inv, asleep⟩ allowed
      exact ⟨inv.run allowed, asleep.run inv allowed⟩
  exact both.2

/-- Events lose no wake-up, in every run. -/
theorem event_sound {S₀ : System} {trace : Trace} (run : Run cfg S₀ trace S) (e : Nat) :
    EventSound cfg e trace S := by
  have stepOf : ∀ tr ∈ trace, tr.pre.Inv cfg ∧ tr.pre.Allowed cfg tr.input.inIsr tr.input.op ∧
      tr.post = (tr.pre.run cfg tr.input.inIsr tr.input.op).1 ∧
      tr.output = (tr.pre.run cfg tr.input.inIsr tr.input.op).2 := by
    intro tr mem
    obtain ⟨earlier, before, allowed, eq⟩ := run.2.reaches tr mem
    exact ⟨Run.inv ⟨run.1, before⟩, allowed, congrArg Transition.post eq, congrArg Transition.output eq⟩
  constructor
  · intro u waits
    obtain ⟨call, deadline, waiting, target⟩ := run.inv.waitsOn_iff.mp waits
    obtain ⟨mask, options, rfl⟩ := Call.target_event target
    obtain ⟨_, _, _, payload⟩ := run.inv.progress_waiting waiting
    exact ⟨mask, options, deadline, waiting, payload, (run.asleep e u mask options deadline waiting).1⟩
  · intro tr mem bits set
    obtain ⟨inv, _, post, _⟩ := stepOf tr mem
    rw [post, set]
    exact System.eventSet_wakes inv _ e bits
  · intro tr mem bits set l perm
    obtain ⟨inv, _, post, _⟩ := stepOf tr mem
    have waits : ∀ u ∈ (tr.pre.kernel.waitMap (.event e)).scan cfg.bitmapWidth, tr.pre.kernel.WaitsOn u (.event e) :=
      fun u hu => ((inv.kernel.task u).wait _).mp (Bitmap.mem_scan.mp hu).2
    obtain ⟨clears, tasks⟩ := eventVisit_order inv.kernel (tr.pre.flags e ||| bits) perm (Bitmap.nodup_scan _ _) waits
    rw [post, set]
    constructor
    · rw [clears]
      exact update_self ..
    · exact fun t => ⟨(tasks t).1.symm, (tasks t).2.symm⟩
  · intro tr mem t mask options status payload ended
    obtain ⟨inv, allowed, post, output⟩ := stepOf tr mem
    rw [post, output]
    cases (System.run_step inv allowed).moves inv t with
    | stays same => exact .inl same
    | enters call ticks here may nonzero blocked runs pre post =>
      rw [ended] at pre
      cases pre
    | woken call deadline w pre target wakes post =>
      rw [ended] at pre
      cases pre
    | late call wake pre tick expired post =>
      rw [ended] at pre
      cases pre
    | returns call status' payload' here resume pre result post =>
      rw [ended] at pre
      cases pre
      exact .inr ⟨here.symm, resume, result⟩
  · intro t mask options deadline waiting alone T reachedT same none bits setFirst ticks reachedF flags allowed
      started
    exact commutes run.inv (run.asleep e) waiting alone reachedT.inv same none reachedF.inv flags allowed started

/-- Two tasks wait for flags of one event; a set wakes one of them and clears its bits. -/
def sampleEvents : List Request :=
  [create 4 15, create 0 10, create 1 5, create 2 7, ⟨.kernelStart, false⟩, ⟨.daemon, false⟩,
    ⟨.contextSwitch, true⟩, ⟨.eventWait 0 3#32 5#32 9#32, false⟩, ⟨.contextSwitch, true⟩,
    ⟨.eventWait 0 6#32 2#32 9#32, false⟩, ⟨.contextSwitch, true⟩, ⟨.eventSet 0 10#32, false⟩,
    ⟨.contextSwitch, true⟩, ⟨.resume, false⟩, ⟨.eventClear 0 8#32, false⟩]

theorem event_sound_sample : EventSound sample 0 ((machine sample).transitions sampleStart sampleEvents)
    ((machine sample).play sampleStart sampleEvents) :=
  event_sound (run_of_permits sampleStart_boot (by decide +kernel)) 0

end XSDK.Rtos
