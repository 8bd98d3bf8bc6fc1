import XSDK.Rtos.Reachable

/-! The tokens of a semaphore over whole runs. A token that is given either waits in the
count or is on its way to one task, and that task's take returns with success. -/
namespace XSDK.Rtos

open Function (update update_self update_of_ne)
open Library

variable {cfg : Config} {S S' S'' : System} {op : Op} {outcome : Outcome} {s t : Nat}

def Progress.awaitsToken (s : Nat) : Progress → Bool
  | .waiting (.semTake n) _ => decide (n = s)
  | _ => false

/-- A task has been handed a token and has not returned with it yet. -/
def Progress.granted (s : Nat) : Progress → Bool
  | .ended (.semTake n) .ok _ => decide (n = s)
  | _ => false

def System.timedOut (cfg : Config) (S : System) : System := { S with kernel := tickTimeouts cfg S.kernel }

/-- The system at the moment a step gives a token, if it does so. -/
def System.giving (cfg : Config) (S : System) (s : Nat) : Op → Option System
  | .semGive n => if n = s then some S else none
  | .tick =>
    let T := S.timedOut cfg
    if s = timerSem ∧ timerDue cfg T.timers T.kernel.tickCount = true then some T else none
  | _ => none

/-- The tokens that have been handed over and not yet returned with. -/
def System.handed (cfg : Config) (S : System) (s : Nat) : Nat :=
  ((Finset.range cfg.maxTasks).filter fun t => (S.progress t).granted s = true).card

def gave (cfg : Config) (s : Nat) (tr : Transition System Request Outcome) : Bool :=
  (tr.pre.giving cfg s tr.input.op).any fun T => decide ((T.semGive cfg s).2 = .ret .ok)

def took (s : Nat) (tr : Transition System Request Outcome) : Bool :=
  decide (tr.pre.ending tr.input.op tr.output = some (.semTake s)) && decide (tr.output = .ret .ok)

variable {tr : Transition System Request Outcome}

theorem took_iff : took s tr = true ↔
    tr.pre.ending tr.input.op tr.output = some (.semTake s) ∧ tr.output = .ret .ok := by
  simp [took]

/-- The tokens of a step: what is given is counted, on its way, or taken. A sound count
stays in its bounds, and nobody waits while it is positive. -/
structure TokenStep (cfg : Config) (s : Nat) (S S' : System) (given taken : Nat) : Prop where
  balance : (S.sem s).count + S.handed cfg s + given = (S'.sem s).count + S'.handed cfg s + taken
  maxCount : (S'.sem s).maxCount = (S.sem s).maxCount
  bound : (S.sem s).count ≤ (S.sem s).maxCount → (S'.sem s).count ≤ (S'.sem s).maxCount
  waiting : (∀ t, (S.progress t).awaitsToken s = true → (S.sem s).count = 0) →
    ∀ t, (S'.progress t).awaitsToken s = true → (S'.sem s).count = 0

theorem Call.target_sem {call : Call} (h : call.target = some (.sem s)) : call = .semTake s := by
  cases call <;> cases h
  rfl

theorem card_filter_add {n u : Nat} {p q : Nat → Bool} (hu : u < n) (off : p u = false) (on : q u = true)
    (same : ∀ v, v ≠ u → q v = p v) :
    ((Finset.range n).filter fun v => q v = true).card = ((Finset.range n).filter fun v => p v = true).card + 1 := by
  have split : ((Finset.range n).filter fun v => q v = true) =
      insert u ((Finset.range n).filter fun v => p v = true) := by
    ext v
    by_cases hv : v = u
    · simp [hv, hu, on]
    · simp [hv, same v hv]
  rw [split, Finset.card_insert_of_notMem]
  simp [off]

namespace System

theorem Inv.awaitsToken_iff (inv : S.Inv cfg) :
    (S.progress t).awaitsToken s = true ↔ S.kernel.WaitsOn t (.sem s) := by
  rw [inv.waitsOn_iff]
  constructor
  · intro awaits
    cases h : S.progress t with
    | waiting call deadline =>
      rw [h] at awaits
      cases call with
      | semTake n =>
        have same : n = s := by simpa [Progress.awaitsToken] using awaits
        exact ⟨_, _, rfl, by rw [same]; rfl⟩
      | _ => simp [Progress.awaitsToken] at awaits
    | _ =>
      rw [h] at awaits
      simp [Progress.awaitsToken] at awaits
  · rintro ⟨call, deadline, h, target⟩
    rw [h, Call.target_sem target]
    simp [Progress.awaitsToken]

end System

namespace TokenStep

variable {given given' taken taken' : Nat}

theorem trans (h : TokenStep cfg s S S' given taken) (h' : TokenStep cfg s S' S'' given' taken') :
    TokenStep cfg s S S'' (given + given') (taken + taken') where
  balance := by
    have first := h.balance
    have second := h'.balance
    omega
  maxCount := h'.maxCount.trans h.maxCount
  bound ok := h'.bound (h.bound ok)
  waiting ok := h'.waiting (h.waiting ok)

theorem quiet (sem : S'.sem s = S.sem s) (granted : ∀ t, (S'.progress t).granted s = (S.progress t).granted s)
    (awaits : ∀ t, (S'.progress t).awaitsToken s = true → (S.progress t).awaitsToken s = true) :
    TokenStep cfg s S S' 0 0 := by
  have handed : S'.handed cfg s = S.handed cfg s := by
    unfold System.handed
    simp only [granted]
  constructor
  · rw [sem, handed]
  · rw [sem]
  · rw [sem]
    exact id
  · intro ok t waits
    rw [sem]
    exact ok t (awaits t waits)

end TokenStep

namespace System

/- A give. -/

theorem semGive_cases (inv : S.Inv cfg) (s : Nat) :
    (∃ u, S.kernel.FirstWaiter u (.sem s) ∧ (S.semGive cfg s).2 = .ret .ok ∧
      (S.semGive cfg s).1.sem = S.sem ∧ ((S.semGive cfg s).1.progress u).granted s = true ∧
      ∀ t, t ≠ u → (S.semGive cfg s).1.progress t = S.progress t) ∨
    ((∀ u, ¬S.kernel.WaitsOn u (.sem s)) ∧ (∀ t, (S.semGive cfg s).1.progress t = S.progress t) ∧
      ((S.sem s).count < (S.sem s).maxCount ∧ (S.semGive cfg s).2 = .ret .ok ∧
          (S.semGive cfg s).1.sem = update S.sem s { S.sem s with count := (S.sem s).count + 1 } ∨
        (S.sem s).maxCount ≤ (S.sem s).count ∧ (S.semGive cfg s).2 = .ret .resourceFull ∧
          (S.semGive cfg s).1.sem = S.sem)) := by
  unfold semGive
  rcases semGiveCore_cases inv.kernel (S.sem s) s with ⟨u, first, eq⟩ | ⟨none, ⟨room, eq⟩ | ⟨full, eq⟩⟩
  · rw [eq]
    have frees := Frees.wake_plain inv.kernel first.1 nofun .ok
    have turns := frees.wakes.turns S.Inside
    obtain ⟨call, deadline, waiting, target⟩ := inv.waitsOn_iff.mp first.1
    let S' : System := { S with kernel := unblock cfg S.kernel u .ok, sem := update S.sem s (S.sem s) }
    have moved := progress_turns S' turns rfl
    refine .inl ⟨u, first, rfl, Function.update_eq_self .., ?_, fun t ht => ?_⟩
    · change (S'.progress u).granted s = true
      rw [moved u, wokenBy_self, waiting, Call.target_sem target]
      simp [Progress.wake, Progress.granted]
    · change S'.progress t = S.progress t
      rw [moved t, wokenBy_of_ne ht]
  · rw [eq]
    exact .inr ⟨none, fun t => rfl, .inl ⟨room, rfl, rfl⟩⟩
  · rw [eq]
    exact .inr ⟨none, fun t => rfl, .inr ⟨full, rfl, Function.update_eq_self ..⟩⟩

theorem semGive_tokens (inv : S.Inv cfg) (s : Nat) :
    TokenStep cfg s S (S.semGive cfg s).1 (decide ((S.semGive cfg s).2 = .ret .ok)).toNat 0 := by
  rcases semGive_cases inv s with
    ⟨u, first, ok, sem, granted, others⟩ | ⟨none, same, ⟨room, ok, sem⟩ | ⟨_, refused, sem⟩⟩
  · obtain ⟨call, deadline, waiting, target⟩ := inv.waitsOn_iff.mp first.1
    have flip : (S.semGive cfg s).1.handed cfg s = S.handed cfg s + 1 := by
      apply card_filter_add (u := u) (inv.kernel.lists.lt u first.1.1) _ granted
      · intro t ht
        rw [others t ht]
      · rw [waiting]
        rfl
    rw [ok]
    constructor
    · rw [sem, flip]
      simp only [decide_true, Bool.toNat_true]
      omega
    · rw [sem]
    · rw [sem]
      exact id
    · intro before t _
      rw [sem]
      exact before u (inv.awaitsToken_iff.mpr first.1)
  · have handed : (S.semGive cfg s).1.handed cfg s = S.handed cfg s := by
      unfold System.handed
      simp only [same]
    rw [ok]
    constructor
    · rw [sem, handed, update_self]
      simp only [decide_true, Bool.toNat_true]
      omega
    · rw [sem, update_self]
    · intro _
      rw [sem, update_self]
      exact room
    · intro _ t awaits
      rw [same t] at awaits
      exact absurd (inv.awaitsToken_iff.mp awaits) (none t)
  · rw [refused]
    apply TokenStep.quiet
    · rw [sem]
    · intro t
      rw [same t]
    · intro t awaits
      rwa [same t] at awaits

theorem semGive_other {n : Nat} (ne : n ≠ s) : (S.semGive cfg s).1.sem n = S.sem n :=
  update_of_ne ne _ _

/- A take. -/

variable {inIsr : Bool}

theorem semTake_cases (inv : S.Inv cfg) (called : CalledBy cfg S.kernel inIsr S.current)
    (idle : Caller cfg S.kernel inIsr S.current → S.call S.current = none) (s : Nat) (ticks : Word) :
    let post := S.semTake cfg inIsr s ticks
    (post.2 ≠ .ret .ok ∧ post.1.sem = S.sem ∧ ∀ t, post.1.progress t = S.progress t) ∨
    (0 < (S.sem s).count ∧ post.2 = .ret .ok ∧
      post.1.sem = update S.sem s { S.sem s with count := (S.sem s).count - 1 } ∧
      ∀ t, post.1.progress t = S.progress t) ∨
    ((S.sem s).count = 0 ∧ post.2 = .blocked ∧ post.1.sem = S.sem ∧ ∀ t,
      post.1.progress t = S.progress t ∨
        S.progress t = .free ∧ ∃ deadline, post.1.progress t = .waiting (.semTake s) deadline) := by
  intro post
  have step : Step cfg S post.1 (.semTake s ticks) post.2 :=
    semTake_step inv called idle rfl nofun
  have eq₀ : post = S.semTake cfg inIsr s ticks := rfl
  unfold semTake at eq₀
  rcases Rtos.semTake_cases inv.kernel called (S.sem s) s ticks with
    ⟨ret, bad, eq⟩ | ⟨available, eq⟩ | ⟨empty, nonzero, runs, k', eq, enters⟩
  · rw [eq] at eq₀
    dsimp only at eq₀
    rw [leave_returned] at eq₀
    rw [eq₀]
    refine .inl ⟨fun e => ?_, Function.update_eq_self .., fun t => rfl⟩
    cases e
    exact bad rfl
  · rw [eq] at eq₀
    dsimp only at eq₀
    rw [leave_returned] at eq₀
    rw [eq₀]
    exact .inr (.inl ⟨available, rfl, rfl, fun t => rfl⟩)
  · rw [eq] at eq₀
    dsimp only at eq₀
    rw [leave_blocked] at eq₀
    have sem : post.1.sem = S.sem := by
      rw [eq₀]
      exact Function.update_eq_self ..
    refine .inr (.inr ⟨empty, by rw [eq₀], sem, fun t => ?_⟩)
    cases step.moves inv t with
    | stays same => exact .inl same
    | enters call n here may nonzero blocked runs pre post =>
      cases may
      exact .inr ⟨pre, _, post⟩
    | woken call deadline w pre target wakes => exact nomatch wakes
    | late call wake pre tick => exact nomatch tick
    | returns call status payload here resume => exact nomatch resume

theorem semTake_tokens (inv : S.Inv cfg) (called : CalledBy cfg S.kernel inIsr S.current)
    (idle : Caller cfg S.kernel inIsr S.current → S.call S.current = none) (s : Nat) (ticks : Word) :
    TokenStep cfg s S (S.semTake cfg inIsr s ticks).1 0
      (decide ((S.semTake cfg inIsr s ticks).2 = .ret .ok)).toNat := by
  rcases semTake_cases inv called idle s ticks with
    ⟨bad, sem, same⟩ | ⟨available, ok, sem, same⟩ | ⟨empty, blocked, sem, moved⟩
  · rw [decide_eq_false bad]
    apply TokenStep.quiet
    · rw [sem]
    · intro t
      rw [same t]
    · intro t awaits
      rwa [same t] at awaits
  · have handed : (S.semTake cfg inIsr s ticks).1.handed cfg s = S.handed cfg s := by
      unfold System.handed
      simp only [same]
    rw [ok]
    constructor
    · rw [sem, handed, update_self]
      simp only [decide_true, Bool.toNat_true]
      omega
    · rw [sem, update_self]
    · intro bound
      rw [sem, update_self]
      dsimp only
      omega
    · intro before t awaits
      rw [same t] at awaits
      have none := before t awaits
      omega
  · have handed : (S.semTake cfg inIsr s ticks).1.handed cfg s = S.handed cfg s := by
      have granted : ∀ t, ((S.semTake cfg inIsr s ticks).1.progress t).granted s = (S.progress t).granted s := by
        intro t
        rcases moved t with same | ⟨pre, deadline, post⟩
        · rw [same]
        · rw [pre, post]
          rfl
      unfold System.handed
      simp only [granted]
    rw [blocked]
    constructor
    · rw [sem, handed]
      rfl
    · rw [sem]
    · rw [sem]
      exact id
    · intro _ t _
      rw [sem]
      exact empty

/- A tick. -/

theorem Inv.timedOut (inv : S.Inv cfg) : (S.timedOut cfg).Inv cfg := by
  apply inv.turns (S.timedOut cfg) (tickTimeouts_spec inv.kernel).1 (tickTimeouts_turns inv.kernel _) rfl
  intro t r woken
  split at woken
  · cases woken
    exact .inr rfl
  · cases woken

theorem timedOut_progress (inv : S.Inv cfg) (t : Nat) :
    (S.timedOut cfg).progress t = S.progress t ∨
      ∃ call deadline payload, S.progress t = .waiting call deadline ∧
        (S.timedOut cfg).progress t = .ended call .timeout payload := by
  rw [progress_turns (S.timedOut cfg) (tickTimeouts_turns inv.kernel S.Inside) rfl t]
  by_cases due : expired (ticked S.kernel) t = true
  · rw [if_pos due]
    cases S.progress t with
    | waiting call deadline => exact .inr ⟨call, deadline, _, rfl, rfl⟩
    | _ => exact .inl rfl
  · rw [if_neg due]
    exact .inl rfl

theorem tick_progress (inv : S.Inv cfg) (t : Nat) :
    (S.tick cfg).progress t = ((S.timedOut cfg).signalTimers cfg).progress t := by
  obtain ⟨_, frees, _⟩ := signalTimers_spec inv.timedOut.kernel
  have switch := tickRoundRobin_spec frees.inv
  exact progress_turns (S.tick cfg) (switch.wakes.turns ((S.timedOut cfg).signalTimers cfg).Inside) rfl t

theorem tick_tokens (inv : S.Inv cfg) :
    TokenStep cfg timerSem S (S.tick cfg)
      ((S.giving cfg timerSem .tick).any fun T => decide ((T.semGive cfg timerSem).2 = .ret .ok)).toNat 0 := by
  have timeouts : TokenStep cfg timerSem S (S.timedOut cfg) 0 0 := by
    apply TokenStep.quiet
    · rfl
    · intro t
      rcases timedOut_progress inv t with same | ⟨call, deadline, payload, pre, post⟩
      · rw [same]
      · rw [pre, post]
        cases call <;> rfl
    · intro t awaits
      rcases timedOut_progress inv t with same | ⟨call, deadline, payload, pre, post⟩
      · rwa [same] at awaits
      · rw [post] at awaits
        exact nomatch awaits
  have switch : TokenStep cfg timerSem ((S.timedOut cfg).signalTimers cfg) (S.tick cfg) 0 0 := by
    apply TokenStep.quiet
    · rfl
    · intro t
      rw [tick_progress inv]
    · intro t awaits
      rwa [tick_progress inv] at awaits
  have signal : TokenStep cfg timerSem (S.timedOut cfg) ((S.timedOut cfg).signalTimers cfg)
      ((S.giving cfg timerSem .tick).any fun T => decide ((T.semGive cfg timerSem).2 = .ret .ok)).toNat 0 := by
    unfold giving signalTimers
    by_cases due : timerDue cfg (S.timedOut cfg).timers (S.timedOut cfg).kernel.tickCount = true
    · have tokens := semGive_tokens inv.timedOut timerSem
      rw [if_pos due, if_pos ⟨rfl, due⟩]
      exact tokens
    · rw [if_neg due, if_neg fun both => due both.2]
      exact TokenStep.quiet rfl (fun t => rfl) fun t => id
  have path := (timeouts.trans signal).trans switch
  simpa using path

/- Every step. -/

theorem leave_sem (S : System) (call : Call) (outcome : Outcome) : (S.leave call outcome).1.sem = S.sem := by
  unfold leave
  dsimp only
  split <;> rfl

theorem semTake_other {n : Nat} (ne : n ≠ s) (inIsr : Bool) (ticks : Word) :
    (S.semTake cfg inIsr s ticks).1.sem n = S.sem n := by
  unfold semTake
  dsimp only
  rw [leave_sem]
  exact update_of_ne ne _ _

theorem resume_sem (inIsr : Bool) : (S.run cfg inIsr .resume).1.sem = S.sem := by
  unfold run
  cases S.call S.current with
  | none => rfl
  | some call =>
    cases call with
    | semTake n =>
      unfold resume
      dsimp only
      split <;> rfl
    | _ => rfl

end System

def Op.MovesToken (s : Nat) : Op → Prop
  | .semGive n | .semTake n _ => n = s
  | .tick | .daemon => s = timerSem
  | .resume => True
  | _ => False

namespace System

theorem run_sem (other : ¬op.MovesToken s) (inIsr : Bool) : (S.run cfg inIsr op).1.sem s = S.sem s := by
  cases op with
  | semGive n => exact semGive_other (Ne.symm other)
  | semTake n ticks => exact semTake_other (Ne.symm other) inIsr ticks
  | tick =>
    change ((S.timedOut cfg).signalTimers cfg).sem s = S.sem s
    unfold signalTimers
    split
    · exact semGive_other (S := S.timedOut cfg) other
    · rfl
  | daemon =>
    unfold run daemonStep
    cases S.daemon with
    | top =>
      dsimp only
      split
      · exact semTake_other other false waitForever
      · exact semTake_other other false waitForever
    | _ => rfl
  | resume => exact absurd trivial other
  | taskDelay ticks => exact congrFun (leave_sem ..) s
  | mutexLock m ticks => exact congrFun (leave_sem ..) s
  | queueSend q item ticks => exact congrFun (leave_sem ..) s
  | queueReceive q item ticks => exact congrFun (leave_sem ..) s
  | eventWait e mask options ticks => exact congrFun (leave_sem ..) s
  | taskNotifyWait clearOnEntry clearOnExit ticks => exact congrFun (leave_sem ..) s
  | _ => rfl

theorem giving_other (other : ¬op.MovesToken s) : S.giving cfg s op = none := by
  cases op with
  | semGive n => exact if_neg other
  | tick => exact if_neg fun both => other both.1
  | _ => rfl

theorem ending_other (other : ¬op.MovesToken s) : S.ending op outcome ≠ some (.semTake s) := by
  intro ends
  rcases (ending_cases ends).2 with ⟨ticks, may, _⟩ | ⟨rfl, _⟩
  · cases op <;> cases may
    · exact other rfl
    · exact other rfl
  · exact other trivial

theorem Moves.token (moves : Moves cfg S S' op outcome t) (other : ¬op.MovesToken s) :
    (S'.progress t).granted s = (S.progress t).granted s ∧
      ((S'.progress t).awaitsToken s = true → (S.progress t).awaitsToken s = true) := by
  cases moves with
  | stays same =>
    rw [same]
    exact ⟨rfl, id⟩
  | enters call ticks here may nonzero blocked runs pre post =>
    rw [pre, post]
    refine ⟨rfl, fun awaits => ?_⟩
    cases call with
    | semTake n =>
      have same : n = s := by simpa [Progress.awaitsToken] using awaits
      subst same
      cases op <;> cases may
      · exact absurd rfl other
      · exact absurd rfl other
    | _ => exact nomatch awaits
  | woken call deadline w pre target wakes post =>
    rw [pre, post]
    refine ⟨?_, nofun⟩
    cases call with
    | semTake n =>
      cases target
      have apart : n ≠ s := by
        rintro rfl
        cases op <;> cases wakes
        · exact other rfl
        · exact other rfl
      simp [Progress.granted, apart]
    | _ => rfl
  | late call wake pre tick expired post =>
    rw [pre, post]
    refine ⟨?_, nofun⟩
    cases call <;> rfl
  | returns call status payload here resume pre result post =>
    subst resume
    exact absurd trivial other

theorem resume_tokens (inv : S.Inv cfg) {inIsr : Bool} (allowed : S.Allowed cfg inIsr .resume) :
    TokenStep cfg s S (S.run cfg inIsr .resume).1 0 ((S.progress S.current).granted s).toNat := by
  obtain ⟨call, status, payload, pre, result, post, others⟩ := resume_moves inv allowed
  have inside := (progress_ended pre).1
  have sem : ((S.run cfg inIsr .resume).1.sem s) = S.sem s := congrFun (resume_sem inIsr) s
  have waits : ∀ t, ((S.run cfg inIsr .resume).1.progress t).awaitsToken s = true →
      (S.progress t).awaitsToken s = true := by
    intro t awaits
    by_cases ht : t = S.current
    · rw [ht, post] at awaits
      cases awaits
    · rwa [others t ht] at awaits
  cases granted : (S.progress S.current).granted s with
  | true =>
    have lt := inv.kernel.lists.lt _ (inv.inside S.current (by rw [Inside, inside]; rintro ⟨⟩))
    have flip : S.handed cfg s = (S.run cfg inIsr .resume).1.handed cfg s + 1 := by
      apply card_filter_add lt _ granted
      · intro t ht
        rw [others t ht]
      · rw [post]
        rfl
    constructor
    · rw [sem, flip, Bool.toNat_true]
      omega
    · rw [sem]
    · rw [sem]
      exact id
    · intro ok t awaits
      rw [sem]
      exact ok t (waits t awaits)
  | false =>
    apply TokenStep.quiet sem _ waits
    intro t
    by_cases ht : t = S.current
    · rw [ht, post, granted]
      rfl
    · rw [others t ht]

theorem resume_took (inv : S.Inv cfg) {inIsr : Bool} (allowed : S.Allowed cfg inIsr .resume) :
    took s ((machine cfg).take S ⟨.resume, inIsr⟩) = (S.progress S.current).granted s := by
  obtain ⟨call, status, payload, pre, result, _⟩ := resume_moves inv allowed
  have inside := (progress_ended pre).1
  rw [Bool.eq_iff_iff, took_iff]
  change S.ending .resume (S.run cfg inIsr .resume).2 = some (.semTake s) ∧
    (S.run cfg inIsr .resume).2 = .ret .ok ↔ _
  rw [result, pre]
  unfold ending
  cases call with
  | semTake n =>
    rw [if_neg nofun]
    dsimp only
    rw [inside]
    cases status <;> simp [Call.result, Progress.granted]
  | _ => split <;> simp [inside, Progress.granted]

theorem took_none
    (may : ∀ ticks, tr.input.op.call = some (.semTake s, ticks) →
      tr.input.op = .daemon ∧ tr.pre.daemon ≠ .top) (other : tr.input.op ≠ .resume) : took s tr = false := by
  rw [Bool.eq_false_iff, ne_eq, took_iff]
  rintro ⟨ends, _⟩
  rcases (ending_cases ends).2 with ⟨ticks, call, atTop⟩ | ⟨resume, _⟩
  · obtain ⟨daemon, elsewhere⟩ := may ticks call
    exact elsewhere (atTop daemon)
  · exact other resume

theorem daemon_tokens (inv : S.Inv cfg) {inIsr : Bool} (runs : S.taskRuns cfg = true) :
    TokenStep cfg timerSem S (S.run cfg inIsr .daemon).1 0
      (took timerSem ((machine cfg).take S ⟨.daemon, inIsr⟩)).toNat := by
  obtain ⟨called, idle⟩ := taskRuns_iff.mp runs
  by_cases top : S.daemon = .top
  · have run : (S.run cfg inIsr .daemon).2 = (S.semTake cfg false timerSem waitForever).2 ∧
        (S.run cfg inIsr .daemon).1.sem = (S.semTake cfg false timerSem waitForever).1.sem ∧
        ∀ t, (S.run cfg inIsr .daemon).1.progress t = (S.semTake cfg false timerSem waitForever).1.progress t := by
      unfold run daemonStep
      rw [top]
      dsimp only
      split <;> exact ⟨rfl, rfl, fun t => rfl⟩
    obtain ⟨output, sem, progress⟩ := run
    have taken : took timerSem ((machine cfg).take S ⟨.daemon, inIsr⟩) =
        decide ((S.semTake cfg false timerSem waitForever).2 = .ret .ok) := by
      rw [Bool.eq_iff_iff, took_iff, decide_eq_true_eq]
      change S.ending .daemon (S.run cfg inIsr .daemon).2 = some (.semTake timerSem) ∧
        (S.run cfg inIsr .daemon).2 = .ret .ok ↔ _
      rw [output]
      constructor
      · exact fun both => both.2
      · intro ok
        rw [ok]
        unfold ending
        dsimp only
        rw [if_neg nofun, if_pos top]
        exact ⟨rfl, rfl⟩
    have take : TokenStep cfg timerSem S (S.semTake cfg false timerSem waitForever).1 0
        (decide ((S.semTake cfg false timerSem waitForever).2 = .ret .ok)).toNat :=
      semTake_tokens inv (fun _ _ => called) (fun _ => idle) timerSem waitForever
    have rest : TokenStep cfg timerSem (S.semTake cfg false timerSem waitForever).1
        (S.run cfg inIsr .daemon).1 0 0 := by
      apply TokenStep.quiet
      · rw [sem]
      · intro t
        rw [progress t]
      · intro t awaits
        rwa [progress t] at awaits
    rw [taken]
    exact take.trans rest
  · have taken : took timerSem ((machine cfg).take S ⟨.daemon, inIsr⟩) = false :=
      took_none (fun ticks call => ⟨rfl, top⟩) nofun
    rw [taken]
    unfold run daemonStep
    cases h : S.daemon with
    | top => exact absurd h top
    | _ => exact TokenStep.quiet rfl (fun t => rfl) fun t => id

theorem run_tokens (inv : S.Inv cfg) {inIsr : Bool} (allowed : S.Allowed cfg inIsr op) :
    TokenStep cfg s S (S.run cfg inIsr op).1 (gave cfg s ((machine cfg).take S ⟨op, inIsr⟩)).toNat
      (took s ((machine cfg).take S ⟨op, inIsr⟩)).toNat := by
  by_cases moves : op.MovesToken s
  · cases op with
    | semGive n =>
      have same : n = s := moves
      subst same
      have taken : took n ((machine cfg).take S ⟨.semGive n, inIsr⟩) = false :=
        took_none nofun nofun
      rw [taken]
      unfold gave giving
      dsimp only [machine, Machine.take]
      rw [if_pos rfl]
      exact semGive_tokens inv n
    | semTake n ticks =>
      have same : n = s := moves
      subst same
      have taken : took n ((machine cfg).take S ⟨.semTake n ticks, inIsr⟩) =
          decide ((S.semTake cfg inIsr n ticks).2 = .ret .ok) := by
        rw [Bool.eq_iff_iff, took_iff, decide_eq_true_eq]
        change S.ending (.semTake n ticks) (S.semTake cfg inIsr n ticks).2 = some (.semTake n) ∧
          (S.semTake cfg inIsr n ticks).2 = .ret .ok ↔ _
        constructor
        · exact fun both => both.2
        · intro ok
          rw [ok]
          exact ⟨rfl, rfl⟩
      rw [taken]
      exact semTake_tokens inv (mayCall_called allowed.1) (fun caller =>
        mayCall_idle allowed.1 caller.started caller.task) n ticks
    | tick =>
      have same : s = timerSem := moves
      subst same
      have taken : took timerSem ((machine cfg).take S ⟨.tick, inIsr⟩) = false :=
        took_none nofun nofun
      rw [taken]
      exact tick_tokens inv
    | daemon =>
      have same : s = timerSem := moves
      subst same
      exact daemon_tokens inv allowed.1
    | resume =>
      rw [resume_took inv allowed]
      exact resume_tokens inv allowed
    | _ => exact moves.elim
  · have given : gave cfg s ((machine cfg).take S ⟨op, inIsr⟩) = false := by
      unfold gave
      dsimp only [machine, Machine.take]
      rw [giving_other moves]
      rfl
    have taken : took s ((machine cfg).take S ⟨op, inIsr⟩) = false := by
      rw [Bool.eq_false_iff, ne_eq, took_iff]
      exact fun both => ending_other moves both.1
    rw [given, taken]
    have step := run_step inv allowed
    exact TokenStep.quiet (run_sem moves inIsr) (fun t => ((step.moves inv t).token moves).1)
      fun t => ((step.moves inv t).token moves).2

theorem giving_wakes (inv : S.Inv cfg) (inIsr : Bool) {T : System} (giving : S.giving cfg s op = some T)
    (waiters : (T.kernel.waitMap (.sem s)).isEmpty cfg.bitmapWidth = false) :
    ∃ u, T.kernel.FirstWaiter u (.sem s) ∧ ((S.run cfg inIsr op).1.progress u).granted s = true ∧
      ∀ t, t ≠ u → (S.run cfg inIsr op).1.progress t = T.progress t := by
  have some_waits : ∀ R : System, R.Inv cfg → (R.kernel.waitMap (.sem s)).isEmpty cfg.bitmapWidth = false →
      ∃ u, R.kernel.FirstWaiter u (.sem s) ∧ ((R.semGive cfg s).1.progress u).granted s = true ∧
        ∀ t, t ≠ u → (R.semGive cfg s).1.progress t = R.progress t := by
    intro R invR nonempty
    rcases semGive_cases invR s with ⟨u, first, _, _, granted, others⟩ | ⟨none, _⟩
    · exact ⟨u, first, granted, others⟩
    · rw [invR.kernel.no_waiter.mpr none] at nonempty
      cases nonempty
  cases op with
  | semGive n =>
    obtain ⟨rfl, rfl⟩ : n = s ∧ S = T := by simpa [System.giving] using giving
    exact some_waits S inv waiters
  | tick =>
    obtain ⟨⟨rfl, due⟩, rfl⟩ : (s = timerSem ∧ timerDue cfg (S.timedOut cfg).timers
        (S.timedOut cfg).kernel.tickCount = true) ∧ S.timedOut cfg = T := by
      simpa [System.giving] using giving
    obtain ⟨u, first, granted, others⟩ := some_waits _ inv.timedOut waiters
    have signalled : ∀ t, (S.run cfg inIsr .tick).1.progress t =
        ((S.timedOut cfg).semGive cfg timerSem).1.progress t := by
      intro t
      change (S.tick cfg).progress t = _
      rw [tick_progress inv]
      unfold signalTimers
      rw [if_pos due]
    exact ⟨u, first, by rw [signalled u]; exact granted, fun t ht => by rw [signalled t]; exact others t ht⟩
  | _ => exact nomatch giving

theorem refused_take (inv : S.Inv cfg) {inIsr : Bool} (allowed : S.Allowed cfg inIsr op) {status : Return}
    (ends : S.ending op (S.run cfg inIsr op).2 = some (.semTake s))
    (refused : (S.run cfg inIsr op).2 = .ret status) (bad : status ≠ .ok) :
    (S.run cfg inIsr op).1.sem s = S.sem s ∧ (S.run cfg inIsr op).1.handed cfg s = S.handed cfg s := by
  have tokens := run_tokens (s := s) inv allowed
  have taken : took s ((machine cfg).take S ⟨op, inIsr⟩) = false := by
    rw [Bool.eq_false_iff, ne_eq, took_iff]
    rintro ⟨_, ok⟩
    change (S.run cfg inIsr op).2 = .ret .ok at ok
    rw [refused] at ok
    cases ok
    exact bad rfl
  have given : gave cfg s ((machine cfg).take S ⟨op, inIsr⟩) = false := by
    have nothing : S.giving cfg s op = none := by
      rcases (ending_cases ends).2 with ⟨ticks, may, _⟩ | ⟨rfl, _⟩
      · cases op <;> cases may <;> rfl
      · rfl
    unfold gave
    dsimp only [machine, Machine.take]
    rw [nothing]
    rfl
  have balance := tokens.balance
  rw [given, taken] at balance
  have count : (S.run cfg inIsr op).1.sem s = S.sem s := by
    rcases (ending_cases ends).2 with ⟨ticks, may, atTop⟩ | ⟨rfl, _⟩
    · have unchanged : ∀ isr n, CalledBy cfg S.kernel isr S.current →
          (Caller cfg S.kernel isr S.current → S.call S.current = none) →
          (S.semTake cfg isr s n).2 = .ret status → (S.semTake cfg isr s n).1.sem s = S.sem s := by
        intro isr n called idle out
        rcases semTake_cases inv called idle s n with ⟨_, sem, _⟩ | ⟨_, ok, _⟩ | ⟨_, blocked, _⟩
        · rw [sem]
        · rw [ok] at out
          cases out
          exact absurd rfl bad
        · rw [blocked] at out
          cases out
      cases op with
      | semTake n ticks =>
        cases may
        exact unchanged inIsr _ (mayCall_called allowed.1)
          (fun caller => mayCall_idle allowed.1 caller.started caller.task) refused
      | daemon =>
        cases may
        obtain ⟨called, idle⟩ := taskRuns_iff.mp allowed.1
        have same := unchanged false waitForever (fun _ _ => called) (fun _ => idle)
        unfold run daemonStep at refused ⊢
        rw [atTop rfl] at refused ⊢
        dsimp only at refused ⊢
        split <;> exact same refused
      | _ => cases may
    · exact congrFun (resume_sem inIsr) s
  rw [count] at balance
  exact ⟨count, by simp only [Bool.toNat_false] at balance; omega⟩

end System

/-- Token conservation in a run, for a semaphore that was initialised with these bounds. -/
structure SemConserved (cfg : Config) (s initialCount maxCount : Nat) (trace : Trace) (S : System) : Prop where
  balance : initialCount + trace.countP (gave cfg s) =
    (S.sem s).count + (trace.countP (took s) + S.handed cfg s)
  bound : (S.sem s).count ≤ maxCount
  waiting : (S.kernel.waitMap (.sem s)).isEmpty cfg.bitmapWidth = false → (S.sem s).count = 0
  wakes : ∀ tr ∈ trace, ∀ T, tr.pre.giving cfg s tr.input.op = some T →
    (T.kernel.waitMap (.sem s)).isEmpty cfg.bitmapWidth = false →
    ∃ u, T.kernel.FirstWaiter u (.sem s) ∧ (tr.post.progress u).granted s = true ∧
      ∀ t, t ≠ u → tr.post.progress t = T.progress t
  spent : ∀ tr ∈ trace, took s tr = false →
    (tr.pre.sem s).count + tr.pre.handed cfg s ≤ (tr.post.sem s).count + tr.post.handed cfg s
  refused : ∀ tr ∈ trace, ∀ t, Ends tr t (.semTake s) (.ret .timeout) ∨ Ends tr t (.semTake s) (.ret .wouldBlock) →
    tr.post.sem s = tr.pre.sem s ∧ tr.post.handed cfg s = tr.pre.handed cfg s

theorem Run.tokens {S₀ : System} {trace : Trace} (run : Run cfg S₀ trace S) (s : Nat) :
    TokenStep cfg s S₀ S (trace.countP (gave cfg s)) (trace.countP (took s)) := by
  have both : S.Inv cfg ∧ TokenStep cfg s S₀ S (trace.countP (gave cfg s)) (trace.countP (took s)) := by
    apply run.2.history (P := fun trace S => S.Inv cfg ∧
      TokenStep cfg s S₀ S (trace.countP (gave cfg s)) (trace.countP (took s)))
    · exact ⟨run.1.inv, TokenStep.quiet rfl (fun t => rfl) fun t => id⟩
    · rintro trace S request ⟨inv, tokens⟩ allowed
      refine ⟨inv.run allowed, ?_⟩
      have step := tokens.trans (System.run_tokens inv allowed)
      have one : ∀ p : Transition System Request Outcome → Bool, ∀ tr,
          (trace ++ [tr]).countP p = trace.countP p + (p tr).toNat := by
        intro p tr
        rw [List.countP_append, List.countP_singleton]
        cases p tr <;> rfl
      rw [one, one]
      exact step
  exact both.2

/-- Tokens are conserved in every run. -/
theorem sem_conserved {S₀ : System} {trace : Trace} (run : Run cfg S₀ trace S) {initialCount maxCount : Nat}
    (init : semInit initialCount maxCount = .ok (S₀.sem s)) :
    SemConserved cfg s initialCount maxCount trace S := by
  have tokens := run.tokens s
  have start : (S₀.sem s).count = initialCount ∧ (S₀.sem s).maxCount = maxCount ∧ initialCount ≤ maxCount := by
    unfold semInit at init
    split at init
    · cases init
    · rename_i valid
      injection init with eq
      rw [← eq]
      exact ⟨rfl, rfl, by omega⟩
  have idle : S₀.handed cfg s = 0 := by
    unfold System.handed
    rw [Finset.card_eq_zero, Finset.filter_eq_empty_iff]
    intro t _
    rw [System.progress_free.mpr (run.1.call t)]
    exact nofun
  have stepOf : ∀ tr ∈ trace, tr.pre.Inv cfg ∧ tr.pre.Allowed cfg tr.input.inIsr tr.input.op ∧
      tr = (machine cfg).take tr.pre tr.input := by
    intro tr mem
    obtain ⟨earlier, before, allowed, eq⟩ := run.2.reaches tr mem
    exact ⟨Run.inv ⟨run.1, before⟩, allowed, eq⟩
  constructor
  · have balance := tokens.balance
    rw [start.1, idle] at balance
    omega
  · rw [← start.2.1, ← tokens.maxCount]
    exact tokens.bound (by rw [start.1, start.2.1]; exact start.2.2)
  · intro nonempty
    obtain ⟨u, _, first⟩ := run.inv.kernel.first_waiter nonempty
    apply tokens.waiting _ u (run.inv.awaitsToken_iff.mpr first.1)
    intro t awaits
    rw [System.progress_free.mpr (run.1.call t)] at awaits
    exact nomatch awaits
  · intro tr mem T giving waiters
    obtain ⟨inv, _, eq⟩ := stepOf tr mem
    have wakes := System.giving_wakes inv tr.input.inIsr giving waiters
    rw [eq]
    exact wakes
  · intro tr mem nothing
    obtain ⟨inv, allowed, eq⟩ := stepOf tr mem
    have balance := (System.run_tokens (s := s) inv allowed).balance
    have post : tr.post = (tr.pre.run cfg tr.input.inIsr tr.input.op).1 := congrArg Transition.post eq
    rw [show (⟨tr.input.op, tr.input.inIsr⟩ : Request) = tr.input from rfl, ← eq, ← post, nothing] at balance
    simp only [Bool.toNat_false] at balance
    omega
  · intro tr mem t refused
    obtain ⟨inv, allowed, eq⟩ := stepOf tr mem
    have post : tr.post = (tr.pre.run cfg tr.input.inIsr tr.input.op).1 := congrArg Transition.post eq
    have output : tr.output = (tr.pre.run cfg tr.input.inIsr tr.input.op).2 := congrArg Transition.output eq
    rw [post]
    rcases refused with ⟨_, out, ends⟩ | ⟨_, out, ends⟩
    · rw [output] at out ends
      exact System.refused_take inv allowed ends out nofun
    · rw [output] at out ends
      exact System.refused_take inv allowed ends out nofun

/-- A take is handed its token, a second one times out and a third one is refused. -/
def sampleTokens : List Request :=
  [create 4 15, create 0 10, create 1 5, ⟨.kernelStart, false⟩, ⟨.daemon, false⟩, ⟨.contextSwitch, true⟩,
    ⟨.semTake 1 5#32, false⟩, ⟨.contextSwitch, true⟩, ⟨.semGive 1, false⟩, ⟨.contextSwitch, true⟩,
    ⟨.resume, false⟩, ⟨.semTake 1 1#32, false⟩, ⟨.contextSwitch, true⟩, ⟨.tick, true⟩,
    ⟨.contextSwitch, true⟩, ⟨.resume, false⟩, ⟨.semTake 1 0#32, false⟩]

theorem sem_conserved_sample : SemConserved sample 1 0 1 ((machine sample).transitions sampleStart sampleTokens)
    ((machine sample).play sampleStart sampleTokens) :=
  sem_conserved (run_of_permits sampleStart_boot (by decide +kernel)) rfl

end XSDK.Rtos
