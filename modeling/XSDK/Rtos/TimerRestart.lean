import XSDK.Rtos.TimerPass

/-! A timer that is started or stopped by its own callback, and what the pass leaves of that. -/
namespace XSDK.Rtos

open Function (update update_self update_of_ne)
open Library
open List (mem_cons_of_mem mem_cons_self not_mem_nil)

/-- What the kernel keeps of one timer. -/
structure TimerEntry where
  active : Bool
  expiryTick : Word
  periodTicks : Word
  isPeriodic : Bool
  deriving DecidableEq, Repr

def Timers.entry (timers : Timers) (timerId : Nat) : TimerEntry :=
  ⟨timers.activeMap.isSet timerId, timers.expiryTick timerId, timers.periodTicks timerId, timers.isPeriodic timerId⟩

structure PassKnown (cfg : Config) (s : TimerState) : Prop where
  registered : ∀ timerId, s.timers.activeMap.isSet timerId = true → timerRegistered cfg s.timers timerId = true
  ahead : ∀ timerId ∈ s.pass.ahead, timerRegistered cfg s.timers timerId = true
  nodup : s.pass.ahead.Nodup

/-- The rest of a pass from the callback of a timer on. The callback's last call on that timer
stands between what is done before it and later in the callback; after the return nobody calls on
the timer until the pass ends. -/
structure Course (cfg : Config) (method : TimerMethod) (s : TimerState) (timerId : Nat) (before : List TimerEvent)
    (call : TimerEvent) (later after : List TimerEvent) : Prop where
  legal : (timerMachine cfg method).Legal s (before ++ call :: (later ++ .done :: after))
  during : .done ∉ before ∧ .done ∉ later
  untouched : ∀ e ∈ later ++ after, e ≠ .start timerId ∧ e ≠ .stop timerId
  going : ∀ tr ∈ (timerMachine cfg method).transitions
    ((timerMachine cfg method).play s (before ++ call :: (later ++ [.done]))) after, tr.pre.pass ≠ .idle

/-- After the pass the timer is armed with the expiry of the callback's last start of it, or
inactive when the callback stopped it last. -/
def Honoured (cfg : Config) (method : TimerMethod) (s : TimerState) (timerId : Nat) (before : List TimerEvent)
    (call : TimerEvent) (later after : List TimerEvent) : Prop :=
  let started := (timerMachine cfg method).play s before
  let entry := ((timerMachine cfg method).play s (before ++ call :: (later ++ .done :: after))).timers.entry timerId
  (call = .start timerId →
    entry.active = true ∧ entry.expiryTick = started.tickCount + started.timers.periodTicks timerId) ∧
    (call = .stop timerId → entry.active = false)

variable {cfg : Config} {method : TimerMethod} {s : TimerState} {timers : Timers} {timerId u : Nat} {e : TimerEvent}

theorem timerInit_spec (period : Word) (isPeriodic : Bool) :
    (timerInit cfg timers timerId period isPeriodic).1 = timers ∨
      (timerRegistered cfg timers timerId = false ∧ (timerInit cfg timers timerId period isPeriodic).1 = { timers with
        table := update timers.table timerId true
        expiryTick := update timers.expiryTick timerId 0#32
        periodTicks := update timers.periodTicks timerId period
        isPeriodic := update timers.isPeriodic timerId isPeriodic }) := by
  unfold timerInit
  split
  · exact .inl rfl
  · next fresh =>
    obtain ⟨-, -, free⟩ := not_or.mp fresh |>.imp_right not_or.mp
    exact .inr ⟨by simp [timerRegistered, Bool.not_eq_true _ ▸ free], rfl⟩

theorem started_spec (s : TimerState) (timerId : Nat) :
    (timerRegistered cfg s.timers timerId = false ∧ s.started cfg method timerId = s.timers) ∨
      (timerRegistered cfg s.timers timerId = true ∧ ∃ next, s.started cfg method timerId = { s.timers with
        expiryTick := update s.timers.expiryTick timerId (s.tickCount + s.timers.periodTicks timerId)
        activeMap := s.timers.activeMap.set timerId
        nextExpiryTick := next }) := by
  cases known : timerRegistered cfg s.timers timerId with
  | false =>
    refine .inl ⟨rfl, ?_⟩
    unfold TimerState.started timerStart
    rw [if_pos known]
    cases method <;> rfl
  | true =>
    refine .inr ⟨rfl, ?_⟩
    obtain ⟨next, run⟩ := PassSound.timerStart_spec s.tickCount known
    unfold TimerState.started
    rw [run]
    cases method with
    | isr => exact ⟨s.timers.nextExpiryTick, rfl⟩
    | task => exact ⟨next, rfl⟩

theorem timerStop_spec (timers : Timers) (timerId : Nat) :
    (timerRegistered cfg timers timerId = false ∧ (timerStop cfg timers timerId).1 = timers) ∨
      (timerStop cfg timers timerId).1 = { timers with activeMap := timers.activeMap.clear timerId } := by
  unfold timerStop
  split
  · next unknown => exact .inl ⟨unknown, rfl⟩
  · exact .inr rfl

theorem returned_entry (s : TimerState) (timerId : Nat) :
    (s.timers.activeMap.isSet timerId = false → ((s.returned method timerId).entry timerId).active = false) ∧
      (s.timers.activeMap.isSet timerId = true →
        ((s.returned method timerId).entry timerId).active = s.timers.isPeriodic timerId ∧
          (s.timers.isPeriodic timerId = true →
            ((s.returned method timerId).entry timerId).expiryTick = s.tickCount + s.timers.periodTicks timerId)) := by
  cases method with
  | isr =>
    unfold TimerState.returned isrReturn
    dsimp only
    split
    · next periodic => exact ⟨fun off => off, fun on => ⟨on.trans periodic.symm, fun _ => update_self _ _ _⟩⟩
    · next single =>
      have gone : (s.timers.activeMap.clear timerId).isSet timerId = false := by simp
      exact ⟨fun _ => gone, fun _ => ⟨gone.trans (by simpa using single), fun periodic => absurd periodic single⟩⟩
  | task =>
    unfold TimerState.returned daemonReturn
    dsimp only
    split
    · next off =>
      refine ⟨fun _ => off, fun on => ?_⟩
      rw [off] at on
      exact nomatch on
    · next active =>
      have on : s.timers.activeMap.isSet timerId = true := by simpa using active
      split
      · next periodic => exact ⟨fun off => absurd off active, fun _ => ⟨on.trans periodic.symm, fun _ => update_self _ _ _⟩⟩
      · next single =>
        have gone : (s.timers.activeMap.clear timerId).isSet timerId = false := by simp
        exact ⟨fun _ => gone, fun _ => ⟨gone.trans (by simpa using single), fun periodic => absurd periodic single⟩⟩

variable {currentTick : Word} {rest : List Nat}

theorem scanOn_known {list : List Nat}
    (registered : ∀ u, s.timers.activeMap.isSet u = true → timerRegistered cfg s.timers u = true)
    (known : ∀ u ∈ list, timerRegistered cfg s.timers u = true) (nodup : list.Nodup) :
    PassKnown cfg (s.scanOn cfg method currentTick list) ∧
      (∀ u, (s.scanOn cfg method currentTick list).timers.entry u = s.timers.entry u) ∧
      (∀ u ∈ (s.scanOn cfg method currentTick list).pass.ahead, u ∈ list) ∧
      (s.scanOn cfg method currentTick list).tickCount = s.tickCount ∧
      (∀ u, timerRegistered cfg s.timers u = true →
        timerRegistered cfg (s.scanOn cfg method currentTick list).timers u = true) := by
  obtain ⟨next, pass, run, ends⟩ := @scanOn_spec cfg method s currentTick list known
  rw [run]
  rcases ends with rfl | ⟨first, rest, rfl, suffix, -⟩
  · exact ⟨⟨registered, fun _ mem => absurd mem not_mem_nil, List.nodup_nil⟩, fun _ => rfl,
      fun _ mem => absurd mem not_mem_nil, rfl, fun _ h => h⟩
  · have mem : ∀ u ∈ first :: rest, u ∈ list := fun u mem => suffix.subset mem
    exact ⟨⟨registered, fun u here => known u (mem u here), nodup.sublist suffix.sublist⟩, fun _ => rfl, mem, rfl,
      fun _ h => h⟩

structure StepKeeps (cfg : Config) (s : TimerState) (e : TimerEvent) (s' : TimerState) : Prop where
  known : PassKnown cfg s'
  registered : ∀ u, timerRegistered cfg s.timers u = true → timerRegistered cfg s'.timers u = true
  entry : ∀ u, timerRegistered cfg s.timers u = true → e ≠ .start u → e ≠ .stop u →
    (e = .done → ∀ rest currentTick, s.pass ≠ .callback u rest currentTick) → s'.timers.entry u = s.timers.entry u
  tickCount : s'.tickCount = s.tickCount + if e = .tick then 1#32 else 0#32
  ahead : s.pass ≠ .idle → ∀ u ∈ s'.pass.ahead, u ∈ s.pass.ahead
  callback : ∀ u rest currentTick, s.pass = .callback u rest currentTick → e ≠ .done → s'.pass = s.pass

namespace PassKnown

variable (h : PassKnown cfg s)
include h

theorem call {timers' : Timers}
    (kept : ∀ u, timerRegistered cfg s.timers u = true → timerRegistered cfg timers' u = true)
    (active : ∀ u, timers'.activeMap.isSet u = true → s.timers.activeMap.isSet u = true ∨ timerRegistered cfg s.timers u = true)
    (entry : ∀ u, timerRegistered cfg s.timers u = true → e ≠ .start u → e ≠ .stop u → timers'.entry u = s.timers.entry u)
    (calm : e ≠ .tick) : StepKeeps cfg s e { s with timers := timers' } := by
  refine ⟨⟨fun u on => ?_, fun u mem => kept u (h.ahead u mem), h.nodup⟩, kept, fun u reg start stop _ => entry u reg start stop,
    ?_, fun _ _ mem => mem, fun _ _ _ _ _ => rfl⟩
  · rcases active u on with before | reg
    · exact kept u (h.registered u before)
    · exact kept u reg
  · rw [if_neg calm]
    exact (BitVec.add_zero s.tickCount).symm

theorem init (period : Word) (isPeriodic : Bool) :
    StepKeeps cfg s (.init timerId period isPeriodic) (s.step cfg method (.init timerId period isPeriodic)) := by
  have effect := @timerInit_spec cfg s.timers timerId period isPeriodic
  apply h.call
  · intro u reg
    rcases effect with same | ⟨-, run⟩
    · rwa [same]
    · rw [run]
      rcases eq_or_ne u timerId with rfl | ne
      · simpa [timerRegistered] using (Bool.and_eq_true_iff.mp reg).1
      · simpa [timerRegistered, update_of_ne ne] using reg
  · intro u on
    rcases effect with same | ⟨-, run⟩
    · rw [same] at on
      exact .inl on
    · rw [run] at on
      exact .inl on
  · intro u reg _ _
    rcases effect with same | ⟨unknown, run⟩
    · rw [same]
    · have ne : u ≠ timerId := by
        rintro rfl
        rw [unknown] at reg
        cases reg
      rw [run]
      simp [Timers.entry, update_of_ne ne]
  · rintro ⟨⟩

theorem start : StepKeeps cfg s (.start timerId) (s.step cfg method (.start timerId)) := by
  have effect := @started_spec cfg method s timerId
  apply h.call
  · intro u reg
    rcases effect with ⟨-, same⟩ | ⟨-, next, run⟩
    · rwa [same]
    · rw [run]
      exact reg
  · intro u on
    rcases effect with ⟨-, same⟩ | ⟨known, next, run⟩
    · rw [same] at on
      exact .inl on
    · rcases eq_or_ne u timerId with rfl | ne
      · exact .inr known
      · rw [run] at on
        simp only [Bitmap.isSet_set, ne, decide_false, Bool.false_or] at on
        exact .inl on
  · intro u _ start _
    have ne : u ≠ timerId := by
      rintro rfl
      exact start rfl
    rcases effect with ⟨-, same⟩ | ⟨-, next, run⟩
    · rw [same]
    · rw [run]
      simp [Timers.entry, ne]
  · exact nofun

theorem stop : StepKeeps cfg s (.stop timerId) (s.step cfg method (.stop timerId)) := by
  have effect := @timerStop_spec cfg s.timers timerId
  apply h.call
  · intro u reg
    rcases effect with ⟨-, same⟩ | run
    · rwa [same]
    · rw [run]
      exact reg
  · intro u on
    rcases effect with ⟨-, same⟩ | run
    · rw [same] at on
      exact .inl on
    · rw [run] at on
      simp only [Bitmap.isSet_clear, Bool.and_eq_true] at on
      exact .inl on.2
  · intro u _ _ stop
    have ne : u ≠ timerId := by
      rintro rfl
      exact stop rfl
    rcases effect with ⟨-, same⟩ | run
    · rw [same]
    · rw [run]
      simp [Timers.entry, ne]
  · exact nofun

theorem beginPass :
    PassKnown cfg (s.beginPass cfg method) ∧
      (∀ u, (s.beginPass cfg method).timers.entry u = s.timers.entry u) ∧
      (s.beginPass cfg method).tickCount = s.tickCount ∧
      (∀ u, timerRegistered cfg s.timers u = true → timerRegistered cfg (s.beginPass cfg method).timers u = true) := by
  obtain ⟨known, entry, -, tick, registered⟩ := @scanOn_known cfg method s s.tickCount
    (s.timers.activeMap.scan cfg.bitmapWidth) h.registered
    (fun u mem => h.registered u (Bitmap.mem_scan.mp mem).2) (Bitmap.nodup_scan _ _)
  exact ⟨known, entry, tick, registered⟩

theorem tick (allowed : s.allowed method .tick = true) : StepKeeps cfg s .tick (s.step cfg method .tick) := by
  cases method with
  | isr =>
    have idle : s.pass = .idle := by simpa [TimerState.allowed] using allowed
    have later : PassKnown cfg { s with tickCount := s.tickCount + 1#32 } := ⟨h.registered, h.ahead, h.nodup⟩
    obtain ⟨known, entry, tick, registered⟩ := @beginPass cfg .isr _ later
    have ran : s.step cfg .isr .tick = { s with tickCount := s.tickCount + 1#32 }.beginPass cfg .isr := rfl
    rw [ran]
    refine ⟨known, registered, fun u _ _ _ _ => entry u, tick, fun busy => absurd idle busy, fun u rest tick at' _ => ?_⟩
    rw [idle] at at'
    cases at'
  | task =>
    have same : ∀ s' : TimerState, s'.timers = s.timers → s'.pass = s.pass → s'.tickCount = s.tickCount + 1#32 →
        StepKeeps cfg s .tick s' := by
      intro s' timers pass tick
      refine ⟨⟨?_, ?_, ?_⟩, fun u reg => by rwa [timers], fun u _ _ _ _ => by rw [timers], tick,
        fun _ u mem => by rwa [pass] at mem, fun _ _ _ _ _ => pass⟩
      · rw [timers]
        exact h.registered
      · rw [timers, pass]
        exact h.ahead
      · rw [pass]
        exact h.nodup
    show StepKeeps cfg s .tick (s.ticked cfg .task)
    unfold TimerState.ticked
    dsimp only
    split
    · exact same _ rfl rfl rfl
    · exact same _ rfl rfl rfl

theorem wake (allowed : s.allowed method .wake = true) : StepKeeps cfg s .wake (s.step cfg method .wake) := by
  have idle : s.pass = .idle := by
    simp only [TimerState.allowed, decide_eq_true_iff] at allowed
    exact allowed.2.1
  have taken : PassKnown cfg { s with timerSem := false } := ⟨h.registered, h.ahead, h.nodup⟩
  obtain ⟨known, entry, tick, registered⟩ := @beginPass cfg method _ taken
  have ran : s.step cfg method .wake = { s with timerSem := false }.beginPass cfg method := rfl
  rw [ran]
  refine ⟨known, registered, fun u _ _ _ _ => entry u, ?_, fun busy => absurd idle busy, fun u rest tick at' _ => ?_⟩
  · rw [if_neg (by rintro ⟨⟩)]
    exact tick.trans (BitVec.add_zero s.tickCount).symm
  · rw [idle] at at'
    cases at'

theorem stays (quiet : e ≠ .tick) : StepKeeps cfg s e s := by
  refine ⟨h, fun _ reg => reg, fun _ _ _ _ _ => rfl, ?_, fun _ _ mem => mem, fun _ _ _ _ _ => rfl⟩
  rw [if_neg quiet]
  exact (BitVec.add_zero s.tickCount).symm

theorem invoke : StepKeeps cfg s .invoke (s.step cfg method .invoke) := by
  unfold TimerState.step
  rcases at' : s.pass with _ | ⟨timerId, rest, currentTick⟩ | ⟨timerId, rest, currentTick⟩
  · exact h.stays nofun
  · have ahead := h.ahead
    have nodup := h.nodup
    rw [at'] at ahead nodup
    refine ⟨⟨h.registered, ahead, nodup⟩, fun _ reg => reg, fun _ _ _ _ _ => rfl, (h.stays (e := .invoke) nofun).tickCount,
      fun _ u mem => ?_, fun u r c same _ => ?_⟩
    · rw [at']
      exact mem
    · rw [at'] at same
      exact nomatch same
  · exact h.stays nofun

theorem done : StepKeeps cfg s .done (s.step cfg method .done) := by
  unfold TimerState.step
  rcases at' : s.pass with _ | ⟨timerId, rest, currentTick⟩ | ⟨timerId, rest, currentTick⟩
  · exact h.stays nofun
  · exact h.stays nofun
  · have ahead := h.ahead
    have nodup := h.nodup
    rw [at'] at ahead nodup
    obtain ⟨-, nodup⟩ := List.nodup_cons.mp nodup
    obtain ⟨expiry, active, run, frame⟩ := @PassSound.returned_change method s timerId
    dsimp only
    rw [run]
    obtain ⟨known, entry, subset, tick, registered⟩ := @scanOn_known cfg method
      { s with
        timers := { s.timers with expiryTick := expiry, activeMap := active }
        pass := .callback timerId rest currentTick } currentTick rest
      (fun u on => h.registered u ((frame u).2 on)) (fun u mem => ahead u (mem_cons_of_mem _ mem)) nodup
    refine ⟨known, registered, fun u _ _ _ own => ?_, tick.trans (h.stays (e := .done) nofun).tickCount, fun _ u mem => ?_, fun _ _ _ _ other => absurd rfl other⟩
    · have ne : u ≠ timerId := by
        rintro rfl
        exact own rfl rest currentTick at'
      obtain ⟨same, bit⟩ := (frame u).1 ne
      refine (entry u).trans ?_
      simp only [Timers.entry, same, bit]
    · rw [at']
      exact mem_cons_of_mem _ (subset u mem)

theorem step (allowed : s.allowed method e = true) : StepKeeps cfg s e (s.step cfg method e) := by
  cases e with
  | init timerId period isPeriodic => exact h.init period isPeriodic
  | start timerId => exact h.start
  | stop timerId => exact h.stop
  | tick => exact h.tick allowed
  | wake => exact h.wake allowed
  | invoke => exact h.invoke
  | done => exact h.done

end PassKnown

variable {trace : List (Transition TimerState TimerEvent (Option Nat))} {events : List TimerEvent} {tickCount : Word}

theorem run_known
    (run : (timerMachine cfg method).Run (.boot tickCount) trace s) : PassKnown cfg s := by
  refine run.invariant ⟨fun u on => ?_, fun _ mem => absurd mem not_mem_nil, List.nodup_nil⟩ fun s e h allowed =>
    (h.step allowed).known
  have none : Bitmap.empty.isSet u = true := on
  rw [Bitmap.isSet_empty] at none
  exact nomatch none

theorem play_during (h : PassKnown cfg s) (legal : (timerMachine cfg method).Legal s events) (inside : .done ∉ events)
    (at' : s.pass = .callback timerId rest currentTick) :
    PassKnown cfg ((timerMachine cfg method).play s events) ∧
      ((timerMachine cfg method).play s events).pass = .callback timerId rest currentTick ∧
      ((timerMachine cfg method).play s events).tickCount = s.tickCount + BitVec.ofNat 32 (events.count .tick) ∧
      ((∀ e ∈ events, e ≠ .start timerId ∧ e ≠ .stop timerId) →
        ((timerMachine cfg method).play s events).timers.entry timerId = s.timers.entry timerId) := by
  induction events generalizing s with
  | nil => exact ⟨h, at', (BitVec.add_zero s.tickCount).symm, fun _ => rfl⟩
  | cons e rest' ih =>
    obtain ⟨allowed, legal⟩ := legal
    have keeps := h.step allowed
    have ne : e ≠ .done := fun same => inside (same ▸ mem_cons_self)
    have there : (s.step cfg method e).pass = .callback timerId rest currentTick :=
      (keeps.callback timerId rest currentTick at' ne).trans at'
    have reg : timerRegistered cfg s.timers timerId = true := h.ahead timerId (by rw [at']; exact mem_cons_self)
    obtain ⟨known, pass, tick, entry⟩ := ih keeps.known legal (fun mem => inside (mem_cons_of_mem e mem)) there
    refine ⟨known, pass, ?_, fun untouched => ?_⟩
    · have one : BitVec.ofNat 32 ((e :: rest').count .tick) =
          (if e = .tick then 1#32 else 0#32) + BitVec.ofNat 32 (rest'.count .tick) := by
        by_cases is : e = .tick
        · rw [is, List.count_cons_self, if_pos rfl, BitVec.ofNat_add, BitVec.add_comm]
        · rw [List.count_cons_of_ne is, if_neg is, BitVec.zero_add]
      rw [one, ← BitVec.add_assoc, ← keeps.tickCount]
      exact tick
    · obtain ⟨start, stop⟩ := untouched e mem_cons_self
      exact (entry fun e' mem => untouched e' (mem_cons_of_mem e mem)).trans
        (keeps.entry timerId reg start stop fun done => absurd done ne)

theorem play_after (h : PassKnown cfg s) (legal : (timerMachine cfg method).Legal s events)
    (reg : timerRegistered cfg s.timers timerId = true) (passed : timerId ∉ s.pass.ahead)
    (untouched : ∀ e ∈ events, e ≠ .start timerId ∧ e ≠ .stop timerId)
    (going : ∀ tr ∈ (timerMachine cfg method).transitions s events, tr.pre.pass ≠ .idle) :
    ((timerMachine cfg method).play s events).timers.entry timerId = s.timers.entry timerId := by
  induction events generalizing s with
  | nil => rfl
  | cons e rest ih =>
    obtain ⟨allowed, legal⟩ := legal
    have keeps := h.step allowed
    obtain ⟨start, stop⟩ := untouched e mem_cons_self
    have busy : s.pass ≠ .idle := going _ mem_cons_self
    have own : ∀ r c, s.pass ≠ .callback timerId r c := by
      intro r c same
      rw [same] at passed
      exact passed mem_cons_self
    refine (ih keeps.known legal (keeps.registered timerId reg) (fun mem => passed (keeps.ahead busy timerId mem))
      (fun e' mem => untouched e' (mem_cons_of_mem e mem))
      fun tr mem => going tr (mem_cons_of_mem _ mem)).trans ?_
    exact keeps.entry timerId reg start stop fun _ => own

theorem play_return {after : List TimerEvent} (h : PassKnown cfg s)
    (at' : s.pass = .callback timerId rest currentTick) (legal : (timerMachine cfg method).Legal s (.done :: after))
    (untouched : ∀ e ∈ after, e ≠ .start timerId ∧ e ≠ .stop timerId)
    (going : ∀ tr ∈ (timerMachine cfg method).transitions (s.step cfg method .done) after, tr.pre.pass ≠ .idle) :
    ((timerMachine cfg method).play s (.done :: after)).timers.entry timerId =
      (s.returned method timerId).entry timerId := by
  obtain ⟨allowed, legal⟩ := legal
  have keeps := h.step allowed
  have ahead := h.ahead
  have nodup := h.nodup
  rw [at'] at ahead nodup
  obtain ⟨fresh, nodup⟩ := List.nodup_cons.mp nodup
  have reg := ahead timerId mem_cons_self
  obtain ⟨expiry, active, run, frame⟩ := @PassSound.returned_change method s timerId
  have returned : s.step cfg method .done =
      TimerState.scanOn cfg method { s with timers := s.returned method timerId } currentTick rest := by
    rw [TimerState.step, at']
  have scanned := @scanOn_known cfg method { s with timers := s.returned method timerId } currentTick rest
    (by
      rw [run]
      exact fun u on => h.registered u ((frame u).2 on))
    (by
      rw [run]
      exact fun u mem => ahead u (mem_cons_of_mem _ mem)) nodup
  obtain ⟨-, entry, subset, -⟩ := scanned
  rw [← returned] at entry subset
  refine (play_after keeps.known legal (keeps.registered timerId reg) (fun mem => fresh (subset timerId mem)) untouched
    going).trans ?_
  exact entry timerId

theorem play_tail {later after : List TimerEvent} (h : PassKnown cfg s)
    (at' : s.pass = .callback timerId rest currentTick)
    (legal : (timerMachine cfg method).Legal s (later ++ .done :: after)) (inside : .done ∉ later)
    (untouched : ∀ e ∈ later ++ after, e ≠ .start timerId ∧ e ≠ .stop timerId)
    (going : ∀ tr ∈ (timerMachine cfg method).transitions ((timerMachine cfg method).play s (later ++ [.done])) after,
      tr.pre.pass ≠ .idle) :
    ∃ w : TimerState, w.timers.entry timerId = s.timers.entry timerId ∧
      w.tickCount = s.tickCount + BitVec.ofNat 32 (later.count .tick) ∧
      ((timerMachine cfg method).play s (later ++ .done :: after)).timers.entry timerId =
        (w.returned method timerId).entry timerId := by
  obtain ⟨first, second⟩ := Machine.legal_append.mp legal
  obtain ⟨known, there, tick, entry⟩ := play_during h first inside at'
  rw [Machine.play_append] at going
  refine ⟨(timerMachine cfg method).play s later, entry fun e mem => untouched e (List.mem_append_left after mem), tick, ?_⟩
  rw [Machine.play_append]
  exact play_return known there second (fun e mem => untouched e (List.mem_append_right later mem)) going

/-- A started timer is armed with the expiry of that start exactly when it is periodic and the tick
of the start is still the current one at the callback's return; a stopped one is inactive. -/
theorem restarted_entry
    {before later after : List TimerEvent} {call : TimerEvent}
    (run : (timerMachine cfg method).Run (.boot tickCount) trace s) (at' : s.pass = .callback timerId rest currentTick)
    (course : Course cfg method s timerId before call later after) :
    (call = .start timerId →
      ((((timerMachine cfg method).play s (before ++ call :: (later ++ .done :: after))).timers.entry timerId).active = true ∧
        (((timerMachine cfg method).play s (before ++ call :: (later ++ .done :: after))).timers.entry timerId).expiryTick =
          ((timerMachine cfg method).play s before).tickCount +
            ((timerMachine cfg method).play s before).timers.periodTicks timerId ↔
        ((timerMachine cfg method).play s before).timers.isPeriodic timerId = true ∧
          BitVec.ofNat 32 (later.count .tick) = 0#32)) ∧
      (call = .stop timerId →
        (((timerMachine cfg method).play s (before ++ call :: (later ++ .done :: after))).timers.entry timerId).active = false) := by
  obtain ⟨first, allowed, second⟩ := Machine.legal_append.mp course.legal
  obtain ⟨known, there, -⟩ := play_during (run_known run) first course.during.1 at'
  have going := course.going
  rw [Machine.play_append] at going ⊢
  generalize (timerMachine cfg method).play s before = started at *
  have reg : timerRegistered cfg started.timers timerId = true :=
    known.ahead timerId (by rw [there]; exact mem_cons_self)
  have keeps := known.step allowed
  constructor
  · rintro rfl
    have pass := (keeps.callback timerId rest currentTick there nofun).trans there
    obtain ⟨w, entry, tick, final⟩ := play_tail keeps.known pass second course.during.2 course.untouched going
    have armed : (started.step cfg method (.start timerId)).timers.entry timerId =
        ⟨true, started.tickCount + started.timers.periodTicks timerId, started.timers.periodTicks timerId,
          started.timers.isPeriodic timerId⟩ := by
      rcases @started_spec cfg method started timerId with ⟨unknown, -⟩ | ⟨-, next, run⟩
      · rw [reg] at unknown
        exact nomatch unknown
      · simp only [TimerState.step, run]
        simp [Timers.entry]
    have still : (started.step cfg method (.start timerId)).tickCount = started.tickCount := rfl
    rw [armed] at entry
    rw [still] at tick
    obtain ⟨on, expiry, period, periodic⟩ := TimerEntry.mk.inj entry
    obtain ⟨active, again⟩ := (@returned_entry method w timerId).2 on
    rw [periodic, period, tick] at again
    rw [periodic] at active
    have end' : ((timerMachine cfg method).play started (.start timerId :: (later ++ .done :: after))).timers.entry timerId =
        (w.returned method timerId).entry timerId := final
    rw [end', active]
    constructor
    · rintro ⟨repeats, expires⟩
      refine ⟨repeats, ?_⟩
      have same := (again repeats).symm.trans expires
      generalize BitVec.ofNat 32 (later.count .tick) = ticks at same ⊢
      bv_omega
    · rintro ⟨repeats, none⟩
      refine ⟨repeats, ?_⟩
      rw [again repeats, none, BitVec.add_zero]
  · rintro rfl
    have pass := (keeps.callback timerId rest currentTick there nofun).trans there
    obtain ⟨w, entry, tick, final⟩ := play_tail keeps.known pass second course.during.2 course.untouched going
    have off : w.timers.activeMap.isSet timerId = false := by
      have same : w.timers.activeMap.isSet timerId =
        (started.step cfg method (.stop timerId)).timers.activeMap.isSet timerId := congrArg TimerEntry.active entry
      rw [same]
      rcases @timerStop_spec cfg started.timers timerId with ⟨unknown, -⟩ | run
      · rw [reg] at unknown
        exact nomatch unknown
      · simp only [TimerState.step, run]
        simp
    exact (congrArg TimerEntry.active final).trans ((returned_entry w timerId).1 off)

/-- In both modes and for both kinds of timer: the callback's last call on its own timer is honoured
exactly when it is no start, or starts a periodic timer with no tick before the callback returns. -/
theorem honoured_iff {tickCount : Word} {trace : List (Transition TimerState TimerEvent (Option Nat))}
    {rest : List Nat} {currentTick : Word} {before later after : List TimerEvent} {call : TimerEvent}
    (run : (timerMachine cfg method).Run (.boot tickCount) trace s) (at' : s.pass = .callback timerId rest currentTick)
    (course : Course cfg method s timerId before call later after) :
    Honoured cfg method s timerId before call later after ↔
      (call = .start timerId → ((timerMachine cfg method).play s before).timers.isPeriodic timerId = true ∧
        BitVec.ofNat 32 (later.count .tick) = 0#32) := by
  obtain ⟨start, stop⟩ := restarted_entry run at' course
  constructor
  · rintro ⟨armed, -⟩ is
    exact (start is).mp (armed is)
  · intro fine
    exact ⟨fun is => (start is).mpr (fine is), stop⟩

/-- One timer that runs out; its callback starts it again. -/
def restartSample (isPeriodic : Bool) (method : TimerMethod) : List TimerEvent :=
  [.init 0 1#32 isPeriodic, .start 0, .tick] ++ (if method = .task then [.wake] else []) ++ [.invoke]

theorem honoured_periodic :
    Honoured sample .task ((timerMachine sample .task).play (.boot 0#32) (restartSample true .task)) 0 [] (.start 0) [] [] := by
  have legal : (timerMachine sample .task).Legal (.boot 0#32) (restartSample true .task) := by decide +kernel
  have course : Course sample .task ((timerMachine sample .task).play (.boot 0#32) (restartSample true .task)) 0 []
      (.start 0) [] [] := ⟨by decide +kernel, by decide, fun _ mem => absurd mem List.not_mem_nil,
        fun _ mem => absurd mem List.not_mem_nil⟩
  exact (@honoured_iff sample .task _ 0 _ _ [] 1#32 [] [] [] _ (Machine.run_of_legal legal)
    (by decide +kernel) course).mpr
    fun _ => ⟨by decide +kernel, by decide⟩

theorem restart_lost (method : TimerMethod) :
    ∃ (s : TimerState) (trace : List (Transition TimerState TimerEvent (Option Nat))),
      (timerMachine sample method).Run (.boot 0#32) trace s ∧ s.pass = .callback 0 [] 1#32 ∧
        Course sample method s 0 [] (.start 0) [] [] ∧ ¬Honoured sample method s 0 [] (.start 0) [] [] := by
  have legal : (timerMachine sample method).Legal (.boot 0#32) (restartSample false method) := by
    cases method <;> decide +kernel
  have there : ((timerMachine sample method).play (.boot 0#32) (restartSample false method)).pass = .callback 0 [] 1#32 := by
    cases method <;> decide +kernel
  have course : Course sample method ((timerMachine sample method).play (.boot 0#32) (restartSample false method)) 0 []
      (.start 0) [] [] := ⟨by cases method <;> decide +kernel, by decide, fun _ mem => absurd mem not_mem_nil,
        fun _ mem => absurd mem not_mem_nil⟩
  have run := Machine.run_of_legal legal
  generalize (timerMachine sample method).transitions (.boot 0#32) (restartSample false method) = trace at run
  have single : ((timerMachine sample method).play (.boot 0#32) (restartSample false method)).timers.isPeriodic 0 = false := by
    cases method <;> decide +kernel
  generalize (timerMachine sample method).play (.boot 0#32) (restartSample false method) = s at run there course single
  refine ⟨s, trace, run, there, course, fun honoured => ?_⟩
  have periodic := ((honoured_iff run there course).mp honoured rfl).1
  exact Bool.false_ne_true (single.symm.trans periodic)

theorem restarts_lost :
    ¬∀ (cfg : Config) (method : TimerMethod) (tickCount : Word)
        (trace : List (Transition TimerState TimerEvent (Option Nat))) (s : TimerState)
        (timerId : Nat) (rest : List Nat)
        (currentTick : Word) (before later after : List TimerEvent) (call : TimerEvent),
      (timerMachine cfg method).Run (.boot tickCount) trace s → s.pass = .callback timerId rest currentTick →
        Course cfg method s timerId before call later after →
        Honoured cfg method s timerId before call later after := by
  intro honoured
  obtain ⟨s, trace, run, there, course, lost⟩ := restart_lost .isr
  exact lost (honoured sample .isr 0#32 trace s 0 [] 1#32 [] [] [] (.start 0) run there course)

end XSDK.Rtos
