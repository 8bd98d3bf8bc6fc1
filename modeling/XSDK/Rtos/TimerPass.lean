import XSDK.Rtos.Reachable

/-! A pass over the expired timers, by the tick interrupt or by the daemon task, with what
callbacks and other tasks do to the timers meanwhile. -/
namespace XSDK.Rtos

open Function (update update_self update_of_ne)
open Library

/-- Who calls the timers' callbacks. -/
inductive TimerMethod
  | isr
  | task
  deriving DecidableEq, Repr

/-- Where a pass stands: it has found an expired timer and has released the lock, or the
timer's callback runs; the rest of the snapshot and the copy of the tick go along. -/
inductive Pass
  | idle
  | released (timerId : Nat) (rest : List Nat) (currentTick : Word)
  | callback (timerId : Nat) (rest : List Nat) (currentTick : Word)
  deriving DecidableEq, Repr

structure TimerState where
  timers : Timers
  tickCount : Word
  timerSem : Bool
  pass : Pass

inductive TimerEvent
  | init (timerId : Nat) (period : Word) (isPeriodic : Bool)
  | start (timerId : Nat)
  | stop (timerId : Nat)
  | tick
  | wake
  | invoke
  | done
  deriving DecidableEq, Repr

def Pass.ofDaemon : Daemon → Pass
  | .callback timerId rest currentTick => .released timerId rest currentTick
  | _ => .idle

/-- After a callback the interrupt does not look whether the timer is still active. -/
def isrReturn (timers : Timers) (tickCount : Word) (timerId : Nat) : Timers :=
  if timers.isPeriodic timerId = true then
    { timers with
      expiryTick := update timers.expiryTick timerId (tickCount + timers.periodTicks timerId) }
  else { timers with activeMap := timers.activeMap.clear timerId }

variable (cfg : Config) (method : TimerMethod)

namespace TimerState

def boot (tickCount : Word) : TimerState := ⟨.none, tickCount, false, .idle⟩

/-- Go on with a pass; only the daemon keeps the next expiry. -/
def scanOn (s : TimerState) (currentTick : Word) (rest : List Nat) : TimerState :=
  let (timers, daemon) := match method with
    | .isr => daemonScan cfg currentTick s.timers rest
    | .task => daemonContinue cfg currentTick s.timers rest
  { s with timers := timers, pass := .ofDaemon daemon }

def beginPass (s : TimerState) : TimerState :=
  s.scanOn cfg method s.tickCount (s.timers.activeMap.scan cfg.bitmapWidth)

def returned (s : TimerState) (timerId : Nat) : Timers :=
  match method with
  | .isr => isrReturn s.timers s.tickCount timerId
  | .task => daemonReturn s.timers s.tickCount timerId

def started (s : TimerState) (timerId : Nat) : Timers :=
  let timers := (timerStart cfg s.timers s.tickCount timerId).1
  match method with
  | .isr => { timers with nextExpiryTick := s.timers.nextExpiryTick }
  | .task => timers

def ticked (s : TimerState) : TimerState :=
  let s := { s with tickCount := s.tickCount + 1#32 }
  match method with
  | .isr => s.beginPass cfg .isr
  | .task => if timerDue cfg s.timers s.tickCount = true then { s with timerSem := true } else s

def step (s : TimerState) : TimerEvent → TimerState
  | .init timerId period isPeriodic => { s with timers := (timerInit cfg s.timers timerId period isPeriodic).1 }
  | .start timerId => { s with timers := s.started cfg method timerId }
  | .stop timerId => { s with timers := (timerStop cfg s.timers timerId).1 }
  | .tick => s.ticked cfg method
  | .wake => { s with timerSem := false }.beginPass cfg method
  | .invoke => match s.pass with
    | .released timerId rest currentTick => { s with pass := .callback timerId rest currentTick }
    | _ => s
  | .done => match s.pass with
    | .callback timerId rest currentTick =>
      { s with timers := s.returned method timerId }.scanOn cfg method currentTick rest
    | _ => s

/-- The interrupt is not interrupted: between its steps only its callbacks act. The daemon
can be, whenever it has released the lock. -/
def allowed (s : TimerState) : TimerEvent → Bool
  | .init .. | .start _ | .stop _ => match method, s.pass with
    | .isr, .released .. => false
    | _, _ => true
  | .tick => decide (method = .task ∨ s.pass = .idle)
  | .wake => decide (method = .task ∧ s.pass = .idle ∧ s.timerSem = true)
  | .invoke => match s.pass with
    | .released .. => true
    | _ => false
  | .done => match s.pass with
    | .callback .. => true
    | _ => false

def invoked (s : TimerState) : TimerEvent → Option Nat
  | .invoke => match s.pass with
    | .released timerId _ _ => some timerId
    | _ => none
  | _ => none

end TimerState

def timerMachine : Machine TimerState TimerEvent (Option Nat) where
  allowed s i := s.allowed method i = true
  step s i := (s.step cfg method i, s.invoked i)

instance (s : TimerState) (i : TimerEvent) : Decidable ((timerMachine cfg method).allowed s i) :=
  inferInstanceAs (Decidable (s.allowed method i = true))

/-- The pass is going to call the timer if nothing happens to it. -/
def Pass.Due (pass : Pass) (expiryTick : Nat → Word) (timerId : Nat) : Prop :=
  match pass with
  | .idle => False
  | .released first rest currentTick =>
    timerId = first ∨ (timerId ∈ rest ∧ tickHasExpired currentTick (expiryTick timerId) = true)
  | .callback _ rest currentTick => timerId ∈ rest ∧ tickHasExpired currentTick (expiryTick timerId) = true

/-- The timers a pass has still to look at, the one it is at included. -/
def Pass.ahead : Pass → List Nat
  | .idle => []
  | .released timerId rest _ => timerId :: rest
  | .callback timerId rest _ => timerId :: rest

/-- A step that does not cross the pass under way: it stops no timer that the pass is going to
call, starts none of them anew unless its time has come by the new expiry too, and turns the
tick counter past none of them. -/
def TimerState.Honest (s : TimerState) : TimerEvent → Prop
  | .stop timerId => ¬s.pass.Due s.timers.expiryTick timerId
  | .start timerId =>
    s.pass.Due (update s.timers.expiryTick timerId (s.tickCount + s.timers.periodTicks timerId)) timerId →
      tickHasExpired s.tickCount (s.tickCount + s.timers.periodTicks timerId) = true
  | .tick => ∀ timerId ∈ s.pass.ahead, s.pass.Due s.timers.expiryTick timerId →
      tickHasExpired (s.tickCount + 1#32) (s.timers.expiryTick timerId) = true
  | _ => True

instance (pass : Pass) (expiryTick : Nat → Word) (timerId : Nat) : Decidable (pass.Due expiryTick timerId) :=
  match pass with
  | .idle => inferInstanceAs (Decidable False)
  | .released first rest currentTick => inferInstanceAs (Decidable
      (timerId = first ∨ (timerId ∈ rest ∧ tickHasExpired currentTick (expiryTick timerId) = true)))
  | .callback _ rest currentTick => inferInstanceAs (Decidable
      (timerId ∈ rest ∧ tickHasExpired currentTick (expiryTick timerId) = true))

instance (s : TimerState) (i : TimerEvent) : Decidable (s.Honest i) :=
  match i with
  | .stop timerId => inferInstanceAs (Decidable (¬s.pass.Due s.timers.expiryTick timerId))
  | .start timerId => inferInstanceAs (Decidable
      (s.pass.Due (update s.timers.expiryTick timerId (s.tickCount + s.timers.periodTicks timerId)) timerId →
        tickHasExpired s.tickCount (s.tickCount + s.timers.periodTicks timerId) = true))
  | .tick => inferInstanceAs (Decidable (∀ timerId ∈ s.pass.ahead, s.pass.Due s.timers.expiryTick timerId →
      tickHasExpired (s.tickCount + 1#32) (s.timers.expiryTick timerId) = true))
  | .init .. | .wake | .invoke | .done => inferInstanceAs (Decidable True)

/-- The timer is active and its expiry has been reached. -/
def TimerState.Ripe (s : TimerState) (timerId : Nat) : Prop :=
  s.timers.activeMap.isSet timerId = true ∧ tickHasExpired s.tickCount (s.timers.expiryTick timerId) = true

structure PassSound (s : TimerState) : Prop where
  registered : ∀ timerId, s.timers.activeMap.isSet timerId = true → timerRegistered cfg s.timers timerId = true
  ahead : ∀ timerId ∈ s.pass.ahead, timerRegistered cfg s.timers timerId = true
  nodup : s.pass.ahead.Nodup
  due : ∀ timerId, s.pass.Due s.timers.expiryTick timerId → s.Ripe timerId

variable {cfg method} {s : TimerState} {timers : Timers}

theorem daemonScan_spec (currentTick : Word) (list : List Nat)
    (known : ∀ timerId ∈ list, timerRegistered cfg timers timerId = true) :
    (daemonScan cfg currentTick timers list).1 = timers ∧
      ((daemonScan cfg currentTick timers list).2 = .top ∨
        ∃ timerId rest, (daemonScan cfg currentTick timers list).2 = .callback timerId rest currentTick ∧
          timerId :: rest <:+ list ∧ tickHasExpired currentTick (timers.expiryTick timerId) = true) := by
  induction list with
  | nil => exact ⟨rfl, .inl rfl⟩
  | cons timerId rest ih =>
    have first := known timerId List.mem_cons_self
    rw [daemonScan, if_neg (by simp [first])]
    by_cases expired : tickHasExpired currentTick (timers.expiryTick timerId) = true
    · rw [if_pos expired]
      exact ⟨rfl, .inr ⟨timerId, rest, rfl, List.suffix_rfl, expired⟩⟩
    · rw [if_neg expired]
      obtain ⟨same, ends⟩ := ih fun u mem => known u (List.mem_cons_of_mem _ mem)
      refine ⟨same, ends.imp_right ?_⟩
      rintro ⟨u, more, found, suffix, ripe⟩
      exact ⟨u, more, found, suffix.trans (List.suffix_cons _ _), ripe⟩

theorem nextExpiryVisit_foldl (list : List Nat) (acc : Timers × Bool) :
    ∃ next, (list.foldl (nextExpiryVisit cfg) acc).1 = { acc.1 with nextExpiryTick := next } := by
  induction list generalizing acc with
  | nil => exact ⟨acc.1.nextExpiryTick, rfl⟩
  | cons timerId rest ih =>
    obtain ⟨next, same⟩ := ih (nextExpiryVisit cfg acc timerId)
    have one : ∃ next, (nextExpiryVisit cfg acc timerId).1 = { acc.1 with nextExpiryTick := next } := by
      unfold nextExpiryVisit
      dsimp only
      split
      · exact ⟨_, rfl⟩
      · exact ⟨acc.1.nextExpiryTick, rfl⟩
    obtain ⟨next', first⟩ := one
    refine ⟨next, ?_⟩
    rw [List.foldl_cons, same, first]

theorem scanOn_spec (s : TimerState) (currentTick : Word) (list : List Nat)
    (known : ∀ timerId ∈ list, timerRegistered cfg s.timers timerId = true) :
    ∃ next pass, s.scanOn cfg method currentTick list =
        { s with timers := { s.timers with nextExpiryTick := next }, pass := pass } ∧
      (pass = .idle ∨ ∃ timerId rest, pass = .released timerId rest currentTick ∧ timerId :: rest <:+ list ∧
        tickHasExpired currentTick (s.timers.expiryTick timerId) = true) := by
  obtain ⟨same, ends⟩ := daemonScan_spec currentTick list known
  have pass : Pass.ofDaemon (daemonScan cfg currentTick s.timers list).2 = .idle ∨
      ∃ timerId rest, Pass.ofDaemon (daemonScan cfg currentTick s.timers list).2 =
        .released timerId rest currentTick ∧ timerId :: rest <:+ list ∧
          tickHasExpired currentTick (s.timers.expiryTick timerId) = true := by
    rcases ends with top | ⟨timerId, rest, found, suffix, expired⟩
    · rw [top]
      exact .inl rfl
    · rw [found]
      exact .inr ⟨timerId, rest, rfl, suffix, expired⟩
  cases method with
  | isr =>
    refine ⟨s.timers.nextExpiryTick, _, ?_, pass⟩
    show { s with timers := (daemonScan cfg currentTick s.timers list).1,
                  pass := Pass.ofDaemon (daemonScan cfg currentTick s.timers list).2 } = _
    rw [same]
  | task =>
    obtain ⟨next, recomputed⟩ := @nextExpiryVisit_foldl cfg
      ((daemonScan cfg currentTick s.timers list).1.activeMap.scan cfg.bitmapWidth)
      ((daemonScan cfg currentTick s.timers list).1, false)
    by_cases top : (daemonScan cfg currentTick s.timers list).2 = .top
    · refine ⟨next, _, ?_, pass⟩
      show { s with
        timers := (daemonContinue cfg currentTick s.timers list).1
        pass := Pass.ofDaemon (daemonContinue cfg currentTick s.timers list).2 } = _
      have run : daemonContinue cfg currentTick s.timers list =
          (recomputeNextExpiry cfg (daemonScan cfg currentTick s.timers list).1, .top) := if_pos top
      rw [run, top, recomputeNextExpiry, recomputed, same]
    · refine ⟨s.timers.nextExpiryTick, _, ?_, pass⟩
      show { s with
        timers := (daemonContinue cfg currentTick s.timers list).1
        pass := Pass.ofDaemon (daemonContinue cfg currentTick s.timers list).2 } = _
      have run : daemonContinue cfg currentTick s.timers list = daemonScan cfg currentTick s.timers list := if_neg top
      rw [run, same]

theorem scanOn_sound {currentTick : Word} {list : List Nat}
    (registered : ∀ timerId, s.timers.activeMap.isSet timerId = true → timerRegistered cfg s.timers timerId = true)
    (known : ∀ timerId ∈ list, timerRegistered cfg s.timers timerId = true) (nodup : list.Nodup)
    (ripe : ∀ timerId ∈ list, tickHasExpired currentTick (s.timers.expiryTick timerId) = true → s.Ripe timerId) :
    PassSound cfg (s.scanOn cfg method currentTick list) := by
  obtain ⟨next, pass, run, ends⟩ := @scanOn_spec cfg method s currentTick list known
  rw [run]
  rcases ends with rfl | ⟨first, rest, rfl, suffix, expired⟩
  · exact ⟨registered, fun _ mem => absurd mem List.not_mem_nil, List.nodup_nil, fun _ due => due.elim⟩
  · have mem : ∀ u ∈ first :: rest, u ∈ list := fun u mem => suffix.subset mem
    refine ⟨registered, fun u here => known u (mem u here), nodup.sublist suffix.sublist, ?_⟩
    rintro u (rfl | ⟨later, expired⟩)
    · exact ripe u (mem u List.mem_cons_self) expired
    · exact ripe u (mem u (List.mem_cons_of_mem _ later)) expired

variable {timerId : Nat}

theorem Pass.due_congr {pass : Pass} {expiry expiry' : Nat → Word}
    (same : expiry' timerId = expiry timerId) : pass.Due expiry' timerId ↔ pass.Due expiry timerId := by
  cases pass with
  | idle => exact Iff.rfl
  | released first rest currentTick =>
    unfold Pass.Due
    rw [same]
  | callback first rest currentTick =>
    unfold Pass.Due
    rw [same]

theorem Pass.Due.mem {pass : Pass} {expiry : Nat → Word} (due : pass.Due expiry timerId) : timerId ∈ pass.ahead := by
  cases pass with
  | idle => exact due.elim
  | released first rest currentTick =>
    rcases due with rfl | ⟨mem, -⟩
    · exact List.mem_cons_self
    · exact List.mem_cons_of_mem _ mem
  | callback first rest currentTick => exact List.mem_cons_of_mem _ due.1

namespace PassSound

theorem boot (tickCount : Word) : PassSound cfg (.boot tickCount) := by
  refine ⟨fun timerId active => ?_, fun _ mem => absurd mem List.not_mem_nil, List.nodup_nil, fun _ due => due.elim⟩
  have none : Bitmap.empty.isSet timerId = true := active
  rw [Bitmap.isSet_empty] at none
  cases none

theorem change (h : PassSound cfg s) {timers' : Timers} (timerId : Nat)
    (kept : ∀ u, timerRegistered cfg s.timers u = true → timerRegistered cfg timers' u = true)
    (others : ∀ u, u ≠ timerId → timers'.activeMap.isSet u = s.timers.activeMap.isSet u ∧
      timers'.expiryTick u = s.timers.expiryTick u)
    (active : timers'.activeMap.isSet timerId = true → timerRegistered cfg timers' timerId = true)
    (due : s.pass.Due timers'.expiryTick timerId → timers'.activeMap.isSet timerId = true ∧
      tickHasExpired s.tickCount (timers'.expiryTick timerId) = true) :
    PassSound cfg { s with timers := timers' } := by
  refine ⟨fun u on => ?_, fun u mem => kept u (h.ahead u mem), h.nodup, fun u will => ?_⟩
  · rcases eq_or_ne u timerId with rfl | ne
    · exact active on
    · exact kept u (h.registered u ((others u ne).1.symm.trans on))
  · rcases eq_or_ne u timerId with rfl | ne
    · exact due will
    · obtain ⟨bit, expiry⟩ := others u ne
      obtain ⟨on, expired⟩ := h.due u ((Pass.due_congr expiry).mp will)
      exact ⟨bit.trans on, by rw [expiry]; exact expired⟩

theorem init (h : PassSound cfg s) (timerId : Nat) (period : Word) (isPeriodic : Bool) :
    PassSound cfg { s with timers := (timerInit cfg s.timers timerId period isPeriodic).1 } := by
  unfold timerInit
  split
  · exact h
  · rename_i fresh
    obtain ⟨-, -, free⟩ := not_or.mp fresh |>.imp_right not_or.mp
    have unknown : timerRegistered cfg s.timers timerId ≠ true := by
      simp [timerRegistered, Bool.not_eq_true _ ▸ free]
    have inactive : s.timers.activeMap.isSet timerId ≠ true := fun on => unknown (h.registered timerId on)
    apply h.change timerId
    · intro u known
      have ne : u ≠ timerId := by
        rintro rfl
        exact unknown known
      simpa [timerRegistered, update_of_ne ne] using known
    · exact fun u ne => ⟨rfl, update_of_ne ne _ _⟩
    · exact fun on => absurd on inactive
    · exact fun will => absurd (h.ahead timerId will.mem) unknown

theorem timerStart_spec (tickCount : Word) (known : timerRegistered cfg timers timerId = true) :
    ∃ next, (timerStart cfg timers tickCount timerId).1 = { timers with
      expiryTick := update timers.expiryTick timerId (tickCount + timers.periodTicks timerId)
      activeMap := timers.activeMap.set timerId
      nextExpiryTick := next } := by
  unfold timerStart
  rw [if_neg (by simp [known])]
  dsimp only
  split
  · exact ⟨_, rfl⟩
  · exact ⟨timers.nextExpiryTick, rfl⟩

section

variable (h : PassSound cfg s)
include h

theorem start (honest : s.Honest (.start timerId)) :
    PassSound cfg { s with timers := s.started cfg method timerId } := by
  by_cases known : timerRegistered cfg s.timers timerId = true
  · have run : ∃ next, s.started cfg method timerId = { s.timers with
        expiryTick := update s.timers.expiryTick timerId (s.tickCount + s.timers.periodTicks timerId)
        activeMap := s.timers.activeMap.set timerId
        nextExpiryTick := next } := by
      obtain ⟨next, run⟩ := timerStart_spec s.tickCount known
      unfold TimerState.started
      rw [run]
      cases method with
      | isr => exact ⟨s.timers.nextExpiryTick, rfl⟩
      | task => exact ⟨next, rfl⟩
    obtain ⟨next, run⟩ := run
    rw [run]
    apply h.change timerId
    · exact fun u reg => reg
    · intro u ne
      refine ⟨?_, update_of_ne ne _ _⟩
      simp [ne]
    · exact fun _ => known
    · intro will
      refine ⟨by simp, ?_⟩
      dsimp only at will ⊢
      rw [update_self]
      exact honest will
  · have run : s.started cfg method timerId = s.timers := by
      unfold TimerState.started timerStart
      rw [if_pos (by simpa using known)]
      cases method <;> rfl
    rw [run]
    exact h

theorem stop (honest : s.Honest (.stop timerId)) :
    PassSound cfg { s with timers := (timerStop cfg s.timers timerId).1 } := by
  unfold timerStop
  split
  · exact h
  · apply h.change timerId
    · exact fun u reg => reg
    · intro u ne
      refine ⟨?_, rfl⟩
      simp [ne]
    · intro on
      simp at on
    · exact fun will => absurd will honest

theorem beginPass : PassSound cfg (s.beginPass cfg method) := by
  apply scanOn_sound h.registered
  · exact fun u mem => h.registered u (Bitmap.mem_scan.mp mem).2
  · exact Bitmap.nodup_scan _ _
  · exact fun u mem expired => ⟨(Bitmap.mem_scan.mp mem).2, expired⟩

theorem retick {s' : TimerState} (timers : s'.timers = s.timers) (pass : s'.pass = s.pass)
    (due : ∀ u, s.pass.Due s.timers.expiryTick u → tickHasExpired s'.tickCount (s.timers.expiryTick u) = true) :
    PassSound cfg s' := by
  refine ⟨?_, ?_, ?_, ?_⟩
  · rw [timers]
    exact h.registered
  · rw [timers, pass]
    exact h.ahead
  · rw [pass]
    exact h.nodup
  · intro u will
    rw [timers, pass] at will
    unfold TimerState.Ripe
    rw [timers]
    exact ⟨(h.due u will).1, due u will⟩

theorem tick (allowed : s.allowed method .tick = true) (honest : s.Honest .tick) :
    PassSound cfg (s.ticked cfg method) := by
  cases method with
  | isr =>
    have idle : s.pass = .idle := by simpa [TimerState.allowed] using allowed
    have none : ∀ u, ¬s.pass.Due s.timers.expiryTick u := by
      rw [idle]
      exact fun _ will => will.elim
    have later : PassSound cfg { s with tickCount := s.tickCount + 1#32 } :=
      h.retick rfl rfl fun u will => absurd will (none u)
    exact later.beginPass
  | task =>
    unfold TimerState.ticked
    dsimp only
    split
    · exact h.retick rfl rfl fun u will => honest u will.mem will
    · exact h.retick rfl rfl fun u will => honest u will.mem will

theorem wake : PassSound cfg ({ s with timerSem := false }.beginPass cfg method) :=
  beginPass (h.retick rfl rfl fun u will => (h.due u will).2)

theorem invoke : PassSound cfg (s.step cfg method .invoke) := by
  unfold TimerState.step
  rcases at' : s.pass with _ | ⟨timerId, rest, currentTick⟩ | ⟨timerId, rest, currentTick⟩
  · exact h
  · have ahead := h.ahead
    have nodup := h.nodup
    have due := h.due
    rw [at'] at ahead nodup due
    exact ⟨h.registered, ahead, nodup, fun u will => due u (.inr will)⟩
  · exact h

end

/-- After a callback only the entry of its own timer changes, which the rest does not have. -/
theorem returned_change (timerId : Nat) :
    ∃ expiry active, s.returned method timerId = { s.timers with expiryTick := expiry, activeMap := active } ∧
      ∀ u, (u ≠ timerId → expiry u = s.timers.expiryTick u ∧ active.isSet u = s.timers.activeMap.isSet u) ∧
        (active.isSet u = true → s.timers.activeMap.isSet u = true) := by
  have reload : ∀ u, (u ≠ timerId →
      update s.timers.expiryTick timerId (s.tickCount + s.timers.periodTicks timerId) u = s.timers.expiryTick u ∧
        s.timers.activeMap.isSet u = s.timers.activeMap.isSet u) ∧
      (s.timers.activeMap.isSet u = true → s.timers.activeMap.isSet u = true) :=
    fun u => ⟨fun ne => ⟨update_of_ne ne _ _, rfl⟩, id⟩
  have retire : ∀ u, (u ≠ timerId → s.timers.expiryTick u = s.timers.expiryTick u ∧
        (s.timers.activeMap.clear timerId).isSet u = s.timers.activeMap.isSet u) ∧
      ((s.timers.activeMap.clear timerId).isSet u = true → s.timers.activeMap.isSet u = true) := by
    intro u
    refine ⟨fun ne => ⟨rfl, by simp [ne]⟩, fun on => ?_⟩
    simp only [Bitmap.isSet_clear, Bool.and_eq_true] at on
    exact on.2
  cases method with
  | isr =>
    unfold TimerState.returned isrReturn
    dsimp only
    split
    · exact ⟨_, s.timers.activeMap, rfl, reload⟩
    · exact ⟨s.timers.expiryTick, _, rfl, retire⟩
  | task =>
    unfold TimerState.returned daemonReturn
    dsimp only
    split
    · exact ⟨s.timers.expiryTick, s.timers.activeMap, rfl, fun u => ⟨fun _ => ⟨rfl, rfl⟩, id⟩⟩
    · split
      · exact ⟨_, s.timers.activeMap, rfl, reload⟩
      · exact ⟨s.timers.expiryTick, _, rfl, retire⟩

theorem done (h : PassSound cfg s) : PassSound cfg (s.step cfg method .done) := by
  unfold TimerState.step
  rcases at' : s.pass with _ | ⟨timerId, rest, currentTick⟩ | ⟨timerId, rest, currentTick⟩
  · exact h
  · exact h
  · have ahead := h.ahead
    have nodup := h.nodup
    have due := h.due
    rw [at'] at ahead nodup due
    obtain ⟨fresh, nodup⟩ := List.nodup_cons.mp nodup
    obtain ⟨expiry, active, run, frame⟩ := @returned_change method s timerId
    dsimp only
    rw [run]
    apply scanOn_sound
    · exact fun u on => h.registered u ((frame u).2 on)
    · exact fun u mem => ahead u (List.mem_cons_of_mem _ mem)
    · exact nodup
    · intro u mem expired
      have ne : u ≠ timerId := by
        rintro rfl
        exact fresh mem
      obtain ⟨same, bit⟩ := (frame u).1 ne
      dsimp only at expired
      rw [same] at expired
      obtain ⟨on, ripe⟩ := due u ⟨mem, expired⟩
      refine ⟨bit.trans on, ?_⟩
      dsimp only
      rw [same]
      exact ripe

theorem step (h : PassSound cfg s) {i : TimerEvent} (allowed : s.allowed method i = true) (honest : s.Honest i) :
    PassSound cfg (s.step cfg method i) := by
  cases i with
  | init timerId period isPeriodic => exact h.init timerId period isPeriodic
  | start timerId => exact h.start honest
  | stop timerId => exact h.stop honest
  | tick => exact h.tick allowed honest
  | wake => exact h.wake
  | invoke => exact h.invoke
  | done => exact h.done

end PassSound

/-- Two timers run out at the same tick; the first is stopped by its own callback. -/
def sampleTimers : List TimerEvent :=
  [.init 0 1#32 true, .init 1 1#32 false, .start 0, .start 1, .tick, .wake, .invoke, .stop 0, .done, .tick,
    .invoke, .done]

def sampleStops (method : TimerMethod) : List TimerEvent :=
  [.init 0 1#32 false, .init 1 1#32 false, .start 0, .start 1, .tick] ++
    (if method = .task then [.wake] else []) ++ [.invoke, .stop 1, .done, .invoke]

theorem sampleStops_called {method : TimerMethod}
    (legal : (timerMachine sample method).Legal (.boot 0#32) (sampleStops method))
    (called : ((timerMachine sample method).transitions (.boot 0#32) (sampleStops method)).any
      (fun tr => decide (tr.output = some 1 ∧ tr.pre.timers.activeMap.isSet 1 = false)) = true) :
    ∃ trace s, (timerMachine sample method).Run (.boot 0#32) trace s ∧
      ∃ tr ∈ trace, ∃ timerId, tr.output = some timerId ∧ ¬tr.pre.Ripe timerId := by
  obtain ⟨tr, mem, is⟩ := List.any_eq_true.mp called
  obtain ⟨output, inactive⟩ := of_decide_eq_true is
  refine ⟨_, _, Machine.run_of_legal legal, tr, mem, 1, output, fun ripe => ?_⟩
  rw [ripe.1] at inactive
  cases inactive

end XSDK.Rtos
