import XSDK.Usbmsc.Waiting

/-! What each event leaves of a command that the driver waits for. -/
namespace XSDK.Usbmsc

open Library Library.Call Usbh
open Function (update update_self update_of_ne)

variable {c : Config} {hcd : Hcd} {k i t n : Nat} {h : Host} {command : Command} {before : Host}
    {trace : List PollTransition}

/- Interfaces that start and stop. -/

theorem Standing.unique (standing : Standing c h) {j j' : Nat} (small : j < c.mscMaxInstances)
    (small' : j' < c.mscMaxInstances) (taken : (h.msc j).isAllocated = true) (taken' : (h.msc j').isAllocated = true)
    (at' : (h.msc j).interfaceCtx = some i)
    (at'' : (h.msc j').interfaceCtx = some i) : j = j' := by
  obtain ⟨a, seated⟩ := standing.seats j small taken
  obtain ⟨b, seated'⟩ := standing.seats j' small' taken'
  obtain rfl : a = i := Option.some.inj (seated.interface.symm.trans at')
  obtain rfl : b = a := Option.some.inj (seated'.interface.symm.trans at'')
  exact Option.some.inj (seated.found.symm.trans seated'.found)

/-- What may come into the slot of an instance: nothing, or one on an interface that had none. -/
def Comes (c : Config) (k : Nat) (h : Host) (x : MscInstance) : Prop :=
  x.isAllocated = true → k < c.mscMaxInstances ∧
    (x.bulkInEndpoint.isSome = true ∧ x.bulkOutEndpoint.isSome = true) ∧ x.lun = 0 ∧
    ∃ i, x.interfaceCtx = some i ∧ mscInstanceFind c h i = none

theorem mscInstanceFind_none (missing : mscInstanceFind c h i = none) {j : Nat} (small : j < c.mscMaxInstances)
    (taken : (h.msc j).isAllocated = true) : (h.msc j).interfaceCtx ≠ some i := by
  intro at'
  have both := firstWith_none missing j small
  rw [taken, at'] at both
  simp at both

theorem Standing.replaced (standing : Standing c h) {h' : Host} {x : MscInstance} (up : Up h'.rootPortCount h')
    (msc : h'.msc = update h.msc k x) (comes : Comes c k h x) (counter : x.nextTag < 2 ^ 32) : Standing c h' := by
  have here : h'.msc k = x := by rw [msc, update_self]
  have there : ∀ j, j ≠ k → h'.msc j = h.msc j := fun j other => by rw [msc, update_of_ne other]
  have unique : ∀ a j, j < c.mscMaxInstances → (h'.msc j).isAllocated = true → (h'.msc j).interfaceCtx = some a →
      mscInstanceFind c h' a = some j := by
    intro a j small taken at'
    refine firstWith_only small (by rw [taken, at']; simp) fun j' small' both => ?_
    simp only [Bool.and_eq_true, decide_eq_true_eq] at both
    obtain ⟨taken', at''⟩ := both
    by_cases mine : j = k
    · by_cases mine' : j' = k
      · rw [mine, mine']
      · rw [mine, here] at taken at'
        rw [there j' mine'] at taken' at''
        obtain ⟨-, -, -, i, interface, free⟩ := comes taken
        obtain rfl : i = a := Option.some.inj (interface.symm.trans at')
        exact absurd at'' (mscInstanceFind_none free small' taken')
    · rw [there j mine] at taken at'
      by_cases mine' : j' = k
      · rw [mine', here] at taken' at''
        obtain ⟨-, -, -, i, interface, free⟩ := comes taken'
        obtain rfl : i = a := Option.some.inj (interface.symm.trans at'')
        exact absurd at' (mscInstanceFind_none free small taken)
      · rw [there j' mine'] at taken' at''
        exact standing.unique small' small taken' taken at'' at'
  refine ⟨up, fun j small taken => ?_, fun j small taken => ?_, fun j => ?_⟩
  · by_cases mine : j = k
    · subst mine
      have allocated := taken
      rw [here] at allocated
      obtain ⟨-, ⟨bulkIn, bulkOut⟩, -, i, interface, -⟩ := comes allocated
      rw [← here] at bulkIn bulkOut interface
      exact ⟨i, up, unique i j small taken interface, bulkIn, bulkOut⟩
    · have allocated := taken
      rw [there j mine] at allocated
      obtain ⟨i, seated⟩ := standing.seats j small allocated
      have bulkIn := seated.bulkIn
      have bulkOut := seated.bulkOut
      have interface := seated.interface
      rw [← there j mine] at bulkIn bulkOut interface
      exact ⟨i, up, unique i j small taken interface, bulkIn, bulkOut⟩
  · by_cases mine : j = k
    · rw [mine, here] at taken ⊢
      exact (comes taken).2.2.1
    · rw [there j mine] at taken ⊢
      exact standing.luns j small taken
  · by_cases mine : j = k
    · rw [mine, here]
      exact counter
    · rw [there j mine]
      exact standing.counters j

theorem start_beside (reserved : Reserved c k h) {j : Nat} (missing : mscInstanceFind c h j = none)
    (unfilled : fills c k h j = false) :
    Beside c k h (mscStart c j h).2 := by
  have still : Beside c k h h := ⟨reserved, rfl, fun _ _ => rfl, .refl⟩
  simp only [mscStart, read_bind, id_eq]
  rcases bulkIn : mscBulkEndpointFind c h j true with _ | e
  · exact still
  rcases bulkOut : mscBulkEndpointFind c h j false with _ | e'
  · exact still
  dsimp only
  rcases room : firstFree c.mscMaxInstances fun k => (h.msc k).isAllocated with _ | k'
  · exact still
  have other : k ≠ k' := by
    rintro rfl
    simp [fills, bulkIn, bulkOut, room] at unfilled
  let x : MscInstance :=
    { MscInstance.zero with
      isAllocated := true, state := .ready, interfaceCtx := some j, bulkInEndpoint := some e,
        bulkOutEndpoint := some e',
      nextTag := 1, blockSize := 512 }
  have comes : Comes c k' h x := fun _ => ⟨(firstFree_some room).1, ⟨rfl, rfl⟩, rfl, j, rfl, missing⟩
  have up : Up h.rootPortCount { h with msc := update h.msc k' x } :=
    ⟨reserved.standing.up.1, reserved.standing.up.2, reserved.standing.up.3, rfl⟩
  have same : update h.msc k' x k = h.msc k := update_of_ne other ..
  refine ⟨⟨reserved.standing.replaced up rfl comes (show (1 : Nat) < 2 ^ 32 by omega), fun k'' apart => ?_, fun t free => ?_⟩, same,
    fun _ _ => rfl, .same rfl⟩
  · change SilentInstance (update h.msc k' x k'')
    by_cases new : k'' = k'
    · rw [new, update_self]
      exact ⟨fun _ => (by rintro ⟨⟩), rfl⟩
    · rw [update_of_ne new]
      exact reserved.instances k'' apart
  · exact reserved.transfers t fun holds => free (by rw [← holds]; exact congrArg (·.transfer) same)

/- The stop of an instance writes no capacity. -/

theorem transferCancelIfSubmitted_grown : Keeps (Grown before) (transferCancelIfSubmitted hcd t) := by
  refine .bind .read fun _ => .ite (fun _ => .pure) fun _ => .bind (.intro fun h grown => ?_)
    fun _ => .modify fun h grown => ?_
  · rcases ask_effect (.cancel t) (fun log => hcd.cancelTransfer log t) h with run | run
    · rw [run]
      exact grown
    · rw [run]
      exact grown.trans (.push rfl fun _ => rfl)
  · exact grown.trans (.same rfl)

theorem heldTransferRelease_grown (held : Option Nat) : Keeps (Grown before) (heldTransferRelease c hcd held) := by
  cases held with
  | none => exact .pure
  | some t =>
    exact .bind (.bind .read fun _ => .reject) fun _ => .bind .read fun _ => .bind .reject fun _ =>
      .bind transferCancelIfSubmitted_grown fun _ => .modify fun h grown => grown.trans (.same rfl)

theorem mscStop_grown : Keeps (Grown before) (mscStop c hcd i) := by
  refine .bind .read fun h => ?_
  split
  · exact .pure
  · exact .bind (heldTransferRelease_grown _) fun _ => .modify fun h grown => grown.trans (.same rfl)

/-- The stop of an instance ends its command, unless the controller keeps the transfer. -/
theorem stop_outcome (hcd : Hcd) (command : Command) (before : Host) (trace : List PollTransition)
    (reserved : Reserved c k h) (seated : Seated c k i h)
    (held : ∀ t, (h.msc k).transfer = some t → t < c.maxTransfers ∧ (h.transfers t).isAllocated = true) :
    Over c k command before trace (mscStop c hcd i h).2 ∨
      ∃ log, (mscStop c hcd i h).2 = { h with log := log } ∧ Grown h { h with log := log } ∧
      keepsTransfer hcd k h = true := by
  have grown : Grown h (mscStop c hcd i h).2 := mscStop_grown.after .refl
  rcases mscStop_effect c hcd seated.up i with
    ⟨-, missing⟩ | ⟨k', found, ⟨transfers, log, run, released⟩ | ⟨e, log, run, kept⟩⟩
  · exact absurd (seated.found.symm.trans missing) nofun
  · obtain rfl : k = k' := Option.some.inj (seated.found.symm.trans found)
    left
    rw [run]
    have here : update h.msc k .zero k = .zero := update_self ..
    have up : Up h.rootPortCount { h with msc := update h.msc k .zero, transfers := transfers, log := log } :=
      ⟨seated.up.1, seated.up.2, seated.up.3, rfl⟩
    refine ⟨⟨reserved.standing.replaced up rfl (fun taken => absurd taken nofun) (show (0 : Nat) < 2 ^ 32 by omega),
      fun k' other => ?_, fun t _ => ?_⟩, congrArg (·.transfer) here, ?_, .inr (congrArg (·.interfaceCtx) here), fun ready => ?_⟩
    · change SilentInstance (update h.msc k .zero k')
      rw [update_of_ne other]
      exact reserved.instances k' other
    · change SilentTransfer (transfers t)
      generalize own : (h.msc k).transfer = slot at released
      cases released with
      | none => exact reserved.transfers t (by rw [own]; exact nofun)
      | @some t' small allocated =>
        by_cases same : t = t'
        · rw [same, update_self]
          exact silent_zero
        · rw [update_of_ne same]
          exact reserved.transfers t (by rw [own]; exact fun eq => same (Option.some.inj eq).symm)
    · change SilentInstance (update h.msc k .zero k)
      rw [here]
      exact ⟨fun _ => nofun, rfl⟩
    · have idle : (update h.msc k .zero k).state = .ready := ready
      rw [here] at idle
      cases idle
  · obtain rfl : k = k' := Option.some.inj (seated.found.symm.trans found)
    refine .inr ⟨log, by rw [run], by rw [run] at grown; exact grown, ?_⟩
    obtain ⟨t, holds, why⟩ := kept.slot
    obtain ⟨small, allocated⟩ := held t holds
    obtain ⟨submitted, e', refused⟩ := why small allocated
    rw [keepsTransfer, holds]
    simp [submitted, refused, Except.isOk, Except.toBool]

/- The steps of a command that is over. -/

variable {s : PollTransition} {h₁ : Host} {bytes : List UInt8} {event : PollEvent} {after : Host}

theorem Over.beside (finished : Over c k command before trace h) (beside : Beside c k h after) :
    Over c k command before (trace ++ [s]) after := by
  obtain ⟨reserved, same, -, grown⟩ := beside
  refine ⟨reserved, by rw [same]; exact finished.free, by rw [same]; exact finished.silent, by rw [same]; exact finished.here, fun ready => ?_⟩
  rw [same] at ready
  obtain ⟨capacityBuffer, answered, wrote⟩ := finished.passed ready
  exact ⟨capacityBuffer, answered.more, fun pointer reads opcode => (wrote pointer reads opcode).grown grown⟩

theorem Over.more (finished : Over c k command before trace h) : Over c k command before (trace ++ [s]) h :=
  finished.beside ⟨finished.reserved, rfl, fun _ _ => rfl, .refl⟩

theorem told_reserved (reserved : Reserved c k h) (up : Up n h) (y : Transfer) :
    Reserved c k { h with msc := update h.msc k ((h.msc k).errorUpdate y) } := by
  obtain ⟨seats, holds, counter, -⟩ := errorUpdate_keeps (h.msc k) y
  refine reserved.kept ⟨up.1, up.2, up.3, rfl⟩ (seat_update seats) (fun k' => ?_) (fun k' other => ?_) ?_ fun _ _ => rfl
  · change (update h.msc k _ k').nextTag = _
    by_cases here : k' = k
    · rw [here, update_self, counter]
    · rw [update_of_ne here]
  · change (update h.msc k _ k').dataBuffer = _ ∧ (update h.msc k _ k').capacity = _
    rw [update_of_ne other]
    exact ⟨rfl, rfl⟩
  · change (update h.msc k _ k).transfer = _
    rw [update_self]
    exact holds

theorem Over.step (finished : Over c k command before trace h) (small : k < c.mscMaxInstances)
    (allowed : (pollMachine c hcd k).allowed h event) (unfilled : Unfilled c k ((pollMachine c hcd k).take h event)) :
    Over c k command before (trace ++ [(pollMachine c hcd k).take h event]) (pollStep c hcd k h event) := by
  have gone : (h.msc k).isAllocated = true ∨ (h.msc k).interfaceCtx = none := finished.here
  cases event with
  | completed event n bytes =>
    obtain ⟨t, holds, -⟩ := allowed
    exact absurd (finished.free.symm.trans holds) nofun
  | told t =>
    rcases gone with taken | none
    · obtain ⟨i, seated, interface⟩ := finished.reserved.seated small taken
      have other : (h.msc k).transfer ≠ some t := by rw [finished.free]; exact nofun
      rw [pollStep, interface]
      dsimp only
      rw [told_run hcd seated other]
      obtain ⟨seats, holds, -⟩ := errorUpdate_keeps (h.msc k) (h.transfers t)
      obtain ⟨state, error, shape⟩ := errorUpdate_shape (h.msc k) (h.transfers t)
      have here : update h.msc k ((h.msc k).errorUpdate (h.transfers t)) k = (h.msc k).errorUpdate (h.transfers t) :=
        update_self ..
      refine ⟨told_reserved finished.reserved seated.up _, ?_, ?_, .inl ?_, fun ready => ?_⟩
      · change (update h.msc k _ k).transfer = none
        rw [here, holds, finished.free]
      · change SilentInstance (update h.msc k _ k)
        rw [here, shape]
        exact ⟨finished.silent.data, finished.silent.capacity⟩
      · change (update h.msc k _ k).isAllocated = true
        rw [here, (seat_fields seats).1, taken]
      · change (update h.msc k _ k).state = .ready at ready
        rw [here] at ready
        rcases bad : mscTransferHasError (h.transfers t) with _ | _
        · rw [errorUpdate_fine _ bad] at ready
          obtain ⟨capacityBuffer, answered, wrote⟩ := finished.passed ready
          exact ⟨capacityBuffer, answered.more, fun pointer reads opcode => (wrote pointer reads opcode).grown (.same rfl)⟩
        · rcases errorUpdate_failed (h.msc k) bad with state' | state'
          · exact absurd (state'.symm.trans ready) nofun
          · exact absurd (state'.symm.trans ready) nofun
    · rw [pollStep, none]
      exact finished.more
  | stop =>
    rcases gone with taken | none
    · obtain ⟨i, seated, interface⟩ := finished.reserved.seated small taken
      rw [pollStep, interface]
      dsimp only
      rcases stop_outcome hcd command before trace finished.reserved seated
        (fun t holds => absurd (finished.free.symm.trans holds) nofun) with done | ⟨log, run, grown, -⟩
      · exact done.more
      · rw [run]
        refine finished.beside ⟨?_, rfl, fun _ _ => rfl, grown⟩
        exact finished.reserved.kept ⟨seated.up.1, seated.up.2, seated.up.3, rfl⟩ (fun _ => rfl)
          (fun _ => rfl) (fun _ _ => ⟨rfl, rfl⟩)
          rfl fun _ _ => rfl
    · rw [pollStep, none]
      exact finished.more
  | start j => exact finished.beside (start_beside finished.reserved allowed (unfilled j rfl))
  | elsewhere after => exact finished.beside allowed

/- The steps of a command that is not over. -/

theorem Reserved.reported {event : TransferEvent} (reserved : Reserved c k h)
    (reported : Reported c k i t event n bytes h h₁) (holds : (h.msc k).transfer = some t) : Reserved c k h₁ := by
  refine reserved.kept reported.up reported.seats (fun k' => ?_) (fun k' _ => ?_)
    (reported.holding.holds.trans holds.symm) fun t' other => ?_
  · obtain ⟨csw, capacityBuffer, same⟩ := reported.instances k'
    rw [same]
  · obtain ⟨csw, capacityBuffer, same⟩ := reported.instances k'
    rw [same]
    exact ⟨rfl, rfl⟩
  · exact reported.others t' fun same => other (same ▸ holds)

theorem completed_reported (hcd : Hcd) (reserved : Reserved c k h) (seated : Seated c k i h)
    (holds : (h.msc k).transfer = some t)
    (small : t < c.maxTransfers) (allocated : (h.transfers t).isAllocated = true) (event : TransferEvent)
    (n : Nat) (bytes : List UInt8) :
    ∃ h₁, pollStep c hcd k h (.completed event n bytes) = (mscTransferComplete c hcd i t h₁).2 ∧
      Reported c k i t event n bytes h h₁ ∧ Reserved c k h₁ ∧ Seated c k i h₁ ∧
      mscTransferHasError (h₁.transfers t) = failedTransfer k h event n := by
  obtain ⟨h₁, run, reported⟩ := mscCompleted_reported hcd seated holds small allocated event n bytes
  refine ⟨h₁, ?_, reported, reserved.reported reported holds, seated.moved reported.up reported.seats, ?_⟩
  · rw [pollStep, holds, seated.interface]
    exact congrArg Prod.snd run
  · rw [failedTransfer, holds, mscTransferHasError, reported.transfer]

theorem failed_over (reserved : Reserved c k h₁) (seated : Seated c k i h₁) (holding : Holding c k t h₁)
    (taken : (h₁.msc k).isAllocated = true) (bad : mscTransferHasError (h₁.transfers t) = true) :
    Over c k command before trace (mscTransferComplete c hcd i t h₁).2 := by
  rw [own_failed hcd seated holding bad]
  obtain ⟨seats, -, counter, -⟩ := errorUpdate_keeps (h₁.msc k) (h₁.transfers t)
  refine Over.released reserved taken holding.holds seats (counter ▸ reserved.standing.counters k) fun ready => ?_
  rcases errorUpdate_failed (h₁.msc k) bad with state | state
  · exact absurd (state.symm.trans ready) nofun
  · exact absurd (state.symm.trans ready) nofun

theorem Stuck.beside (stuck : Stuck c k h) (beside : Beside c k h after) : Stuck c k after := by
  obtain ⟨-, taken, ⟨t, holds, small, allocated, failed⟩, state⟩ := stuck
  obtain ⟨reserved, same, slot, -⟩ := beside
  refine ⟨reserved, by rw [same]; exact taken, ⟨t, ?_, small, ?_, ?_⟩, by rw [same]; exact state⟩
  · rw [same]
    exact holds
  · rw [slot t holds]
    exact allocated
  · rw [same, slot t holds]
    exact failed

theorem told_stuck (reserved : Reserved c k h) (up : Up n h) (taken : (h.msc k).isAllocated = true)
    (holds : (h.msc k).transfer = some t)
    (small : t < c.maxTransfers) (allocated : (h.transfers t).isAllocated = true) {y : Transfer}
    (state : ((h.msc k).errorUpdate y).state ≠ .ready)
    (failed : (h.transfers t).isSubmitted = true →
      ((h.msc k).errorUpdate y).state = .error ∨ ((h.msc k).errorUpdate y).state = .resetRecovery) :
    Stuck c k { h with msc := update h.msc k ((h.msc k).errorUpdate y) } := by
  obtain ⟨seats, same, -⟩ := errorUpdate_keeps (h.msc k) y
  have here : update h.msc k ((h.msc k).errorUpdate y) k = (h.msc k).errorUpdate y := update_self ..
  refine ⟨told_reserved reserved up y, ?_, ⟨t, ?_, small, allocated, fun submitted => ?_⟩, ?_⟩
  · change (update h.msc k _ k).isAllocated = true
    rw [here, (seat_fields seats).1, taken]
  · change (update h.msc k _ k).transfer = some t
    rw [here, same, holds]
  · change (update h.msc k _ k).state = .error ∨ (update h.msc k _ k).state = .resetRecovery
    rw [here]
    exact failed submitted
  · change (update h.msc k _ k).state ≠ .ready
    rw [here]
    exact state

theorem Stuck.step (stuck : Stuck c k h) (small : k < c.mscMaxInstances)
    (allowed : (pollMachine c hcd k).allowed h event) (unfilled : Unfilled c k ((pollMachine c hcd k).take h event)) :
    Stands c k command before (Course.next hcd k .stuck ((pollMachine c hcd k).take h event))
      (trace ++ [(pollMachine c hcd k).take h event]) (pollStep c hcd k h event) := by
  obtain ⟨reserved, taken, ⟨t, holds, low, allocated, failed⟩, state⟩ := stuck
  have stuck : Stuck c k h := ⟨reserved, taken, ⟨t, holds, low, allocated, failed⟩, state⟩
  obtain ⟨i, seated, interface⟩ := reserved.seated small taken
  cases event with
  | completed event n bytes =>
    obtain ⟨h₁, run, reported, reserved₁, seated₁, same⟩ :=
      completed_reported hcd reserved seated holds low allocated event n bytes
    have taken₁ : (h₁.msc k).isAllocated = true := (seat_fields (reported.seats k)).1.trans taken
    have state₁ : (h₁.msc k).state = (h.msc k).state := by rw [reported.heard]
    rcases bad : failedTransfer k h event n with _ | _
    · -- The instance has failed already, and does nothing with the end of its transfer.
      have course : Course.next hcd k .stuck ((pollMachine c hcd k).take h (.completed event n bytes)) = .stuck := by
        simp [Course.next, Machine.take, bad]
      obtain ⟨t', holds', submitted⟩ := allowed
      obtain rfl : t = t' := Option.some.inj (holds.symm.trans holds')
      have own := mscTransferComplete_own hcd seated₁ reported.holding
      rw [if_neg (by rw [same, bad]; rintro ⟨⟩), state₁] at own
      have still : mscTransferComplete c hcd i t h₁ = (.ok (), h₁) := by
        rcases failed submitted with error | waits
        · rw [own, error]
          rfl
        · rw [own, waits]
          rfl
      refine .stuck course ?_
      rw [run, still]
      refine ⟨reserved₁, taken₁, ⟨t, reported.holding.holds, low, reported.holding.allocated, fun _ => ?_⟩, ?_⟩
      · rw [state₁]
        exact failed submitted
      · rw [state₁]
        exact state
    · rw [run]
      exact .finished (failed_over reserved₁ seated₁ reported.holding taken₁ (same.trans bad))
  | told t' =>
    refine .stuck rfl ?_
    rw [pollStep, interface]
    dsimp only
    rw [told_run hcd seated allowed]
    rcases bad : mscTransferHasError (h.transfers t') with _ | _
    · refine told_stuck reserved seated.up taken holds low allocated ?_ ?_
      · rw [errorUpdate_fine _ bad]
        exact state
      · rw [errorUpdate_fine _ bad]
        exact failed
    · have after := errorUpdate_failed (h.msc k) bad
      refine told_stuck reserved seated.up taken holds low allocated (fun ready => ?_) fun _ => after.symm
      rcases after with state' | state'
      · cases state'.symm.trans ready
      · cases state'.symm.trans ready
  | stop =>
    rcases stop_outcome hcd command before (trace ++ [_]) reserved seated
      (fun t' holds' => by obtain rfl : t = t' := Option.some.inj (holds.symm.trans holds'); exact ⟨low, allocated⟩) with
      done | ⟨log, run, grown, keeps⟩
    · rw [pollStep, interface]
      exact .finished done
    · have course : Course.next hcd k .stuck ((pollMachine c hcd k).take h .stop) = .stuck := by
        simp [Course.next, Machine.take, keeps]
      refine .stuck course ?_
      rw [pollStep, interface]
      dsimp only
      rw [run]
      refine stuck.beside ⟨?_, rfl, fun _ _ => rfl, grown⟩
      exact reserved.kept ⟨seated.up.1, seated.up.2, seated.up.3, rfl⟩ (fun _ => rfl) (fun _ => rfl)
        (fun _ _ => ⟨rfl, rfl⟩) rfl
        fun _ _ => rfl
  | start j => exact .stuck rfl (stuck.beside (start_beside reserved allowed (unfilled j rfl)))
  | elsewhere after => exact .stuck rfl (stuck.beside allowed)

/- The steps of a command that is under way. -/

section

variable (running : Running c k command before trace h)
include running

theorem Running.beside (beside : Beside c k h after) : Running c k command before (trace ++ [s]) after := by
  obtain ⟨-, taken, command, ⟨t, holds, ⟨small, allocated, submitted⟩, stage⟩, grown⟩ := running
  obtain ⟨reserved, same, slot, later⟩ := beside
  refine ⟨reserved, by rw [same]; exact taken, by rw [same]; exact command, ⟨t, ?_, ?_, ?_⟩, grown.trans later⟩
  · rw [same]
    exact holds
  · rw [slot t holds]
    exact ⟨small, allocated, submitted⟩
  · rw [same, slot t holds]
    exact stage.more

theorem Running.status
    (tagged : readLE32 command.cbw 4 = command.tag) (state : (h.msc k).state = .status)
    (slot : (h.transfers t).data = .mscCsw k ∧ (h.transfers t).length = 13)
    (moved : DataMoved k command trace (h.msc k).capacityBuffer) (reserved : Reserved c k h₁) (seated : Seated c k i h₁)
    (reported : Reported c k i t .complete n bytes h h₁) (whole : (h.transfers t).length ≤ n) :
    Over c k command before (trace ++ [(pollMachine c hcd k).take h (.completed .complete n bytes)])
      (mscTransferComplete c hcd i t h₁).2 := by
  have fine : mscTransferHasError (h₁.transfers t) = false := by
    rw [reported.transfer]
    simpa [mscTransferHasError] using whole
  have state₁ : (h₁.msc k).state = .status := by rw [reported.heard, state]
  have csw : (h₁.msc k).csw = overlay (h.msc k).csw bytes := by
    rw [reported.heard]
    exact if_pos slot.1
  have capacityBuffer : (h₁.msc k).capacityBuffer = (h.msc k).capacityBuffer := by
    rw [reported.heard]
    exact if_neg (by rw [slot.1]; rintro ⟨⟩)
  have same : commandOf (h₁.msc k) = command := by
    rw [← running.same, reported.heard]
    rfl
  have taken : (h₁.msc k).isAllocated = true := (seat_fields (reported.seats k)).1.trans running.taken
  rw [mscTransferComplete_own hcd seated reported.holding, if_neg (by simp [fine]), state₁]
  obtain ⟨x, log, run, seats, counter, ends⟩ := mscCswComplete_ends hcd seated reported.holding
  dsimp only
  rw [run]
  refine Over.released reserved taken reported.holding.holds seats (counter ▸ reserved.standing.counters k)
    fun ready => ?_
  cases ends with
  | phase state' _ => cases state'.symm.trans ready
  | failed state' _ _ => cases state'.symm.trans ready
  | passed _ parsed passes =>
    obtain ⟨signature, tag, passed, residue⟩ := passes
    have active : (h₁.msc k).activeTag = command.tag := congrArg Command.tag same
    refine ⟨(h.msc k).capacityBuffer, moved.answered ⟨running.same, state, n, bytes, ⟨rfl, by rw [← slot.2]; exact whole⟩, ?_, ?_⟩, ?_⟩
    · refine ⟨?_, ?_, ?_⟩
      · exact csw ▸ signature
      · exact (csw ▸ tag).trans (active.trans tagged.symm)
      · exact csw ▸ passed
    · exact csw ▸ residue
    · intro pointer reads opcode
      obtain ⟨more, grows, -⟩ := running.grown
      have capacity : (h₁.msc k).capacity = some pointer := (congrArg Command.capacity same).trans reads
      have asked : (h₁.msc k).activeOpcode = 0x25 := (congrArg Command.opcode same).trans opcode
      refine ⟨.capacity pointer (capacityOf (h.msc k).capacityBuffer).1 (capacityOf (h.msc k).capacityBuffer).2 :: more, ?_, ?_⟩
      · rw [Host.turned_log, parsed, MscInstance.parsed, capacity]
        dsimp only
        rw [if_pos asked, capacityBuffer, reported.log, grows]
        rfl
      · simp [capacityRecord]

theorem Running.advance (hcd : Hcd) (data : 0 < command.total)
    (holds : (h.msc k).transfer = some t) (low : t < c.maxTransfers)
    (stage : Stage k command (h.msc k) (h.transfers t) trace)
    (early : (h.msc k).state ≠ .status) (reserved : Reserved c k h₁) (seated : Seated c k i h₁)
    (reported : Reported c k i t .complete n bytes h h₁) (whole : (h.transfers t).length ≤ n) :
    if takesNext hcd k h = true then
      Running c k command before (trace ++ [(pollMachine c hcd k).take h (.completed .complete n bytes)])
        (mscTransferComplete c hcd i t h₁).2
    else Stuck c k (mscTransferComplete c hcd i t h₁).2 := by
  have fine : mscTransferHasError (h₁.transfers t) = false := by
    rw [reported.transfer]
    simpa [mscTransferHasError] using whole
  have state₁ : (h₁.msc k).state = (h.msc k).state := by rw [reported.heard]
  have same : commandOf (h₁.msc k) = command := by
    rw [← running.same, reported.heard]
    rfl
  have taken : (h₁.msc k).isAllocated = true := (seat_fields (reported.seats k)).1.trans running.taken
  have phase : (h₁.msc k).state = .command ∨ (h₁.msc k).state = .dataIn ∨ (h₁.msc k).state = .dataOut := by
    rw [state₁]
    rcases stage.busy with first | second | last
    · exact .inl first
    · exact .inr second
    · exact absurd last early
  obtain ⟨e, buffer, length, x, asked, advanced, run⟩ := own_advanced hcd seated reported.holding fine phase
  have takes : takesNext hcd k h = (hcd.submitTransfer h₁.log t (h₁.bulkTransfer t e buffer length)).isOk := by
    have next : (h.msc k).nextStage k = some (some e, buffer, length) := by
      rw [← asked, reported.heard]
      rfl
    rw [takesNext, holds, next]
    dsimp only
    rw [reported.log, reported.stage]
  have shape : x.seat = (h₁.msc k).seat ∧ x.nextTag = (h₁.msc k).nextTag ∧ x.transfer = (h₁.msc k).transfer ∧
      commandOf x = commandOf (h₁.msc k) ∧ x.capacityBuffer = (h₁.msc k).capacityBuffer ∧ x.state ≠ .ready := by
    cases advanced with
    | data command buffer size =>
      refine ⟨rfl, rfl, rfl, rfl, rfl, ?_⟩
      dsimp only
      split
      · rintro ⟨⟩
      · rintro ⟨⟩
    | status last buffer size => exact ⟨rfl, rfl, rfl, rfl, rfl, by rintro ⟨⟩⟩
  obtain ⟨seats, counter, held, stays, capacityBuffer, notReady⟩ := shape
  have holds₁ : x.transfer = some t := held.trans reported.holding.holds
  rw [run, Host.handed, ← takes]
  have reserved' : ∀ y log, Reserved c k (h₁.turned k t x y log) := fun y log =>
    reserved.turned seats (counter ▸ reserved.standing.counters k)
      (fun t' own => (Option.some.inj (reported.holding.holds.symm.trans own)).symm) (.inl holds₁) log
  by_cases submitted : takesNext hcd k h = true
  · rw [if_pos submitted, submitted]
    refine ⟨reserved' _ _, ?_, ?_, ⟨t, ?_, ⟨low, ?_, ?_⟩, ?_⟩, ?_⟩
    · rw [Host.turned_msc, (seat_fields seats).1, taken]
    · rw [Host.turned_msc, stays, same]
    · rw [Host.turned_msc]
      exact holds₁
    · rw [Host.turned_transfers]
      exact reported.holding.allocated
    · rw [Host.turned_transfers]
    · rw [Host.turned_msc, Host.turned_transfers]
      cases advanced with
      | data first buffer size =>
        refine .data ?_ ⟨buffer.trans (congrArg Command.data same), size.trans (congrArg Command.total same)⟩
        have way : (h₁.msc k).activeDataIn = command.dataIn := congrArg Command.dataIn same
        dsimp only
        rw [way]
      | status last buffer size =>
        refine .status rfl ⟨buffer, size⟩ ?_
        rw [capacityBuffer]
        cases stage with
        | command state =>
          -- A command with data does not go on to its status at once.
          have none : command.total = 0 := (congrArg Command.total same).symm.trans (last (state₁.trans state))
          omega
        | data state slot =>
          refine ⟨trace, _, [], rfl, running.same, state, t, n, bytes, holds, slot, ⟨rfl, slot.2 ▸ whole⟩, fun capacity => ?_⟩
          rw [reported.heard]
          exact if_pos (slot.1.trans capacity)
        | status state _ _ => exact absurd state early
    · refine running.grown.trans (.push (r := .submit t (h₁.bulkTransfer t e buffer length)) ?_ fun _ => rfl)
      rw [Host.turned_log, reported.log]
  · rw [if_neg submitted]
    refine ⟨reserved' _ _, ?_, ⟨t, ?_, low, ?_, fun given => ?_⟩, ?_⟩
    · rw [Host.turned_msc, (seat_fields seats).1, taken]
    · rw [Host.turned_msc]
      exact holds₁
    · rw [Host.turned_transfers]
      exact reported.holding.allocated
    · rw [Host.turned_transfers] at given
      exact absurd given submitted
    · rw [Host.turned_msc]
      exact notReady

theorem Running.step (small : k < c.mscMaxInstances)
    (data : 0 < command.total) (tagged : readLE32 command.cbw 4 = command.tag)
    (allowed : (pollMachine c hcd k).allowed h event) (unfilled : Unfilled c k ((pollMachine c hcd k).take h event)) :
    Stands c k command before (Course.next hcd k .running ((pollMachine c hcd k).take h event))
      (trace ++ [(pollMachine c hcd k).take h event]) (pollStep c hcd k h event) := by
  obtain ⟨reserved, taken, same, ⟨t, holds, ⟨low, allocated, submitted⟩, stage⟩, grown⟩ := running
  have running : Running c k command before trace h :=
    ⟨reserved, taken, same, ⟨t, holds, ⟨low, allocated, submitted⟩, stage⟩, grown⟩
  have notReady : (h.msc k).state ≠ .ready := by
    rcases stage.busy with state | (state | state) | state
    all_goals
      rw [state]
      rintro ⟨⟩
  obtain ⟨i, seated, interface⟩ := reserved.seated small taken
  cases event with
  | completed event n bytes =>
    obtain ⟨h₁, run, reported, reserved₁, seated₁, failed⟩ :=
      completed_reported hcd reserved seated holds low allocated event n bytes
    have taken₁ : (h₁.msc k).isAllocated = true := (seat_fields (reported.seats k)).1.trans taken
    rcases bad : failedTransfer k h event n with _ | _
    · obtain ⟨rfl, whole⟩ : event = .complete ∧ (h.transfers t).length ≤ n := by
        simpa [failedTransfer, holds] using bad
      rw [run]
      by_cases last : (h.msc k).state = .status
      · refine .finished ?_
        cases stage with
        | command state => cases state.symm.trans last
        | data state slot =>
          rw [state] at last
          split at last
          · cases last
          · cases last
        | status state slot moved => exact running.status tagged state slot moved reserved₁ seated₁ reported whole
      · have advanced := running.advance hcd data holds low stage last reserved₁ seated₁ reported whole
        rcases takes : takesNext hcd k h with _ | _
        · rw [if_neg (by simp [takes])] at advanced
          exact .stuck (by simp [Course.next, Machine.take, bad, last, takes]) advanced
        · rw [if_pos takes] at advanced
          exact .running (by simp [Course.next, Machine.take, bad, last, takes]) advanced
    · rw [run]
      exact .finished (failed_over reserved₁ seated₁ reported.holding taken₁ (failed.trans bad))
  | told t' =>
    rw [pollStep, interface]
    dsimp only
    rw [told_run hcd seated allowed]
    rcases bad : mscTransferHasError (h.transfers t') with _ | _
    · refine .running (by simp [Course.next, Machine.take, bad]) ?_
      have here : update h.msc k ((h.msc k).errorUpdate (h.transfers t')) k = { h.msc k with error := .none } := by
        rw [update_self, errorUpdate_fine _ bad]
      refine ⟨told_reserved reserved seated.up _, ?_, ?_, ⟨t, ?_, ⟨low, allocated, submitted⟩, ?_⟩, grown.trans (.same rfl)⟩
      · change (update h.msc k _ k).isAllocated = true
        rw [here]
        exact taken
      · change commandOf (update h.msc k _ k) = command
        rw [here]
        exact same
      · change (update h.msc k _ k).transfer = some t
        rw [here]
        exact holds
      · change Stage k command (update h.msc k _ k) _ _
        rw [here]
        cases stage.more (s := (pollMachine c hcd k).take h (.told t')) with
        | command state => exact .command state
        | data state slot => exact .data state slot
        | status state slot moved => exact .status state slot moved
    · refine .stuck (by simp [Course.next, Machine.take, bad]) ?_
      have after := errorUpdate_failed (h.msc k) bad
      refine told_stuck reserved seated.up taken holds low allocated (fun ready => ?_) fun _ => after.symm
      rcases after with state' | state'
      · cases state'.symm.trans ready
      · cases state'.symm.trans ready
  | stop =>
    rcases stop_outcome hcd command before (trace ++ [_]) reserved seated
      (fun t' holds' => by obtain rfl : t = t' := Option.some.inj (holds.symm.trans holds'); exact ⟨low, allocated⟩) with
      done | ⟨log, ran, grows, keeps⟩
    · rw [pollStep, interface]
      exact .finished done
    · refine .running (by simp [Course.next, Machine.take, keeps]) ?_
      rw [pollStep, interface]
      dsimp only
      rw [ran]
      refine running.beside ⟨?_, rfl, fun _ _ => rfl, grows⟩
      exact reserved.kept ⟨seated.up.1, seated.up.2, seated.up.3, rfl⟩ (fun _ => rfl) (fun _ => rfl)
        (fun _ _ => ⟨rfl, rfl⟩) rfl
        fun _ _ => rfl
  | start j => exact .running rfl (running.beside (start_beside reserved allowed (unfilled j rfl)))
  | elsewhere after => exact .running rfl (running.beside allowed)

end

theorem stands_run {start : Host} (small : k < c.mscMaxInstances) (data : 0 < command.total)
    (tagged : readLE32 command.cbw 4 = command.tag) (run : (pollMachine c hcd k).Run start trace h)
    (unfilled : ∀ s ∈ trace, Unfilled c k s) (first : Running c k command before [] start) :
    Stands c k command before (courseOf hcd k trace) trace h := by
  induction run with
  | nil => exact .running rfl first
  | @snoc trace h event run allowed ih =>
    have last := unfilled _ (List.mem_append_right _ List.mem_cons_self)
    have next : courseOf hcd k (trace ++ [(pollMachine c hcd k).take h event]) =
        Course.next hcd k (courseOf hcd k trace) ((pollMachine c hcd k).take h event) := by
      rw [courseOf, List.foldl_append]
      rfl
    rw [next]
    cases ih fun s mem => unfilled s (List.mem_append_left _ mem) with
    | finished finished => exact .finished (finished.step small allowed last)
    | running course running =>
      rw [course]
      exact running.step small data tagged allowed last
    | stuck course stuck =>
      rw [course]
      exact stuck.step small allowed last

end XSDK.Usbmsc
