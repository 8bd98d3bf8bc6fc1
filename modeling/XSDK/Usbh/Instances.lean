import XSDK.Usbh.Wired

/-! What starting and stopping a class instance does to transfers and instances. -/
namespace XSDK.Usbh

open Library Library.Call
open Function (update update_self update_of_ne)

variable {c : Config} {hcd : Hcd} {n i k t : Nat} {h h' : Host}

structure StartFailed (h h' : Host) : Prop where
  same : h' = { h with hid := h'.hid, transfers := h'.transfers, log := h'.log }
  hid : h'.hid = h.hid ∨ ∃ k, (h.hid k).isAllocated = false ∧ h'.hid = update h.hid k .zero
  transfers : h'.transfers = h.transfers ∨ ∃ t, (h.transfers t).isAllocated = false ∧
    h'.transfers = update h.transfers t .zero

structure HidStarted (c : Config) (h : Host) (i : Nat) (h' : Host) : Prop where
  same : h' = { h with hid := h'.hid, transfers := h'.transfers, log := h'.log }
  taken : ∃ k t e, (k < c.hidMaxInstances ∧ (h.hid k).isAllocated = false) ∧
    (t < c.maxTransfers ∧ (h.transfers t).isAllocated = false) ∧
    (e < c.maxEndpoints ∧ (h.endpoints e).isAllocated = true ∧ (h.endpoints e).interfaceIndex = i) ∧
    (∃ instance', h'.hid = update h.hid k instance' ∧ instance'.isAllocated = true ∧ instance'.transfer = some t ∧
      instance'.interfaceCtx = some i ∧ instance'.endpointCtx = some e) ∧
    ∃ transfer, h'.transfers = update h.transfers t transfer ∧ transfer.isAllocated = true ∧
      transfer.deviceAddress = (h.devices (h.endpoints e).deviceIndex).address

theorem hidInterruptInEndpointFind_some {e : Nat} (found : hidInterruptInEndpointFind c h i = some e) :
    e < c.maxEndpoints ∧ (h.endpoints e).isAllocated = true ∧ (h.endpoints e).interfaceIndex = i := by
  obtain ⟨small, all⟩ := firstWith_some found
  simp only [Bool.and_eq_true, decide_eq_true_eq] at all
  exact ⟨small, all.1.1.1, all.1.1.2⟩

def Host.hidPrepared (h : Host) (k t e : Nat) : Transfer :=
  { h.transfers t with
    deviceAddress := (h.devices (h.endpoints e).deviceIndex).address,
    endpointAddress := (h.endpoints e).endpointAddress, endpointType := (h.endpoints e).endpointType,
    interval := (h.endpoints e).interval, hasSetup := false, lastEvent := .complete,
    data := .hidReport k, length := (h.hid k).reportLength, actualLength := 0 }

theorem hidTransferSubmit_effect (c : Config) (hcd : Hcd) (up : Up n h) {e : Nat} (holds : (h.hid k).transfer = some t)
    (reads : (h.hid k).endpointCtx = some e) :
    (∃ log, hidTransferSubmit c hcd k h =
      (.ok (), { h with transfers := update h.transfers t { h.hidPrepared k t e with isSubmitted := true }, log := log })) ∨
    ∃ error log, hidTransferSubmit c hcd k h =
      (.error error, { h with transfers := update h.transfers t (h.hidPrepared k t e), log := log }) := by
  simp only [hidTransferSubmit, read_bind, id_eq, holds, reads, updateTransfer, modify_bind]
  let prepared : Host := { h with transfers := update h.transfers t (h.hidPrepared k t e) }
  have upPrepared : Up n prepared := up.frame rfl
  have here : prepared.transfers t = h.hidPrepared k t e := update_self ..
  rcases transferSubmit_effect c hcd upPrepared t with ⟨run, -⟩ | ⟨error, log, run⟩
  · rw [here] at run
    simp only [prepared, Function.update_idem] at run
    exact .inl ⟨_, run⟩
  · exact .inr ⟨error, log, run⟩

theorem hidStart_effect (c : Config) (hcd : Hcd) (up : Up n h) (i : Nat) :
    (∃ h', hidStart c hcd i h = (.ok (), h') ∧ HidStarted c h i h') ∨
      ∃ e h', hidStart c hcd i h = (.error e, h') ∧ StartFailed h h' := by
  simp only [hidStart, read_bind, id_eq]
  rcases found : hidInterruptInEndpointFind c h i with _ | e
  · exact .inr ⟨_, h, rfl, rfl, .inl rfl, .inl rfl⟩
  · rcases room : firstFree c.hidMaxInstances fun k => (h.hid k).isAllocated with _ | k
    · exact .inr ⟨_, h, rfl, rfl, .inl rfl, .inl rfl⟩
    · obtain ⟨smallInstance, freeInstance⟩ := firstFree_some room
      obtain ⟨smallEndpoint, endpoint, index⟩ := hidInterruptInEndpointFind_some found
      simp only [updateHid, modify_bind]
      let made : HidInstance :=
        { HidInstance.zero with
          isAllocated := true, reportType := hidReportTypeGet (h.interfaces i),
            interfaceCtx := some i, endpointCtx := some e,
          reportLength := hidReportLengthGet (hidReportTypeGet (h.interfaces i)) }
      let first : Host := { h with hid := update h.hid k made }
      have upFirst : Up n first := up.frame rfl
      rcases transferAllocate_effect c upFirst with ⟨t, small, free, run⟩ | ⟨run, -⟩
      · rw [bind_ok _ (onError_ok _ run), modify_bind]
        let holding : HidInstance := { made with transfer := some t }
        let second : Host := { h with
          hid := update h.hid k holding, transfers := update h.transfers t { Transfer.zero with isAllocated := true } }
        have upSecond : Up n second := up.frame rfl
        have second_hid : second.hid k = holding := update_self ..
        have same : ({ first with
            transfers := update first.transfers t { Transfer.zero with isAllocated := true },
            hid := update first.hid k { first.hid k with transfer := some t } } : Host) = second := by
          simp only [first, second, holding, update_self, Function.update_idem]
        simp only [same]
        rcases hidTransferSubmit_effect c hcd upSecond (k := k) (t := t) (e := e)
            (by rw [second_hid]) (by rw [second_hid]) with
          ⟨log, submitted⟩ | ⟨error, log, refused⟩
        · rw [onError_ok _ submitted]
          refine .inl ⟨_, rfl, rfl, k, t, e, ⟨smallInstance, freeInstance⟩, ⟨small, free⟩, ⟨smallEndpoint, endpoint, index⟩, ?_, ?_⟩
          · exact ⟨holding, rfl, rfl, rfl, rfl, rfl⟩
          · refine ⟨{ second.hidPrepared k t e with isSubmitted := true }, ?_, ?_, rfl⟩
            · simp only [second, Function.update_idem]
            · simp [Host.hidPrepared, second]
        · rw [onError_error _ refused, ignore_bind]
          let third : Host := { second with transfers := update second.transfers t (second.hidPrepared k t e), log := log }
          have upThird : Up n third := up.frame rfl
          have released := transferRelease_idle c hcd upThird (t := t) small (by simp [third, Host.hidPrepared, second])
            (by simp [third, Host.hidPrepared, second, Transfer.zero])
          rw [released, modify_run]
          refine .inr ⟨error, _, rfl, rfl, .inr ⟨k, freeInstance, ?_⟩, .inr ⟨t, free, ?_⟩⟩
          · simp only [third, second, Function.update_idem]
          · simp only [third, second, Function.update_idem]
      · rw [bind_error _ (onError_error _ run), modify_run]
        refine .inr ⟨_, _, rfl, rfl, .inr ⟨k, freeInstance, ?_⟩, .inl rfl⟩
        simp only [first, Function.update_idem]

inductive HeldReleased (c : Config) (h : Host) : Option Nat → (Nat → Transfer) → Prop
  | none : HeldReleased c h none h.transfers
  | some {t : Nat} (small : t < c.maxTransfers) (allocated : (h.transfers t).isAllocated = true) :
      HeldReleased c h (some t) (update h.transfers t .zero)

structure HeldKept (c : Config) (hcd : Hcd) (h : Host) (held : Option Nat) : Prop where
  slot : ∃ t, held = some t ∧ (t < c.maxTransfers → (h.transfers t).isAllocated = true →
    (h.transfers t).isSubmitted = true ∧ ∃ e, hcd.cancelTransfer h.log t = .error e)

theorem heldTransferRelease_effect (c : Config) (hcd : Hcd) (up : Up n h) (held : Option Nat) :
    (∃ transfers log, heldTransferRelease c hcd held h = (.ok (), { h with transfers := transfers, log := log }) ∧
      HeldReleased c h held transfers) ∨
    ∃ e log, heldTransferRelease c hcd held h = (.error e, { h with log := log }) ∧ HeldKept c hcd h held := by
  cases held with
  | none => exact .inl ⟨h.transfers, h.log, rfl, .none⟩
  | some t =>
    rcases transferRelease_effect c hcd up t with ⟨log, run, small, allocated⟩ | ⟨e, log, run, why⟩
    · exact .inl ⟨_, log, run, .some small allocated⟩
    · refine .inr ⟨e, log, run, t, rfl, fun small allocated => ?_⟩
      obtain ⟨refused, submitted⟩ := why small allocated
      exact ⟨submitted, e, refused⟩

theorem hidStop_effect (c : Config) (hcd : Hcd) (up : Up n h) (i : Nat) :
    hidStop c hcd i h = (.ok (), h) ∧ hidInstanceFind c h i = none ∨
      ∃ k, hidInstanceFind c h i = some k ∧
        ((∃ transfers log,
          hidStop c hcd i h = (.ok (), { h with hid := update h.hid k .zero, transfers := transfers, log := log }) ∧
            HeldReleased c h (h.hid k).transfer transfers) ∨
          ∃ e log, hidStop c hcd i h = (.error e, { h with log := log }) ∧ HeldKept c hcd h (h.hid k).transfer) := by
  simp only [hidStop, read_bind, id_eq]
  rcases found : hidInstanceFind c h i with _ | k
  · exact .inl ⟨rfl, rfl⟩
  · refine .inr ⟨k, rfl, ?_⟩
    dsimp only
    rcases heldTransferRelease_effect c hcd up (h.hid k).transfer with
      ⟨transfers, log, run, released⟩ | ⟨e, log, run, kept⟩
    · rw [bind_ok _ run]
      exact .inl ⟨transfers, log, rfl, released⟩
    · rw [bind_error _ run]
      exact .inr ⟨e, log, rfl, kept⟩

theorem mscStop_effect (c : Config) (hcd : Hcd) (up : Up n h) (i : Nat) :
    mscStop c hcd i h = (.ok (), h) ∧ mscInstanceFind c h i = none ∨
      ∃ k, mscInstanceFind c h i = some k ∧
        ((∃ transfers log,
          mscStop c hcd i h = (.ok (), { h with msc := update h.msc k .zero, transfers := transfers, log := log }) ∧
            HeldReleased c h (h.msc k).transfer transfers) ∨
          ∃ e log, mscStop c hcd i h = (.error e, { h with log := log }) ∧ HeldKept c hcd h (h.msc k).transfer) := by
  simp only [mscStop, read_bind, id_eq]
  rcases found : mscInstanceFind c h i with _ | k
  · exact .inl ⟨rfl, rfl⟩
  · refine .inr ⟨k, rfl, ?_⟩
    dsimp only
    rcases heldTransferRelease_effect c hcd up (h.msc k).transfer with
      ⟨transfers, log, run, released⟩ | ⟨e, log, run, kept⟩
    · rw [bind_ok _ run]
      exact .inl ⟨transfers, log, rfl, released⟩
    · rw [bind_error _ run]
      exact .inr ⟨e, log, rfl, kept⟩

theorem mscStart_effect (c : Config) (h : Host) (i : Nat) :
    (∃ k instance', (k < c.mscMaxInstances ∧ (h.msc k).isAllocated = false) ∧ instance'.isAllocated = true ∧
      instance'.transfer = none ∧ instance'.interfaceCtx = some i ∧
      mscStart c i h = (.ok (), { h with msc := update h.msc k instance' })) ∨ ∃ e, mscStart c i h = (.error e, h) := by
  simp only [mscStart, read_bind, id_eq]
  rcases mscBulkEndpointFind c h i true with _ | bulkIn
  · exact .inr ⟨_, rfl⟩
  · rcases mscBulkEndpointFind c h i false with _ | bulkOut
    · exact .inr ⟨_, rfl⟩
    · dsimp only
      rcases room : firstFree c.mscMaxInstances fun k => (h.msc k).isAllocated with _ | k
      · exact .inr ⟨_, rfl⟩
      · exact .inl ⟨k, _, firstFree_some room, rfl, rfl, rfl, rfl⟩

/- The slot that the enumeration gives up when it is done. -/

def SlotPassed (t : Nat) (h : Host) : Prop :=
  (h.transfers t).isAllocated = false ∨ ∃ k, (h.hid k).isAllocated = true ∧ (h.hid k).transfer = some t

theorem SlotPassed.released {transfers : Nat → Transfer} {held : Option Nat} (passed : SlotPassed t h)
    (released : HeldReleased c h held transfers) :
    (transfers t).isAllocated = false ∨ held ≠ some t ∧ (transfers t = h.transfers t ∧
      ∃ k, (h.hid k).isAllocated = true ∧ (h.hid k).transfer = some t) := by
  cases released with
  | none =>
    rcases passed with free | holder
    · exact .inl free
    · exact .inr ⟨by simp, rfl, holder⟩
  | @some t' small allocated =>
    by_cases same : t = t'
    · subst same
      exact .inl (by simp [Transfer.zero])
    · rw [update_of_ne same]
      rcases passed with free | holder
      · exact .inl free
      · exact .inr ⟨by simpa using fun back : t' = t => same back.symm, rfl, holder⟩

variable {driver : ClassDriver}

theorem classStop_passed (up : Up n h) (passed : SlotPassed t h) : SlotPassed t (classStop c hcd driver i h).2 := by
  cases driver with
  | hid =>
    rcases hidStop_effect c hcd up i with ⟨run, -⟩ | ⟨k, -, ⟨transfers, log, run, released⟩ | ⟨e, log, run, -⟩⟩
    · exact (congrArg (fun r => SlotPassed t r.2) run).mpr passed
    · refine (congrArg (fun r => SlotPassed t r.2) run).mpr ?_
      rcases passed.released released with free | ⟨other, -, k', taken, holds⟩
      · exact .inl free
      · have apart : k' ≠ k := by
          rintro rfl
          exact other holds
        exact .inr ⟨k', by simpa only [update_of_ne apart] using ⟨taken, holds⟩⟩
    · exact (congrArg (fun r => SlotPassed t r.2) run).mpr passed
  | msc =>
    rcases mscStop_effect c hcd up i with ⟨run, -⟩ | ⟨k, -, ⟨transfers, log, run, released⟩ | ⟨e, log, run, -⟩⟩
    · exact (congrArg (fun r => SlotPassed t r.2) run).mpr passed
    · refine (congrArg (fun r => SlotPassed t r.2) run).mpr ?_
      rcases passed.released released with free | ⟨-, -, holder⟩
      · exact .inl free
      · exact .inr holder
    · exact (congrArg (fun r => SlotPassed t r.2) run).mpr passed

theorem classStart_passed (up : Up n h) (passed : SlotPassed t h) : SlotPassed t (classStart c hcd driver i h).2 := by
  have apart {k k' : Nat} (free : (h.hid k).isAllocated = false) (taken : (h.hid k').isAllocated = true) : k' ≠ k := by
    rintro rfl
    rw [free] at taken
    cases taken
  cases driver with
  | hid =>
    rcases hidStart_effect c hcd up i with ⟨h', run, started⟩ | ⟨e, h', run, failed⟩
    · refine (congrArg (fun r => SlotPassed t r.2) run).mpr ?_
      obtain ⟨k, t', e, ⟨-, free⟩, -, -, ⟨new, hid, newTaken, newHolds, -⟩, transfer, transfers, -⟩ := started.taken
      simp only [SlotPassed, hid, transfers]
      by_cases same : t = t'
      · exact .inr ⟨k, by rw [update_self]; exact ⟨newTaken, same ▸ newHolds⟩⟩
      · rw [update_of_ne same]
        rcases passed with free' | ⟨k', taken, holds⟩
        · exact .inl free'
        · exact .inr ⟨k', by simpa only [update_of_ne (apart free taken)] using ⟨taken, holds⟩⟩
    · refine (congrArg (fun r => SlotPassed t r.2) run).mpr ?_
      have slot : (h.transfers t).isAllocated = false → (h'.transfers t).isAllocated = false := by
        rcases failed.transfers with same | ⟨t', -, same⟩
        · rw [same]
          exact id
        · rw [same]
          by_cases here : t = t'
          · subst here
            simp [Transfer.zero]
          · rw [update_of_ne here]
            exact id
      rcases passed with free | ⟨k', taken, holds⟩
      · exact .inl (slot free)
      · refine .inr ⟨k', ?_⟩
        rcases failed.hid with same | ⟨k, free, same⟩
        · rw [same]
          exact ⟨taken, holds⟩
        · rw [same, update_of_ne (apart free taken)]
          exact ⟨taken, holds⟩
  | msc =>
    rcases mscStart_effect c h i with ⟨k, new, -, -, -, -, run⟩ | ⟨e, run⟩
    · exact (congrArg (fun r => SlotPassed t r.2) run).mpr passed
    · exact (congrArg (fun r => SlotPassed t r.2) run).mpr passed

theorem classUnbindDevice_passed {d : Nat} : Keeps (fun h => Up n h ∧ SlotPassed t h) (classUnbindDevice c hcd d) := by
  refine .bind .read fun h => .bind .reject fun _ => .bind .reject fun _ => .forEach
    fun i => .bind .read fun interface => ?_
  split
  · exact .pure
  · next driver _ =>
    refine .onlyIf (.bind (Keeps.attempt (.intro fun h both => ?_)) fun _ => .bind (.modify fun h both => ?_) fun _ => .finish)
    · exact ⟨(classStop_keeps up_remote.toQuiet).after both.1, classStop_passed both.1 both.2⟩
    · exact ⟨⟨both.1.1, both.1.2, both.1.3, both.1.4⟩, both.2⟩

theorem classBindDevice_passed {d : Nat} : Keeps (fun h => Up n h ∧ SlotPassed t h) (classBindDevice c hcd d) := by
  refine .bind .read fun _ => .bind .reject fun _ => .bind .reject fun _ => .forEach
    fun _ => .bind .read fun _ => .onlyIf <|
    .onError (.bind .read fun h => .bind .reject fun _ => ?_) fun _ => classUnbindDevice_passed
  split
  · exact .pure
  · refine .bind (.intro fun h both => ?_) fun _ => .modify fun h both => ?_
    · exact ⟨(classStart_keeps up_remote.toQuiet).after both.1, classStart_passed both.1 both.2⟩
    · exact ⟨⟨both.1.1, both.1.2, both.1.3, both.1.4⟩, both.2⟩

end XSDK.Usbh
