import XSDK.Usbh.Instances

/-! One mass-storage instance: the application's calls on it, the ends of its transfer, and
what the core tells it about transfers of others, in any order. -/
namespace XSDK.Usbh

open Library Library.Call
open Function (update update_self update_of_ne)

/-- A transfer of the instance is under way in these states. -/
def MscState.busy : MscState → Bool
  | .command | .dataIn | .dataOut | .status | .resetRequest | .clearInHalt | .clearOutHalt => true
  | _ => false

def MscState.commanding : MscState → Bool
  | .command | .dataIn | .dataOut | .status => true
  | _ => false

def Op.ofMsc : Op → Bool
  | .process | .portEvent _ _ | .transferEvent _ _ _ _ => false
  | _ => true

def MscInstance.seat (x : MscInstance) : Bool × Option Nat × Option Nat × Option Nat × Nat :=
  (x.isAllocated, x.interfaceCtx, x.bulkInEndpoint, x.bulkOutEndpoint, x.lun)

section Machine

variable (c : Config) (hcd : Hcd) (k i : Nat)

/-- A started host, and an instance on interface i. -/
structure Seated (h : Host) : Prop where
  up : Up h.rootPortCount h
  found : mscInstanceFind c h i = some k
  bulkIn : (h.msc k).bulkInEndpoint.isSome = true
  bulkOut : (h.msc k).bulkOutEndpoint.isSome = true

/-- The logical unit number leads to the instance. Every instance is started with number 0. -/
structure Seat (h : Host) : Prop extends Seated c k i h where
  lun : ∀ l, mscInstanceFindByLun c h l = if l = 0 then some k else none

/-- The rest of the host goes on, without the instance and its transfer. -/
structure Aside (h after : Host) : Prop where
  seat : Seat c k i after
  same : after.msc k = h.msc k
  slot : ∀ t, (h.msc k).transfer = some t → after.transfers t = h.transfers t

/-- The controller reports the end of a transfer, and the class of interface i is told. -/
def mscCompleted (t : Nat) (event : TransferEvent) (actualLength : Nat) (bytes : List UInt8) : HostM Unit := do
  let h ← read id
  hcdReceive (h.transfers t).data bytes
  updateTransfer t fun transfer => { transfer with actualLength := actualLength }
  updateTransfer t fun transfer => { transfer with lastEvent := event, isSubmitted := false }
  mscTransferComplete c hcd i t

inductive InstanceOp
  | call (op : Op)
  | completed (event : TransferEvent) (actualLength : Nat) (bytes : List UInt8)
  | told (t : Nat)
  | elsewhere (after : Host)

def instanceStep (h : Host) : InstanceOp → Except Error Unit × Host
  | .call op => call c hcd op h
  | .completed event n bytes =>
    match (h.msc k).transfer with
    | some t => mscCompleted c hcd i t event n bytes h
    | none => (.ok (), h)
  | .told t => mscTransferComplete c hcd i t h
  | .elsewhere after => (.ok (), after)

def instanceMachine : Machine Host InstanceOp (Except Error Unit) where
  allowed h
    | .call op => op.ofMsc = true
    | .completed _ _ _ => ∃ t, (h.msc k).transfer = some t ∧ (h.transfers t).isSubmitted = true
    | .told t => (h.msc k).transfer ≠ some t
    | .elsewhere after => Aside c k i h after
  step h op := ((instanceStep c hcd k i h op).2, (instanceStep c hcd k i h op).1)

end Machine

variable {c : Config} {hcd : Hcd} {n k i t : Nat} {h : Host}

theorem seat_fields {x y : MscInstance} (same : x.seat = y.seat) :
    x.isAllocated = y.isAllocated ∧ x.interfaceCtx = y.interfaceCtx ∧ x.bulkInEndpoint = y.bulkInEndpoint ∧
      x.bulkOutEndpoint = y.bulkOutEndpoint ∧ x.lun = y.lun := by
  simpa only [MscInstance.seat, Prod.mk.injEq] using same

theorem Seated.moved {h' : Host} (seated : Seated c k i h) (up : Up h'.rootPortCount h')
    (seats : ∀ k', (h'.msc k').seat = (h.msc k').seat) : Seated c k i h' := by
  obtain ⟨-, -, bulkIn, bulkOut, -⟩ := seat_fields (seats k)
  have same : mscInstanceFind c h' i = mscInstanceFind c h i := by
    unfold mscInstanceFind
    congr 1
    funext k'
    rw [(seat_fields (seats k')).1, (seat_fields (seats k')).2.1]
  exact ⟨up, same.trans seated.found, bulkIn ▸ seated.bulkIn, bulkOut ▸ seated.bulkOut⟩

theorem Seat.moved {h' : Host} (seat : Seat c k i h) (up : Up h'.rootPortCount h')
    (seats : ∀ k', (h'.msc k').seat = (h.msc k').seat) : Seat c k i h' := by
  refine ⟨seat.toSeated.moved up seats, fun l => ?_⟩
  have same : mscInstanceFindByLun c h' l = mscInstanceFindByLun c h l := by
    unfold mscInstanceFindByLun
    congr 1
    funext k'
    rw [(seat_fields (seats k')).1, (seat_fields (seats k')).2.2.2.2]
  rw [same, seat.lun]

variable {x : MscInstance}

theorem seat_update {msc : Nat → MscInstance} (same : x.seat = (msc k).seat) (k' : Nat) :
    (update msc k x k').seat = (msc k').seat := by
  by_cases here : k' = k
  · rw [here, update_self, same]
  · rw [update_of_ne here]

theorem Seated.interface (seat : Seated c k i h) : (h.msc k).interfaceCtx = some i := by
  obtain ⟨-, all⟩ := firstWith_some seat.found
  simp only [Bool.and_eq_true, decide_eq_true_eq] at all
  exact all.2

/- The transfer of the instance. -/

def Host.bulkTransfer (h : Host) (t e : Nat) (data : Buffer) (length : Nat) : Transfer :=
  { h.transfers t with
    isSubmitted := false,
    deviceAddress := (h.devices (h.endpoints e).deviceIndex).address,
    endpointAddress := (h.endpoints e).endpointAddress, endpointType := (h.endpoints e).endpointType,
    interval := (h.endpoints e).interval, hasSetup := false, lastEvent := .complete,
    data := data, length := length, actualLength := 0 }

def Host.controlTransfer (h : Host) (t i : Nat) (setup : SetupRequest) : Transfer :=
  { h.transfers t with
    isSubmitted := false,
    deviceAddress := (h.devices (h.interfaces i).deviceIndex).address, endpointAddress := 0,
    endpointType := endpTypeCtrl, interval := 0, hasSetup := true, setup := setup, lastEvent := .complete,
    data := .none, length := 0, actualLength := 0 }

def Host.turned (h : Host) (k t : Nat) (x : MscInstance) (y : Transfer) (log : List Record) : Host :=
  { h with msc := update h.msc k x, transfers := update h.transfers t y, log := log }

@[simp] theorem Host.turned_msc (x : MscInstance) (y : Transfer) (log : List Record) :
    (h.turned k t x y log).msc k = x :=
  update_self ..

@[simp] theorem Host.turned_transfers (x : MscInstance) (y : Transfer) (log : List Record) :
    (h.turned k t x y log).transfers t = y :=
  update_self ..

@[simp] theorem Host.turned_log (x : MscInstance) (y : Transfer) (log : List Record) :
    (h.turned k t x y log).log = log := rfl

@[simp] theorem Host.turned_turned (x x' : MscInstance) (y y' : Transfer) (log log' : List Record) :
    (h.turned k t x y log).turned k t x' y' log' = h.turned k t x' y' log' := by
  simp only [Host.turned, Function.update_idem]

def Hands (hcd : Hcd) (k t : Nat) (state : MscState) (y : Transfer) (m : HostM Unit) (h : Host) : Prop :=
  (hcd.submitTransfer h.log t y = .ok () ∧
    m h = (.ok (), h.turned k t { h.msc k with state := state } { y with isSubmitted := true } (.submit t y :: h.log))) ∨
  ∃ e, hcd.submitTransfer h.log t y = .error e ∧
    m h = (.error e, h.turned k t { h.msc k with state := state } y (.submit t y :: h.log))

structure Holding (c : Config) (k t : Nat) (h : Host) : Prop where
  holds : (h.msc k).transfer = some t
  small : t < c.maxTransfers
  allocated : (h.transfers t).isAllocated = true
  idle : (h.transfers t).isSubmitted = false

theorem transferSubmit_idle (hcd : Hcd) (up : Up n h) (small : t < c.maxTransfers)
    (allocated : (h.transfers t).isAllocated = true) (idle : (h.transfers t).isSubmitted = false) :
    (hcd.submitTransfer h.log t (h.transfers t) = .ok () ∧ transferSubmit c hcd t h =
      (.ok (), { h with
        transfers := update h.transfers t { h.transfers t with isSubmitted := true },
        log := .submit t (h.transfers t) :: h.log })) ∨
    ∃ e, hcd.submitTransfer h.log t (h.transfers t) = .error e ∧
      transferSubmit c hcd t h = (.error e, { h with log := .submit t (h.transfers t) :: h.log }) := by
  simp only [transferSubmit, read_bind, id_eq]
  rw [reject_bind_neg _ (by simp [up.initialized]), reject_bind_neg _ (by simp [up.started]),
    reject_bind_neg _ (by simp [small, allocated]), reject_bind_neg _ (by simp [idle])]
  rcases answer : hcd.submitTransfer h.log t (h.transfers t) with e | u
  · exact .inr ⟨e, rfl, bind_error (e := e) _ (by rw [ask_up up, answer])⟩
  · refine .inl ⟨rfl, ?_⟩
    rw [bind_ok (a := u) _ (by rw [ask_up up, answer])]
    rfl

theorem submit_hands (hcd : Hcd) (up : Up n h) (holding : Holding c k t h) {state : MscState} {m : HostM Unit}
    {y : Transfer} (start : m h = (updateTransfer t (fun _ => y) >>= fun _ =>
      updateMsc k (fun msc => { msc with state := state }) >>= fun _ => transferSubmit c hcd t) h)
    (allocated : y.isAllocated = (h.transfers t).isAllocated) (idle : y.isSubmitted = false) :
    Hands hcd k t state y m h := by
  rw [updateTransfer, modify_bind, updateMsc, modify_bind] at start
  rw [Hands, start]
  let prepared : Host := { h with
    transfers := update h.transfers t y, msc := update h.msc k { h.msc k with state := state } }
  have upPrepared : Up n prepared := up.frame rfl
  have here : prepared.transfers t = y := update_self ..
  rcases transferSubmit_idle (c := c) hcd upPrepared holding.small (by rw [here, allocated]; exact holding.allocated)
      (by rw [here, idle]) with ⟨answer, run⟩ | ⟨e, answer, run⟩
  · rw [here] at answer run
    simp only [prepared, Function.update_idem] at run
    exact .inl ⟨answer, run⟩
  · rw [here] at answer run
    exact .inr ⟨e, answer, run⟩

theorem mscTransferPrepareAndSubmit_effect (hcd : Hcd) (up : Up n h) (holding : Holding c k t h) (e : Nat)
    (data : Buffer) (length : Nat) (state : MscState) :
    Hands hcd k t state (h.bulkTransfer t e data length) (mscTransferPrepareAndSubmit c hcd k (some e) data length state) h := by
  refine submit_hands hcd up holding ?_ rfl rfl
  simp only [mscTransferPrepareAndSubmit, read_bind, id_eq, holding.holds]
  rw [Host.bulkTransfer, ← holding.idle]
  rfl

theorem mscControlTransferSubmit_effect (hcd : Hcd) (up : Up n h) (holding : Holding c k t h)
    (interface : (h.msc k).interfaceCtx = some i) (setup : SetupRequest) (state : MscState) :
    Hands hcd k t state (h.controlTransfer t i setup) (mscControlTransferSubmit c hcd k setup state) h := by
  refine submit_hands hcd up holding ?_ rfl rfl
  simp only [mscControlTransferSubmit, read_bind, id_eq, holding.holds, interface]
  rw [Host.controlTransfer, ← holding.idle]
  rfl

def MscInstance.forgotten (x : MscInstance) : MscInstance :=
  { x with
    transfer := none, dataBuffer := .none, dataLength := 0, activeTag := 0, activeOpcode := 0, capacity := none,
    activeDataIn := false }

theorem mscOwnedTransferRelease_effect (up : Up n h) (holding : Holding c k t h) :
    mscOwnedTransferRelease c hcd k h = (.ok (), h.turned k t (h.msc k).forgotten .zero h.log) := by
  simp only [mscOwnedTransferRelease, read_bind, id_eq, holding.holds, attempt_bind]
  rw [transferRelease_idle c hcd up holding.small holding.allocated holding.idle]
  rfl


theorem Seated.turned (seat : Seated c k i h) (same : x.seat = (h.msc k).seat) (y : Transfer) (log : List Record) :
    Seated c k i (h.turned k t x y log) :=
  seat.moved ⟨seat.up.1, seat.up.2, seat.up.3, rfl⟩ (seat_update same)

theorem Seat.turned (seat : Seat c k i h) (same : x.seat = (h.msc k).seat) (y : Transfer) (log : List Record) :
    Seat c k i (h.turned k t x y log) :=
  seat.moved ⟨seat.up.1, seat.up.2, seat.up.3, rfl⟩ (seat_update same)

/- A command from its start. -/

def MscInstance.commanded (x : MscInstance) (t lun : Nat) (cdb : List UInt8) (buffer : Buffer)
    (dataLength : Nat) (dataIn : Bool) :
    MscInstance :=
  { x with
    transfer := some t, dataBuffer := buffer, dataLength := dataLength, error := .none, nextTag := mscNextTag x.nextTag,
    activeTag := x.nextTag, activeOpcode := (cdb.getD 0 0).toNat, activeDataIn := dataIn,
    cbw := mscCbw x.nextTag lun dataLength cdb dataIn }

def CommandRefused (c : Config) (k : Nat) (h : Host) (lun : Nat) (cdb : List UInt8) (buffer : Buffer)
    (dataLength : Nat) : Prop :=
  (0 < dataLength ∧ buffer = .none) ∨ (lun ≠ 0 ∨ cdb.length = 0 ∨ 16 < cdb.length) ∨
    ((h.msc k).state ≠ .ready ∨ (h.msc k).transfer ≠ none) ∨ ∀ t < c.maxTransfers, (h.transfers t).isAllocated = true

/-- A call has taken a free slot for the instance x. The transfer goes to the controller, or the slot is given back. -/
structure Begun (c : Config) (hcd : Hcd) (k : Nat) (h : Host) (x : MscInstance) (capacity : Option Nat)
    (under back : MscState) (t : Nat)
    (r : Except Error Unit × Host) : Prop where
  small : t < c.maxTransfers
  free : (h.transfers t).isAllocated = false
  outcome : ∃ y, y.isAllocated = true ∧
    ((hcd.submitTransfer h.log t y = .ok () ∧
      r = (.ok (), h.turned k t { x with state := under, capacity := capacity } { y with isSubmitted := true } (.submit t y :: h.log))) ∨
    ∃ e, hcd.submitTransfer h.log t y = .error e ∧
      r = (.error e, h.turned k t { x.forgotten with state := back } .zero (.submit t y :: h.log)))

def Host.armed (h : Host) (k t : Nat) (x : MscInstance) :
    Host := h.turned k t x { Transfer.zero with isAllocated := true } h.log

theorem Seated.holding_armed (seat : Seated c k i h) (same : x.seat = (h.msc k).seat) (holds : x.transfer = some t)
    (small : t < c.maxTransfers) : Seated c k i (h.armed k t x) ∧ Holding c k t (h.armed k t x) := by
  refine ⟨seat.turned same _ _, ?_, small, ?_, ?_⟩
  · rw [Host.armed, Host.turned_msc]
    exact holds
  · rw [Host.armed, Host.turned_transfers]
  · rw [Host.armed, Host.turned_transfers]
    rfl

theorem Seated.begun (seat : Seated c k i h) (same : x.seat = (h.msc k).seat) (holds : x.transfer = some t)
    (small : t < c.maxTransfers) (free : (h.transfers t).isAllocated = false) {under back : MscState} {y : Transfer}
    (slot : y.isAllocated = true ∧ y.isSubmitted = false) {m : HostM Unit}
    (hands : Hands hcd k t under y m (h.armed k t x)) :
    Begun c hcd k h x x.capacity under back t (onError m (fun _ => do
      ignore (mscOwnedTransferRelease c hcd k)
      updateMsc k fun msc => { msc with state := back }) (h.armed k t x)) := by
  refine ⟨small, free, y, slot.1, ?_⟩
  rcases hands with ⟨answer, done⟩ | ⟨e, answer, done⟩
  · refine .inl ⟨answer, ?_⟩
    rw [onError_ok _ done]
    simp only [Host.armed, Host.turned_turned, Host.turned_msc, Host.turned_log]
  · refine .inr ⟨e, answer, ?_⟩
    simp only [Host.armed, Host.turned_turned, Host.turned_msc, Host.turned_log] at done
    rw [Host.armed, onError_error _ done, ignore_bind]
    let left := h.turned k t { x with state := under } y (.submit t y :: h.log)
    have seatLeft : Seated c k i left := seat.turned (x := { x with state := under }) same _ _
    have back : Holding c k t left := ⟨by rw [Host.turned_msc]; exact holds, small, by rw [Host.turned_transfers]; exact slot.1, by
      rw [Host.turned_transfers]; exact slot.2⟩
    rw [mscOwnedTransferRelease_effect seatLeft.up back, updateMsc, modify_run]
    simp only [left, Host.turned_turned, Host.turned_msc, Host.turned_log]
    simp only [Host.turned, Function.update_idem]
    rfl

theorem mscScsiCommandStart_effect (hcd : Hcd) (seat : Seat c k i h) (lun : Nat) (cdb : List UInt8) (buffer : Buffer)
    (dataLength : Nat) (dataIn : Bool) :
    (∃ e, mscScsiCommandStart c hcd lun cdb buffer dataLength dataIn h = (.error e, h) ∧
      CommandRefused c k h lun cdb buffer dataLength) ∨
    ((h.msc k).state = .ready ∧ (h.msc k).transfer = none) ∧
      ∃ t, Begun c hcd k h ((h.msc k).commanded t lun cdb buffer dataLength dataIn) (h.msc k).capacity .command .ready t
        (mscScsiCommandStart c hcd lun cdb buffer dataLength dataIn h) := by
  rw [mscScsiCommandStart]
  by_cases missing : 0 < dataLength ∧ buffer = .none
  · rw [reject_bind_pos _ missing]
    exact .inl ⟨_, rfl, .inl missing⟩
  rw [reject_bind_neg _ missing]
  by_cases bad : 15 < lun ∨ cdb.length = 0 ∨ 16 < cdb.length
  · rw [reject_bind_pos _ bad]
    refine .inl ⟨_, rfl, .inr (.inl ?_)⟩
    rcases bad with large | rest
    · exact .inl (by omega)
    · exact .inr rest
  rw [reject_bind_neg _ bad, read_bind, id_eq, seat.lun]
  by_cases other : lun = 0
  swap
  · rw [if_neg other]
    exact .inl ⟨_, rfl, .inr (.inl (.inl other))⟩
  rw [if_pos other]
  dsimp only
  by_cases busy : (h.msc k).state ≠ .ready ∨ (h.msc k).transfer.isSome = true
  · rw [reject_bind_pos _ busy]
    refine .inl ⟨_, rfl, .inr (.inr (.inl ?_))⟩
    rcases busy with state | some
    · exact .inl state
    · exact .inr (Option.isSome_iff_ne_none.mp some)
  rw [reject_bind_neg _ busy]
  have ready : (h.msc k).state = .ready ∧ (h.msc k).transfer = none := by simpa [not_or] using busy
  rcases transferAllocate_effect c seat.up with ⟨t, small, free, run⟩ | ⟨run, full⟩
  swap
  · rw [bind_error _ run]
    exact .inl ⟨_, rfl, .inr (.inr (.inr full))⟩
  refine .inr ⟨ready, t, ?_⟩
  let x := (h.msc k).commanded t lun cdb buffer dataLength dataIn
  have reached : ∀ rest : HostM Unit,
      (transferAllocate c >>= fun t => updateMsc k (fun msc =>
        { msc with transfer := some t, dataBuffer := buffer, dataLength := dataLength, error := .none }) >>= fun _ =>
          mscCbwPrepare k lun cdb dataLength dataIn >>= fun _ => rest) h = rest (h.armed k t x) := by
    intro rest
    rw [bind_ok _ run, updateMsc, modify_bind, mscCbwPrepare, updateMsc, modify_bind]
    simp only [update_self, Function.update_idem]
    rfl
  obtain ⟨e, bulkOut⟩ := Option.isSome_iff_exists.mp seat.bulkOut
  obtain ⟨seatArmed, holding⟩ := seat.holding_armed (x := x) rfl rfl small
  rw [reached, bulkOut]
  have slot : ((h.armed k t x).bulkTransfer t e (.mscCbw k) 31).isAllocated = true := holding.allocated
  exact seat.begun (x := x) rfl rfl small free ⟨slot, rfl⟩
    (mscTransferPrepareAndSubmit_effect hcd seatArmed.up holding e (.mscCbw k) 31 .command)

def MscInstance.resetting (x : MscInstance) (t : Nat) :
    MscInstance := { x with error := .resetRecoveryRequired, transfer := some t }

theorem mscResetRecovery_effect (hcd : Hcd) (seat : Seat c k i h) (lun : Nat) :
    (∃ e, mscResetRecovery c hcd lun h = (.error e, h) ∧
      (lun ≠ 0 ∨ (h.msc k).state ≠ .resetRecovery ∨ (h.msc k).transfer ≠ none)) ∨
    ((h.msc k).state = .resetRecovery ∧ (h.msc k).transfer = none) ∧
      ((∃ e, mscResetRecovery c hcd lun h =
          (.error e, { h with msc := update h.msc k { h.msc k with error := .resetRecoveryRequired } }) ∧
          ∀ t < c.maxTransfers, (h.transfers t).isAllocated = true) ∨
        ∃ t, Begun c hcd k h ((h.msc k).resetting t) (h.msc k).capacity .resetRequest .resetRecovery t (mscResetRecovery c hcd lun h)) := by
  rw [mscResetRecovery]
  by_cases large : 15 < lun
  · rw [reject_bind_pos _ large]
    exact .inl ⟨_, rfl, .inl (by omega)⟩
  rw [reject_bind_neg _ large, read_bind, id_eq, seat.lun]
  by_cases other : lun = 0
  swap
  · rw [if_neg other]
    exact .inl ⟨_, rfl, .inl other⟩
  rw [if_pos other]
  dsimp only
  by_cases busy : (h.msc k).state ≠ .resetRecovery ∨ (h.msc k).transfer.isSome = true
  · rw [reject_bind_pos _ busy]
    refine .inl ⟨_, rfl, .inr ?_⟩
    rcases busy with state | some
    · exact .inl state
    · exact .inr (Option.isSome_iff_ne_none.mp some)
  rw [reject_bind_neg _ busy, updateMsc, modify_bind]
  refine .inr ⟨by simpa [not_or] using busy, ?_⟩
  let waiting : Host := { h with msc := update h.msc k { h.msc k with error := .resetRecoveryRequired } }
  have upWaiting : Up h.rootPortCount waiting := ⟨seat.up.1, seat.up.2, seat.up.3, rfl⟩
  rw [mscResetRecoveryStart]
  rcases transferAllocate_effect c upWaiting with ⟨t, small, free, run⟩ | ⟨run, full⟩
  swap
  · exact .inl ⟨_, bind_error _ run, full⟩
  refine .inr ⟨t, ?_⟩
  let x := (h.msc k).resetting t
  have reached : ∀ rest : HostM Unit,
      (transferAllocate c >>= fun t => updateMsc k (fun msc => { msc with transfer := some t }) >>= fun _ => rest) waiting =
        rest (h.armed k t x) := by
    intro rest
    rw [bind_ok _ run, updateMsc, modify_bind]
    simp only [waiting, update_self, Function.update_idem]
    rfl
  obtain ⟨seatArmed, holding⟩ := seat.holding_armed (x := x) rfl rfl small
  have interface : ((h.armed k t x).msc k).interfaceCtx = some i := seatArmed.interface
  rw [reached]
  refine seat.begun (x := x) rfl rfl small free (y := (h.armed k t x).controlTransfer t i
    ⟨0x21, 0xFF, 0, ((h.armed k t x).interfaces i).interfaceNumber, 0⟩) ⟨holding.allocated, rfl⟩ ?_
  have handed := mscControlTransferSubmit_effect hcd seatArmed.up holding interface
    ⟨0x21, 0xFF, 0, ((h.armed k t x).interfaces i).interfaceNumber, 0⟩ .resetRequest
  have asks : mscMassStorageResetSubmit c hcd k (h.armed k t x) =
      mscControlTransferSubmit c hcd k ⟨0x21, 0xFF, 0, ((h.armed k t x).interfaces i).interfaceNumber, 0⟩ .resetRequest
        (h.armed k t x) := by
    simp only [mscMassStorageResetSubmit, read_bind, id_eq, interface]
  rw [Hands, asks]
  exact handed

def MscInstance.Tagged (x : MscInstance) : Prop := readLE32 x.cbw 4 = x.activeTag

theorem mscCbw_tag {tag : Nat} (small : tag < 2 ^ 32) (lun dataLength : Nat) (cdb : List UInt8) (dataIn : Bool) :
    readLE32 (mscCbw tag lun dataLength cdb dataIn) 4 = tag := by
  have same : readLE32 (mscCbw tag lun dataLength cdb dataIn) 4 =
      readLE32 (writeLE32 (writeLE32 (fun _ => 0) 0 0x43425355) 4 tag) 4 := by
    apply readLE32_congr
    intro j small
    unfold mscCbw
    rw [if_pos (by omega), update_of_ne (by omega), update_of_ne (by omega), update_of_ne (by omega),
      writeLE32_other (by omega)]
  rw [same, readLE32_write, word32_of_lt small]

theorem mscNextTag_lt (tag : Nat) : mscNextTag tag < 2 ^ 32 := by
  rw [mscNextTag]
  split
  · omega
  · exact Nat.mod_lt _ (by omega)

/-- A call of the class on the instance: it is refused, or it begins a command, or a recovery. -/
inductive Called (c : Config) (hcd : Hcd) (k : Nat) (h : Host) : Except Error Unit × Host → Prop
  | refused (e : Error) : Called c hcd k h (.error e, h)
  | full (e : Error) (waits : (h.msc k).state = .resetRecovery ∧ (h.msc k).transfer = none) :
      Called c hcd k h (.error e, { h with msc := update h.msc k { h.msc k with error := .resetRecoveryRequired } })
  | command {r : Except Error Unit × Host} {t : Nat} {x : MscInstance}
      (ready : (h.msc k).state = .ready ∧ (h.msc k).transfer = none) (seat : x.seat = (h.msc k).seat)
      (holds : x.transfer = some t)
      (tagged : (h.msc k).nextTag < 2 ^ 32 → x.Tagged ∧ x.nextTag < 2 ^ 32) {capacity : Option Nat}
      (begun : Begun c hcd k h x capacity .command .ready t r) :
      Called c hcd k h r
  | recovery {r : Except Error Unit × Host} {t : Nat} (waits : (h.msc k).state = .resetRecovery ∧ (h.msc k).transfer = none)
      (begun : Begun c hcd k h ((h.msc k).resetting t) (h.msc k).capacity .resetRequest .resetRecovery t r) :
      Called c hcd k h r

theorem Begun.called {lun dataLength : Nat} {cdb : List UInt8} {buffer : Buffer} {dataIn : Bool}
    {r : Except Error Unit × Host} {capacity : Option Nat}
    (begun : Begun c hcd k h ((h.msc k).commanded t lun cdb buffer dataLength dataIn) capacity .command .ready t r)
    (ready : (h.msc k).state = .ready ∧ (h.msc k).transfer = none) : Called c hcd k h r :=
  .command (x := (h.msc k).commanded t lun cdb buffer dataLength dataIn) ready rfl rfl
    (fun small => ⟨mscCbw_tag small .., mscNextTag_lt _⟩) begun

theorem mscScsiCommandStart_called (hcd : Hcd) (seat : Seat c k i h) (lun : Nat) (cdb : List UInt8) (buffer : Buffer)
    (dataLength : Nat) (dataIn : Bool) :
    Called c hcd k h (mscScsiCommandStart c hcd lun cdb buffer dataLength dataIn h) := by
  rcases mscScsiCommandStart_effect hcd seat lun cdb buffer dataLength dataIn with ⟨e, run, -⟩ | ⟨ready, t, begun⟩
  · rw [run]
    exact .refused e
  · exact begun.called ready

def blockCommand (lba blockCount : Nat) (isRead : Bool) : List UInt8 :=
  [if isRead = true then 0x28 else 0x2A, 0] ++ be32Bytes lba ++ [0] ++ be16Bytes blockCount ++ [0]

theorem mscBlockOperationStart_effect (hcd : Hcd) (seat : Seat c k i h) (lun lba blockCount : Nat) (buffer : Buffer)
    (bufferLength : Nat) (isRead : Bool) :
    (∃ e, mscBlockOperationStart c hcd lun lba blockCount buffer bufferLength isRead h = (.error e, h)) ∨
    ((h.msc k).state = .ready ∧ (h.msc k).transfer = none) ∧
      ((h.msc k).blockSize ≠ 0 ∧ blockCount * (h.msc k).blockSize ≤ bufferLength) ∧
      ∃ t, Begun c hcd k h
        ((h.msc k).commanded t lun (blockCommand lba blockCount isRead) buffer (blockCount * (h.msc k).blockSize) isRead)
        (h.msc k).capacity .command .ready t (mscBlockOperationStart c hcd lun lba blockCount buffer bufferLength isRead h) := by
  rw [mscBlockOperationStart]
  by_cases missing : buffer = .none
  · rw [reject_bind_pos _ missing]
    exact .inl ⟨_, rfl⟩
  rw [reject_bind_neg _ missing]
  by_cases bad : 15 < lun ∨ blockCount = 0
  · rw [reject_bind_pos _ bad]
    exact .inl ⟨_, rfl⟩
  rw [reject_bind_neg _ bad, read_bind, id_eq, seat.lun]
  by_cases other : lun = 0
  swap
  · rw [if_neg other]
    exact .inl ⟨_, rfl⟩
  rw [if_pos other]
  dsimp only
  by_cases busy : (h.msc k).state ≠ .ready ∨ (h.msc k).transfer.isSome = true
  · rw [reject_bind_pos _ busy]
    exact .inl ⟨_, rfl⟩
  rw [reject_bind_neg _ busy]
  by_cases size : (h.msc k).blockSize = 0 ∨ (2 ^ 32 - 1) / (h.msc k).blockSize < blockCount
  · rw [reject_bind_pos _ size]
    exact .inl ⟨_, rfl⟩
  rw [reject_bind_neg _ size]
  by_cases small : bufferLength < blockCount * (h.msc k).blockSize
  · rw [reject_bind_pos _ small]
    exact .inl ⟨_, rfl⟩
  rw [reject_bind_neg _ small]
  rcases mscScsiCommandStart_effect hcd seat lun (blockCommand lba blockCount isRead) buffer
      (blockCount * (h.msc k).blockSize)
      isRead with ⟨e, run, -⟩ | ⟨ready, t, begun⟩
  · exact .inl ⟨e, run⟩
  · exact .inr ⟨ready, ⟨fun zero => size (.inl zero), by omega⟩, t, begun⟩

theorem mscBlockOperationStart_called (hcd : Hcd) (seat : Seat c k i h) (lun lba blockCount : Nat) (buffer : Buffer)
    (bufferLength : Nat) (isRead : Bool) :
    Called c hcd k h (mscBlockOperationStart c hcd lun lba blockCount buffer bufferLength isRead h) := by
  rcases mscBlockOperationStart_effect hcd seat lun lba blockCount buffer bufferLength isRead with
    ⟨e, run⟩ | ⟨ready, -, t, begun⟩
  · rw [run]
    exact .refused e
  · exact begun.called ready

theorem mscReadCapacity_effect (hcd : Hcd) (seat : Seat c k i h) (lun capacity : Nat) :
    (∃ e, mscReadCapacity c hcd lun capacity h = (.error e, h) ∧
      (lun ≠ 0 ∨ CommandRefused c k h lun [0x25, 0, 0, 0, 0, 0, 0, 0, 0, 0] (.mscCapacity k) 8)) ∨
    ((h.msc k).state = .ready ∧ (h.msc k).transfer = none) ∧
      ∃ t, Begun c hcd k h ((h.msc k).commanded t lun [0x25, 0, 0, 0, 0, 0, 0, 0, 0, 0] (.mscCapacity k) 8 true) (some capacity)
        .command .ready t (mscReadCapacity c hcd lun capacity h) := by
  rw [mscReadCapacity]
  by_cases large : 15 < lun
  · rw [reject_bind_pos _ large]
    exact .inl ⟨_, rfl, .inl (by omega)⟩
  rw [reject_bind_neg _ large, read_bind, id_eq, seat.lun]
  by_cases other : lun = 0
  swap
  · rw [if_neg other]
    exact .inl ⟨_, rfl, .inl other⟩
  rw [if_pos other]
  dsimp only
  rcases mscScsiCommandStart_effect hcd seat lun [0x25, 0, 0, 0, 0, 0, 0, 0, 0, 0] (.mscCapacity k) 8 true with
    ⟨e, run, why⟩ | ⟨ready, t, small, free, y, allocated, ⟨answer, run⟩ | ⟨e, answer, run⟩⟩
  · rw [bind_error _ run]
    exact .inl ⟨_, rfl, .inr why⟩
  · rw [bind_ok _ run, updateMsc, modify_run]
    refine .inr ⟨ready, t, small, free, y, allocated, .inl ⟨answer, ?_⟩⟩
    simp only [Host.turned, update_self, Function.update_idem]
  · rw [bind_error _ run]
    exact .inr ⟨ready, t, small, free, y, allocated, .inr ⟨e, answer, rfl⟩⟩

theorem call_called (hcd : Hcd) (seat : Seat c k i h) {op : Op} (msc : op.ofMsc = true) :
    Called c hcd k h (call c hcd op h) := by
  cases op with
  | process => cases msc
  | portEvent p event => cases msc
  | transferEvent t event n bytes => cases msc
  | mscReadBlocks lun lba count buffer length => exact mscBlockOperationStart_called hcd seat ..
  | mscWriteBlocks lun lba count buffer length => exact mscBlockOperationStart_called hcd seat ..
  | mscInquiry lun buffer length =>
    rw [call, mscInquiry]
    by_cases missing : callerBuffer buffer = .none
    · rw [reject_bind_pos _ missing]
      exact .refused _
    rw [reject_bind_neg _ missing]
    by_cases small : length < 36
    · rw [reject_bind_pos _ small]
      exact .refused _
    rw [reject_bind_neg _ small]
    exact mscScsiCommandStart_called hcd seat ..
  | mscReadCapacity lun capacity =>
    rcases mscReadCapacity_effect hcd seat lun capacity with ⟨e, run, -⟩ | ⟨ready, t, begun⟩
    · rw [call, run]
      exact .refused e
    · exact begun.called ready
  | mscTestUnitReady lun => exact mscScsiCommandStart_called hcd seat ..
  | mscRequestSense lun buffer length =>
    rw [call, mscRequestSense]
    by_cases missing : callerBuffer buffer = .none
    · rw [reject_bind_pos _ missing]
      exact .refused _
    rw [reject_bind_neg _ missing]
    by_cases small : length < 18
    · rw [reject_bind_pos _ small]
      exact .refused _
    rw [reject_bind_neg _ small]
    exact mscScsiCommandStart_called hcd seat ..
  | mscResetRecovery lun =>
    rcases mscResetRecovery_effect hcd seat lun with ⟨e, run, -⟩ | ⟨waits, ⟨e, run, -⟩ | ⟨t, begun⟩⟩
    · rw [call, run]
      exact .refused e
    · rw [call, run]
      exact .full e waits
    · exact .recovery waits begun

end XSDK.Usbh
