import XSDK.Usbh.MscInstance

/-! A mass-storage instance over whole runs: it holds a transfer exactly while one is under
way, and without one it takes a command or a recovery. -/
namespace XSDK.Usbh

open Library Library.Call
open Function (update update_self update_of_ne)

/-- The call succeeds with a free slot and a controller that takes what it is handed. -/
def Accepts (c : Config) (op : Op) (h : Host) : Prop :=
  ∀ hcd : Hcd, (∀ log t y, hcd.submitTransfer log t y = .ok ()) →
    (∃ t < c.maxTransfers, (h.transfers t).isAllocated = false) → (call c hcd op h).1 = .ok ()

/-- A command that any disk takes, whatever its block size. -/
def Op.command : Op → Bool
  | .mscInquiry 0 (some _) length => decide (36 ≤ length)
  | .mscReadCapacity 0 _ => true
  | .mscTestUnitReady 0 => true
  | .mscRequestSense 0 (some _) length => decide (18 ≤ length)
  | _ => false

structure Unstuck (c : Config) (k : Nat) (h : Host) : Prop where
  busy : (h.msc k).transfer ≠ none ↔ (h.msc k).state.busy = true
  submitted : ∀ t, (h.msc k).transfer = some t → (h.transfers t).isAllocated = true ∧ (h.transfers t).isSubmitted = true
  accepts : (h.msc k).transfer = none →
    (∀ op, op.command = true → Accepts c op h) ∨ Accepts c (.mscResetRecovery 0) h

/-- A command status for the command of a command block. -/
structure StatusFor (csw cbw : Nat → UInt8) (status : Nat) : Prop where
  signature : readLE32 csw 0 = 0x53425355
  tag : readLE32 csw 4 = readLE32 cbw 4
  status : (csw 12).toNat = status

abbrev InstanceTransition := Transition Host InstanceOp (Except Error Unit)

def StatusReceived (k : Nat) (s : InstanceTransition) (csw : Nat → UInt8) : Prop :=
  (s.pre.msc k).state = .status ∧ ∃ n bytes, s.input = .completed .complete n bytes ∧ 13 ≤ n ∧
    csw = overlay (s.pre.msc k).csw bytes

structure InstanceLaw (c : Config) (k : Nat) (s : InstanceTransition) : Prop where
  passed : (s.pre.msc k).state.commanding = true → (s.post.msc k).transfer = none → (s.post.msc k).state = .ready →
    (s.post.msc k).error = .none →
      ∃ csw, StatusReceived k s csw ∧ StatusFor csw (s.pre.msc k).cbw 0 ∧ readLE32 csw 8 = 0
  sense : ∀ csw, StatusReceived k s csw → StatusFor csw (s.pre.msc k).cbw 1 →
    ∀ pointer length, 18 ≤ length → Accepts c (.mscRequestSense 0 (some pointer) length) s.post

/- When nothing of this fails. -/

/-- The data and the length of the stage after the present one. -/
def MscInstance.nextStage (x : MscInstance) (k : Nat) : Option (Option Nat × Buffer × Nat) :=
  match x.state with
  | .command =>
    if x.dataLength = 0 then some (x.bulkInEndpoint, .mscCsw k, 13)
    else some (if x.activeDataIn = true then x.bulkInEndpoint else x.bulkOutEndpoint, x.dataBuffer, x.dataLength)
  | .dataIn | .dataOut => some (x.bulkInEndpoint, .mscCsw k, 13)
  | _ => none

def NextTaken (hcd : Hcd) (k t : Nat) (h : Host) : Prop :=
  ∀ e data length, (h.msc k).nextStage k = some (some e, data, length) →
    hcd.submitTransfer h.log t (h.bulkTransfer t e data length) = .ok ()

/-- The device has not failed the command, and has not left any of it undone. -/
def NotFailed (x : MscInstance) (csw : Nat → UInt8) : Prop :=
  readLE32 csw 0 = 0x53425355 → readLE32 csw 4 = x.activeTag → (csw 12).toNat ≠ 2 →
    (csw 12).toNat = 0 ∧ readLE32 csw 8 = 0

def NotShort (event : TransferEvent) (length actualLength : Nat) : Prop :=
  event = .stalled ∨ event ≠ .short ∧ length ≤ actualLength

instance (event : TransferEvent) (length actualLength : Nat) : Decidable (NotShort event length actualLength) :=
  inferInstanceAs (Decidable (_ ∨ _ ∧ _))

instance (x : MscInstance) (csw : Nat → UInt8) : Decidable (NotFailed x csw) :=
  inferInstanceAs (Decidable (_ → _ → _ → _ ∧ _))

def Proper (hcd : Hcd) (k : Nat) (s : InstanceTransition) : Prop :=
  match s.input with
  | .completed event n bytes =>
    ∀ t, (s.pre.msc k).transfer = some t →
      NotShort event (s.pre.transfers t).length n ∧
        (event = .complete → NextTaken hcd k t s.pre ∧
          ((s.pre.msc k).state = .status → NotFailed (s.pre.msc k) (overlay (s.pre.msc k).csw bytes)))
  | .told t =>
    NotShort (s.pre.transfers t).lastEvent (s.pre.transfers t).length (s.pre.transfers t).actualLength ∧
      ((s.pre.msc k).transfer ≠ none →
        (s.pre.transfers t).lastEvent = .complete ∧ (s.pre.transfers t).length ≤ (s.pre.transfers t).actualLength)
  | _ => True

variable {c : Config} {hcd : Hcd} {n k i t : Nat} {h : Host}

structure Working (c : Config) (k i : Nat) (h : Host) : Prop where
  seat : Seat c k i h
  idle : (h.msc k).transfer = none → (h.msc k).state = .ready ∨ (h.msc k).state = .resetRecovery
  held : ∀ t, (h.msc k).transfer = some t →
    (h.msc k).state.busy = true ∧ t < c.maxTransfers ∧ (h.transfers t).isAllocated = true ∧
    (h.transfers t).isSubmitted = true
  tagged : (h.msc k).state.commanding = true → (h.msc k).Tagged
  counter : (h.msc k).nextTag < 2 ^ 32
  status : (h.msc k).state = .status → ∀ t, (h.msc k).transfer = some t →
    (h.transfers t).data = .mscCsw k ∧ (h.transfers t).length = 13

/-- An instance that has just been started. -/
structure Fresh (c : Config) (k i : Nat) (h : Host) : Prop where
  seat : Seat c k i h
  ready : (h.msc k).state = .ready
  free : (h.msc k).transfer = none
  tag : (h.msc k).nextTag = 1

theorem Fresh.working (fresh : Fresh c k i h) : Working c k i h where
  seat := fresh.seat
  idle _ := .inl fresh.ready
  held t holds := by
    rw [fresh.free] at holds
    cases holds
  tagged commanding := by
    rw [fresh.ready] at commanding
    cases commanding
  counter := by
    rw [fresh.tag]
    omega
  status state := by
    rw [fresh.ready] at state
    cases state

theorem firstWith_only {size : Nat} {p : Nat → Bool} (small : k < size) (here : p k = true)
    (only : ∀ j < size, p j = true → j = k) :
    firstWith size p = some k := by
  rcases found : firstWith size p with _ | j
  · rw [firstWith_none found k small] at here
    cases here
  · obtain ⟨less, there⟩ := firstWith_some found
    rw [only j less there]

theorem mscStart_fresh {h' : Host} (up : Up h.rootPortCount h) (none : ∀ k, (h.msc k).isAllocated = false)
    (run : mscStart c i h = (.ok (), h')) : ∃ k, Fresh c k i h' := by
  simp only [mscStart, read_bind, id_eq] at run
  rcases bulkIn : mscBulkEndpointFind c h i true with _ | e
  · rw [bulkIn] at run
    cases run
  rcases bulkOut : mscBulkEndpointFind c h i false with _ | e'
  · rw [bulkIn, bulkOut] at run
    cases run
  rcases room : firstFree c.mscMaxInstances fun k => (h.msc k).isAllocated with _ | k
  · rw [bulkIn, bulkOut, room] at run
    cases run
  rw [bulkIn, bulkOut, room] at run
  obtain rfl := congrArg Prod.snd run
  let x : MscInstance :=
    { MscInstance.zero with
      isAllocated := true, state := .ready, interfaceCtx := some i, bulkInEndpoint := some e,
        bulkOutEndpoint := some e',
      nextTag := 1, blockSize := 512 }
  have here : update h.msc k x k = x := update_self ..
  have only : ∀ j, (update h.msc k x j).isAllocated = true → j = k := by
    intro j allocated
    by_contra other
    rw [update_of_ne other, none] at allocated
    cases allocated
  refine ⟨k, ⟨⟨⟨up.1, up.2, up.3, rfl⟩, ?_, congrArg (fun x => x.bulkInEndpoint.isSome) here,
    congrArg (fun x => x.bulkOutEndpoint.isSome) here⟩, fun l => ?_⟩, congrArg (·.state) here, congrArg (·.transfer) here, congrArg (·.nextTag) here⟩
  · refine firstWith_only (firstFree_some room).1 ?_ fun j _ both => ?_
    · change ((update h.msc k x k).isAllocated && decide ((update h.msc k x k).interfaceCtx = some i)) = true
      rw [here]
      simp [x]
    · exact only j (Bool.and_eq_true_iff.mp both).1
  · by_cases zero : l = 0
    · subst zero
      refine firstWith_only (firstFree_some room).1 ?_ fun j _ both => ?_
      · change ((update h.msc k x k).isAllocated && decide ((update h.msc k x k).lun = 0)) = true
        rw [here]
        rfl
      · exact only j (Bool.and_eq_true_iff.mp both).1
    · rw [if_neg zero]
      rcases found : mscInstanceFindByLun c _ l with _ | j
      · rfl
      · obtain ⟨-, both⟩ := firstWith_some found
        obtain ⟨allocated, lun⟩ := Bool.and_eq_true_iff.mp both
        obtain rfl := only j allocated
        have same : (update h.msc j x j).lun = l := of_decide_eq_true lun
        rw [here] at same
        exact absurd same.symm zero

/- Acceptance. -/

variable {y : Transfer} {x : MscInstance}
variable {s : InstanceTransition} {state : MscState} {r : Except Error Unit × Host} {under back : MscState} {capacity : Option Nat} {actualLength : Nat} {bytes : List UInt8} {op : Op}

theorem Begun.accepted
    (begun : Begun c hcd k h x capacity under back t r)
    (takes : ∀ log t y, hcd.submitTransfer log t y = .ok ()) : r.1 = .ok () := by
  obtain ⟨-, -, y, -, ⟨-, rfl⟩ | ⟨e, answer, -⟩⟩ := begun
  · rfl
  · rw [takes] at answer
    cases answer

theorem not_full (room : ∃ t < c.maxTransfers, (h.transfers t).isAllocated = false) :
    ¬∀ t < c.maxTransfers, (h.transfers t).isAllocated = true := by
  obtain ⟨t, small, free⟩ := room
  intro full
  rw [full t small] at free
  cases free

theorem mscScsiCommandStart_accepted (seat : Seat c k i h)
    (ready : (h.msc k).state = .ready ∧ (h.msc k).transfer = none)
    (takes : ∀ log t y, hcd.submitTransfer log t y = .ok ())
    (room : ∃ t < c.maxTransfers, (h.transfers t).isAllocated = false)
    {cdb : List UInt8} {buffer : Buffer} {dataLength : Nat} (dataIn : Bool) (data : buffer = .none → dataLength = 0)
    (length : cdb.length ≠ 0 ∧ cdb.length ≤ 16) :
    (mscScsiCommandStart c hcd 0 cdb buffer dataLength dataIn h).1 = .ok () := by
  rcases mscScsiCommandStart_effect hcd seat 0 cdb buffer dataLength dataIn with
    ⟨e, -, missing | (other | none | long) | (state | some) | full⟩ | ⟨-, t, begun⟩
  · have zero := data missing.2
    omega
  · exact absurd rfl other
  · exact absurd none length.1
  · omega
  · exact absurd ready.1 state
  · exact absurd ready.2 some
  · exact absurd full (not_full room)
  · exact begun.accepted takes

theorem Seat.accepts_command (seat : Seat c k i h) (ready : (h.msc k).state = .ready ∧ (h.msc k).transfer = none)
    (command : op.command = true) : Accepts c op h := by
  intro hcd takes room
  unfold Op.command at command
  split at command
  · next pointer length =>
    have long : 36 ≤ length := by simpa using command
    rw [call, mscInquiry, reject_bind_neg _ (by simp [callerBuffer]), reject_bind_neg _ (by omega)]
    exact mscScsiCommandStart_accepted seat ready takes room true (by simp [callerBuffer]) (by decide)
  · next capacity =>
    rcases mscReadCapacity_effect hcd seat 0 capacity with ⟨e, -, other | why⟩ | ⟨-, t, begun⟩
    · exact absurd rfl other
    · rcases why with missing | (other | none | long) | (state | some) | full
      · exact absurd missing.2 (by simp)
      · exact absurd rfl other
      · exact absurd none (by decide)
      · exact absurd long (by decide)
      · exact absurd ready.1 state
      · exact absurd ready.2 some
      · exact absurd full (not_full room)
    · exact begun.accepted takes
  · exact mscScsiCommandStart_accepted seat ready takes room false (fun _ => rfl) (by decide)
  · next pointer length =>
    have long : 18 ≤ length := by simpa using command
    rw [call, mscRequestSense, reject_bind_neg _ (by simp [callerBuffer]), reject_bind_neg _ (by omega)]
    exact mscScsiCommandStart_accepted seat ready takes room true (by simp [callerBuffer]) (by decide)
  · cases command

theorem Seat.accepts_recovery (seat : Seat c k i h)
    (waits : (h.msc k).state = .resetRecovery ∧ (h.msc k).transfer = none) :
    Accepts c (.mscResetRecovery 0) h := by
  intro hcd takes room
  rcases mscResetRecovery_effect hcd seat 0 with ⟨e, -, other | state | some⟩ | ⟨-, ⟨e, -, full⟩ | ⟨t, begun⟩⟩
  · exact absurd rfl other
  · exact absurd waits.1 state
  · exact absurd waits.2 some
  · exact absurd full (not_full room)
  · exact begun.accepted takes

theorem Working.unstuck (working : Working c k i h) : Unstuck c k h where
  busy := by
    constructor
    · intro some
      obtain ⟨t, holds⟩ := Option.ne_none_iff_exists'.mp some
      exact (working.held t holds).1
    · intro busy none
      rcases working.idle none with state | state
      · rw [state] at busy
        cases busy
      · rw [state] at busy
        cases busy
  submitted t holds := (working.held t holds).2.2
  accepts none := by
    rcases working.idle none with ready | waits
    · exact .inl fun op command => working.seat.accepts_command ⟨ready, none⟩ command
    · exact .inr (working.seat.accepts_recovery ⟨waits, none⟩)

/- What a step leaves of the instance. -/

/-- The instance is without a transfer and free, or its transfer is with the controller. -/
structure Settled (c : Config) (k t : Nat) (h : Host) (x : MscInstance) (y : Transfer) : Prop where
  seat : x.seat = (h.msc k).seat
  counter : x.nextTag < 2 ^ 32
  stands : (x.transfer = none ∧ (x.state = .ready ∨ x.state = .resetRecovery)) ∨
    (x.transfer = some t ∧ x.state.busy = true ∧ t < c.maxTransfers ∧ (y.isAllocated = true ∧ y.isSubmitted = true) ∧
      (x.state.commanding = true → x.Tagged) ∧ (x.state = .status → y.data = .mscCsw k ∧ y.length = 13))

theorem Settled.working (settled : Settled c k t h x y) (seat : Seat c k i h) (log : List Record) :
    Working c k i (h.turned k t x y log) := by
  obtain ⟨same, counter, ⟨none, state⟩ | ⟨holds, busy, small, slot, tagged, status⟩⟩ := settled
  · have free : (h.turned k t x y log).msc k = x := Host.turned_msc ..
    refine ⟨seat.turned same _ _, fun _ => by rwa [free], fun t' some => ?_, fun commanding => ?_, by rwa [free], fun at' => ?_⟩
    · rw [free, none] at some
      cases some
    · rw [free] at commanding
      rcases state with state | state
      · rw [state] at commanding
        cases commanding
      · rw [state] at commanding
        cases commanding
    · rw [free] at at'
      rcases state with state | state
      · rw [state] at at'
        cases at'
      · rw [state] at at'
        cases at'
  · have here : (h.turned k t x y log).msc k = x := Host.turned_msc ..
    have there : (h.turned k t x y log).transfers t = y := Host.turned_transfers ..
    refine ⟨seat.turned same _ _, fun none => ?_, fun t' some => ?_, by rwa [here], by rwa [here], fun at' t' some => ?_⟩
    · rw [here, holds] at none
      cases none
    · rw [here, holds] at some
      obtain rfl := Option.some.inj some
      rw [here, there]
      exact ⟨busy, small, slot⟩
    · rw [here, holds] at some
      obtain rfl := Option.some.inj some
      rw [here] at at'
      rw [there]
      exact status at'

theorem Begun.settled
    (begun : Begun c hcd k h x capacity under back t r) (seat : x.seat = (h.msc k).seat)
    (holds : x.transfer = some t)
    (counter : x.nextTag < 2 ^ 32) (busy : under.busy = true ∧ under ≠ .status)
    (tagged : under.commanding = true → x.Tagged)
    (idle : back = .ready ∨ back = .resetRecovery) :
    ∃ x' y log, r.2 = h.turned k t x' y log ∧ Settled c k t h x' y := by
  obtain ⟨small, -, y, allocated, ⟨-, rfl⟩ | ⟨e, -, rfl⟩⟩ := begun
  · refine ⟨{ x with state := under, capacity := capacity }, _, _, rfl, seat, counter, ?_⟩
    exact .inr ⟨holds, busy.1, small, ⟨allocated, rfl⟩, tagged, fun status => absurd status busy.2⟩
  · exact ⟨_, _, _, rfl, seat, counter, .inl ⟨rfl, idle⟩⟩

theorem Working.called (hcd : Hcd) (working : Working c k i h) (msc : op.ofMsc = true) :
    Working c k i (call c hcd op h).2 ∧ ((h.msc k).transfer ≠ none → (call c hcd op h).2 = h) := by
  have called := call_called hcd working.seat msc
  generalize call c hcd op h = r at called
  cases called with
  | refused e => exact ⟨working, fun _ => rfl⟩
  | full e waits =>
    refine ⟨?_, fun some => absurd waits.2 some⟩
    have here : ({ h with msc := update h.msc k { h.msc k with error := .resetRecoveryRequired } } : Host).msc k =
        { h.msc k with error := .resetRecoveryRequired } := update_self ..
    refine ⟨working.seat.moved ⟨working.seat.up.1, working.seat.up.2, working.seat.up.3, rfl⟩ (seat_update rfl), ?_, ?_, ?_, ?_, ?_⟩
    · rw [here]
      exact working.idle
    · rw [here]
      exact working.held
    · rw [here]
      exact working.tagged
    · rw [here]
      exact working.counter
    · rw [here]
      exact working.status
  | command ready seat holds tagged begun =>
    obtain ⟨tag, counter⟩ := tagged working.counter
    obtain ⟨x, y, log, after, settled⟩ := begun.settled seat holds counter ⟨rfl, by decide⟩ (fun _ => tag) (.inl rfl)
    exact ⟨after ▸ settled.working working.seat log, fun some => absurd ready.2 some⟩
  | recovery waits begun =>
    obtain ⟨x, y, log, after, settled⟩ := begun.settled rfl rfl working.counter ⟨rfl, by decide⟩ nofun (.inr rfl)
    exact ⟨after ▸ settled.working working.seat log, fun some => absurd waits.2 some⟩

/- The end of the transfer. -/

structure Reported (c : Config) (k i t : Nat) (event : TransferEvent) (actualLength : Nat)
    (bytes : List UInt8) (h h₁ : Host) :
    Prop where
  up : Up h₁.rootPortCount h₁
  seats : ∀ k', (h₁.msc k').seat = (h.msc k').seat
  holding : Holding c k t h₁
  transfer : h₁.transfers t = { h.transfers t with actualLength := actualLength, lastEvent := event, isSubmitted := false }
  heard : h₁.msc k =
    { h.msc k with
      csw := if (h.transfers t).data = .mscCsw k then overlay (h.msc k).csw bytes else (h.msc k).csw,
      capacityBuffer :=
        if (h.transfers t).data = .mscCapacity k then overlay (h.msc k).capacityBuffer bytes else (h.msc k).capacityBuffer }
  log : h₁.log = h.log
  stage : ∀ e data length, h₁.bulkTransfer t e data length = h.bulkTransfer t e data length
  instances : ∀ k', ∃ csw capacityBuffer, h₁.msc k' = { h.msc k' with csw := csw, capacityBuffer := capacityBuffer }
  others : ∀ t', t' ≠ t → h₁.transfers t' = h.transfers t'

theorem hcdReceive_effect (data : Buffer) (bytes : List UInt8) (h : Host) :
    ∃ msc hid controlBuffer,
      hcdReceive data bytes h = (.ok (), { h with msc := msc, hid := hid, controlBuffer := controlBuffer }) ∧
        ∀ k, msc k =
          { h.msc k with
            csw := if data = .mscCsw k then overlay (h.msc k).csw bytes else (h.msc k).csw,
            capacityBuffer := if data = .mscCapacity k then overlay (h.msc k).capacityBuffer bytes else (h.msc k).capacityBuffer } := by
  cases data with
  | none => exact ⟨h.msc, h.hid, h.controlBuffer, rfl, fun k => by simp⟩
  | control => exact ⟨h.msc, h.hid, _, rfl, fun k => by simp⟩
  | hidReport j => exact ⟨h.msc, _, h.controlBuffer, rfl, fun k => by simp⟩
  | mscCbw j => exact ⟨h.msc, h.hid, h.controlBuffer, rfl, fun k => by simp⟩
  | caller pointer => exact ⟨h.msc, h.hid, h.controlBuffer, rfl, fun k => by simp⟩
  | mscCsw j =>
    refine ⟨_, h.hid, h.controlBuffer, rfl, fun k => ?_⟩
    by_cases same : k = j
    · subst same
      simp
    · have other : j ≠ k := fun eq => same eq.symm
      rw [update_of_ne same]
      simp [other]
  | mscCapacity j =>
    refine ⟨_, h.hid, h.controlBuffer, rfl, fun k => ?_⟩
    by_cases same : k = j
    · subst same
      simp
    · have other : j ≠ k := fun eq => same eq.symm
      rw [update_of_ne same]
      simp [other]

theorem mscCompleted_reported (hcd : Hcd) (seat : Seated c k i h) (holds : (h.msc k).transfer = some t)
    (small : t < c.maxTransfers)
    (allocated : (h.transfers t).isAllocated = true) (event : TransferEvent) (actualLength : Nat) (bytes : List UInt8) :
    ∃ h₁, mscCompleted c hcd i t event actualLength bytes h = mscTransferComplete c hcd i t h₁ ∧
      Reported c k i t event actualLength bytes h h₁ := by
  obtain ⟨msc, hid, controlBuffer, received, instances⟩ := hcdReceive_effect (h.transfers t).data bytes h
  let ended : Transfer := { h.transfers t with actualLength := actualLength, lastEvent := event, isSubmitted := false }
  let now : Host := { h with
    msc := msc, hid := hid, controlBuffer := controlBuffer, transfers := update h.transfers t ended }
  have slot : now.transfers t = ended := update_self ..
  refine ⟨now, ?_, ⟨seat.up.1, seat.up.2, seat.up.3, rfl⟩, fun k' => ?_, ⟨?_, small, ?_, ?_⟩, slot, instances k, rfl,
    fun e data length => ?_, fun k' => ⟨_, _, instances k'⟩, fun t' other => update_of_ne other ..⟩
  · simp only [mscCompleted, read_bind, id_eq]
    rw [bind_ok _ received]
    simp only [updateTransfer, modify_bind, update_self, Function.update_idem]
    rfl
  · change (msc k').seat = _
    rw [instances k']
    rfl
  · change (msc k).transfer = _
    rw [instances k]
    exact holds
  · rw [slot]
    exact allocated
  · rw [slot]
  · simp only [Host.bulkTransfer, slot]
    rfl

def MscInstance.errorUpdate (x : MscInstance) (y : Transfer) : MscInstance :=
  if y.lastEvent = .stalled then { x with state := .resetRecovery, error := .stall }
  else if y.lastEvent = .short ∨ y.actualLength < y.length then { x with state := .error, error := .shortTransfer }
  else if y.lastEvent ≠ .complete then { x with state := .resetRecovery, error := .phaseError }
  else { x with error := .none }

theorem errorUpdate_shape (x : MscInstance) (y : Transfer) :
    ∃ state error, x.errorUpdate y = { x with state := state, error := error } := by
  unfold MscInstance.errorUpdate
  split
  · exact ⟨_, _, rfl⟩
  · split
    · exact ⟨_, _, rfl⟩
    · split
      · exact ⟨_, _, rfl⟩
      · exact ⟨_, _, rfl⟩

theorem errorUpdate_keeps (x : MscInstance) (y : Transfer) :
    (x.errorUpdate y).seat = x.seat ∧ (x.errorUpdate y).transfer = x.transfer ∧ (x.errorUpdate y).nextTag = x.nextTag ∧
      (x.errorUpdate y).cbw = x.cbw ∧ (x.errorUpdate y).activeTag = x.activeTag := by
  obtain ⟨state, error, shape⟩ := errorUpdate_shape x y
  rw [shape]
  exact ⟨rfl, rfl, rfl, rfl, rfl⟩

theorem errorUpdate_failed (x : MscInstance) (bad : mscTransferHasError y = true) :
    (x.errorUpdate y).state = .resetRecovery ∨ (x.errorUpdate y).state = .error := by
  rw [MscInstance.errorUpdate]
  by_cases stalled : y.lastEvent = .stalled
  · rw [if_pos stalled]
    exact .inl rfl
  rw [if_neg stalled]
  by_cases short : y.lastEvent = .short ∨ y.actualLength < y.length
  · rw [if_pos short]
    exact .inr rfl
  rw [if_neg short]
  have other : y.lastEvent ≠ .complete := by
    simp only [not_or] at short
    simpa [mscTransferHasError, short.2] using bad
  rw [if_pos other]
  exact .inl rfl

theorem errorUpdate_fine (x : MscInstance) (fine : mscTransferHasError y = false) :
    x.errorUpdate y = { x with error := .none } := by
  obtain ⟨complete, whole⟩ : y.lastEvent = .complete ∧
      y.length ≤ y.actualLength := by simpa [mscTransferHasError] using fine
  rw [MscInstance.errorUpdate, if_neg (by simp [complete]), if_neg (by simp [complete, whole]), if_neg (by simp [complete])]

theorem errorUpdate_state (x : MscInstance) (long : NotShort y.lastEvent y.length y.actualLength) :
    (x.errorUpdate y).state = .resetRecovery ∧ mscTransferHasError y = true ∨
      (x.errorUpdate y).state = x.state ∧ mscTransferHasError y = false := by
  rw [MscInstance.errorUpdate]
  by_cases stalled : y.lastEvent = .stalled
  · rw [if_pos stalled]
    exact .inl ⟨rfl, by simp [mscTransferHasError, stalled]⟩
  · obtain ⟨notShort, whole⟩ := long.resolve_left stalled
    rw [if_neg stalled, if_neg (by simp [notShort, whole])]
    by_cases complete : y.lastEvent = .complete
    · rw [if_neg (by simp [complete])]
      exact .inr ⟨rfl, by simp [mscTransferHasError, complete, whole]⟩
    · rw [if_pos complete]
      exact .inl ⟨rfl, by simp [mscTransferHasError, complete]⟩

theorem mark_release (hcd : Hcd) (seat : Seated c k i h) (holding : Holding c k t h) {f : MscInstance → MscInstance}
    (seats : (f (h.msc k)).seat = (h.msc k).seat) (holds : (f (h.msc k)).transfer = (h.msc k).transfer) :
    (updateMsc k f >>= fun _ => mscOwnedTransferRelease c hcd k) h =
      (.ok (), h.turned k t (f (h.msc k)).forgotten .zero h.log) := by
  let marked : Host := { h with msc := update h.msc k (f (h.msc k)) }
  have here : marked.msc k = f (h.msc k) := update_self ..
  have seatMarked : Seated c k i marked := seat.moved ⟨seat.up.1, seat.up.2, seat.up.3, rfl⟩ (seat_update seats)
  have back : Holding c k t marked := ⟨by rw [here, holds]; exact holding.holds, holding.small, holding.allocated, holding.idle⟩
  rw [updateMsc, modify_bind, mscOwnedTransferRelease_effect seatMarked.up back, here]
  simp only [marked, Host.turned, Function.update_idem]

theorem mscTransferComplete_own (hcd : Hcd) (seat : Seated c k i h) (holding : Holding c k t h) :
    mscTransferComplete c hcd i t h =
      (if mscTransferHasError (h.transfers t) = true then do
        mscTransferErrorUpdate k t
        mscOwnedTransferRelease c hcd k
      else match (h.msc k).state with
        | .command => mscCommandComplete c hcd k
        | .dataIn => mscDataComplete c hcd k
        | .dataOut => mscDataComplete c hcd k
        | .status => mscCswComplete c hcd k
        | .resetRequest => mscResetRequestComplete c hcd k
        | .clearInHalt => mscClearInHaltComplete c hcd k
        | .clearOutHalt => mscClearOutHaltComplete c hcd k
        | _ => pure ()) h := by
  simp only [mscTransferComplete, read_bind, id_eq, seat.found]
  exact congrFun (if_pos holding.holds) h

theorem own_failed (hcd : Hcd) (seat : Seated c k i h) (holding : Holding c k t h)
    (bad : mscTransferHasError (h.transfers t) = true) :
    mscTransferComplete c hcd i t h =
      (.ok (), h.turned k t ((h.msc k).errorUpdate (h.transfers t)).forgotten .zero h.log) := by
  rw [mscTransferComplete_own hcd seat holding, if_pos bad]
  obtain ⟨seats, holds, -⟩ := errorUpdate_keeps (h.msc k) (h.transfers t)
  exact mark_release (f := fun x => x.errorUpdate (h.transfers t)) hcd seat holding seats holds

def Host.handed (hcd : Hcd) (h : Host) (k t : Nat) (x : MscInstance) (y : Transfer) : Host :=
  h.turned k t x { y with isSubmitted := (hcd.submitTransfer h.log t y).isOk } (.submit t y :: h.log)

theorem Hands.left {m : HostM Unit} (hands : Hands hcd k t state y m h) (idle : y.isSubmitted = false) :
    (m h).2 = h.handed hcd k t { h.msc k with state := state } y := by
  rcases hands with ⟨answer, run⟩ | ⟨e, answer, run⟩
  · rw [run, Host.handed, answer]
    rfl
  · have same : { y with isSubmitted := false } = y := by rw [← idle]
    rw [run, Host.handed, answer]
    exact congrArg (fun y' => h.turned k t { h.msc k with state := state } y' (.submit t y :: h.log)) same.symm

theorem mscDataComplete_left (hcd : Hcd) (seat : Seated c k i h) (holding : Holding c k t h) {e : Nat}
    (bulkIn : (h.msc k).bulkInEndpoint = some e) :
    (mscDataComplete c hcd k h).2 =
      h.handed hcd k t { h.msc k with csw := fun _ => 0, state := .status } (h.bulkTransfer t e (.mscCsw k) 13) := by
  let cleared : Host := { h with msc := update h.msc k { h.msc k with csw := fun _ => 0 } }
  have here : cleared.msc k = { h.msc k with csw := fun _ => 0 } := update_self ..
  have back : Holding c k t cleared := ⟨by rw [here]; exact holding.holds, holding.small, holding.allocated, holding.idle⟩
  have upCleared : Up h.rootPortCount cleared := ⟨seat.up.1, seat.up.2, seat.up.3, rfl⟩
  have run := (mscTransferPrepareAndSubmit_effect hcd upCleared back e (.mscCsw k) 13 .status).left rfl
  rw [mscDataComplete, read_bind, id_eq, bulkIn, updateMsc, modify_bind]
  refine run.trans ?_
  rw [here]
  simp only [Host.handed, Host.turned, cleared, Function.update_idem]
  rfl

inductive Advanced (k : Nat) (x : MscInstance) (data : Buffer) (length : Nat) : MscInstance → Prop
  | data (command : x.state = .command) (buffer : data = x.dataBuffer) (size : length = x.dataLength) :
      Advanced k x data length { x with state := if x.activeDataIn = true then .dataIn else .dataOut }
  | status (last : x.state = .command → x.dataLength = 0) (buffer : data = .mscCsw k) (size : length = 13) :
      Advanced k x data length { x with csw := fun _ => 0, state := .status }

theorem own_advanced (hcd : Hcd) (seat : Seated c k i h) (holding : Holding c k t h)
    (fine : mscTransferHasError (h.transfers t) = false)
    (stage : (h.msc k).state = .command ∨ (h.msc k).state = .dataIn ∨ (h.msc k).state = .dataOut) :
    ∃ e data length x, (h.msc k).nextStage k = some (some e, data, length) ∧ Advanced k (h.msc k) data length x ∧
      (mscTransferComplete c hcd i t h).2 = h.handed hcd k t x (h.bulkTransfer t e data length) := by
  obtain ⟨e, bulkIn⟩ := Option.isSome_iff_exists.mp seat.bulkIn
  rw [mscTransferComplete_own hcd seat holding, if_neg (by simp [fine])]
  rcases stage with state | state | state
  · rw [state]
    dsimp only
    by_cases zero : (h.msc k).dataLength = 0
    · have same : mscCommandComplete c hcd k h = mscDataComplete c hcd k h := by
        simp only [mscCommandComplete, read_bind, id_eq, if_pos zero]
      rw [same]
      refine ⟨e, _, _, _, ?_, .status (fun _ => zero) rfl rfl, mscDataComplete_left hcd seat holding bulkIn⟩
      rw [MscInstance.nextStage, state]
      simp [zero, bulkIn]
    · obtain ⟨e', endpoint⟩ : ∃ e', (if (h.msc k).activeDataIn = true then (h.msc k).bulkInEndpoint else (h.msc k).bulkOutEndpoint) =
          some e' := by
        split
        · exact ⟨e, bulkIn⟩
        · exact Option.isSome_iff_exists.mp seat.bulkOut
      have same : mscCommandComplete c hcd k h =
          mscTransferPrepareAndSubmit c hcd k (some e') (h.msc k).dataBuffer (h.msc k).dataLength
            (if (h.msc k).activeDataIn = true then .dataIn else .dataOut) h := by
        simp only [mscCommandComplete, read_bind, id_eq, if_neg zero, endpoint]
      rw [same]
      refine ⟨e', _, _, _, ?_, .data state rfl rfl, (mscTransferPrepareAndSubmit_effect hcd seat.up holding e' ..).left rfl⟩
      rw [MscInstance.nextStage, state]
      simp [zero, endpoint]
  · rw [state]
    refine ⟨e, _, _, _, ?_, .status (fun command => absurd command (by rw [state]; exact nofun)) rfl rfl,
      mscDataComplete_left hcd seat holding bulkIn⟩
    rw [MscInstance.nextStage, state]
    simp [bulkIn]
  · rw [state]
    refine ⟨e, _, _, _, ?_, .status (fun command => absurd command (by rw [state]; exact nofun)) rfl rfl,
      mscDataComplete_left hcd seat holding bulkIn⟩
    rw [MscInstance.nextStage, state]
    simp [bulkIn]

theorem own_next (seat : Seated c k i h) (holding : Holding c k t h)
    (fine : mscTransferHasError (h.transfers t) = false)
    (stage : (h.msc k).state = .command ∨ (h.msc k).state = .dataIn ∨ (h.msc k).state = .dataOut)
    (taken : NextTaken hcd k t h) (tagged : (h.msc k).Tagged) (counter : (h.msc k).nextTag < 2 ^ 32) :
    ∃ x y log, (mscTransferComplete c hcd i t h).2 = h.turned k t x y log ∧ Settled c k t h x y ∧ x.state ≠ .ready := by
  obtain ⟨e, data, length, x, asked, advanced, run⟩ := own_advanced hcd seat holding fine stage
  have slot : ({ h.bulkTransfer t e data length with
      isSubmitted := (hcd.submitTransfer h.log t (h.bulkTransfer t e data length)).isOk } : Transfer).isAllocated = true ∧
      (hcd.submitTransfer h.log t (h.bulkTransfer t e data length)).isOk = true := by
    rw [taken e data length asked]
    exact ⟨holding.allocated, rfl⟩
  refine ⟨x, _, _, run, ?_, ?_⟩
  · cases advanced with
    | data command buffer size =>
      refine ⟨rfl, counter, .inr ⟨holding.holds, ?_, holding.small, slot, fun _ => tagged, ?_⟩⟩
      · dsimp only
        split
        · rfl
        · rfl
      · dsimp only
        split
        · exact nofun
        · exact nofun
    | status last buffer size =>
      exact ⟨rfl, counter, .inr ⟨holding.holds, rfl, holding.small, slot, fun _ => tagged, fun _ => ⟨buffer, size⟩⟩⟩
  · cases advanced with
    | data command buffer size =>
      dsimp only
      split
      · exact nofun
      · exact nofun
    | status last buffer size => exact nofun

/-- What a READ CAPACITY answers: the number of blocks and their size. -/
def capacityOf (d : Nat → UInt8) : Nat × Nat :=
  (if readBE32 d 0 = 2 ^ 32 - 1 then 2 ^ 32 - 1 else readBE32 d 0 + 1, readBE32 d 4)

def MscInstance.parsed (x : MscInstance) (log : List Record) : List Record :=
  match x.capacity with
  | some pointer =>
    if x.activeOpcode = 0x25 then
      .capacity pointer (capacityOf x.capacityBuffer).1 (capacityOf x.capacityBuffer).2 :: log
    else log
  | none => log

theorem mscSuccessDataParse_effect (k : Nat) (h : Host) :
    ∃ blockSize, mscSuccessDataParse k h =
      (.ok (), { h with msc := update h.msc k { h.msc k with blockSize := blockSize }, log := (h.msc k).parsed h.log }) := by
  have still : h = { h with msc := update h.msc k { h.msc k with blockSize := (h.msc k).blockSize } } := by
    rw [Function.update_eq_self]
  have parsed : ∃ blockSize, mscSuccessDataParse k h =
      (.ok (), { h with
        msc := update h.msc k { h.msc k with blockSize := blockSize }, log := (h.msc k).parsed h.log }) := by
    rw [mscSuccessDataParse, read_bind, id_eq, MscInstance.parsed]
    generalize (h.msc k).capacity = capacity
    cases capacity with
    | none => exact ⟨(h.msc k).blockSize, congrArg (Prod.mk _) still⟩
    | some pointer =>
      by_cases reads : (h.msc k).activeOpcode = 0x25
      · simp only [onlyIf, if_pos reads]
        exact ⟨_, rfl⟩
      · simp only [onlyIf, if_neg reads]
        exact ⟨(h.msc k).blockSize, congrArg (Prod.mk _) still⟩
  exact parsed

structure StatusPasses (x : MscInstance) : Prop where
  signature : readLE32 x.csw 0 = 0x53425355
  tag : readLE32 x.csw 4 = x.activeTag
  passed : (x.csw 12).toNat = 0
  residue : readLE32 x.csw 8 = 0

inductive StatusEnds (x x' : MscInstance) (log log' : List Record) : Prop
  | phase (state : x'.state = .resetRecovery) (same : log' = log)
  | failed (state : x'.state = .error) (same : log' = log) (fails : ¬NotFailed x x.csw)
  | passed (state : x'.state = .ready) (parsed : log' = x.parsed log) (passes : StatusPasses x)

theorem mscCswComplete_ends (hcd : Hcd) (seat : Seated c k i h) (holding : Holding c k t h) :
    ∃ x log, (mscCswComplete c hcd k h).2 = h.turned k t x.forgotten .zero log ∧ x.seat = (h.msc k).seat ∧
      x.nextTag = (h.msc k).nextTag ∧ StatusEnds (h.msc k) x h.log log := by
  simp only [mscCswComplete, read_bind, id_eq]
  by_cases wrong : readLE32 (h.msc k).csw 0 ≠ 0x53425355 ∨ readLE32 (h.msc k).csw 4 ≠ (h.msc k).activeTag ∨
      ((h.msc k).csw 12).toNat = 2
  · rw [if_pos wrong, mark_release hcd seat holding rfl rfl]
    exact ⟨_, _, rfl, rfl, rfl, .phase rfl rfl⟩
  rw [if_neg wrong]
  simp only [not_or, not_not] at wrong
  obtain ⟨signature, tag, phase⟩ := wrong
  by_cases one : ((h.msc k).csw 12).toNat = 1
  · rw [if_pos one, mark_release hcd seat holding rfl rfl]
    refine ⟨_, _, rfl, rfl, rfl, .failed rfl rfl fun notFailed => ?_⟩
    have zero := (notFailed signature tag phase).1
    omega
  rw [if_neg one]
  by_cases left : ((h.msc k).csw 12).toNat ≠ 0 ∨ readLE32 (h.msc k).csw 8 ≠ 0
  · rw [if_pos left, mark_release hcd seat holding rfl rfl]
    refine ⟨_, _, rfl, rfl, rfl, .failed rfl rfl fun notFailed => ?_⟩
    obtain ⟨zero, none⟩ := notFailed signature tag phase
    rcases left with left | left
    · exact left zero
    · exact left none
  rw [if_neg left]
  obtain ⟨passed, residue⟩ : ((h.msc k).csw 12).toNat = 0 ∧ readLE32 (h.msc k).csw 8 = 0 := by simpa [not_or] using left
  let marked : Host := { h with msc := update h.msc k { h.msc k with state := .ready, error := .none } }
  obtain ⟨blockSize, parsed⟩ := mscSuccessDataParse_effect k marked
  have here : marked.msc k = { h.msc k with state := .ready, error := .none } := update_self ..
  let x := { h.msc k with state := .ready, error := .none, blockSize := blockSize }
  let done : Host := { h with msc := update h.msc k x, log := (h.msc k).parsed h.log }
  have same : ({ marked with
      msc := update marked.msc k { marked.msc k with blockSize := blockSize },
      log := (marked.msc k).parsed marked.log } : Host) = done := by
    rw [here]
    simp only [marked, Function.update_idem]
    rfl
  rw [same] at parsed
  have doneHere : done.msc k = x := update_self ..
  have back : Holding c k t done := ⟨by rw [doneHere]; exact holding.holds, holding.small, holding.allocated, holding.idle⟩
  rw [updateMsc, modify_bind, bind_ok _ parsed,
    mscOwnedTransferRelease_effect (h := done) ⟨seat.up.1, seat.up.2, seat.up.3, rfl⟩ back, doneHere]
  refine ⟨x, (h.msc k).parsed h.log, ?_, rfl, rfl, .passed rfl rfl ⟨signature, tag, passed, residue⟩⟩
  simp only [Host.turned, done, Function.update_idem]

theorem mscCswComplete_outcome (hcd : Hcd) (seat : Seated c k i h) (holding : Holding c k t h)
    (counter : (h.msc k).nextTag < 2 ^ 32) (notFailed : NotFailed (h.msc k) (h.msc k).csw) :
    ∃ x log, (mscCswComplete c hcd k h).2 = h.turned k t x .zero log ∧ Settled c k t h x .zero ∧
      (x.state = .ready → StatusPasses (h.msc k)) := by
  obtain ⟨x, log, run, seats, counts, ends⟩ := mscCswComplete_ends hcd seat holding
  refine ⟨x.forgotten, log, run, ⟨seats, counts ▸ counter, .inl ⟨rfl, ?_⟩⟩, fun ready => ?_⟩
  · cases ends with
    | phase state _ => exact .inr state
    | failed _ _ fails => exact absurd notFailed fails
    | passed state _ _ => exact .inl state
  · cases ends with
    | phase state _ => exact absurd (state.symm.trans ready) nofun
    | failed _ _ fails => exact absurd notFailed fails
    | passed _ _ passes => exact passes

theorem mscHaltStep_outcome (hcd : Hcd) (seat : Seated c k i h) (holding : Holding c k t h)
    (counter : (h.msc k).nextTag < 2 ^ 32)
    {endpoint : Option Nat} (endpoints : endpoint.isSome = true) (state : MscState)
    (stage : state.busy = true ∧ state.commanding = false ∧ state ≠ .status) :
    ∃ x y log, (mscHaltStep c hcd k endpoint state h).2 = h.turned k t x y log ∧ Settled c k t h x y := by
  obtain ⟨e, rfl⟩ := Option.isSome_iff_exists.mp endpoints
  have hands := mscControlTransferSubmit_effect hcd seat.up holding seat.interface
    (setupBuildClearFeature 2 0 (h.endpoints e).endpointAddress) state
  have asks : mscClearHaltSubmit c hcd k (some e) state h =
      mscControlTransferSubmit c hcd k (setupBuildClearFeature 2 0 (h.endpoints e).endpointAddress) state h := by
    simp only [mscClearHaltSubmit, read_bind, id_eq]
  rw [mscHaltStep]
  rcases hands with ⟨-, run⟩ | ⟨error, -, run⟩
  · rw [onError_ok _ (asks.trans run)]
    refine ⟨_, _, _, rfl, rfl, counter, .inr ⟨holding.holds, stage.1, holding.small, ⟨holding.allocated, rfl⟩, ?_, ?_⟩⟩
    · intro commanding
      exact absurd (stage.2.1.symm.trans commanding) nofun
    · exact fun status => absurd status stage.2.2
  · rw [onError_error _ (asks.trans run)]
    let left := h.turned k t { h.msc k with state := state }
      (h.controlTransfer t i (setupBuildClearFeature 2 0 (h.endpoints e).endpointAddress))
      (.submit t (h.controlTransfer t i (setupBuildClearFeature 2 0 (h.endpoints e).endpointAddress)) :: h.log)
    have seatLeft : Seated c k i left := seat.turned (x := { h.msc k with state := state }) rfl _ _
    have back : Holding c k t left := ⟨by rw [Host.turned_msc]; exact holding.holds, holding.small, by
      rw [Host.turned_transfers]; exact holding.allocated, by rw [Host.turned_transfers]; rfl⟩
    have cleaned := mark_release (f := fun x => { x with state := .resetRecovery, error := .resetRecoveryRequired }) hcd seatLeft back
      rfl rfl
    rw [updateMsc, modify_bind] at cleaned
    rw [updateMsc, modify_bind, ignore_run, cleaned]
    have here : left.msc k = { h.msc k with state := state } := Host.turned_msc ..
    rw [here]
    exact ⟨_, _, _, Host.turned_turned .., rfl, counter, .inl ⟨rfl, .inr rfl⟩⟩

/- The steps. -/

theorem Working.holds_of_busy (working : Working c k i h) (busy : (h.msc k).state.busy = true) :
    (h.msc k).transfer ≠ none :=
  working.unstuck.busy.mpr busy

theorem busy_of_commanding (commanding : state.commanding = true) : state.busy = true := by
  cases state <;> first | rfl | cases commanding

theorem InstanceLaw.other (input : ∀ event n bytes, s.input ≠ .completed event n bytes)
    (still : (s.pre.msc k).state.commanding = true → (s.post.msc k).state ≠ .ready) : InstanceLaw c k s where
  passed commanding _ ready _ := absurd ready (still commanding)
  sense _ received := by
    obtain ⟨-, n, bytes, same, -⟩ := received
    exact absurd same (input _ _ _)

theorem commanding_not_ready (commanding : state.commanding = true) : state ≠ .ready := by
  rintro rfl
  cases commanding

theorem Working.step_call (working : Working c k i h) (msc : op.ofMsc = true) :
    Working c k i (call c hcd op h).2 ∧ InstanceLaw c k ((instanceMachine c hcd k i).take h (.call op)) := by
  obtain ⟨after, still⟩ := working.called hcd msc
  refine ⟨after, .other nofun fun commanding => ?_⟩
  change ((call c hcd op h).2.msc k).state ≠ .ready
  rw [still (working.holds_of_busy (busy_of_commanding commanding))]
  exact commanding_not_ready commanding

theorem Working.step_elsewhere (working : Working c k i h) {after : Host} (aside : Aside c k i h after) :
    Working c k i after ∧ InstanceLaw c k ((instanceMachine c hcd k i).take h (.elsewhere after)) := by
  obtain ⟨seat, same, slot⟩ := aside
  refine ⟨⟨seat, ?_, fun t holds => ?_, ?_, ?_, fun status t holds => ?_⟩, .other nofun fun commanding => ?_⟩
  · rw [same]
    exact working.idle
  · rw [same] at holds ⊢
    rw [slot t holds]
    exact working.held t holds
  · rw [same]
    exact working.tagged
  · rw [same]
    exact working.counter
  · rw [same] at status holds
    rw [slot t holds]
    exact working.status status t holds
  · change (after.msc k).state ≠ .ready
    rw [same]
    exact commanding_not_ready commanding

theorem told_run (hcd : Hcd) (seat : Seated c k i h) (other : (h.msc k).transfer ≠ some t) :
    mscTransferComplete c hcd i t h =
      (.ok (), { h with msc := update h.msc k ((h.msc k).errorUpdate (h.transfers t)) }) := by
  simp only [mscTransferComplete, read_bind, id_eq, seat.found]
  rw [if_neg other]
  rfl

theorem Working.step_told (working : Working c k i h) (other : (h.msc k).transfer ≠ some t)
    (proper : Proper hcd k ((instanceMachine c hcd k i).take h (.told t))) :
    Working c k i (mscTransferComplete c hcd i t h).2 ∧
    InstanceLaw c k ((instanceMachine c hcd k i).take h (.told t)) := by
  obtain ⟨long, well⟩ : NotShort (h.transfers t).lastEvent (h.transfers t).length (h.transfers t).actualLength ∧
      ((h.msc k).transfer ≠ none → (h.transfers t).lastEvent = .complete ∧ (h.transfers t).length ≤ (h.transfers t).actualLength) :=
    proper
  let x := (h.msc k).errorUpdate (h.transfers t)
  obtain ⟨seats, transfer, counter, cbw, tag⟩ := errorUpdate_keeps (h.msc k) (h.transfers t)
  -- With a transfer under way only the error changes.
  have state : x.state = (h.msc k).state ∨ x.state = .resetRecovery ∧ (h.msc k).transfer = none := by
    rcases errorUpdate_state (h.msc k) long with ⟨waits, bad⟩ | ⟨same, -⟩
    · refine .inr ⟨waits, ?_⟩
      by_contra some
      obtain ⟨complete, whole⟩ := well some
      simp only [mscTransferHasError, complete, ne_eq, not_true_eq_false, false_or, decide_eq_true_eq] at bad
      omega
    · exact .inl same
  have here : (mscTransferComplete c hcd i t h).2.msc k = x := by
    rw [told_run hcd working.seat.toSeated other]
    exact update_self ..
  have slots : (mscTransferComplete c hcd i t h).2.transfers =
      h.transfers := by rw [told_run hcd working.seat.toSeated other]
  have seat : Seat c k i (mscTransferComplete c hcd i t h).2 := by
    rw [told_run hcd working.seat.toSeated other]
    exact working.seat.moved ⟨working.seat.up.1, working.seat.up.2, working.seat.up.3, rfl⟩ (seat_update seats)
  have busy : ∀ state' : MscState, state'.busy = true → x.state = state' → (h.msc k).state = state' := by
    intro state' busy at'
    rcases state with same | ⟨waits, -⟩
    · rw [← same, at']
    · rw [← at', waits] at busy
      cases busy
  refine ⟨⟨seat, fun none => ?_, fun t' holds => ?_, fun commanding => ?_, ?_, fun status t' holds => ?_⟩, .other nofun fun commanding => ?_⟩
  · rw [here] at none ⊢
    rcases state with same | ⟨waits, -⟩
    · rw [same]
      exact working.idle (transfer.symm.trans none)
    · exact .inr waits
  · rw [here] at holds ⊢
    have before := working.held t' (transfer.symm.trans holds)
    rw [slots]
    rcases state with same | ⟨-, none⟩
    · rw [same]
      exact before
    · rw [transfer, none] at holds
      cases holds
  · rw [here] at commanding ⊢
    have same := busy _ (busy_of_commanding commanding) rfl
    have before := working.tagged (same ▸ commanding)
    rw [MscInstance.Tagged] at before ⊢
    rw [cbw, tag]
    exact before
  · rw [here, counter]
    exact working.counter
  · rw [here] at status holds
    rw [slots]
    exact working.status (busy _ rfl status) t' (transfer.symm.trans holds)
  · change ((mscTransferComplete c hcd i t h).2.msc k).state ≠ .ready
    rw [here]
    rcases state with same | ⟨waits, -⟩
    · rw [same]
      exact commanding_not_ready commanding
    · rw [waits]
      exact nofun

theorem own_stage (seat : Seated c k i h) (holding : Holding c k t h)
    (fine : mscTransferHasError (h.transfers t) = false)
    (busy : (h.msc k).state.busy = true) (early : (h.msc k).state ≠ .status) (taken : NextTaken hcd k t h)
    (tagged : (h.msc k).state.commanding = true → (h.msc k).Tagged) (counter : (h.msc k).nextTag < 2 ^ 32) :
    ∃ x y log, (mscTransferComplete c hcd i t h).2 = h.turned k t x y log ∧ Settled c k t h x y ∧
      ((h.msc k).state.commanding = true → x.state ≠ .ready) := by
  have next : ((h.msc k).state = .command ∨ (h.msc k).state = .dataIn ∨ (h.msc k).state = .dataOut) →
      (h.msc k).state.commanding = true → ∃ x y log, (mscTransferComplete c hcd i t h).2 = h.turned k t x y log ∧
        Settled c k t h x y ∧ ((h.msc k).state.commanding = true → x.state ≠ .ready) := by
    intro stage commanding
    obtain ⟨x, y, log, ends, settled, ready⟩ := own_next seat holding fine stage taken (tagged commanding) counter
    exact ⟨x, y, log, ends, settled, fun _ => ready⟩
  have own := mscTransferComplete_own hcd seat holding
  rw [if_neg (by simp [fine])] at own
  rcases state : (h.msc k).state with _ | _ | _ | _ | _ | _ | _ | _ | _ | _ | _
  case command => exact state ▸ next (.inl state) (by rw [state]; rfl)
  case dataIn => exact state ▸ next (.inr (.inl state)) (by rw [state]; rfl)
  case dataOut => exact state ▸ next (.inr (.inr state)) (by rw [state]; rfl)
  case status => exact absurd state early
  case resetRequest =>
    obtain ⟨x, y, log, ends, settled⟩ :=
      mscHaltStep_outcome hcd seat holding counter seat.bulkIn .clearInHalt ⟨rfl, rfl, nofun⟩
    rw [own, state]
    exact ⟨x, y, log, ends, settled, nofun⟩
  case clearInHalt =>
    obtain ⟨x, y, log, ends, settled⟩ :=
      mscHaltStep_outcome hcd seat holding counter seat.bulkOut .clearOutHalt ⟨rfl, rfl, nofun⟩
    rw [own, state]
    exact ⟨x, y, log, ends, settled, nofun⟩
  case clearOutHalt =>
    have released := mark_release (f := fun x => { x with state := .ready, error := .none }) hcd seat holding rfl rfl
    let x := { h.msc k with state := .ready, error := .none }
    have settled : Settled c k t h x.forgotten .zero := ⟨rfl, counter, .inl ⟨rfl, .inl rfl⟩⟩
    rw [own, state]
    exact ⟨x.forgotten, .zero, h.log, congrArg Prod.snd released, settled, nofun⟩
  all_goals
    rw [state] at busy
    cases busy

theorem Settled.lawful {log : List Record} (settled : Settled c k t h x y)
    (seat : Seat c k i h) (post : s.post = h.turned k t x y log)
    (ready : (s.pre.msc k).state.commanding = true → x.state ≠ .ready) (silent : ∀ csw, ¬StatusReceived k s csw) :
    Working c k i s.post ∧ InstanceLaw c k s := by
  refine ⟨post ▸ settled.working seat log, fun commanding _ ready' _ => ?_, fun csw received => absurd received (silent csw)⟩
  rw [post, Host.turned_msc] at ready'
  exact absurd ready' (ready commanding)

theorem Working.step_status
    (working : Working c k i s.pre)
    (holds : (s.pre.msc k).transfer = some t) (state : (s.pre.msc k).state = .status) {h₁ : Host}
    (reported : Reported c k i t .complete actualLength bytes s.pre h₁)
    (whole : (s.pre.transfers t).length ≤ actualLength)
    (notFailed : NotFailed (s.pre.msc k) (overlay (s.pre.msc k).csw bytes))
    (input : s.input = .completed .complete actualLength bytes)
    (post : s.post = (mscTransferComplete c hcd i t h₁).2) : Working c k i s.post ∧ InstanceLaw c k s := by
  have seat := working.seat.moved reported.up reported.seats
  obtain ⟨-, -, holding, slot, heard, -, -⟩ := reported
  obtain ⟨data, size⟩ := working.status state t holds
  have csw : (h₁.msc k).csw = overlay (s.pre.msc k).csw bytes := by
    rw [heard]
    exact if_pos data
  have tag : (h₁.msc k).activeTag = (s.pre.msc k).activeTag := by rw [heard]
  have counter : (h₁.msc k).nextTag < 2 ^ 32 := by
    rw [heard]
    exact working.counter
  have tagged := working.tagged (by rw [state]; rfl)
  have fine : mscTransferHasError (h₁.transfers t) = false := by
    rw [slot]
    simpa [mscTransferHasError] using whole
  have at' : (h₁.msc k).state = .status := by
    rw [heard]
    exact state
  rw [mscTransferComplete_own hcd seat.toSeated holding, if_neg (by simp [fine]), at'] at post
  obtain ⟨x, log, ends, settled, passes⟩ := mscCswComplete_outcome hcd seat.toSeated holding counter (by
    rw [csw, NotFailed, tag]
    exact notFailed)
  have after : s.post = h₁.turned k t x .zero log := post.trans ends
  refine ⟨after ▸ settled.working seat log, fun _ _ ready _ => ?_, fun csw' received status => ?_⟩
  · rw [after, Host.turned_msc] at ready
    obtain ⟨signature, matching, passed, residue⟩ := passes ready
    rw [csw] at signature matching passed residue
    rw [tag, ← tagged] at matching
    exact ⟨_, ⟨state, actualLength, bytes, input, by omega, rfl⟩, ⟨signature, matching, passed⟩, residue⟩
  · obtain ⟨-, n, bytes', same, -, rfl⟩ := received
    rw [input] at same
    injection same with _ _ same
    subst same
    have failed := status.status
    obtain ⟨zero, -⟩ := notFailed status.signature (status.tag.trans tagged) (by omega)
    omega

theorem Working.step_completed (working : Working c k i h) (holds : (h.msc k).transfer = some t) {event : TransferEvent}
    (proper : Proper hcd k ((instanceMachine c hcd k i).take h (.completed event actualLength bytes))) :
    Working c k i ((instanceMachine c hcd k i).step h (.completed event actualLength bytes)).1 ∧
      InstanceLaw c k ((instanceMachine c hcd k i).take h (.completed event actualLength bytes)) := by
  obtain ⟨long, goesOn⟩ := proper t holds
  change NotShort event (h.transfers t).length actualLength at long
  obtain ⟨busy, small, allocated, -⟩ := working.held t holds
  obtain ⟨h₁, run, reported⟩ := mscCompleted_reported hcd working.seat.toSeated holds small allocated event actualLength bytes
  have after := reported
  have seat := working.seat.moved reported.up reported.seats
  obtain ⟨-, -, holding, slot, heard, log, stage⟩ := reported
  have post : ((instanceMachine c hcd k i).take h (.completed event actualLength bytes)).post =
      (mscTransferComplete c hcd i t h₁).2 := by
    simp only [Machine.take, instanceMachine, instanceStep, holds]
    rw [run]
  have counter : (h₁.msc k).nextTag < 2 ^ 32 := by
    rw [heard]
    exact working.counter
  have state : (h₁.msc k).state = (h.msc k).state := by rw [heard]
  rcases errorUpdate_state (h₁.msc k) (y := h₁.transfers t) (by rw [slot]; exact long) with ⟨waits, bad⟩ | ⟨-, fine⟩
  · -- The transfer has failed, and the instance waits for its recovery.
    obtain ⟨seats, -, counts, -, -⟩ := errorUpdate_keeps (h₁.msc k) (h₁.transfers t)
    have settled : Settled c k t h₁ ((h₁.msc k).errorUpdate (h₁.transfers t)).forgotten .zero :=
      ⟨seats, by rw [← counts] at counter; exact counter, .inl ⟨rfl, .inr waits⟩⟩
    rw [own_failed hcd seat.toSeated holding bad] at post
    refine settled.lawful seat post (fun _ ready => absurd (waits.symm.trans ready) (by rintro ⟨⟩)) fun csw received => ?_
    obtain ⟨at', n, bytes', same, whole, -⟩ := received
    injection same with complete length _
    subst complete length
    have size := (working.status at' t holds).2
    rw [slot] at bad
    simp only [mscTransferHasError, size, ne_eq, not_true_eq_false, false_or, decide_eq_true_eq] at bad
    omega
  · obtain ⟨rfl, whole⟩ : event = .complete ∧ (h.transfers t).length ≤ actualLength := by
      rw [slot] at fine
      simpa [mscTransferHasError] using fine
    obtain ⟨taken, notFailed⟩ := goesOn rfl
    by_cases last : (h.msc k).state = .status
    · exact Working.step_status (s := (instanceMachine c hcd k i).take h _) working holds last after whole
        (notFailed last) rfl post
    · have nextTaken : NextTaken hcd k t h₁ := by
        intro e data length asked
        have same : (h₁.msc k).nextStage k = (h.msc k).nextStage k := by rw [heard]; rfl
        rw [stage, log]
        exact taken e data length (same ▸ asked)
      have tagged : (h₁.msc k).state.commanding = true → (h₁.msc k).Tagged := by
        rw [heard]
        exact working.tagged
      obtain ⟨x, y, log, ends, settled, ready⟩ :=
        own_stage seat.toSeated holding fine (state ▸ busy) (state ▸ last) nextTaken tagged counter
      exact settled.lawful seat (post.trans ends) (state ▸ ready) fun csw received => last received.1

theorem Working.step (working : Working c k i h) {op : InstanceOp} (allowed : (instanceMachine c hcd k i).allowed h op)
    (proper : Proper hcd k ((instanceMachine c hcd k i).take h op)) :
    Working c k i ((instanceMachine c hcd k i).step h op).1 ∧
    InstanceLaw c k ((instanceMachine c hcd k i).take h op) := by
  cases op with
  | call op => exact working.step_call allowed
  | completed event actualLength bytes =>
    obtain ⟨t, holds, -⟩ := allowed
    exact working.step_completed holds proper
  | told t => exact working.step_told allowed proper
  | elsewhere after => exact working.step_elsewhere allowed

/-- In every run whose commands neither fail nor end short, and whose next stages the controller takes. -/
theorem instance_unstuck {start : Host} {trace : List InstanceTransition} (fresh : Fresh c k i start)
    (run : (instanceMachine c hcd k i).Run start trace h) (proper : ∀ s ∈ trace, Proper hcd k s) :
    Unstuck c k h ∧ ∀ s ∈ trace, InstanceLaw c k s := by
  have both : Working c k i h ∧ ∀ s ∈ trace, InstanceLaw c k s :=
    run.throughout proper fresh.working fun h op working allowed proper => working.step allowed proper
  exact ⟨both.1.unstuck, both.2⟩

/- A disk on interface 0, whose commands pass, stall and fail. -/

def sampleDisk : Host :=
  { sampleStarted with
    devices := update sampleStarted.devices 0 { Device.zero with isAllocated := true, address := 1, state := .configured },
    interfaces := update sampleStarted.interfaces 0
      { Interface.zero with isAllocated := true, classCode := 8, subclass := 6, protocol := 0x50, classDriver := some .msc },
    endpoints := update (update sampleStarted.endpoints
      0 { Endpoint.zero with isAllocated := true, endpointAddress := 0x81, endpointType := endpTypeBulk, isIn := true })
      1 { Endpoint.zero with isAllocated := true, endpointAddress := 0x01, endpointType := endpTypeBulk } }

def sampleDiskStarted : Host := (mscStart sampleConfig 0 sampleDisk).2

variable (status : UInt8)

def sampleStatus : List UInt8 := [0x55, 0x53, 0x42, 0x53, 1, 0, 0, 0, 0, 0, 0, 0, status]

def sampleTest : List InstanceOp :=
  [.call (.mscTestUnitReady 0), .completed .complete 31 [], .completed .complete 13 (sampleStatus status)]

theorem sampleDiskStarted_fresh : Fresh sampleConfig 0 0 sampleDiskStarted := by
  have run : mscStart sampleConfig 0 sampleDisk = (.ok (), sampleDiskStarted) := Prod.ext (by decide +kernel) rfl
  obtain ⟨k, fresh⟩ := mscStart_fresh ⟨rfl, rfl, rfl, rfl⟩ (fun _ => rfl) run
  have small : k < 1 := (firstWith_some fresh.seat.found).1
  obtain rfl : k = 0 := by omega
  exact fresh

abbrev sampleInstance : Machine Host InstanceOp (Except Error Unit) := instanceMachine sampleConfig sampleHcd 0 0

theorem sampleTest_legal : sampleInstance.Legal sampleDiskStarted (sampleTest status) :=
  ⟨rfl, ⟨0, by decide +kernel, by decide +kernel⟩, ⟨0, by decide +kernel, by decide +kernel⟩, trivial⟩

theorem instance_unstuck_sample :
    Unstuck sampleConfig 0 (sampleInstance.play sampleDiskStarted (sampleTest 0)) ∧
      ∀ s ∈ sampleInstance.transitions sampleDiskStarted (sampleTest 0), InstanceLaw sampleConfig 0 s := by
  refine instance_unstuck sampleDiskStarted_fresh (Machine.run_of_legal (sampleTest_legal 0)) ?_
  intro s mem
  simp only [sampleTest, Machine.transitions, List.mem_cons, List.not_mem_nil, or_false] at mem
  rcases mem with rfl | rfl | rfl
  · trivial
  · intro t holds
    obtain rfl : t = 0 := Option.some.inj (holds.symm.trans (by decide +kernel))
    exact ⟨by decide +kernel, fun _ => ⟨fun _ _ _ _ => rfl, by decide +kernel⟩⟩
  · intro t holds
    obtain rfl : t = 0 := Option.some.inj (holds.symm.trans (by decide +kernel))
    exact ⟨by decide +kernel, fun _ => ⟨fun _ _ _ _ => rfl, by decide +kernel⟩⟩

/-- After a command that the device has failed neither REQUEST SENSE nor a recovery is taken. -/
theorem instance_stuck :
    ¬∀ start trace h, Fresh sampleConfig 0 0 start → sampleInstance.Run start trace h →
      Unstuck sampleConfig 0 h ∧ ∀ s ∈ trace, InstanceLaw sampleConfig 0 s := by
  intro all
  obtain ⟨unstuck, -⟩ := all _ _ _ sampleDiskStarted_fresh (Machine.run_of_legal (sampleTest_legal 1))
  have free : ((sampleInstance.play sampleDiskStarted (sampleTest 1)).msc 0).transfer = none := by decide +kernel
  have room : ∃ t < sampleConfig.maxTransfers,
      ((sampleInstance.play sampleDiskStarted (sampleTest 1)).transfers t).isAllocated = false :=
        ⟨0, by decide, by decide +kernel⟩
  rcases unstuck.accepts free with command | recovery
  · have accepted := command (.mscRequestSense 0 (some 0) 18) rfl sampleHcd (fun _ _ _ => rfl) room
    revert accepted
    decide +kernel
  · have accepted := recovery sampleHcd (fun _ _ _ => rfl) room
    revert accepted
    decide +kernel

end XSDK.Usbh
