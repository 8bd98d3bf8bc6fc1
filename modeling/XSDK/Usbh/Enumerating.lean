import XSDK.Usbh.Blind
import XSDK.Usbh.Instances

/-! One enumeration against any device: the calls that drive it, and what the controller
reports about its transfer. -/
namespace XSDK.Usbh

open Library Library.Call
open Function (update update_self)

variable {c : Config} {hcd : Hcd} {n p d t : Nat} {h h' : Host}

inductive EnumOp
  | process
  | transferEvent (event : TransferEvent) (actualLength : Nat) (bytes : List UInt8)
  deriving DecidableEq

abbrev EnumTransition : Type := Transition Host EnumOp (Except Error Unit)

def enumCall (c : Config) (hcd : Hcd) (p t : Nat) : EnumOp → HostM Unit
  | .process => enumerationProcess c hcd p
  | .transferEvent event actualLength bytes => hcdTransferEvent c hcd t event actualLength bytes

def enumMachine (c : Config) (hcd : Hcd) (p t : Nat) : Machine Host EnumOp (Except Error Unit) where
  allowed _ _ := True
  step h op := ((enumCall c hcd p t op h).2, (enumCall c hcd p t op h).1)

/-- An enumeration that has just begun on a port, between two calls or after some ports' steps of a round. -/
def EnumerationBegun (c : Config) (hcd : Hcd) (n p : Nat) (h : Host) : Prop :=
  ∃ start trace before k, Booted c hcd n start ∧ (machine c hcd).Run start trace before ∧
    enumerationStart c hcd p (forEach (rootPortStep c hcd) k 0 before).2 = (.ok (), h)

theorem EnumerationBegun.eq (begun : EnumerationBegun c hcd n p h) :
    ∃ before d t, Wired c n before ∧ Wired c n h ∧ t < c.maxTransfers ∧ h = before.begun p d t := by
  obtain ⟨start, trace, before, k, booted, run, started⟩ := begun
  have steps : Keeps (Wired c n) (forEach (rootPortStep c hcd) k 0) := .forEach fun _ => rootPortStep_wired
  have wired := steps.after (run_wired booted run)
  have done : Wired c n h := by
    have start : Keeps (Wired c n) (enumerationStart c hcd p) := enumerationStart_wired
    have kept := start.after wired
    rwa [started] at kept
  rcases enumerationStart_effect c hcd wired.1.up p with
    ⟨d, t, -, -, -, -, small, -, ok⟩ | ⟨e, failed⟩ | ⟨e, d, -, -, -, -, -, failed⟩
  · rw [ok] at started
    cases started
    exact ⟨_, d, t, wired, done, small, rfl⟩
  · rw [failed] at started
    cases started
  · rw [failed] at started
    cases started

def Enumeration.awaited (e : Enumeration) : Option (SetupRequest × Buffer) :=
  match e.state with
  | .getDeviceHeaderWait => some (setupBuildGetDescriptor descTypeDevice 0 0 8, .control)
  | .setAddressWait => some (⟨0x00, 5, e.assignedAddress, 0, 0⟩, .none)
  | .getDeviceFullWait => some (setupBuildGetDescriptor descTypeDevice 0 0 deviceDescLen, .control)
  | .getConfigHeaderWait => some (setupBuildGetDescriptor descTypeConfiguration 0 0 configurationDescLen, .control)
  | .getConfigFullWait => some (setupBuildGetDescriptor descTypeConfiguration 0 0 e.configTotalLength, .control)
  | .setConfigurationWait => some (setupBuildSetConfiguration e.configurationValue, .none)
  | _ => none

variable {e : Enumeration}

variable {request : ControlRequest}

theorem Enumeration.waiting_awaited (asked : e.request = some request) :
    (e.waiting c request).awaited = some (request.setup, request.data) ∧
      (request.data = .none ∨ request.data = .control) ∧ (e.waiting c request).awaits.isSome = true := by
  rw [Enumeration.request] at asked
  split at asked
  case h_2 =>
    rw [ControlRequest.address] at asked
    split at asked
    · next setup built =>
      cases asked
      rw [setupBuildSetAddress] at built
      split at built
      · cases built
      · cases built
        exact ⟨rfl, .inl rfl, rfl⟩
    · cases asked
  case h_7 =>
    cases asked
    exact ⟨rfl, .inl rfl, rfl⟩
  case h_8 => cases asked
  all_goals
    cases asked
    exact ⟨rfl, .inr rfl, rfl⟩

theorem Enumeration.request_idle (asked : e.request = some request) : e.awaits = none := by
  rw [Enumeration.request] at asked
  rw [Enumeration.awaits]
  split at asked
  case h_8 => cases asked
  all_goals
    next state => rw [state]

structure Busy (c : Config) (p d t : Nat) (h : Host) : Prop where
  port : h.enumeration.port = p
  device : h.enumeration.deviceIndex = d
  index : h.enumeration.transferIndex = t
  slot : t < c.maxTransfers ∧ (h.transfers t).isAllocated = true
  endpoint : (h.transfers t).endpointAddress = 0
  data : (h.transfers t).data = .none ∨ (h.transfers t).data = .control
  address : (h.transfers t).deviceAddress = 0 ∨ (h.transfers t).deviceAddress = d + 1
  idle : h.enumeration.awaits = none → (h.transfers t).isSubmitted = false
  asked : ∀ setup data, h.enumeration.awaited = some (setup, data) → (h.transfers t).setup = setup ∧
    (h.transfers t).data = data

theorem Busy.got (busy : Busy c p d t h) : enumTransferGet c h = some t := by
  obtain ⟨small, allocated⟩ := busy.slot
  have index := busy.index
  rw [enumTransferGet, index, if_neg]
  simp [small, allocated]

theorem begun_busy {before : Host} (small : t < c.maxTransfers) : Busy c p d t (before.begun p d t) := by
  have here : (before.begun p d t).transfers t = { Transfer.zero with isAllocated := true } := update_self ..
  have record : (before.begun p d t).enumeration = .fresh p d t := rfl
  constructor
  · rfl
  · rfl
  · rfl
  · rw [here]
    exact ⟨small, rfl⟩
  · rw [here]
    rfl
  · rw [here]
    exact .inl rfl
  · rw [here]
    exact .inl rfl
  · rw [here]
    exact fun _ => rfl
  · intro setup data awaited
    rw [record] at awaited
    cases awaited

theorem Busy.moved (busy : Busy c p d t h) {h' : Host} (transfers : h'.transfers = h.transfers)
    (same : h'.enumeration.port = h.enumeration.port ∧ h'.enumeration.deviceIndex = h.enumeration.deviceIndex ∧
      h'.enumeration.transferIndex = h.enumeration.transferIndex)
    (idle : h'.enumeration.awaits = none → (h.transfers t).isSubmitted = false)
    (asked : ∀ x, h'.enumeration.awaited = some x → h.enumeration.awaited = some x) : Busy c p d t h' := by
  obtain ⟨port, device, index⟩ := same
  refine ⟨port.trans busy.port, device.trans busy.device, index.trans busy.index, ?_, ?_, ?_, ?_, ?_, ?_⟩
  · rw [transfers]
    exact busy.slot
  · rw [transfers]
    exact busy.endpoint
  · rw [transfers]
    exact busy.data
  · rw [transfers]
    exact busy.address
  · rw [transfers]
    exact idle
  · rw [transfers]
    exact fun setup data awaited => busy.asked setup data (asked _ awaited)

theorem Step.busy (step : Step c hcd h h') (linked : Linked c n h) (enumerated : Enumerated c h) (busy : Busy c p d t h)
    (active : h'.enumeration.isActive = true) : Busy c p d t h' := by
  have mine {t' : Nat} (slot : enumTransferGet c h = some t') : t' = t := by
    rw [busy.got] at slot
    cases slot
    rfl
  have ended {t' : Nat} (ended : Ended c h t') : (h.transfers t).isSubmitted = false := by
    have same := mine ended.slot
    subst same
    exact ended.idle
  cases step with
  | tick waits _ _ _ =>
    refine busy.moved rfl ⟨rfl, rfl, rfl⟩ (fun missing => ?_) fun _ same => same
    have missing' : h.enumeration.awaits = none := missing
    simp [missing'] at waits
  | settle state _ =>
    exact busy.moved rfl ⟨rfl, rfl, rfl⟩ (fun _ => busy.idle (by rw [Enumeration.awaits, state])) fun _ same => same
  | @submit t' request asked slot _ =>
    have same := mine slot
    subst same
    obtain ⟨awaited, data, waits⟩ := Enumeration.waiting_awaited (c := c) asked
    have here : (h.withRequest c t' request).transfers t' =
        { request.prepare h.enumerated.address (h.transfers t') with isSubmitted := true } := update_self ..
    have record : (h.withRequest c t' request).enumeration = h.enumeration.waiting c request := rfl
    refine ⟨busy.port, busy.device, busy.index, ?_, ?_, ?_, ?_, ?_, ?_⟩
    · rw [here]
      exact busy.slot
    · rw [here]
      rfl
    · rw [here]
      exact data
    · rw [here]
      have address := enumerated.address
      rw [busy.device] at address
      change h.enumerated.address = 0 ∨ h.enumerated.address = d + 1
      split at address
      · exact .inr address
      · exact .inl address
    · rw [record]
      intro none
      simp [none] at waits
    · rw [record, here, awaited]
      rintro setup data ⟨⟩
      exact ⟨rfl, rfl⟩
  | header _ _ done => exact busy.moved rfl ⟨rfl, rfl, rfl⟩ (fun _ => ended done) (by rintro _ ⟨⟩)
  | address _ done => exact busy.moved rfl ⟨rfl, rfl, rfl⟩ (fun _ => ended done) (by rintro _ ⟨⟩)
  | device _ _ done => exact busy.moved rfl ⟨rfl, rfl, rfl⟩ (fun _ => ended done) (by rintro _ ⟨⟩)
  | configuration _ _ done => exact busy.moved rfl ⟨rfl, rfl, rfl⟩ (fun _ => ended done) (by rintro _ ⟨⟩)
  | topology built _ done _ run =>
    refine busy.moved ?_ ⟨rfl, rfl, rfl⟩ (fun _ => ended done) (by rintro _ ⟨⟩)
    rw [deviceBuildTopology_same run]
  | configured _ _ _ _ => cases active
  | failed e failure => exact absurd active (failure.inactive linked enumerated e)

/- What the controller reports. -/

theorem classTransferComplete_still (hcd : Hcd) (linked : Linked c n h) (undriven : Undriven c d h)
    (endpoint : (h.transfers t).endpointAddress = 0)
    (address : (h.transfers t).deviceAddress = 0 ∨ (h.transfers t).deviceAddress = d + 1) :
    (classTransferComplete c hcd t h).2 = h := by
  have lost : classTransferEndpointGet c h (h.transfers t) = none := by
    rcases found : classTransferEndpointGet c h (h.transfers t) with _ | e
    · rfl
    · rw [classTransferEndpointGet] at found
      rcases owner : classTransferDeviceIndexGet c h (h.transfers t) with _ | d'
      · rw [owner] at found
        cases found
      · rw [owner] at found
        obtain ⟨small, all⟩ := firstWith_some found
        simp only [Bool.and_eq_true, decide_eq_true_eq] at all
        obtain ⟨valid, -⟩ := linked.endpoint e small all.1.1
        rw [all.2, endpoint] at valid
        exact absurd rfl valid
  simp only [classTransferComplete, read_bind, id_eq]
  rw [reject_bind_neg _ (by simp [linked.up.initialized]), lost]
  simp only [classTransferControlDispatch, read_bind, id_eq]
  rcases owner : classTransferDeviceIndexGet c h (h.transfers t) with _ | d'
  · rfl
  · dsimp only
    by_cases plain : (h.transfers t).hasSetup = false
    · rw [if_pos plain]
      rfl
    · rw [if_neg plain]
      obtain ⟨small, all⟩ := firstWith_some owner
      simp only [Bool.and_eq_true, decide_eq_true_eq] at all
      obtain ⟨allocated, same⟩ := all
      rw [forEach_still fun i _ low => ?_]
      rw [read_bind]
      rcases driver : (h.interfaces i).classDriver with _ | driver
      · rfl
      · dsimp only
        have inside : i < c.maxInterfaces := by omega
        have driven : (h.interfaces i).classDriver ≠ none := by simp [driver]
        -- A bound interface belongs to a device with an address, which is not the enumeration's.
        have other : ¬((h.interfaces i).isAllocated = true ∧ (h.interfaces i).deviceIndex = d') := by
          rintro ⟨-, index⟩
          obtain ⟨-, addressed⟩ := linked.bound i inside driven
          rw [index] at addressed
          have own := linked.device d' small allocated
          have itself : d' = d := by omega
          exact driven (undriven i inside (index.trans itself))
        rw [onlyIf, if_neg other]
        rfl

def Host.reported (h : Host) (t : Nat) (event : TransferEvent) (actualLength : Nat) (buffer : Nat → UInt8) : Host :=
  { h with
    controlBuffer := buffer,
    transfers := update h.transfers t
      { h.transfers t with actualLength := actualLength, lastEvent := event, isSubmitted := false } }

theorem hcdTransferEvent_busy (hcd : Hcd) (wired : Wired c n h)
    (active : h.enumeration.isActive = true) (busy : Busy c p d t h)
    (event : TransferEvent) (actualLength : Nat) (bytes : List UInt8) :
    ∃ buffer, hcdTransferEvent c hcd t event actualLength bytes h =
      (.ok (), h.reported t event actualLength buffer) := by
  have enumerated := wired.2 active
  have received : ∃ buffer, hcdReceive (h.transfers t).data bytes h = (.ok (), { h with controlBuffer := buffer }) := by
    rcases busy.data with none | control
    · exact ⟨h.controlBuffer, by rw [none]; rfl⟩
    · exact ⟨overlay h.controlBuffer bytes, by rw [control]; rfl⟩
  obtain ⟨buffer, received⟩ := received
  refine ⟨buffer, ?_⟩
  simp only [hcdTransferEvent, read_bind, id_eq]
  rw [bind_ok _ received]
  simp only [updateTransfer, modify_bind, onlyIf, if_pos busy.slot, update_self, Function.update_idem, ignore_run]
  have linked : Linked c n (h.reported t event actualLength buffer) := (wired.1.withBuffer buffer).withTransfers _ h.log
  have here : (h.reported t event actualLength buffer).transfers t =
      { h.transfers t with actualLength := actualLength, lastEvent := event, isSubmitted := false } :=
        update_self ..
  have undriven : Undriven c d (h.reported t event actualLength buffer) := busy.device ▸ enumerated.undriven
  have still := classTransferComplete_still hcd linked undriven
    (t := t) (by rw [here]; exact busy.endpoint) (by rw [here]; exact busy.address)
  exact congrArg (Prod.mk _) still

theorem Busy.reported (busy : Busy c p d t h) (event : TransferEvent) (actualLength : Nat) (buffer : Nat → UInt8) :
    Busy c p d t (h.reported t event actualLength buffer) := by
  have here : (h.reported t event actualLength buffer).transfers t =
      { h.transfers t with actualLength := actualLength, lastEvent := event, isSubmitted := false } :=
        update_self ..
  refine ⟨busy.port, busy.device, busy.index, ?_, ?_, ?_, ?_, ?_, ?_⟩
  · rw [here]
    exact busy.slot
  · rw [here]
    exact busy.endpoint
  · rw [here]
    exact busy.data
  · rw [here]
    exact busy.address
  · rw [here]
    exact fun _ => rfl
  · rw [here]
    exact busy.asked

/- How many calls are left. -/

/-- The calls that a record can still take: one for each request, and for each wait its timeout. -/
def Enumeration.rank (c : Config) (e : Enumeration) : Nat :=
  let wait := c.controlTransferTimeoutTicks % 2 ^ 16 + 2
  let settle := c.addressSettleTicks % 2 ^ 8
  match e.state with
  | .getDeviceHeaderSubmit => settle + 6 * wait
  | .getDeviceHeaderWait => e.timeoutRemaining + 1 + (settle + 5 * wait)
  | .setAddressSubmit => settle + 5 * wait
  | .setAddressWait => e.timeoutRemaining + 1 + (settle + 4 * wait)
  | .addressSettle => e.addressSettleRemaining + 4 * wait
  | .getDeviceFullSubmit => 4 * wait
  | .getDeviceFullWait => e.timeoutRemaining + 1 + 3 * wait
  | .getConfigHeaderSubmit => 3 * wait
  | .getConfigHeaderWait => e.timeoutRemaining + 1 + 2 * wait
  | .getConfigFullSubmit => 2 * wait
  | .getConfigFullWait => e.timeoutRemaining + 1 + wait
  | .setConfigurationSubmit => wait
  | .setConfigurationWait => e.timeoutRemaining + 1
  | _ => 0

def enumerationBound (c : Config) : Nat :=
  c.addressSettleTicks % 2 ^ 8 + 6 * (c.controlTransferTimeoutTicks % 2 ^ 16 + 2)

theorem Enumeration.rank_waiting (asked : e.request = some request) : (e.waiting c request).rank c < e.rank c := by
  rw [Enumeration.request] at asked
  split at asked
  case h_2 state =>
    rw [ControlRequest.address] at asked
    split at asked
    · cases asked
      simp only [Enumeration.rank, Enumeration.waiting, state]
      omega
    · cases asked
  case h_8 => cases asked
  all_goals
    next state =>
      cases asked
      simp only [Enumeration.rank, Enumeration.waiting, ControlRequest.descriptor, state]
      omega

theorem Enumeration.rank_awaiting (waits : e.awaits.isSome = true) (left : e.timeoutRemaining ≠ 0) :
    { e with timeoutRemaining := e.timeoutRemaining - 1 }.rank c < e.rank c := by
  rw [Enumeration.awaits] at waits
  split at waits
  case h_7 => cases waits
  all_goals
    next state =>
      simp only [Enumeration.rank, state]
      omega

theorem Step.rank (step : Step c hcd h h') (linked : Linked c n h) (enumerated : Enumerated c h)
    (active : h'.enumeration.isActive = true) : h'.enumeration.rank c < h.enumeration.rank c := by
  cases step with
  | tick waits _ _ left => exact Enumeration.rank_awaiting waits left
  | settle state left =>
    simp only [Enumeration.rank, state]
    omega
  | submit asked _ _ => exact Enumeration.rank_waiting asked
  | header _ state _ =>
    simp only [Enumeration.rank, Host.withEnumerated, state]
    omega
  | address state _ =>
    simp only [Enumeration.rank, Host.withEnumerated, state]
    omega
  | device _ state _ =>
    simp only [Enumeration.rank, Host.withEnumerated, state]
    omega
  | configuration _ state _ =>
    simp only [Enumeration.rank, state]
    omega
  | topology _ state _ _ _ =>
    simp only [Enumeration.rank, state]
    omega
  | configured _ _ _ _ => cases active
  | failed e failure => exact absurd active (failure.inactive linked enumerated e)

theorem Enumeration.rank_pos (running : e.state.running = true) : 0 < e.rank c := by
  cases state : e.state with
  | idle => simp [state, EnumerationState.running] at running
  | complete => simp [state, EnumerationState.running] at running
  | error => simp [state, EnumerationState.running] at running
  | _ =>
    simp only [Enumeration.rank, state]
    omega

end XSDK.Usbh
