import XSDK.Usbh.Linked

/-! What one call of the enumeration can do, said once for everything that is proved about it. -/
namespace XSDK.Usbh

open Library Library.Call
open Function (update)

variable {c : Config} {hcd : Hcd} {n p : Nat} {h h' : Host}

structure ControlRequest where
  setup : SetupRequest
  data : Buffer
  length : Nat
  waitState : EnumerationState

def ControlRequest.descriptor (descriptorType length : Nat) (waitState : EnumerationState) : ControlRequest :=
  ⟨setupBuildGetDescriptor descriptorType 0 0 length, .control, length, waitState⟩

def ControlRequest.address (address : Nat) : Option ControlRequest :=
  match setupBuildSetAddress address with
  | .ok setup => some ⟨setup, .none, 0, .setAddressWait⟩
  | .error _ => none

def Enumeration.request (e : Enumeration) : Option ControlRequest :=
  match e.state with
  | .getDeviceHeaderSubmit => some (.descriptor descTypeDevice 8 .getDeviceHeaderWait)
  | .setAddressSubmit => ControlRequest.address e.assignedAddress
  | .addressSettle => some (.descriptor descTypeDevice deviceDescLen .getDeviceFullWait)
  | .getDeviceFullSubmit => some (.descriptor descTypeDevice deviceDescLen .getDeviceFullWait)
  | .getConfigHeaderSubmit => some (.descriptor descTypeConfiguration configurationDescLen .getConfigHeaderWait)
  | .getConfigFullSubmit => some (.descriptor descTypeConfiguration e.configTotalLength .getConfigFullWait)
  | .setConfigurationSubmit => some ⟨setupBuildSetConfiguration e.configurationValue, .none, 0, .setConfigurationWait⟩
  | _ => none

def Enumeration.awaits (e : Enumeration) : Option Nat :=
  match e.state with
  | .getDeviceHeaderWait => some 8
  | .setAddressWait => some 0
  | .getDeviceFullWait => some deviceDescLen
  | .getConfigHeaderWait => some configurationDescLen
  | .getConfigFullWait => some e.configTotalLength
  | .setConfigurationWait => some 0
  | _ => none

def EnumerationState.running : EnumerationState → Bool
  | .idle => false
  | .complete => false
  | .error => false
  | _ => true

def EnumerationState.addressed : EnumerationState → Bool
  | .idle => false
  | .getDeviceHeaderSubmit => false
  | .getDeviceHeaderWait => false
  | .setAddressSubmit => false
  | .setAddressWait => false
  | _ => true

def ControlRequest.prepare (request : ControlRequest) (address : Nat) (transfer : Transfer) : Transfer :=
  { transfer with
    deviceAddress := address, endpointAddress := 0, endpointType := endpTypeCtrl, interval := 0, hasSetup := true,
    setup := request.setup, lastEvent := .complete, data := request.data, length := request.length, actualLength := 0 }

def Enumeration.waiting (c : Config) (e : Enumeration) (request : ControlRequest) : Enumeration :=
  { e with timeoutRemaining := c.controlTransferTimeoutTicks % 2 ^ 16, state := request.waitState }

def Host.enumerated (h : Host) : Device := h.devices h.enumeration.deviceIndex

def Host.withState (h : Host) (state : EnumerationState) : Host :=
  { h with enumeration := { h.enumeration with state := state } }

def Host.withRequest (c : Config) (h : Host) (t : Nat) (request : ControlRequest) : Host :=
  { h with
    transfers := update h.transfers t { request.prepare h.enumerated.address (h.transfers t) with isSubmitted := true },
    enumeration := h.enumeration.waiting c request,
    log := .submit t (request.prepare h.enumerated.address (h.transfers t)) :: h.log }

def Host.withEnumerated (h : Host) (device : Device) (e : Enumeration) : Host :=
  { h with devices := update h.devices h.enumeration.deviceIndex device, enumeration := e }

structure Ended (c : Config) (h : Host) (t : Nat) : Prop where
  slot : enumTransferGet c h = some t
  idle : (h.transfers t).isSubmitted = false
  complete : (h.transfers t).lastEvent = .complete
  full : ∃ length, h.enumeration.awaits = some length ∧ length ≤ (h.transfers t).actualLength

def Host.freed (h : Host) (t : Nat) : Host :=
  { h with transfers := update h.transfers t .zero, enumeration := { h.enumeration with hasTransfer := false } }

/-- An active enumeration has a device on its port, without class drivers so far. -/
structure Enumerated (c : Config) (h : Host) : Prop where
  running : h.enumeration.state.running = true
  device : h.enumeration.deviceIndex < c.maxDevices ∧ h.enumerated.isAllocated = true
  valid : h.enumeration.port < h.rootPortCount
  port : h.enumerated.port = h.enumeration.port
  assigned : h.enumeration.assignedAddress = h.enumeration.deviceIndex + 1
  address : h.enumerated.address = if h.enumeration.state.addressed = true then h.enumeration.deviceIndex + 1 else 0
  undriven : ∀ i < c.maxInterfaces, (h.interfaces i).deviceIndex = h.enumeration.deviceIndex →
    (h.interfaces i).classDriver = none

inductive Failure (c : Config) (hcd : Hcd) (h : Host) : Host → Prop
  | missing (state : EnumerationState) (missing : enumTransferGet c h = none) : Failure c hcd h (h.withState state)
  | timeout {t : Nat} (waits : h.enumeration.awaits.isSome = true) (slot : enumTransferGet c h = some t)
      (submitted : (h.transfers t).isSubmitted = true) (lapsed : h.enumeration.timeoutRemaining = 0) : Failure c hcd h h
  | answer {t : Nat} (waits : h.enumeration.awaits.isSome = true) (slot : enumTransferGet c h = some t)
      (idle : (h.transfers t).isSubmitted = false) : Failure c hcd h h
  | address (state : h.enumeration.state = .setAddressSubmit) : Failure c hcd h h
  | refused {t : Nat} {request : ControlRequest} (state : EnumerationState) (log : List Record)
      (asked : h.enumeration.request = some request)
      (slot : enumTransferGet c h = some t) :
      Failure c hcd h { h.withState state with
        transfers := update h.transfers t (request.prepare h.enumerated.address (h.transfers t)), log := log }
  | topology {t : Nat} (state : h.enumeration.state = .getConfigFullWait) (ended : Ended c h t) :
      Failure c hcd h (deviceBuildTopology c h.enumeration.deviceIndex h.controlBuffer h.enumeration.configTotalLength h).2
  | bind {t : Nat} (state : h.enumeration.state = .setConfigurationWait) (ended : Ended c h t) :
      Failure c hcd h (classBindDevice c hcd h.enumeration.deviceIndex (h.freed t)).2

inductive Step (c : Config) (hcd : Hcd) (h : Host) : Host → Prop
  | tick {t : Nat} (waits : h.enumeration.awaits.isSome = true) (slot : enumTransferGet c h = some t)
      (submitted : (h.transfers t).isSubmitted = true) (left : h.enumeration.timeoutRemaining ≠ 0) :
      Step c hcd h { h with enumeration := { h.enumeration with timeoutRemaining := h.enumeration.timeoutRemaining - 1 } }
  | settle (state : h.enumeration.state = .addressSettle) (left : 0 < h.enumeration.addressSettleRemaining) :
      Step c hcd h { h with
        enumeration := { h.enumeration with addressSettleRemaining := h.enumeration.addressSettleRemaining - 1 } }
  | submit {t : Nat} {request : ControlRequest} (asked : h.enumeration.request = some request)
      (slot : enumTransferGet c h = some t)
      (settled : h.enumeration.state = .addressSettle → h.enumeration.addressSettleRemaining = 0) :
      Step c hcd h (h.withRequest c t request)
  | header {t : Nat} (packetSize : Nat) (state : h.enumeration.state = .getDeviceHeaderWait) (ended : Ended c h t) :
      Step c hcd h (h.withEnumerated { h.enumerated with ep0MaxPacketSize := packetSize }
        { h.enumeration with state := .setAddressSubmit })
  | address {t : Nat} (state : h.enumeration.state = .setAddressWait) (ended : Ended c h t) :
      Step c hcd h (h.withEnumerated { h.enumerated with address := h.enumeration.assignedAddress, state := .addressed }
        { h.enumeration with addressSettleRemaining := c.addressSettleTicks % 2 ^ 8, state := .addressSettle })
  | device {t : Nat} (descriptor : DeviceDescriptor) (state : h.enumeration.state = .getDeviceFullWait) (ended : Ended c h t) :
      Step c hcd h (h.withEnumerated
        { h.enumerated with
          vendorId := descriptor.vendorId, productId := descriptor.productId, deviceClass := descriptor.deviceClass,
          deviceSubclass := descriptor.deviceSubclass, deviceProtocol := descriptor.deviceProtocol }
        { h.enumeration with state := .getConfigHeaderSubmit })
  | configuration {t : Nat} (descriptor : ConfigurationDescriptor) (state : h.enumeration.state = .getConfigHeaderWait)
      (ended : Ended c h t) :
      Step c hcd h { h with
        enumeration := { h.enumeration with
          configTotalLength := descriptor.totalLength,
          configurationValue := if descriptor.configurationValue = 0 then 1 else descriptor.configurationValue,
          state := .getConfigFullSubmit } }
  | topology {t : Nat} (h' : Host) (state : h.enumeration.state = .getConfigFullWait) (ended : Ended c h t)
      (valid : configurationDescriptorValidate h.controlBuffer h.enumeration.configTotalLength =
        .ok h.enumeration.configTotalLength)
      (built : deviceBuildTopology c h.enumeration.deviceIndex h.controlBuffer h.enumeration.configTotalLength h = (.ok (), h')) :
      Step c hcd h { h' with enumeration := { h.enumeration with state := .setConfigurationSubmit } }
  | configured {t : Nat} (h' : Host) (state : h.enumeration.state = .setConfigurationWait) (ended : Ended c h t)
      (bound : classBindDevice c hcd h.enumeration.deviceIndex (h.freed t) = (.ok (), h')) :
      Step c hcd h { h' with
        devices := update h.devices h.enumeration.deviceIndex { h.enumerated with
          activeConfigurationValue := h.enumeration.configurationValue, isConfigured := true, state := .configured },
        rootPorts := update h.rootPorts h.enumeration.port { h.rootPorts h.enumeration.port with state := .configured },
        enumeration := { h.enumeration with hasTransfer := false, isActive := false, state := .complete } }
  | failed (e : Error) {h₁ : Host} (failure : Failure c hcd h h₁) : Step c hcd h (enumFail c hcd e h₁).2

theorem Enumerated.got (enumerated : Enumerated c h) : enumDeviceGet c h = some h.enumeration.deviceIndex := by
  obtain ⟨small, allocated⟩ := enumerated.device
  exact if_neg (by simp [show (h.devices h.enumeration.deviceIndex).isAllocated = true from allocated, small])

theorem enumTransferGet_some (slot : enumTransferGet c h = some t) :
    t = h.enumeration.transferIndex ∧ t < c.maxTransfers ∧ (h.transfers t).isAllocated = true := by
  rw [enumTransferGet] at slot
  split at slot
  · cases slot
  · next good =>
    cases slot
    exact ⟨rfl, by simpa [not_or] using good⟩

theorem enumControlSubmit_asked (hcd : Hcd) (request : ControlRequest) (state : EnumerationState)
    (device : enumDeviceGet c (h.withState state) = some h.enumeration.deviceIndex)
    (found : enumTransferGet c (h.withState state) = some t) :
    let asking : Host := { h.withState state with
      transfers := update h.transfers t (request.prepare h.enumerated.address (h.transfers t)) }
    enumControlSubmit c hcd request.setup request.data request.length request.waitState (h.withState state) =
      (match (transferSubmit c hcd t asking).1 with
      | .error e => enumFail c hcd e
      | .ok _ => updateEnum (fun e => { e with timeoutRemaining := c.controlTransferTimeoutTicks % 2 ^ 16 }) >>= fun _ =>
          enumStateSet request.waitState) (transferSubmit c hcd t asking).2 := by
  simp only [enumControlSubmit, read_bind, id_eq, device, found, updateTransfer, modify_bind, attempt_bind]
  rfl

theorem enumControlSubmit_step (up : Up n h) (enumerated : Enumerated c h) (request : ControlRequest)
    (state : EnumerationState) (asked : h.enumeration.request = some request)
    (settled : h.enumeration.state = .addressSettle → h.enumeration.addressSettleRemaining = 0) :
    Step c hcd h (enumControlSubmit c hcd request.setup request.data request.length request.waitState (h.withState state)).2 := by
  have device : enumDeviceGet c (h.withState state) = some h.enumeration.deviceIndex := enumerated.got
  rcases slot : enumTransferGet c h with _ | t
  · have missing : enumTransferGet c (h.withState state) = none := slot
    simp only [enumControlSubmit, read_bind, id_eq, device, missing]
    exact .failed _ (.missing state slot)
  · rw [enumControlSubmit_asked hcd request state device slot]
    let asking : Host := { h.withState state with
      transfers := update h.transfers t (request.prepare h.enumerated.address (h.transfers t)) }
    have upAsking : Up n asking := up.frame rfl
    rcases transferSubmit_effect c hcd upAsking t with ⟨run, -⟩ | ⟨e, log, run⟩
    · have taken : asking.transfers t = request.prepare h.enumerated.address (h.transfers t) := Function.update_self ..
      rw [run, taken]
      simp only [updateEnum, enumStateSet, modify_bind, modify_run, asking, Function.update_idem]
      exact .submit asked slot settled
    · rw [run]
      exact .failed e (.refused state log asked slot)

theorem enumWaitForTransfer_step {length : Nat} {complete : HostM Unit} (waits : h.enumeration.awaits = some length)
    (completes : ∀ t, Ended c h t → Step c hcd h (complete h).2) :
    Step c hcd h (enumWaitForTransfer c hcd length complete h).2 := by
  have waiting : h.enumeration.awaits.isSome = true := by
    rw [waits]
    rfl
  simp only [enumWaitForTransfer, read_bind, id_eq]
  rcases slot : enumTransferGet c h with _ | t
  · exact .failed _ (.missing h.enumeration.state slot)
  · dsimp only
    by_cases submitted : (h.transfers t).isSubmitted = true
    · rw [if_pos submitted]
      by_cases lapsed : h.enumeration.timeoutRemaining = 0
      · rw [if_pos lapsed]
        exact .failed _ (.timeout waiting slot submitted lapsed)
      · rw [if_neg lapsed]
        exact .tick waiting slot submitted lapsed
    · rw [if_neg submitted]
      have idle : (h.transfers t).isSubmitted = false := by simpa using submitted
      by_cases bad : (h.transfers t).lastEvent ≠ .complete ∨ (h.transfers t).actualLength < length
      · rw [if_pos bad]
        exact .failed _ (.answer waiting slot idle)
      · rw [if_neg bad]
        have good : (h.transfers t).lastEvent = .complete ∧ length ≤ (h.transfers t).actualLength := by
          simpa [not_or] using bad
        exact completes t ⟨slot, idle, good.1, length, waits, good.2⟩

variable {t : Nat}

theorem Ended.fails (ended : Ended c h t) (e : Error) : Step c hcd h (enumFail c hcd e h).2 := by
  obtain ⟨length, waits, -⟩ := ended.full
  exact .failed e (.answer (by rw [waits]; rfl) ended.slot ended.idle)

theorem enumDeviceHeaderComplete_step (enumerated : Enumerated c h)
    (state : h.enumeration.state = .getDeviceHeaderWait)
    (ended : Ended c h t) : Step c hcd h (enumDeviceHeaderComplete c hcd h).2 := by
  simp only [enumDeviceHeaderComplete, read_bind, id_eq, enumerated.got]
  by_cases bad : (h.controlBuffer 0).toNat < deviceDescLen ∨ (h.controlBuffer 1).toNat ≠ descTypeDevice
  · rw [if_pos bad]
    exact ended.fails _
  · rw [if_neg bad]
    rcases ep0PacketSizeDecode (h.devices h.enumeration.deviceIndex).speed (h.controlBuffer 7).toNat with e | packetSize
    · exact ended.fails _
    · exact .header packetSize state ended

theorem enumSetAddressComplete_step (enumerated : Enumerated c h) (state : h.enumeration.state = .setAddressWait)
    (ended : Ended c h t) : Step c hcd h (enumSetAddressComplete c hcd h).2 := by
  simp only [enumSetAddressComplete, read_bind, id_eq, enumerated.got]
  exact .address state ended

theorem enumDeviceFullComplete_step (enumerated : Enumerated c h) (state : h.enumeration.state = .getDeviceFullWait)
    (ended : Ended c h t) : Step c hcd h (enumDeviceFullComplete c hcd h).2 := by
  simp only [enumDeviceFullComplete, read_bind, id_eq, enumerated.got]
  rcases deviceDescriptorParse h.controlBuffer deviceDescLen with e | descriptor
  · exact ended.fails _
  · dsimp only
    by_cases none : descriptor.configurationCount = 0
    · rw [if_pos none]
      exact ended.fails _
    · rw [if_neg none]
      exact .device descriptor state ended

theorem enumConfigHeaderComplete_step (state : h.enumeration.state = .getConfigHeaderWait)
    (ended : Ended c h t) : Step c hcd h (enumConfigHeaderComplete c hcd h).2 := by
  simp only [enumConfigHeaderComplete, read_bind, id_eq]
  rcases configurationDescriptorParse h.controlBuffer configurationDescLen with e | descriptor
  · exact ended.fails _
  · dsimp only
    by_cases bad : descriptor.totalLength < configurationDescLen ∨ c.maxConfigDescriptorSize < descriptor.totalLength ∨
        descriptor.interfaceCount = 0
    · rw [if_pos bad]
      exact ended.fails _
    · rw [if_neg bad]
      exact .configuration descriptor state ended

theorem deviceBuildTopology_left (c : Config) (d length : Nat) (buffer : Nat → UInt8) (h : Host) :
    (deviceBuildTopology c d buffer length h).2 = { h with
      interfaces := (deviceBuildTopology c d buffer length h).2.interfaces,
      endpoints := (deviceBuildTopology c d buffer length h).2.endpoints } := by
  have inner : Inner fun h₁ : Host => h₁ = { h with interfaces := h₁.interfaces, endpoints := h₁.endpoints } := by
    constructor
    · intro h₁ x same
      rw [same]
    · intro h₁ x same
      rw [same]
  exact (deviceBuildTopology_keeps inner).after rfl

variable {r : Except Error Unit}

theorem deviceBuildTopology_same {h h' : Host} {d length : Nat} {buffer : Nat → UInt8}
    (run : deviceBuildTopology c d buffer length h = (r, h')) :
    h' = { h with interfaces := h'.interfaces, endpoints := h'.endpoints } := by
  have left := deviceBuildTopology_left c d length buffer h
  rwa [run] at left

theorem enumConfigFullComplete_step (enumerated : Enumerated c h) (state : h.enumeration.state = .getConfigFullWait)
    (ended : Ended c h t) : Step c hcd h (enumConfigFullComplete c hcd h).2 := by
  simp only [enumConfigFullComplete, read_bind, id_eq, enumerated.got]
  rcases valid : configurationDescriptorValidate h.controlBuffer h.enumeration.configTotalLength with e | totalLength
  · exact ended.fails _
  · dsimp only
    by_cases differs : totalLength ≠ h.enumeration.configTotalLength
    · rw [if_pos differs]
      exact ended.fails _
    · rw [if_neg differs, attempt_bind]
      have same : totalLength = h.enumeration.configTotalLength := by simpa using differs
      rw [same] at valid
      rcases built : deviceBuildTopology c h.enumeration.deviceIndex h.controlBuffer h.enumeration.configTotalLength h with
        ⟨e | u, h'⟩
      · have left : h' = (deviceBuildTopology c h.enumeration.deviceIndex h.controlBuffer h.enumeration.configTotalLength h).2 := by
          rw [built]
        rw [left]
        exact .failed _ (.topology state ended)
      · have record : h'.enumeration = h.enumeration := by
          rw [deviceBuildTopology_same built]
        simp only [enumStateSet, updateEnum, modify_run, record]
        exact .topology h' state ended valid built

theorem classBindDevice_left (c : Config) (hcd : Hcd) (d : Nat) (h : Host) :
    (classBindDevice c hcd d h).2.devices = h.devices ∧ (classBindDevice c hcd d h).2.rootPorts = h.rootPorts ∧
      (classBindDevice c hcd d h).2.enumeration = h.enumeration := by
  have apart : Apart fun h₁ => h₁.devices = h.devices ∧ h₁.rootPorts = h.rootPorts ∧ h₁.enumeration = h.enumeration :=
    ⟨⟨fun _ _ a => a, fun _ _ a => a, fun _ _ a => a, fun _ _ _ a => a⟩, fun _ _ a => a, fun _ _ a => a⟩
  exact (classBindDevice_keeps apart).after ⟨rfl, rfl, rfl⟩

theorem classBindDevice_same {h h' : Host} {d : Nat} (run : classBindDevice c hcd d h = (r, h')) :
    h'.devices = h.devices ∧ h'.rootPorts = h.rootPorts ∧ h'.enumeration = h.enumeration := by
  have left := classBindDevice_left c hcd d h
  rwa [run] at left

theorem enumSetConfigurationComplete_step (up : Up n h) (enumerated : Enumerated c h)
    (state : h.enumeration.state = .setConfigurationWait) (ended : Ended c h t) :
    Step c hcd h (enumSetConfigurationComplete c hcd h).2 := by
  obtain ⟨index, small, allocated⟩ := enumTransferGet_some ended.slot
  have released : enumTransferRelease c hcd h = (.ok (), h.freed t) := by
    simp only [enumTransferRelease, read_bind, id_eq, ended.slot, attempt_bind]
    rw [transferRelease_idle c hcd up small allocated ended.idle]
    rfl
  simp only [enumSetConfigurationComplete, read_bind, id_eq, enumerated.got, attempt_bind, released]
  rcases bound : classBindDevice c hcd h.enumeration.deviceIndex (h.freed t) with ⟨e | u, h'⟩
  · have left : h' = (classBindDevice c hcd h.enumeration.deviceIndex (h.freed t)).2 := by
      rw [bound]
    rw [left]
    exact .failed _ (.bind state ended)
  · obtain ⟨devices, ports, record⟩ := classBindDevice_same bound
    simp only [updateDevice, updatePort, updateEnum, enumStateSet, modify_bind, modify_run, devices, ports, record]
    exact .configured h' state ended bound

theorem enumerationProcess_step (hcd : Hcd) (up : Up n h) (enumerated : Enumerated c h)
    (active : h.enumeration.isActive = true) :
    Step c hcd h (enumerationProcess c hcd h.enumeration.port h).2 := by
  simp only [enumerationProcess, read_bind, id_eq]
  rw [reject_bind_neg _ (by simp [portIsValid, enumerated.valid]), if_neg (by simp [active])]
  have running := enumerated.running
  have submits (request : ControlRequest) (asked : h.enumeration.request = some request)
      (settled : h.enumeration.state = .addressSettle → h.enumeration.addressSettleRemaining = 0) :
      Step c hcd h (enumControlSubmit c hcd request.setup request.data request.length request.waitState h).2 :=
    enumControlSubmit_step up enumerated request h.enumeration.state asked settled
  cases state : h.enumeration.state with
  | getDeviceHeaderSubmit =>
    exact submits (.descriptor descTypeDevice 8 .getDeviceHeaderWait) (by simp only [Enumeration.request, state])
      (by simp [state])
  | getDeviceHeaderWait =>
    exact enumWaitForTransfer_step (by simp only [Enumeration.awaits, state]) fun t ended =>
      enumDeviceHeaderComplete_step enumerated state ended
  | setAddressSubmit =>
    simp only [enumSetAddressSubmit, read_bind, id_eq]
    rcases built : setupBuildSetAddress h.enumeration.assignedAddress with e | setup
    · exact .failed e (.address state)
    · exact submits ⟨setup, .none, 0, .setAddressWait⟩
        (by simp only [Enumeration.request, state, ControlRequest.address, built]) (by simp [state])
  | setAddressWait =>
    exact enumWaitForTransfer_step (by simp only [Enumeration.awaits, state]) fun t ended =>
      enumSetAddressComplete_step enumerated state ended
  | addressSettle =>
    dsimp only
    by_cases left : 0 < h.enumeration.addressSettleRemaining
    · rw [if_pos left]
      exact .settle state left
    · rw [if_neg left]
      exact enumControlSubmit_step up enumerated (.descriptor descTypeDevice deviceDescLen .getDeviceFullWait) .getDeviceFullSubmit
        (by simp only [Enumeration.request, state])
        fun _ => by omega
  | getDeviceFullSubmit =>
    exact submits (.descriptor descTypeDevice deviceDescLen .getDeviceFullWait)
      (by simp only [Enumeration.request, state]) (by simp [state])
  | getDeviceFullWait =>
    exact enumWaitForTransfer_step (by simp only [Enumeration.awaits, state]) fun t ended =>
      enumDeviceFullComplete_step enumerated state ended
  | getConfigHeaderSubmit =>
    exact submits (.descriptor descTypeConfiguration configurationDescLen .getConfigHeaderWait)
      (by simp only [Enumeration.request, state]) (by simp [state])
  | getConfigHeaderWait =>
    exact enumWaitForTransfer_step (by simp only [Enumeration.awaits, state]) fun t ended =>
      enumConfigHeaderComplete_step state ended
  | getConfigFullSubmit =>
    exact submits (.descriptor descTypeConfiguration h.enumeration.configTotalLength .getConfigFullWait)
      (by simp only [Enumeration.request, state]) (by simp [state])
  | getConfigFullWait =>
    exact enumWaitForTransfer_step (by simp only [Enumeration.awaits, state]) fun t ended =>
      enumConfigFullComplete_step enumerated state ended
  | setConfigurationSubmit =>
    exact submits ⟨setupBuildSetConfiguration h.enumeration.configurationValue, .none, 0, .setConfigurationWait⟩
      (by simp only [Enumeration.request, state]) (by simp [state])
  | setConfigurationWait =>
    exact enumWaitForTransfer_step (by simp only [Enumeration.awaits, state]) fun t ended =>
      enumSetConfigurationComplete_step up enumerated state ended
  | idle => simp [state, EnumerationState.running] at running
  | complete => simp [state, EnumerationState.running] at running
  | error => simp [state, EnumerationState.running] at running

end XSDK.Usbh
