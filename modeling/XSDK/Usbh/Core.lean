import XSDK.Usbh.Class

/-! Devices and their release, the enumeration of an attached device, the state machine of
the root ports, and the calls and events that drive them. -/
namespace XSDK.Usbh

open Library Library.Call

variable (c : Config) (hcd : Hcd)

def portIsValid (h : Host) (p : Nat) : Bool := decide (p < h.rootPortCount)

variable (p : Nat)

def deviceAllocate : HostM Nat := do
  contextReadyForRuntimeSlots
  let h ← read id
  reject (portIsValid h p = false) .invalidArgument
  match firstFree c.maxDevices fun d => (h.devices d).isAllocated with
  | some d => do
    updateDevice d fun _ => { Device.zero with isAllocated := true, state := .attached, port := p, speed := .full }
    pure d
  | none => fail .resourceExhausted

def rootPortDeviceBindingClear (d : Nat) : HostM Unit :=
  modify fun h =>
    { h with rootPorts := fun p =>
        if p < h.rootPortCount ∧ (h.rootPorts p).hasDevice = true ∧ (h.rootPorts p).deviceIndex = d then
          { h.rootPorts p with hasDevice := false, deviceIndex := 0 }
        else h.rootPorts p }

def deviceRelease (d : Nat) : HostM Unit := do
  contextReadyForRuntimeSlots
  let h ← read id
  reject (c.maxDevices ≤ d ∨ (h.devices d).isAllocated = false) .invalidObject
  ignore (classUnbindDevice c hcd d)
  releaseTransfersForDevice c hcd (h.devices d).address
  releaseInterfacesForDevice c d
  rootPortDeviceBindingClear d
  updateDevice d fun _ => Device.zero

/- Enumeration. -/

def enumDeviceGet (h : Host) : Option Nat :=
  if c.maxDevices ≤ h.enumeration.deviceIndex ∨ (h.devices h.enumeration.deviceIndex).isAllocated = false then none
  else some h.enumeration.deviceIndex

/-- The slot at the record's index, whether or not the record still has a transfer. -/
def enumTransferGet (h : Host) : Option Nat :=
  if c.maxTransfers ≤ h.enumeration.transferIndex ∨
    (h.transfers h.enumeration.transferIndex).isAllocated = false then none
  else some h.enumeration.transferIndex

def enumStateSet (state : EnumerationState) : HostM Unit := updateEnum fun e => { e with state := state }

def enumTransferRelease : HostM Unit := do
  let h ← read id
  match enumTransferGet c h with
  | none => updateEnum fun e => { e with hasTransfer := false }
  | some t => do
    let status ← attempt (transferRelease c hcd t)
    updateEnum fun e => { e with hasTransfer := false }
    finish status

def enumFail (status : Error) : HostM Unit := do
  let h ← read id
  onlyIf (portIsValid h h.enumeration.port = true) (updatePort h.enumeration.port fun port => { port with state := .error })
  ignore (enumTransferRelease c hcd)
  updateEnum fun e => { e with isActive := false }
  enumStateSet .error
  fail status

def enumControlSubmit (setup : SetupRequest) (data : Buffer) (length : Nat) (waitState : EnumerationState) :
    HostM Unit := do
  let h ← read id
  match enumDeviceGet c h, enumTransferGet c h with
  | some d, some t => do
    updateTransfer t fun transfer =>
      { transfer with
        deviceAddress := (h.devices d).address, endpointAddress := 0, endpointType := endpTypeCtrl, interval := 0,
        hasSetup := true, setup := setup, lastEvent := .complete, data := data, length := length, actualLength := 0 }
    let status ← attempt (transferSubmit c hcd t)
    match status with
    | .error e => enumFail c hcd e
    | .ok _ => do
      updateEnum fun e => { e with timeoutRemaining := c.controlTransferTimeoutTicks % 2 ^ 16 }
      enumStateSet waitState
  | _, _ => enumFail c hcd .invalidObject

def enumWaitForTransfer (expectedLength : Nat) (complete : HostM Unit) : HostM Unit := do
  let h ← read id
  match enumTransferGet c h with
  | none => enumFail c hcd .invalidObject
  | some t =>
    if (h.transfers t).isSubmitted = true then
      if h.enumeration.timeoutRemaining = 0 then enumFail c hcd .timeout
      else updateEnum fun e => { e with timeoutRemaining := e.timeoutRemaining - 1 }
    else if (h.transfers t).lastEvent ≠ .complete ∨ (h.transfers t).actualLength < expectedLength then
      enumFail c hcd .unsupportedDescriptor
    else complete

def enumDeviceHeaderComplete : HostM Unit := do
  let h ← read id
  match enumDeviceGet c h with
  | none => enumFail c hcd .invalidObject
  | some d =>
    let descriptorLength := (h.controlBuffer 0).toNat
    let descriptorType := (h.controlBuffer 1).toNat
    if descriptorLength < deviceDescLen ∨ descriptorType ≠ descTypeDevice then enumFail c hcd .unsupportedDescriptor
    else match ep0PacketSizeDecode (h.devices d).speed (h.controlBuffer 7).toNat with
      | .error e => enumFail c hcd e
      | .ok packetSize => do
        updateDevice d fun device => { device with ep0MaxPacketSize := packetSize }
        enumStateSet .setAddressSubmit

def enumSetAddressComplete : HostM Unit := do
  let h ← read id
  match enumDeviceGet c h with
  | none => enumFail c hcd .invalidObject
  | some d => do
    updateDevice d fun device => { device with address := h.enumeration.assignedAddress, state := .addressed }
    updateEnum fun e => { e with addressSettleRemaining := c.addressSettleTicks % 2 ^ 8 }
    enumStateSet .addressSettle

def enumDeviceFullComplete : HostM Unit := do
  let h ← read id
  match enumDeviceGet c h with
  | none => enumFail c hcd .invalidObject
  | some d =>
    match deviceDescriptorParse h.controlBuffer deviceDescLen with
    | .error _ => enumFail c hcd .unsupportedDescriptor
    | .ok descriptor =>
      if descriptor.configurationCount = 0 then enumFail c hcd .unsupportedDescriptor
      else do
        updateDevice d fun device =>
          { device with
            vendorId := descriptor.vendorId, productId := descriptor.productId, deviceClass := descriptor.deviceClass,
            deviceSubclass := descriptor.deviceSubclass, deviceProtocol := descriptor.deviceProtocol }
        enumStateSet .getConfigHeaderSubmit

def enumConfigHeaderComplete : HostM Unit := do
  let h ← read id
  match configurationDescriptorParse h.controlBuffer configurationDescLen with
  | .error _ => enumFail c hcd .unsupportedDescriptor
  | .ok descriptor =>
    if descriptor.totalLength < configurationDescLen ∨ c.maxConfigDescriptorSize < descriptor.totalLength ∨
        descriptor.interfaceCount = 0 then enumFail c hcd .unsupportedDescriptor
    else do
      updateEnum fun e =>
        { e with
          configTotalLength := descriptor.totalLength,
          configurationValue := if descriptor.configurationValue = 0 then 1 else descriptor.configurationValue }
      enumStateSet .getConfigFullSubmit

def enumConfigFullComplete : HostM Unit := do
  let h ← read id
  match enumDeviceGet c h with
  | none => enumFail c hcd .invalidObject
  | some d =>
    match configurationDescriptorValidate h.controlBuffer h.enumeration.configTotalLength with
    | .error _ => enumFail c hcd .unsupportedDescriptor
    | .ok totalLength =>
      if totalLength ≠ h.enumeration.configTotalLength then enumFail c hcd .unsupportedDescriptor
      else do
        let status ← attempt (deviceBuildTopology c d h.controlBuffer h.enumeration.configTotalLength)
        match status with
        | .error _ => enumFail c hcd .unsupportedDescriptor
        | .ok _ => enumStateSet .setConfigurationSubmit

def enumSetConfigurationComplete : HostM Unit := do
  let h ← read id
  match enumDeviceGet c h with
  | none => enumFail c hcd .invalidObject
  | some d => do
    let status ← attempt (enumTransferRelease c hcd)
    match status with
    | .error e => enumFail c hcd e
    | .ok _ => do
      let status ← attempt (classBindDevice c hcd d)
      match status with
      | .error e => enumFail c hcd e
      | .ok _ => do
        updateDevice d fun device =>
          { device with
            activeConfigurationValue := h.enumeration.configurationValue, isConfigured := true, state := .configured }
        updatePort h.enumeration.port fun port => { port with state := .configured }
        updateEnum fun e => { e with isActive := false }
        enumStateSet .complete

def enumGetDeviceHeaderSubmit : HostM Unit :=
  enumControlSubmit c hcd (setupBuildGetDescriptor descTypeDevice 0 0 8) .control 8 .getDeviceHeaderWait

def enumSetAddressSubmit : HostM Unit := do
  let h ← read id
  match setupBuildSetAddress h.enumeration.assignedAddress with
  | .error e => enumFail c hcd e
  | .ok setup => enumControlSubmit c hcd setup .none 0 .setAddressWait

def enumGetDeviceFullSubmit : HostM Unit :=
  enumControlSubmit c hcd (setupBuildGetDescriptor descTypeDevice 0 0 deviceDescLen) .control deviceDescLen .getDeviceFullWait

def enumGetConfigHeaderSubmit : HostM Unit :=
  enumControlSubmit c hcd (setupBuildGetDescriptor descTypeConfiguration 0 0 configurationDescLen) .control configurationDescLen
    .getConfigHeaderWait

def enumGetConfigFullSubmit : HostM Unit := do
  let h ← read id
  enumControlSubmit c hcd (setupBuildGetDescriptor descTypeConfiguration 0 0 h.enumeration.configTotalLength) .control
    h.enumeration.configTotalLength .getConfigFullWait

def enumSetConfigurationSubmit : HostM Unit := do
  let h ← read id
  enumControlSubmit c hcd (setupBuildSetConfiguration h.enumeration.configurationValue) .none 0 .setConfigurationWait

def enumerationStart : HostM Unit := do
  let h ← read id
  reject (portIsValid h p = false) .invalidArgument
  reject (h.enumeration.isActive = true) .invalidState
  let d ← deviceAllocate c p
  let t ← onError (transferAllocate c) fun _ => deviceRelease c hcd d
  updateDevice d fun device => { device with address := 0, speed := (h.rootPorts p).speed }
  updatePort p fun port => { port with hasDevice := true, deviceIndex := d }
  updateEnum fun _ =>
    { Enumeration.zero with
      isActive := true, hasTransfer := true, port := p, deviceIndex := d, transferIndex := t,
      assignedAddress := (d + 1) % 2 ^ 8 }
  enumStateSet .getDeviceHeaderSubmit

def enumerationProcess : HostM Unit := do
  let h ← read id
  reject (portIsValid h p = false ∨ h.enumeration.port ≠ p) .invalidArgument
  if h.enumeration.isActive = false then pure ()
  else match h.enumeration.state with
    | .getDeviceHeaderSubmit => enumGetDeviceHeaderSubmit c hcd
    | .getDeviceHeaderWait => enumWaitForTransfer c hcd 8 (enumDeviceHeaderComplete c hcd)
    | .setAddressSubmit => enumSetAddressSubmit c hcd
    | .setAddressWait => enumWaitForTransfer c hcd 0 (enumSetAddressComplete c hcd)
    | .addressSettle =>
      if 0 < h.enumeration.addressSettleRemaining then
        updateEnum fun e => { e with addressSettleRemaining := e.addressSettleRemaining - 1 }
      else do
        enumStateSet .getDeviceFullSubmit
        enumGetDeviceFullSubmit c hcd
    | .getDeviceFullSubmit => enumGetDeviceFullSubmit c hcd
    | .getDeviceFullWait => enumWaitForTransfer c hcd deviceDescLen (enumDeviceFullComplete c hcd)
    | .getConfigHeaderSubmit => enumGetConfigHeaderSubmit c hcd
    | .getConfigHeaderWait => enumWaitForTransfer c hcd configurationDescLen (enumConfigHeaderComplete c hcd)
    | .getConfigFullSubmit => enumGetConfigFullSubmit c hcd
    | .getConfigFullWait => enumWaitForTransfer c hcd h.enumeration.configTotalLength (enumConfigFullComplete c hcd)
    | .setConfigurationSubmit => enumSetConfigurationSubmit c hcd
    | .setConfigurationWait => enumWaitForTransfer c hcd 0 (enumSetConfigurationComplete c hcd)
    | _ => pure ()

def enumerationAbort : HostM Unit := do
  let h ← read id
  if portIsValid h p = false ∨ h.enumeration.port ≠ p then pure ()
  else do
    ignore (enumTransferRelease c hcd)
    updateEnum fun _ => Enumeration.zero
    enumStateSet .idle

/- The root ports. -/

def rootPortClear : HostM Unit := updatePort p fun _ => RootPort.zero

def portDisconnectCleanup : HostM Unit := do
  contextReadyForRuntimeSlots
  let h ← read id
  reject (portIsValid h p = false) .invalidArgument
  forEach (fun d => do
    let device ← read fun h => h.devices d
    onlyIf (device.isAllocated = true ∧ device.port = p) (deviceRelease c hcd d)) c.maxDevices 0
  enumerationAbort c hcd p
  rootPortClear p

def rootPortConnectedSet : HostM Unit := do
  let h ← read id
  reject (portIsValid h p = false) .invalidArgument
  if (h.rootPorts p).state ≠ .disconnected ∧ (h.rootPorts p).state ≠ .error then pure ()
  else do
    rootPortClear p
    updatePort p fun port =>
      { port with
        state := .connected, isConnected := true, debounceRemaining := c.connectDebounceSamples % 2 ^ 8 }

def rootPortResetCompleteSet : HostM Unit := do
  let h ← read id
  reject (portIsValid h p = false) .invalidArgument
  updatePort p fun port => { port with isResetComplete := true }

def rootPortSuspendedSet : HostM Unit := do
  let h ← read id
  reject (portIsValid h p = false) .invalidArgument
  updatePort p fun port => { port with state := .suspended }

def rootPortResumedSet : HostM Unit := do
  let h ← read id
  reject (portIsValid h p = false) .invalidArgument
  onlyIf ((h.rootPorts p).state = .suspended) (updatePort p fun port => { port with state := .enabled })

def rootPortErrorSet : HostM Unit := do
  let h ← read id
  reject (portIsValid h p = false) .invalidArgument
  updatePort p fun port => { port with state := .error }

def hcdPortEventHandle (event : PortEvent) : HostM Unit := do
  let h ← read id
  if portIsValid h p = false then pure ()
  else match event with
    | .connected => ignore (rootPortConnectedSet c p)
    | .disconnected => ignore (portDisconnectCleanup c hcd p)
    | .resetComplete => ignore (rootPortResetCompleteSet p)
    | .suspended => ignore (rootPortSuspendedSet p)
    | .resumed => ignore (rootPortResumedSet p)
    | .overcurrent => ignore (rootPortErrorSet p)

/-- A call on the controller for a port. When it fails the port goes to its error state. -/
def portAsk {α : Type} (m : HostM α) : HostM α :=
  onError m fun _ => updatePort p fun port => { port with state := .error }

def rootPortProcessConnected : HostM Unit := do
  let status ← portAsk p (ask (.portStatus p) fun log => hcd.getPortStatus log p)
  let h ← read id
  if status.isOvercurrent = true then updatePort p fun port => { port with state := .error }
  else if status.isConnected = false then portDisconnectCleanup c hcd p
  else if 0 < (h.rootPorts p).debounceRemaining then
    updatePort p fun port => { port with debounceRemaining := port.debounceRemaining - 1 }
  else do
    portAsk p (ask (.portPower p) fun log => hcd.portPower log p)
    updatePort p fun port => { port with state := .powered }

def rootPortProcessPowered : HostM Unit := do
  portAsk p (ask (.portReset p) fun log => hcd.portReset log p)
  updatePort p fun port => { port with isResetComplete := false, state := .resetting }

def rootPortProcessResetting : HostM Unit := do
  let h ← read id
  if (h.rootPorts p).isResetComplete = false then pure ()
  else do
    let status ← portAsk p (ask (.portStatus p) fun log => hcd.getPortStatus log p)
    if status.isConnected = false then portDisconnectCleanup c hcd p
    else if status.isEnabled = false ∨ status.isOvercurrent = true then
      updatePort p fun port => { port with state := .error }
    else updatePort p fun port => { port with speed := status.speed, state := .enabled }

def rootPortProcessEnabled : HostM Unit := do
  portAsk p (enumerationStart c hcd p)
  updatePort p fun port => { port with state := .enumerating }

def rootPortProcess : HostM Unit := do
  let h ← read id
  match (h.rootPorts p).state with
  | .connected => rootPortProcessConnected c hcd p
  | .powered => rootPortProcessPowered hcd p
  | .resetting => rootPortProcessResetting c hcd p
  | .enabled => rootPortProcessEnabled c hcd p
  | .disconnected => enumerationProcess c hcd p
  | .enumerating => enumerationProcess c hcd p
  | _ => pure ()

/-- A step of a port's state machine, with its mark in the log. -/
def rootPortStep : HostM Unit := do
  note (.stepped p)
  rootPortProcess c hcd p

def rootPortsProcess : HostM Unit := do
  let h ← read id
  forEach (rootPortStep c hcd) h.rootPortCount 0

/- The calls of the application. -/

def usbhInit (rootPortCount : Nat) : HostM Unit := do
  reject (rootPortCount = 0 ∨ c.maxRootPorts < rootPortCount) .invalidConfiguration
  modify fun h =>
    { Host.zero with
      lifecycleState := .initialized, rootPortCount := rootPortCount, isInitialized := true,
      hid := h.hid, msc := h.msc, log := h.log }

def hostHcdStart : HostM Unit := do
  let h ← read id
  note .init
  finish (hcd.init h.log)
  let h ← read id
  note .start
  onError (finish (hcd.start h.log)) fun _ => note .deinit
  let h ← read id
  note .enableInterrupts
  onError (finish (hcd.enableInterrupts h.log)) fun _ => do
    note .stop
    note .deinit
  modify fun h => { h with hasHcd := true }

def usbhStart : HostM Unit := do
  let h ← read id
  reject (h.isInitialized = false) .notInitialized
  reject (h.isStarted = true) .alreadyStarted
  hostHcdStart hcd
  modify fun h => { h with isStarted := true, lifecycleState := .started }

def usbhProcess : HostM Unit := do
  let h ← read id
  reject (h.isInitialized = false) .notInitialized
  reject (h.isStarted = false) .notStarted
  rootPortsProcess c hcd

/- What the controller reports. -/

def overlay (buffer : Nat → UInt8) (bytes : List UInt8) : Nat → UInt8 := fun j => bytes.getD j (buffer j)

/-- The controller moves bytes into the buffer of a transfer. -/
def hcdReceive (data : Buffer) (bytes : List UInt8) : HostM Unit :=
  match data with
  | .control => modify fun h => { h with controlBuffer := overlay h.controlBuffer bytes }
  | .hidReport k => updateHid k fun hid => { hid with reportBuffer := overlay hid.reportBuffer bytes }
  | .mscCsw k => updateMsc k fun msc => { msc with csw := overlay msc.csw bytes }
  | .mscCapacity k => updateMsc k fun msc => { msc with capacityBuffer := overlay msc.capacityBuffer bytes }
  | _ => pure ()

/-- A transfer ends: the controller has moved its bytes, counted them, and reports the event. -/
def hcdTransferEvent (t : Nat) (event : TransferEvent) (actualLength : Nat) (bytes : List UInt8) : HostM Unit := do
  let h ← read id
  hcdReceive (h.transfers t).data bytes
  updateTransfer t fun transfer => { transfer with actualLength := actualLength }
  onlyIf (t < c.maxTransfers ∧ (h.transfers t).isAllocated = true) do
    updateTransfer t fun transfer => { transfer with lastEvent := event, isSubmitted := false }
    ignore (classTransferComplete c hcd t)

end XSDK.Usbh
