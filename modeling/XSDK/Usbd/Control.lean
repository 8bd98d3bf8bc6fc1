import XSDK.Usbd.Device

/-! Endpoint 0: the standard requests, the routing of class requests, the stages of a control
transfer, and the controller driver's events. -/
namespace XSDK.Usbd

open Library Library.Call

variable {σ : Type} (e : Env σ)

/-! ### Descriptors -/

/-- The classes' descriptors one after the other, as long as they fit. -/
def buildClassDescriptors (speed : Speed) : List ClassRef → Bytes → Core σ Bytes
  | [], built => pure built
  | c :: rest, built => do
    let written ← outside fun o => (.ok (e.buildDescriptor c speed o).1, (e.buildDescriptor c speed o).2)
    reject (written.length = 0 ∨ maxConfigDescriptorSize < 9 + built.length + written.length) .insufficientBufferSize
    buildClassDescriptors speed rest (built ++ written)

def configHeader (descriptorType : UInt8) (totalLength interfaces : Nat) : Bytes :=
  [9, descriptorType] ++ le16Bytes totalLength ++ [UInt8.ofNat interfaces, 1, 0, 0x80, 250]

def buildConfigDescriptor (descriptorType : UInt8) (speed : Speed) : Core σ Unit := do
  let built ← buildClassDescriptors e speed e.classList []
  let descriptor := configHeader descriptorType (9 + built.length) e.nextInterface ++ built
  onDevice fun d => { d with configurationDescriptor := descriptor }

def mos2Length (d : Device) : Nat := if d.mos2Built then e.mos2Descriptor.length else 0

def usb20Extension : Bytes := [7, descTypeDeviceCapability, 2, 2, 0, 0, 0]
def superSpeedCapability : Bytes := [10, descTypeDeviceCapability, 3, 0, 0x0E, 0, 3, 10, 0, 0]

def msOs20Platform (mos2Length : Nat) : Bytes :=
  [28, descTypeDeviceCapability, 5, 0, 0xDF, 0x60, 0xDD, 0xD8, 0x89, 0x45, 0xC7, 0x4C, 0x9C, 0xD2, 0x65, 0x9D, 0x9E, 0x64,
    0x8A, 0x9F, 0, 0, 3, 6] ++ le16Bytes mos2Length ++ [winusbVendorCode, 0]

variable (speed : Speed)

def bosBytes (mos2Length : Nat) : Bytes :=
  let capabilities := usb20Extension ++ (if speed = .super then superSpeedCapability else []) ++
    (if 0 < mos2Length then msOs20Platform mos2Length else [])
  let count := 1 + (if speed = .super then 1 else 0) + (if 0 < mos2Length then 1 else 0)
  [5, descTypeBos] ++ le16Bytes (5 + capabilities.length) ++ [UInt8.ofNat count] ++ capabilities

def deviceBuildBosDescriptor : Core σ Unit := do
  let d ← read (·.device)
  onlyIf (d.bosBuiltForSpeed ≠ some speed) do
    onDevice fun d => { d with
      mos2Built := true
      bosDescriptor := bosBytes speed e.mos2Descriptor.length
      bosBuiltForSpeed := some speed }

def deviceBuildDescriptors : Core σ Unit := do
  buildConfigDescriptor e descTypeConfiguration speed
  deviceBuildBosDescriptor e speed

/-! ### Class requests -/

def requestRecipientClassGet (r : SetupRequest) : Option ClassRef :=
  if r.recipient = recipientInterface then
    if (lowByte r.wIndex).toNat < maxInterfaceCount then e.interfaceToClass (lowByte r.wIndex).toNat else none
  else if r.recipient = recipientEndpoint then
    e.endpointToClass (endpointMapIndex (lowByte r.wIndex).toNat)
  else none

/-- The class that accepted the request is the one to be told when the transfer completes. -/
def accepted (c : ClassRef) : Core σ Unit := do
  onDevice fun d => { d with controlRequestClass := some c }
  note (.handled c)

def broadcast {α : Type} (callback : ClassRef → Option (Call σ Error α)) : List ClassRef → Core σ α
  | [] => fail .invalidClassReq
  | c :: rest =>
    match callback c with
    | none => broadcast callback rest
    | some m => do
      match ← attempt (outside m) with
      | .ok a => do
        accepted c
        pure a
      | .error _ => broadcast callback rest

/-- A request of a class goes to its recipient's class, or to each class in turn. -/
def classRequestProcess {α : Type} (r : SetupRequest) (callback : ClassRef → Option (Call σ Error α)) : Core σ α :=
  match requestRecipientClassGet e r with
  | some c =>
    match callback c with
    | none => fail .invalidClassReq
    | some m => do
      let a ← outside m
      accepted c
      pure a
  | none =>
    if r.recipient = recipientDevice then broadcast callback e.classList else fail .invalidClassReq

def classInRequestProcess : Core σ Response := do
  let d ← read (·.device)
  if d.request.bRequest = winusbVendorCode ∧ lowByte d.request.wIndex = 0x07 ∧ 0 < mos2Length e d then
    pure ⟨e.mos2Descriptor, min d.request.wLength.toNat e.mos2Descriptor.length⟩
  else
    classRequestProcess e d.request fun c => (e.controlIn c).map fun callback => callback d.request

variable (data : Bytes)

def classOutRequestProcess : Core σ Unit := do
  let d ← read (·.device)
  classRequestProcess e d.request fun c => (e.controlOut c).map fun callback => callback d.request data

def classControlTransferCompleteProcess : Core σ Unit := do
  let d ← read (·.device)
  onDevice fun d => { d with controlRequestClass := none }
  match d.controlRequestClass with
  | none => pure ()
  | some c =>
    match e.transferComplete c with
    | none => pure ()
    | some callback => do
      note (.complete c)
      outside (callback d.request)

def classGetStringProcess (index : Nat) : Core σ Text := do
  let string ← outside (read fun o => if index < maxStringMapEntries then (e.stringToClass index).bind (e.interfaceString · o) else none)
  match string with
  | some string => pure string
  | none => fail .reqGetDescNotSupported

def classBusEventProcess (event : BusEvent) : Core σ Unit := do
  let d ← read (·.device)
  onlyIf (event = .connect ∨ event = .speedChange) (deviceBuildDescriptors e d.speed)
  outside (modify fun o => e.classList.foldl (fun o c => e.busEvent c event o) o)

def classData {α : Type} (ep : UInt8) (callback : ClassRef → Option (Call σ Error α)) : Core σ α :=
  match (e.endpointToClass (endpointMapIndex ep.toNat)).bind callback with
  | some m => outside m
  | none => fail .invalidClassReq

/-! ### Standard requests -/

def stringToStringDescriptor (string : Text) : Bytes :=
  let length := min (string.length % 256) ((maxEp0DataSize - 2) / 2)
  [UInt8.ofNat (2 + 2 * length), descTypeString] ++ (string.take length).flatMap fun c => [c, 0]

def mosString : Text := [0x4D, 0x53, 0x46, 0x54, 0x31, 0x30, 0x30, winusbVendorCode]

/-- The string with this index: one of the device's own, or a class's. -/
def stringGet (d : Device) (index : UInt8) : Core σ Text :=
  if index = vendorStringIndex then pure e.vendorString
  else if index = productStringIndex then pure e.productString
  else if index.toNat = serialStringIndex then pure e.serialString
  else if index = msosStringIndex ∧ 0 < mos2Length e d then pure mosString
  else classGetStringProcess e index.toNat

def standardGetStringDescriptorProcess : Core σ Response := do
  let d ← read (·.device)
  let index := lowByte d.request.wValue
  if index = langIdStringIndex then
    pure ⟨[4, descTypeString, 0x09, 0x04], min d.request.wLength.toNat 4⟩
  else do
    let string ← stringGet e d index
    let descriptor := stringToStringDescriptor string
    pure ⟨descriptor, min d.request.wLength.toNat (descriptor.headD 0).toNat⟩

/-- The configuration descriptor as it was just built, cut to what is asked for. -/
def configResponse : Core σ Response := do
  let d ← read (·.device)
  pure ⟨d.configurationDescriptor, min d.request.wLength.toNat d.configurationDescriptor.length⟩

def standardGetDescriptorProcess : Core σ Response := do
  let d ← read (·.device)
  let type := highByte d.request.wValue
  let wLength := d.request.wLength.toNat
  if type = descTypeDevice then
    pure ⟨e.deviceDescriptor, min wLength (e.deviceDescriptor.headD 0).toNat⟩
  else if type = descTypeConfiguration then do
    buildConfigDescriptor e descTypeConfiguration d.speed
    configResponse
  else if type = descTypeOtherSpeed then
    if d.speed = .high ∨ d.speed = .full then do
      buildConfigDescriptor e descTypeOtherSpeed (if d.speed = .high then .full else .high)
      configResponse
    else fail .reqGetDescNotSupported
  else if type = descTypeString then standardGetStringDescriptorProcess e
  else if type = descTypeQualifier then
    if d.speed = .super then fail .reqGetDescNotSupported
    else pure ⟨e.deviceQualifierDescriptor, min wLength (e.deviceQualifierDescriptor.headD 0).toNat⟩
  else if type = descTypeOtg then fail .reqGetDescNotSupported
  else if type = descTypeBos then
    if 0 < d.bosDescriptor.length then pure ⟨d.bosDescriptor, min wLength d.bosDescriptor.length⟩
    else fail .reqGetDescNotSupported
  else classInRequestProcess e

def standardGetStatusProcess : Core σ Response := do
  let d ← read (·.device)
  if d.request.recipient = recipientDevice then
    let flags : UInt8 := (if d.isRemoteWakeEnabled then 0x02 else 0x00) ||| (if d.isSelfPowered then 0x01 else 0x00)
    pure ⟨[flags, 0], 2⟩
  else if d.request.recipient = recipientInterface then classInRequestProcess e
  else if d.request.recipient = recipientEndpoint then do
    let stalled ← outside (read fun o => e.epIsStalled (lowByte d.request.wIndex) o)
    pure ⟨[if stalled then 1 else 0, 0], 2⟩
  else fail .reqGetStatusInvalidRecipient

def standardClearFeatureProcess : Core σ Unit := do
  let r ← read (·.device.request)
  let selector := lowByte r.wValue
  if r.recipient = recipientEndpoint then
    if selector = 0 then ask e (.epClearStall (lowByte r.wIndex)) else fail .reqClearEpInvalidReq
  else if r.recipient = recipientDevice then
    if selector = 1 then do
      ask e (.setRemoteWakeup false)
      onDevice fun d => { d with isRemoteWakeEnabled := false }
    else if selector = 0 then pure ()
    else fail .reqClearDeviceInvalidReq
  else fail .unsupportedRequest

def standardSetFeatureProcess : Core σ Unit := do
  let r ← read (·.device.request)
  let selector := lowByte r.wValue
  if r.recipient = recipientEndpoint then
    if selector = 0 then ask e (.epStall (lowByte r.wIndex)) else fail .reqSetFeatureEpInvalidReq
  else if r.recipient = recipientDevice then
    if selector = 1 then do
      ask e (.setRemoteWakeup true)
      onDevice fun d => { d with isRemoteWakeEnabled := true }
    else if selector = 0 then pure ()
    else fail .reqSetFeatureDeviceInvalidReq
  else fail .reqSetFeatureInvalidRecipient

def standardSetAddressProcess : Core σ Unit := do
  let r ← read (·.device.request)
  if r.recipient = recipientDevice then onDevice fun d => { d with addressValue := lowByte r.wValue }
  else fail .reqSetAddressInvalidReq

def standardGetConfigurationProcess : Core σ Response := do
  let d ← read (·.device)
  if d.isConfigured then pure ⟨[d.configurationValue], 1⟩
  else if d.isAddressed then pure ⟨[0], 1⟩
  else fail .reqGetConfigNotAddressed

def standardSetConfigurationProcess : Core σ Unit := do
  let d ← read (·.device)
  let configuration := lowByte d.request.wValue
  if d.isAddressed then
    if configuration = 0 then onDevice fun d => { d with isConfigured := false, configurationValue := 0 }
    else if configuration = 1 then onDevice fun d => { d with isConfigured := true, configurationValue := 1 }
    else fail .reqSetConfigNotSupported
  else fail .reqSetConfigNotAddressed

def standardGetInterfaceProcess : Core σ Response := do
  let r ← read (·.device.request)
  if r.recipient = recipientInterface then do
    match ← attempt (classInRequestProcess e) with
    | .ok response => pure response
    | .error code =>
      if (lowByte r.wIndex).toNat < e.nextInterface then pure ⟨[0], 1⟩ else fail code
  else fail .unsupportedRequest

/-- The class is handed as many bytes of the control buffer as the request announces, though none
has come. -/
def standardSetInterfaceProcess : Core σ Unit := do
  let r ← read (·.device.request)
  if r.recipient = recipientInterface then do
    let data ← outside (read fun o => e.controlBuffer r.wLength.toNat o)
    match ← attempt (classOutRequestProcess e data) with
    | .ok () => pure ()
    | .error code =>
      if r.wValue = 0 ∧ (lowByte r.wIndex).toNat < e.nextInterface then pure () else fail code
  else fail .unsupportedRequest

def standardSetSelProcess : Core σ Response := do
  let d ← read (·.device)
  if d.speed = .super ∧ d.request.recipient = recipientDevice ∧ d.request.isIn = false ∧ d.request.wValue = 0 ∧
      d.request.wIndex = 0 ∧ d.request.wLength = 6 then pure ⟨[], 6⟩
  else fail .unsupportedRequest

def standardSetIsochDelayProcess : Core σ Unit := do
  let d ← read (·.device)
  if d.speed = .super ∧ d.request.recipient = recipientDevice ∧ d.request.isIn = false ∧ d.request.wIndex = 0 ∧
      d.request.wLength = 0 then onDevice fun d => { d with usb3IsochDelay := d.request.wValue }
  else fail .unsupportedRequest

def silent (m : Core σ Unit) : Core σ Response := m >>= fun _ => pure .empty

def standardRequestProcess : Core σ Response := do
  let r ← read (·.device.request)
  if r.bRequest = reqGetStatus then standardGetStatusProcess e
  else if r.bRequest = reqClearFeature then silent (standardClearFeatureProcess e)
  else if r.bRequest = reqSetFeature then silent (standardSetFeatureProcess e)
  else if r.bRequest = reqSetAddress then silent standardSetAddressProcess
  else if r.bRequest = reqGetDescriptor then standardGetDescriptorProcess e
  else if r.bRequest = reqSetDescriptor then fail .reqSetDescNotSupported
  else if r.bRequest = reqGetConfiguration then standardGetConfigurationProcess
  else if r.bRequest = reqSetConfiguration then silent standardSetConfigurationProcess
  else if r.bRequest = reqGetInterface then standardGetInterfaceProcess e
  else if r.bRequest = reqSetInterface then silent (standardSetInterfaceProcess e)
  else if r.bRequest = reqSynchFrame then fail .unsupportedRequest
  else if r.bRequest = reqSetSel then standardSetSelProcess
  else if r.bRequest = reqSetIsochDelay then silent standardSetIsochDelayProcess
  else fail .unsupportedRequest

/-! ### The stages of a transfer -/

def ep0Mps : Speed → Nat
  | .super => 512
  | .low => 8
  | .full => 64
  | .high => 64

def setPhase (phase : ControlPhase) : Core σ Unit := onDevice fun d => { d with requestPhase := phase }

def ep0Stall : Core σ Unit := ask e (.epStall 0x80)

def setupRequestDispatch : Core σ Response := do
  let r ← read (·.device.request)
  if r.type = reqTypeStandard then standardRequestProcess e
  else if r.type = reqTypeClass ∨ r.type = reqTypeVendor then
    if r.isIn then classInRequestProcess e
    else if 0 < r.wLength.toNat then pure ⟨[], r.wLength.toNat⟩
    else silent (classOutRequestProcess e [])
  else fail .unsupportedRequest

def setupDataStageStart (response : Response) : Core σ Unit := do
  let d ← read (·.device)
  let wLength := d.request.wLength.toNat
  let length := min wLength response.length
  if d.request.isIn then do
    setPhase .dataIn
    ask e (.epSend 0x80 (response.data.take length) (length % ep0Mps d.speed = 0 ∧ length < wLength))
  else if maxEp0DataSize < length then do
    setPhase .idle
    ep0Stall e
  else if 0 < length then do
    setPhase .dataOut
    ask e (.epReceive 0x00 length)
  else do
    setPhase .outStatus
    ask e (.epSend 0x80 [] false)

/-- A transfer that cannot go on is over, and a request that is refused is stalled. -/
def ep0SetupProcess : Core σ Unit := do
  match ← attempt (setupRequestDispatch e) with
  | .ok response => onError (setupDataStageStart e response) fun _ => setPhase .idle
  | .error code => do
    setPhase .idle
    ep0Stall e
    fail code

def standardOutDataProcess : Core σ Unit := do
  let d ← read (·.device)
  if d.request.bRequest = reqSetSel ∧ d.speed = .super ∧ data.length = 6 then
    onDevice fun d => { d with usb3SystemExitLatency := data }
  else fail .unsupportedRequest

def statusSetFeatureCompleteProcess : Core σ Unit := do
  let r ← read (·.device.request)
  onlyIf (lowByte r.wValue = 0) (ask e (.setTestMode (highByte r.wIndex)))

def statusSetAddressCompleteProcess : Core σ Unit := do
  let d ← read (·.device)
  ask e (.setAddress d.addressValue)
  onDevice fun d => { d with isAddressed := true }

def statusSetConfigurationCompleteProcess : Core σ Unit :=
  onDevice fun d => { d with lifecycleState := if d.isConfigured then .configured else .started }

/-- Only the recipient and the request's number are looked at. -/
def statusPhaseCompleteProcess : Core σ Unit := do
  let r ← read (·.device.request)
  onlyIf (r.recipient = recipientDevice) do
    if r.bRequest = reqSetFeature then statusSetFeatureCompleteProcess e
    else if r.bRequest = reqSetAddress then statusSetAddressCompleteProcess e
    else if r.bRequest = reqSetConfiguration then statusSetConfigurationCompleteProcess
    else pure ()

def controlTransferCompleteProcess : Core σ Unit := do
  statusPhaseCompleteProcess e
  classControlTransferCompleteProcess e

def ep0OutDataReceivedProcess : Core σ Unit := do
  let r ← read (·.device.request)
  match ← attempt (if r.type = reqTypeStandard then standardOutDataProcess data else classOutRequestProcess e data) with
  | .ok () => do
    setPhase .outStatus
    onError (ask e (.epSend 0x80 [] false)) fun _ => setPhase .idle
  | .error code => do
    setPhase .idle
    ep0Stall e
    fail code

def ep0DataReceivedProcess : Core σ Unit := do
  let phase ← read (·.device.requestPhase)
  if phase = .dataOut then ep0OutDataReceivedProcess e data
  else if phase = .dataIn then do
    setPhase .idle
    controlTransferCompleteProcess e
  else pure ()

def ep0DataSentProcess : Core σ Unit := do
  let phase ← read (·.device.requestPhase)
  if phase = .outStatus then do
    setPhase .idle
    controlTransferCompleteProcess e
  else pure ()

def ep0Configure : Core σ Unit := do
  ask e (.epInit 0x00 endpTypeCtrl (ep0Mps speed))
  ask e (.epInit 0x80 endpTypeCtrl (ep0Mps speed))
  setPhase .idle
  ask e (.epReceive 0x00 8)

/-! ### The controller driver's events -/

inductive DcdEvent
  | setupReceived (data : Bytes)
  | dataReceived (ep : UInt8) (data : Bytes)
  | dataSent (ep : UInt8)
  | bus (event : BusEvent)

def dcdSpeedTransition (event : BusEvent) : Core σ Unit := do
  let speed ← outside e.getSpeed
  onDevice fun d => { d with speed := speed }
  ep0Configure e speed
  classBusEventProcess e event

def Device.reset (d : Device) : Device := { d with
  isAddressed := false
  addressValue := 0
  isConfigured := false
  configurationValue := 0
  requestPhase := .idle
  lifecycleState := .started }

def dcdBusEvent : BusEvent → Core σ Unit
  | .connect => dcdSpeedTransition e .connect
  | .speedChange => dcdSpeedTransition e .speedChange
  | .reset => do
    onDevice Device.reset
    classBusEventProcess e .reset
  | event => classBusEventProcess e event

def dcdEventCallback : DcdEvent → Core σ Unit
  | .setupReceived data =>
    match SetupRequest.ofBytes data with
    | some request => do
      onDevice fun d => { d with request := request }
      ep0SetupProcess e
    | none => fail .invalidSetupPacket
  | .dataReceived ep data =>
    if ep = 0x00 then ep0DataReceivedProcess e data
    else classData e ep fun c => (e.dataReceived c).map fun callback => callback ep data
  | .dataSent ep =>
    if ep = 0x80 then ep0DataSentProcess e
    else classData e ep fun c => (e.transmitComplete c).map fun callback => callback ep
  | .bus event => dcdBusEvent e event

end XSDK.Usbd
